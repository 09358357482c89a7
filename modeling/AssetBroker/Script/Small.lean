import AssetBroker.Script.Common
import AssetBroker.Config.Locate
import AssetBroker.Config.Placeholder
import AssetBroker.Text.Similarity
import AssetBroker.Plugin.SearchPaths

/-!
# Scripts over single functions

Name suggestions, setting lookup in configuration text, the directory
placeholder, search path resolution and plugin directory fixtures. Scripts
that stand for files on disk place them under the root `$ROOT`.
-/

namespace AssetBroker

namespace Script

/-- The root under which scripts place files. -/
def scratchRoot : String := "$ROOT"

def underRoot (name : String) : String := scratchRoot ++ "/" ++ name

def closestMatchScript (req : Json) : Read Json := do
  let candidate ← needStr req "candidate"
  let options ← needStrs req "options"
  return .obj [("match", Json.opt Json.str (Text.closestMatch candidate options))]

/-- A found span and its file, or nulls. -/
def locatedJson (found : Option (Span × String)) : Json :=
  match found with
  | some (span, name) =>
    .obj [("span", .obj [("offset", .int span.offset), ("len", .int span.len)]), ("src", .str name)]
  | none => .obj [("span", .null), ("src", .null)]

/-- The lookup script: one file keeps its name, several are stored under
the root and named by their path there. -/
def locateScript (req : Json) : Read Json := do
  let files ← (← asList (← need req "files")).mapM fun f => do
    match ← asStrs f with
    | [name, content] => pure (name, content)
    | _ => .error (badInput "a file is [name, content]")
  let single := files.length == 1
  let sources : SourceSet := ⟨if single then files else files.map fun (n, c) => (underRoot n, c)⟩
  let file ← optional req "file" asStr
  let file := if single then file else file.map underRoot
  let table ← needStr req "section"
  let key ← needStr req "key"
  match ← optional req "value" asStr with
  | some value =>
    let nth ← (optional req "nth" asNat).map (·.getD 0)
    return locatedJson (sources.locateValue table key value nth)
  | none => return locatedJson (sources.locateKey file table key)

def substituteScript (req : Json) : Read Json := do
  let settings ← readSettings (← need req "settings")
  let dir ← needStr req "dir"
  return .obj [("settings", taggedMap (substituteConfigDir settings dir))]

/-- The variable a search path request names. -/
def variableName (req : Json) : Read String :=
  match req.given? "env", req.given? "default" with
  | some n, _ => asStr n
  | none, some _ => .ok "ASSETIO_PLUGIN_PATH"
  | none, none => .error (badInput "one of explicit, env or default is needed")

def searchPathsScript (req : Json) : Read (Json × Trail) := do
  match req.given? "explicit" with
  | some paths =>
    let ps ← asStrs paths
    return (.obj [("kind", .str "explicit"), ("var", .null), ("paths", Json.strList ps)], #[])
  | none =>
    let name ← variableName req
    let env : Environment := match req.given? "value" with
      | some (.str v) => [(name, v)]
      | _ => []
    let (paths, events) := (SearchPaths.envVar name).resolve env
    return (.obj [("kind", .str "env"), ("var", .str name), ("paths", Json.strList paths)],
      events.toArray)

def outOfBounds (len index : Nat) : String :=
  "index out of bounds: the len is " ++ toString len ++ " but the index is " ++ toString index

/-- The fixture script: one directory per name under the root. -/
def fixturesScript (req : Json) : Read Json := do
  let names ← needStrs req "names"
  let escapes (n : String) := n.startsWith "/" || (n.splitOn "/").contains ".."
  if names.any escapes then .error (badInput "fixture names stay inside the root")
  else
    let paths := names.map underRoot
    let pick (i : Nat) : Read String :=
      match paths[i]? with
      | some p => .ok p
      | none => .error (crashed (outOfBounds paths.length i))
    let base := [("paths", Json.strList paths), ("is_dir", .arr (paths.map fun _ => .bool true))]
    let withDir ← match ← optional req "dir" asNat with
      | some i => do pure (base ++ [("dir", Json.str (← pick i))])
      | none => pure base
    match ← optional req "order" (fun j => asList j >>= fun xs => xs.mapM asNat) with
    | none => return .obj withDir
    | some order =>
      let ordered ← order.mapM pick
      if ordered.any (fun p => p.contains ':') then
        .error (crashed "cannot join search paths: path segment contains separator `:`")
      else
        return .obj (withDir ++ [("ordered", Json.strList ordered), ("joined", .str (":".intercalate ordered))])

end Script

end AssetBroker
