import AssetBroker.Script.Common
import AssetBroker.FileSystem
import AssetBroker.Environment
import AssetBroker.Plugin.Binary

/-!
# Scenario surroundings

Scenarios that touch files and variables describe them in the request: a
list of entries to create under the scratch root, variables to set or
remove, and the working directory.
-/

namespace AssetBroker

namespace Script

/-- A path of a request, under the scratch root unless absolute. -/
def scenarioPath (p : String) : String := Path.joinRooted Path.scratchRoot p

def applyEntry (fs : FileSystem) (entry : Json) : Read FileSystem := do
  if let some p ← optional entry "dir" asStr then
    return fs.makeDirs (Path.normalize (scenarioPath p))
  if let some p ← optional entry "file" asStr then
    let content ← strOr entry "content" ""
    return fs.writeFile (scenarioPath p) content
  if let some p ← optional entry "real_plugin" asStr then
    return fs.writeFile (scenarioPath p) systemLibraryContent
  if let some p ← optional entry "symlink" asStr then
    let target ← needStr entry "target"
    let relative ← boolOr entry "relative" false
    return fs.makeLink (scenarioPath p) (if relative then target else scenarioPath target)
  throw (badInput "unknown fs entry")

def requestFiles (req : Json) (fs : FileSystem) : Read FileSystem := do
  let entries ← (optional req "fs" asList).map (·.getD [])
  entries.foldlM applyEntry fs

/-- Applies a request's variable changes: a string sets, `null` removes. -/
def requestEnv (req : Json) (env : Environment) : Read Environment := do
  match req.field? "env" with
  | none | some .null => return env
  | some j =>
    let fields ← asFields j
    fields.foldlM (fun acc (name, v) =>
      match v with
      | .null => pure (acc.unset name)
      | .str s => pure (acc.set name s)
      | _ => throw (badInput "env values are strings or null")) env

end Script

end AssetBroker
