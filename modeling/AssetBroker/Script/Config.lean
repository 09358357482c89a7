import AssetBroker.Script.Scenario
import AssetBroker.Config.Load

/-!
# Configuration scripts

Loading configuration from a text, from one file with variables, from the
standard files of a scenario, and default manager files. Configurations
and errors are answered as JSON; an error's span is its byte offset and
length, and `src` names the file it points into.
-/

namespace AssetBroker

namespace Script

open Config

def configJson (c : BrokerConfig) : Json :=
  let p := c.plugins
  .obj [
    ("plugins", .obj [("search_path_var", .str p.searchPathVar), ("search_paths", Json.strList p.searchPaths),
      ("entry_points", .bool p.entryPoints), ("entry_point_group", .str p.entryPointGroup),
      ("entry_points_disable_var", .str p.entryPointsDisableVar), ("sources", Json.strList p.sources)]),
    ("manager", match c.manager with
      | some m => managerJson m
      | none => .null),
    ("logging", .obj [("level", .str c.logging.level)])]
where
  managerJson (m : ManagerConfig) : Json :=
    .obj [("identifier", .str m.identifier), ("settings", taggedMap m.settings)]

def managerConfigJson (m : ManagerConfig) : Json :=
  .obj [("identifier", .str m.identifier), ("settings", taggedMap m.settings)]

def configErrorJson (e : ConfigError) : Json :=
  let (span, src) := match e.location with
    | some (s, name) => (Json.obj [("offset", .int s.offset), ("len", .int s.len)], Json.str name)
    | none => (Json.null, Json.null)
  .obj [("kind", .str e.kind), ("message", .str e.message), ("code", .str e.code),
    ("help", Json.opt Json.str e.help), ("span", span), ("src", src),
    ("suggestion", Json.opt Json.str e.suggestion)]

def configErrorsJson (errors : List ConfigError) : Json := .arr (errors.map configErrorJson)

def checkedJson (r : Except (List ConfigError) BrokerConfig) : List (String × Json) :=
  match r with
  | .ok c => [("config", configJson c)]
  | .error errors => [("errors", configErrorsJson errors)]

/-- A default manager, or its errors, and the events of loading it. -/
def managerResultJson (r : Except (List ConfigError) (ManagerConfig × Event)) : Json × Trail :=
  match r with
  | .ok (m, event) => (.obj [("manager", managerConfigJson m)], #[event])
  | .error errors => (.obj [("errors", configErrorsJson errors)], #[])

/-- Loads and checks a text over the defaults. -/
def configScript (req : Json) : Read Json := do
  let text ← needStr req "toml"
  return .obj (checkedJson (loadAndValidateText text))

/-- Where a default manager text is said to be found when the request
names no path. -/
def defaultManagerTextPath : String := "/nonexistent/show/manager.toml"

/-- Reads a default manager from a text said to be found at a path. -/
def defaultManagerTextScript (req : Json) : Read (Json × Trail) := do
  let text ← needStr req "toml"
  let path ← strOr req "path" defaultManagerTextPath
  let s : Surroundings := ⟨FileSystem.empty, none, []⟩
  let sources : SourceSet := ⟨[(path, text)]⟩
  return managerResultJson ((managerFromText s text path).mapError (·.map (ConfigError.ofFault sources)))

/-- Reads a default manager file written under the scratch root. -/
def defaultManagerFileScript (req : Json) : Read (Json × Trail) := do
  let name ← strOr req "name" "manager.toml"
  let path := scenarioPath name
  let fs := match ← optional req "content" asStr with
    | some content => FileSystem.empty.writeFile path content
    | none => FileSystem.empty
  let s : Surroundings := ⟨fs, none, []⟩
  return managerResultJson (loadManagerFile s path none)

/-- Loads one file with variables over the defaults, then checks it
against the file's text. -/
def configFileScript (req : Json) : Read Json := do
  let path := scenarioPath "assetio.toml"
  let content ← optional req "content" asStr
  let fs := match content with
    | some c => FileSystem.empty.writeFile path c
    | none => FileSystem.empty
  let env ← requestEnv req []
  let s : Surroundings := ⟨fs, none, env⟩
  let sources : SourceSet := ⟨match content with
    | some c => [(path, c)]
    | none => []⟩
  match loadFile s path with
  | .error faults => return .obj [("errors", configErrorsJson (faults.map (ConfigError.ofFault sources)))]
  | .ok config =>
    match validate config sources with
    | [] => return .obj [("config", configJson config)]
    | errors => return .obj [("config", configJson config), ("errors", configErrorsJson errors)]

/-- The surroundings of a scenario: its files, its working directory
(created if missing) and its variables over `HOME` and `XDG_CONFIG_HOME`. -/
def scenarioSurroundings (req : Json) (defaultCwd : String) : Read Surroundings := do
  let fs ← requestFiles req FileSystem.empty
  let cwd := scenarioPath (← strOr req "cwd" defaultCwd)
  let base : Environment := [("HOME", Path.scratchRoot), ("XDG_CONFIG_HOME", scenarioPath "xdg")]
  let env ← requestEnv req base
  return ⟨fs.makeDirs cwd, some (Path.normalize cwd), env⟩

/-- Loads the standard configuration of a scenario and its default manager. -/
def loadConfigScript (req : Json) : Read (Json × Trail) := do
  let s ← scenarioSurroundings req "work"
  let (manager, trail) := match managerFromEnv s with
    | some r => managerResultJson r
    | none => (Json.null, #[])
  return (.obj (checkedJson (loadAndValidate s) ++ [("default_manager", manager)]), trail)

end Script

end AssetBroker
