import AssetBroker.Config.Extract

/-!
# The configuration record

The broker is configured in three tables:

* `[plugins]`: the variable holding plugin search paths, extra search
  paths, whether to scan entry points and their group, the variable that
  turns entry-point scanning off, and which plugin sources to use;
* `[manager]`, optional: the default manager's identifier and settings;
* `[logging]`: the log level.

Every key has a default except the manager's identifier. A file that holds
only a default manager has a single `[manager]` table, which it must have.
No table accepts keys it does not list.
-/

namespace AssetBroker

namespace Config

/-- The plugin sources the broker knows, in scanning order. -/
def knownSources : List String := ["native", "package"]

/-- How plugins are found. -/
structure PluginsConfig where
  searchPathVar : String
  searchPaths : List String
  entryPoints : Bool
  entryPointGroup : String
  entryPointsDisableVar : String
  sources : List String
  deriving Inhabited

/-- The default manager to use. -/
structure ManagerConfig where
  identifier : String
  settings : Settings
  deriving Inhabited

/-- How much is logged. -/
structure LoggingConfig where
  level : String
  deriving Inhabited

/-- The whole configuration. -/
structure BrokerConfig where
  plugins : PluginsConfig
  manager : Option ManagerConfig
  logging : LoggingConfig
  deriving Inhabited

def PluginsConfig.default : PluginsConfig :=
  ⟨"ASSETIO_PLUGIN_PATH", [], true, "assetio.manager_plugin", "ASSETIO_DISABLE_ENTRY_POINTS_PLUGINS",
    knownSources⟩

def LoggingConfig.default : LoggingConfig := ⟨"warn"⟩

/-- The keys of `[plugins]`, in the order messages list them. -/
def pluginsKeys : List String :=
  ["search_path_var", "search_paths", "entry_points", "entry_point_group",
    "entry_points_disable_var", "sources"]

def managerKeys : List String := ["identifier", "settings"]

def loggingKeys : List String := ["level"]

def topKeys : List String := ["plugins", "manager", "logging"]

/-- The defaults as the bottom layer of values. -/
def defaultsTree : Tree :=
  let d := PluginsConfig.default
  let l := Layer.defaults
  .dict [
    ("logging", .dict [("level", .str LoggingConfig.default.level l)] l),
    ("plugins", .dict [
      ("entry_point_group", .str d.entryPointGroup l),
      ("entry_points", .bool d.entryPoints l),
      ("entry_points_disable_var", .str d.entryPointsDisableVar l),
      ("search_path_var", .str d.searchPathVar l),
      ("search_paths", .array [] l),
      ("sources", .array (d.sources.map fun s => .str s l) l)] l)] l

/-- Reads a key of a record that is present, or gives the default. -/
def fieldOr (es : List (String × Tree)) (k : String) (read : Tree → Extract α) (default : α) :
    Extract α :=
  match lookup es k with
  | some t => underKey k (read t)
  | none => .ok default

def readPlugins (t : Tree) : Extract PluginsConfig := do
  let (es, layer) ← recordEntries "struct PluginsConfig" t
  checkRecord pluginsKeys (fun k v =>
    match k with
    | "entry_points" => do let _ ← readFlag v
    | "search_paths" => do let _ ← readSeq readPathText v
    | "sources" => do let _ ← readSeq readText v
    | _ => do let _ ← readText v) layer es
  let d := PluginsConfig.default
  pure {
    searchPathVar := ← fieldOr es "search_path_var" readText d.searchPathVar
    searchPaths := ← fieldOr es "search_paths" (readSeq readPathText) d.searchPaths
    entryPoints := ← fieldOr es "entry_points" readFlag d.entryPoints
    entryPointGroup := ← fieldOr es "entry_point_group" readText d.entryPointGroup
    entryPointsDisableVar := ← fieldOr es "entry_points_disable_var" readText d.entryPointsDisableVar
    sources := ← fieldOr es "sources" (readSeq readText) d.sources }

def readManager (t : Tree) : Extract ManagerConfig := do
  let (es, layer) ← recordEntries "struct ManagerConfig" t
  checkRecord managerKeys (fun k v =>
    match k with
    | "settings" => do let _ ← readSettings v
    | _ => do let _ ← readText v) layer es
  checkRequired ["identifier"] layer es
  pure {
    identifier := ← fieldOr es "identifier" readText ""
    settings := ← fieldOr es "settings" readSettings [] }

def readLogging (t : Tree) : Extract LoggingConfig := do
  let (es, layer) ← recordEntries "struct LoggingConfig" t
  checkRecord loggingKeys (fun _ v => do let _ ← readText v) layer es
  pure { level := ← fieldOr es "level" readText LoggingConfig.default.level }

def readConfig (t : Tree) : Extract BrokerConfig := do
  let (es, layer) ← recordEntries "struct AssetIoConfig" t
  checkRecord topKeys (fun k v =>
    match k with
    | "plugins" => do let _ ← readPlugins v
    | "manager" => do let _ ← readManager v
    | _ => do let _ ← readLogging v) layer es
  pure {
    plugins := ← fieldOr es "plugins" readPlugins PluginsConfig.default
    manager := ← fieldOr es "manager" (fun v => some <$> readManager v) none
    logging := ← fieldOr es "logging" readLogging LoggingConfig.default }

/-- Reads a file that holds only a default manager. -/
def readManagerFile (t : Tree) : Extract ManagerConfig := do
  let (es, layer) ← recordEntries "struct DefaultManagerFile" t
  checkRecord ["manager"] (fun _ v => do let _ ← readManager v) layer es
  checkRequired ["manager"] layer es
  fieldOr es "manager" readManager default

end Config

end AssetBroker
