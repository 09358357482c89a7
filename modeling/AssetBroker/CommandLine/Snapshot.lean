import AssetBroker.Config.Load

/-!
# What the tool reads from its machine

The tool works on a snapshot of its surroundings: the variables it consults
and the files it reads by name. Variables come in two rounds: the fixed
names below, then the names a first look at the configuration gives (the
variable of the search paths and the one that disables entry points).
Files read by name are the system and user configuration files,
`assetio.toml` in the working directory and in every directory above it,
and the default manager file.
-/

namespace AssetBroker

namespace CommandLine

/-- The configuration keys a variable may set, by table. -/
def configuredKeys : List String :=
  ["plugins_search_path_var", "plugins_search_paths", "plugins_entry_points", "plugins_entry_point_group",
   "plugins_entry_points_disable_var", "plugins_sources", "logging_level", "manager_identifier"]

/-- The variables the tool consults whatever its configuration. -/
def consultedVariables : List String :=
  ["HOME", "XDG_CONFIG_HOME", "RUST_LOG", "NO_COLOR", Config.defaultConfigVar] ++
    configuredKeys.map fun k => (Config.envPrefix ++ k).toUpper

/-- The variables a plugin configuration names. -/
def configuredVariables (c : Config.PluginsConfig) : List String := [c.searchPathVar, c.entryPointsDisableVar]

/-- The files the tool reads by name, as absolute paths, from a working
directory. -/
def namedFiles (env : Environment) (cwd : String) : List String :=
  let (root, parts) := Path.splitRooted (Path.normalize cwd)
  let dirs := (List.range (parts.length + 1)).reverse.map fun i => Path.render root (parts.take i)
  let defaultFile := match env.get? Config.defaultConfigVar with
    | some p => if p.isEmpty then [] else [Path.join cwd p]
    | none => []
  [Config.systemFile, Config.userFile env] ++ dirs.map (Path.join · Config.localFile) ++ defaultFile

end CommandLine

end AssetBroker
