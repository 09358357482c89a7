import AssetBroker.Config.Model
import AssetBroker.Config.Diagnostic
import AssetBroker.Text.Blank

/-!
# Checking a configuration

A configuration that reads may still be wrong. Every rule is checked and
every broken one reported, in this order:

1. the two variable names (`search_path_var`, then
   `entry_points_disable_var`) are non-empty and use only upper-case ASCII
   letters, digits and `_`;
2. `entry_point_group` is not blank;
3. `sources` is not empty;
4. each source is known, and not a repeat of an earlier one;
5. the manager's identifier, if there is a manager, is not blank;
6. the log level is one of `trace`, `debug`, `info`, `warn`, `error`.

Each error points at the setting in the files it was read from. The `n`-th
listing of a source name points at its `n`-th quoted occurrence.
-/

namespace AssetBroker

namespace Config

/-- Whether a text names an environment variable in the accepted way. -/
def isEnvVarName (name : String) : Bool :=
  !name.isEmpty && name.all fun c => ('A' ≤ c && c ≤ 'Z') || ('0' ≤ c && c ≤ '9') || c == '_'

def emptyValueAt (sources : SourceSet) (table key : String) : ConfigError :=
  .emptyValue (table ++ "." ++ key) (sources.locateKey none table key)

/-- One listed source, after the names listed before it and the errors
found so far: an unknown name, or a known one listed before, is an error
located at this occurrence of the name. -/
def sourceStep (sources : SourceSet) (acc : List String × List ConfigError) (name : String) :
    List String × List ConfigError :=
  let (before, errors) := acc
  let nth := before.count name
  let at? := sources.locateValue "plugins" "sources" name nth
  let found :=
    if !knownSources.contains name then
      [ConfigError.unknownSource name (Text.closestMatch name knownSources) at?]
    else if before.contains name then [ConfigError.duplicateSource name at?]
    else []
  (before ++ [name], errors ++ found)

/-- Checks the listed sources: unknown names and repeats, each located at
its own occurrence. -/
def sourceErrors (sources : SourceSet) (names : List String) : List ConfigError :=
  (names.foldl (sourceStep sources) ([], [])).2

/-- All rule violations of a configuration, in order. -/
def validate (config : BrokerConfig) (sources : SourceSet) : List ConfigError :=
  let p := config.plugins
  let varErrors := [("search_path_var", p.searchPathVar),
      ("entry_points_disable_var", p.entryPointsDisableVar)].filterMap fun (key, name) =>
    if isEnvVarName name then none
    else some (ConfigError.badEnvVarName ("plugins." ++ key) name (sources.locateKey none "plugins" key))
  let groupErrors := if Text.isBlankText p.entryPointGroup then [emptyValueAt sources "plugins" "entry_point_group"] else []
  let emptySources := if p.sources.isEmpty then [emptyValueAt sources "plugins" "sources"] else []
  let managerErrors := match config.manager with
    | some m => if Text.isBlankText m.identifier then [emptyValueAt sources "manager" "identifier"] else []
    | none => []
  let level := config.logging.level
  let levelErrors :=
    if logLevels.contains level then []
    else [ConfigError.unknownLogLevel level (Text.closestMatch (asciiLower level) logLevels)
      (sources.locateKey none "logging" "level")]
  varErrors ++ groupErrors ++ emptySources ++ sourceErrors sources p.sources ++ managerErrors ++ levelErrors
where
  asciiLower (s : String) : String := String.ofList (s.toList.map fun c => if c.toNat < 0x80 then c.toLower else c)

end Config

end AssetBroker
