import AssetBroker.Config.Validate
import AssetBroker.Config.EnvValue
import AssetBroker.Config.Placeholder
import AssetBroker.Toml.Report
import AssetBroker.FileSystem
import AssetBroker.Environment
import AssetBroker.Log

/-!
# Loading configuration

Configuration is read in layers, later ones winning: the defaults, then
TOML files (the system file, the user's file and `assetio.toml` of the
working directory or the nearest directory above it that has one), then
environment variables `ASSETIO_PLUGINS_*`, `ASSETIO_LOGGING_*` and
`ASSETIO_MANAGER_IDENTIFIER`. A file that does not exist is no layer at all.

A layer whose text does not read as TOML is a fault; faults of several
layers are all reported, the last layer's first. Otherwise the merged
values are read into a `BrokerConfig` and checked (`Config.validate`).

A default manager file holds just a `[manager]` table. In its top-level
string settings `${config_dir}` becomes the directory of the file.
-/

namespace AssetBroker

namespace Config

/-- What loading sees around it: files, the working directory (none when
it lies outside the scratch root) and environment variables. -/
structure Surroundings where
  fs : FileSystem
  cwd : Option String
  env : Environment
  deriving Inhabited

/-- The key that marks a date-time in a table of values. -/
def datetimeKey : String := "$__toml_private_datetime"

mutual

def treeOfToml (layer : Layer) : Toml.Value → Tree
  | .string s _ => .str s layer
  | .integer n _ => .signed n layer
  | .float x _ => .float x layer
  | .boolean b _ => .bool b layer
  | .datetime t _ => .dict [(datetimeKey, .str t layer)] layer
  | .array items _ => .array (treesOfToml layer items) layer
  | .inline es _ _ => .dict (Tree.sortedEntries (entriesOfToml layer es)) layer
  | .table es _ _ => .dict (Tree.sortedEntries (entriesOfToml layer es)) layer
  | .tables items => .array (treesOfToml layer items) layer

def treesOfToml (layer : Layer) : List Toml.Value → List Tree
  | [] => []
  | v :: rest => treeOfToml layer v :: treesOfToml layer rest

def entriesOfToml (layer : Layer) : List (Toml.Key × Toml.Value) → List (String × Tree)
  | [] => []
  | (k, v) :: rest => (k.name, treeOfToml layer v) :: entriesOfToml layer rest

end

/-- The layer of a TOML text, or the fault of a text that does not read. -/
def tomlLayer (layer : Layer) (text : String) : Except Fault Tree :=
  match Toml.parse text with
  | .ok v => .ok (treeOfToml layer v)
  | .error e => .error ⟨.message (e.render text), [], some layer⟩

def asciiLower (s : String) : String :=
  String.ofList (s.toList.map fun c => if c.toNat < 0x80 then c.toLower else c)

/-- The prefix of the environment variables that configure. -/
def envPrefix : String := "assetio_"

/-- The key path a variable sets, if it is one that configures: the prefix
is matched in any case, the rest is lower-cased, and the first `plugins_`,
`logging_` and `manager_` become table names. -/
def envKeyPath? (name : String) : Option (List String) :=
  let lower := (asciiLower name).toList
  if !envPrefix.toList.isPrefixOf lower then none
  else
    let key := lower.drop envPrefix.length
    if "plugins_".toList.isPrefixOf key || "logging_".toList.isPrefixOf key ||
        key == "manager_identifier".toList then
      let mapped := Text.replaceFirst "manager_".toList "manager.".toList
        (Text.replaceFirst "logging_".toList "logging.".toList
          (Text.replaceFirst "plugins_".toList "plugins.".toList key))
      some (((mapped.splitOn '.').filter fun part => !part.isEmpty).map String.ofList)
    else none

def nestUnder (path : List String) (v : Tree) : Tree :=
  path.foldr (fun k acc => .dict [(k, acc)] .environment) v

/-- The layer of the configuring environment variables, in name order. -/
def envLayer (env : Environment) : Tree :=
  env.foldl (fun acc (name, value) =>
    match envKeyPath? name with
    | some path => acc.merge (nestUnder path (parseEnvValue value))
    | none => acc) (.dict [] .environment)

/-- The number of components the scratch root stands for. -/
def scratchDepth : Nat := 3

def componentCount (p : String) : Nat :=
  let (root, parts) := Path.splitRooted (Path.normalize p)
  (if root == "/" then 1 else scratchDepth) + parts.length

/-- A path relative to a directory, when both are under the same root. -/
def relativeTo (cwd p : String) : Option String :=
  let (r1, a) := Path.splitRooted (Path.normalize p)
  let (r2, b) := Path.splitRooted (Path.normalize cwd)
  if r1 != r2 then none
  else
    let common := ((a.zip b).takeWhile fun (x, y) => x == y).length
    let ups := List.replicate (b.length - common) ".."
    some ("/".intercalate (ups ++ a.drop common))

/-- How a file path is shown in messages: relative to the working
directory when that has fewer components. -/
def shownPath (cwd : Option String) (p : String) : String :=
  match cwd.bind (relativeTo · p) with
  | some r =>
    if (Path.pieces r).length < componentCount p then (if r.isEmpty then "." else r) else p
  | none => p

/-- The path of a TOML file layer as found: an absolute path as it is if it
is a file; a relative one in the working directory or the nearest directory
above it that has it. -/
def findFile (s : Surroundings) (p : String) : Option String :=
  if Path.isRooted p then (if s.fs.isFile "/" p then some p else none)
  else
    match s.cwd with
    | none => none
    | some cwd =>
      let (root, parts) := Path.splitRooted (Path.normalize cwd)
      let dirs := (List.range (parts.length + 1)).reverse.map fun i => Path.render root (parts.take i)
      (dirs.map (Path.join · p)).find? (s.fs.isFile "/" ·)

/-- The resolved form of a path, or the path itself when it cannot be
resolved. -/
def canonicalOr (s : Surroundings) (p : String) : String :=
  match s.fs.canonicalize (s.cwd.getD "/") p with
  | .ok q => q
  | .error _ => p

/-- The layer of a TOML file, if it exists. -/
def fileLayer (s : Surroundings) (p : String) : Option (Except Fault Tree) :=
  (findFile s p).map fun found =>
    let text := (s.fs.read "/" found).toOption.getD ""
    tomlLayer (.file (canonicalOr s found) (shownPath s.cwd found)) text

/-- Merges layers over the defaults. Faults of layers are gathered, the
last layer's first; the values of layers after a fault no longer matter. -/
def mergeLayers (layers : List (Except Fault Tree)) : Except (List Fault) Tree :=
  layers.foldl (fun acc layer =>
    match acc, layer with
    | .ok t, .ok top => .ok (t.merge top)
    | .ok _, .error f => .error [f]
    | .error fs, .error f => .error (f :: fs)
    | .error fs, .ok _ => .error fs) (.ok defaultsTree)

def extractConfig (layers : List (Except Fault Tree)) : Except (List Fault) BrokerConfig := do
  let t ← mergeLayers layers
  (readConfig t).mapError fun f => [f]

/-- The configuration of a TOML text alone over the defaults. -/
def loadText (text : String) : Except (List Fault) BrokerConfig :=
  extractConfig [tomlLayer .text text]

/-- The configuration of one file and the environment over the defaults. -/
def loadFile (s : Surroundings) (p : String) : Except (List Fault) BrokerConfig :=
  extractConfig ((fileLayer s p).toList ++ [.ok (envLayer s.env)])

def systemFile : String := "/etc/assetio/assetio.toml"

/-- The local configuration file, looked up from the working directory. -/
def localFile : String := "assetio.toml"

/-- The user's configuration file: under `$XDG_CONFIG_HOME` when that is an
absolute path, otherwise under `$HOME/.config`. -/
def userFile (env : Environment) : String :=
  let base := match env.get? "XDG_CONFIG_HOME" with
    | some dir => if Path.isRooted dir then some dir else none
    | none => none
  let dir := match base with
    | some d => d
    | none => Path.join ((env.get? "HOME").getD "") ".config"
  Path.join dir "assetio/assetio.toml"

/-- The configuration files consulted, lowest precedence first. -/
def standardFiles (env : Environment) : List String := [systemFile, userFile env, localFile]

/-- The configuration from the standard files and the environment. -/
def loadStandard (s : Surroundings) : Except (List Fault) BrokerConfig :=
  extractConfig ((standardFiles s.env).filterMap (fileLayer s) ++ [.ok (envLayer s.env)])

/-- The texts of the files that exist among `paths`, named by their resolved
paths; relative paths are read in the working directory only. -/
def readSources (s : Surroundings) (paths : List String) : SourceSet :=
  ⟨paths.filterMap fun p =>
    match s.cwd with
    | none => if Path.isRooted p then (s.fs.read "/" p).toOption.map fun c => (canonicalOr s p, c) else none
    | some cwd => (s.fs.read cwd p).toOption.map fun c => (canonicalOr s p, c)⟩

/-- Loads and checks: the configuration, or every error found. -/
def checked (loaded : Except (List Fault) BrokerConfig) (sources : SourceSet) :
    Except (List ConfigError) BrokerConfig :=
  match loaded with
  | .error faults => .error (faults.map (ConfigError.ofFault sources))
  | .ok config =>
    match validate config sources with
    | [] => .ok config
    | errors => .error errors

/-- The name under which a directly given text is located. -/
def inlineName : String := "<inline>"

/-- Loads and checks a TOML text over the defaults. -/
def loadAndValidateText (text : String) : Except (List ConfigError) BrokerConfig :=
  checked (loadText text) ⟨[(inlineName, text)]⟩

/-- Loads and checks the standard files and the environment. -/
def loadAndValidate (s : Surroundings) : Except (List ConfigError) BrokerConfig :=
  checked (loadStandard s) (readSources s (standardFiles s.env))

/-- The variable that names a default manager file. -/
def defaultConfigVar : String := "ASSETIO_DEFAULT_CONFIG"

/-- Reads a default manager file's text, found at `path`: its manager, with
`${config_dir}` replaced by the directory of the file, and the event that
reports it. -/
def managerFromText (s : Surroundings) (text path : String) :
    Except (List Fault) (ManagerConfig × Event) := do
  let t ← (tomlLayer .text text).mapError fun f => [f]
  let manager ← (readManagerFile t).mapError fun f => [f]
  let dir := (Path.parent? (canonicalOr s path)).getD ""
  let manager := { manager with settings := substituteConfigDir manager.settings dir }
  let event : Event := ⟨.debug, .configLoader, "loaded default manager configuration",
    [Event.shown "path" path, Event.shown "identifier" manager.identifier]⟩
  pure (manager, event)

/-- Reads the default manager file at `path`; `namedBy` is the variable the
path came from. -/
def loadManagerFile (s : Surroundings) (path : String) (namedBy : Option String) :
    Except (List ConfigError) (ManagerConfig × Event) := do
  let content ← match s.fs.read (s.cwd.getD "/") path with
    | .ok c => pure c
    | .error e => throw [ConfigError.defaultManagerUnreadable path e.message namedBy]
  let sources : SourceSet := ⟨[(path, content)]⟩
  let (manager, event) ← (managerFromText s content path).mapError
    (·.map (ConfigError.ofFault sources))
  if Text.isBlankText manager.identifier then throw [emptyValueAt sources "manager" "identifier"]
  pure (manager, event)

/-- The default manager named by `ASSETIO_DEFAULT_CONFIG`, when it is set and
not empty. -/
def managerFromEnv (s : Surroundings) : Option (Except (List ConfigError) (ManagerConfig × Event)) :=
  match s.env.get? defaultConfigVar with
  | some path => if path.isEmpty then none else some (loadManagerFile s path (some defaultConfigVar))
  | none => none

end Config

end AssetBroker
