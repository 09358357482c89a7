import AssetBroker.Config.Extract
import AssetBroker.Config.Locate
import AssetBroker.Text.Similarity

/-!
# Configuration errors

Every problem with configuration becomes a `ConfigError` with a message, a
code, help text, and where it can be found, the span of the text that
caused it and the file that holds the text.

A fault met while reading layered values turns into an error of the same
kind where there is one: an unknown key, a key of the wrong type, a missing
key. Unknown and mistyped keys are looked up in the text of the file that
set their table (or in every file, highest precedence first, when no file
did). Any other fault becomes an `other` error with the fault's own text.
-/

namespace AssetBroker

namespace Config

/-- The log levels a configuration may name, from the most verbose. -/
def logLevels : List String := ["trace", "debug", "info", "warn", "error"]

/-- A configuration problem. -/
inductive ConfigError where
  | unknownKey (table key : String) (suggestion : Option String) (accepted : List String)
      (at? : Option (Span × String))
  | wrongType (key found expected : String) (at? : Option (Span × String))
  | missingKey (key file : String)
  | unknownSource (name : String) (suggestion : Option String) (at? : Option (Span × String))
  | duplicateSource (name : String) (at? : Option (Span × String))
  | badEnvVarName (key name : String) (at? : Option (Span × String))
  | emptyValue (key : String) (at? : Option (Span × String))
  | unknownLogLevel (level : String) (suggestion : Option String) (at? : Option (Span × String))
  | defaultManagerUnreadable (path reason : String) (namedBy : Option String)
  | other (text : String)
  deriving Inhabited

namespace ConfigError

def kind : ConfigError → String
  | unknownKey .. => "UnknownKey"
  | wrongType .. => "WrongType"
  | missingKey .. => "MissingKey"
  | unknownSource .. => "UnknownSource"
  | duplicateSource .. => "DuplicateSource"
  | badEnvVarName .. => "BadEnvVarName"
  | emptyValue .. => "EmptyValue"
  | unknownLogLevel .. => "UnknownLogLevel"
  | defaultManagerUnreadable .. => "DefaultManagerUnreadable"
  | other .. => "Other"

def tableLabel (table : String) : String :=
  if table.isEmpty then "the top level" else "[" ++ table ++ "]"

def message : ConfigError → String
  | unknownKey table key _ _ _ => "unknown key `" ++ key ++ "` in " ++ tableLabel table
  | wrongType key found _ _ => "`" ++ key ++ "` has the wrong type: found " ++ found
  | missingKey key file => "`" ++ key ++ "` is missing from " ++ file
  | unknownSource name _ _ => "unknown plugin source `" ++ name ++ "` in plugins.sources"
  | duplicateSource name _ => "plugin source `" ++ name ++ "` is listed more than once in plugins.sources"
  | badEnvVarName key name _ => key ++ " `" ++ name ++ "` is not a valid environment variable name"
  | emptyValue key _ => key ++ " must not be empty"
  | unknownLogLevel level _ _ => "log level `" ++ level ++ "` is not recognized"
  | defaultManagerUnreadable path reason _ =>
    "cannot read default manager file `" ++ path ++ "`: " ++ reason
  | other text => "configuration error: " ++ text

def code : ConfigError → String
  | unknownKey .. => "assetio::config::unknown_key"
  | wrongType .. => "assetio::config::wrong_type"
  | missingKey .. => "assetio::config::missing_key"
  | unknownSource .. => "assetio::config::unknown_source"
  | duplicateSource .. => "assetio::config::duplicate_source"
  | badEnvVarName .. => "assetio::config::env_var_name"
  | emptyValue .. => "assetio::config::empty_value"
  | unknownLogLevel .. => "assetio::config::log_level"
  | defaultManagerUnreadable .. => "assetio::config::default_manager_unreadable"
  | other .. => "assetio::config::other"

/-- "did you mean" before a list, when there is a suggestion. -/
def withSuggestion (suggestion : Option String) (rest : String) : String :=
  match suggestion with
  | some s => "did you mean `" ++ s ++ "`? " ++ rest
  | none => rest

def help : ConfigError → Option String
  | unknownKey _ _ s accepted _ => some (withSuggestion s ("accepted keys: " ++ ", ".intercalate accepted))
  | wrongType _ _ expected _ => some ("expected " ++ expected)
  | missingKey key _ => some ("add `" ++ key ++ "` under its table")
  | unknownSource _ s _ => some (withSuggestion s ("known sources: " ++ ", ".intercalate knownSourcesText))
  | duplicateSource .. => some "each source is scanned once; remove the repeated entry"
  | badEnvVarName .. => some "use upper-case ASCII letters, digits and `_`"
  | emptyValue .. => none
  | unknownLogLevel _ s _ => some (withSuggestion s ("levels: " ++ ", ".intercalate logLevels))
  | defaultManagerUnreadable _ _ namedBy =>
    match namedBy with
    | some var => some ("the path comes from $" ++ var ++ "; point it at an existing file or unset it")
    | none => some "check the path exists and is readable"
  | other .. => none
where
  knownSourcesText : List String := ["native", "package"]

def label : ConfigError → Option String
  | unknownKey .. => some "not a recognized key"
  | wrongType .. => some "set here"
  | unknownSource .. => some "no such source"
  | duplicateSource .. => some "repeated here"
  | badEnvVarName .. => some "not a variable name"
  | emptyValue .. => some "empty"
  | unknownLogLevel .. => some "unknown level"
  | _ => none

/-- Where the error points: a span and the name of its file. -/
def location : ConfigError → Option (Span × String)
  | unknownKey _ _ _ _ a | wrongType _ _ _ a | unknownSource _ _ a | duplicateSource _ a
  | badEnvVarName _ _ a | emptyValue _ a | unknownLogLevel _ _ a => a
  | _ => none

def suggestion : ConfigError → Option String
  | unknownKey _ _ s _ _ | unknownSource _ s _ | unknownLogLevel _ s _ => s
  | _ => none

end ConfigError

/-- How a layer is named at the end of a fault's text. -/
def Layer.describe : Layer → String
  | .defaults => "default configuration"
  | .text => "TOML source string"
  | .file _ shown => shown ++ " TOML file"
  | .environment => "`ASSETIO_` environment variable(s)"

/-- The name of a key path as the layer would spell it. -/
def Layer.keyName (l : Layer) (path : List String) : String :=
  match l with
  | .environment => "ASSETIO_" ++ "_".intercalate (path.map String.toUpper)
  | _ => "default." ++ ".".intercalate path

def FaultKind.text : FaultKind → String
  | .message t => t
  | .invalidType found expected => "invalid type: found " ++ found ++ ", expected " ++ expected
  | .missingField k => "missing field `" ++ k ++ "`"
  | .unknownField k expected =>
    "unknown field: found `" ++ k ++ "`, expected `" ++ ", ".intercalate expected ++ "`"

/-- The full text of a fault: its kind, the key it concerns, and its layer. -/
def Fault.display (f : Fault) : String :=
  f.kind.text ++
    match f.layer with
    | some l =>
      (if f.path.isEmpty then "" else " for key " ++ debugQuote (l.keyName f.path)) ++
        " in " ++ l.describe
    | none => ""

/-- The file a fault's layer names, by its resolved path. -/
def Layer.filePath? : Layer → Option String
  | .file path _ => some path
  | _ => none

/-- The configuration error for a fault, located in `sources`. -/
def ConfigError.ofFault (sources : SourceSet) (f : Fault) : ConfigError :=
  let file := f.layer.bind Layer.filePath?
  let path := ".".intercalate f.path
  match f.kind with
  | .unknownField key expected =>
    let table := match f.path.getLast? with
      | some last => if last == key then ".".intercalate f.path.dropLast else path
      | none => path
    .unknownKey table key (Text.closestMatch key expected) expected (sources.locateKey file table key)
  | .missingField key =>
    .missingKey (if path.isEmpty then key else path ++ "." ++ key) (file.getD "the configuration")
  | .invalidType found expected =>
    let (table, key) := match f.path.getLast? with
      | some last => (".".intercalate f.path.dropLast, last)
      | none => ("", "")
    .wrongType path found expected (sources.locateKey file table key)
  | .message _ => .other f.display

end Config

end AssetBroker
