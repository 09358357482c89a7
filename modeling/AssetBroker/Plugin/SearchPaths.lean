import AssetBroker.Environment
import AssetBroker.Log
import AssetBroker.Plugin.Origin

/-!
# Plugin search paths

Plugins are looked for on a list of directories, given explicitly or read
from an environment variable when the search starts. A variable's value is
split at `:` and empty pieces are dropped; an unset variable gives no paths
and a warning.
-/

namespace AssetBroker

/-- Where the search paths come from. -/
inductive SearchPaths where
  | explicit (paths : List String)
  | envVar (name : String)
  deriving DecidableEq, Repr, Inhabited

namespace SearchPaths

/-- Splits a path list at `:`, dropping empty pieces. -/
def split (value : String) : List String :=
  (value.splitOn ":").filter (· != "")

/-- The paths to search now, with the events logged. -/
def resolve (s : SearchPaths) (env : Environment) : List String × List Event :=
  match s with
  | explicit paths => (paths, [])
  | envVar name =>
    match env.get? name with
    | some value => (split value, [])
    | none =>
      ([], [⟨.warn, .pluginFactory,
        "no plugin search paths specified, no plugins will load; check $" ++ name ++ " is set",
        [Event.shown "var" name]⟩])

def debug : SearchPaths → String
  | explicit paths => "Explicit([" ++ ", ".intercalate (paths.map debugQuote) ++ "])"
  | envVar name => "EnvVar(" ++ debugQuote name ++ ")"

end SearchPaths

end AssetBroker
