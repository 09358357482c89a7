import AssetBroker.Keyed

/-!
# Environment variables

The variables a process sees, as a map from names to values. Operations
that consult the environment take it as an argument.
-/

namespace AssetBroker

/-- Environment variables by name. -/
abbrev Environment := List (String × String)

namespace Environment

def get? (env : Environment) (name : String) : Option String := Keyed.find? name env

def set (env : Environment) (name value : String) : Environment := Keyed.insert name value env

def unset (env : Environment) (name : String) : Environment := env.filter (·.1 != name)

end Environment

end AssetBroker
