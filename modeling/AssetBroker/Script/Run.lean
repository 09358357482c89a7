import AssetBroker.Script.Batch
import AssetBroker.Script.Values
import AssetBroker.Script.Registry
import AssetBroker.Script.Small
import AssetBroker.Script.Manifest
import AssetBroker.Script.Config
import AssetBroker.Script.Manager
import AssetBroker.Script.Plugins
import AssetBroker.Script.Cli
import AssetBroker.Json.Read

/-!
# Answering a request

A request names its operation in `op`. When it also names a level in `log`,
the answer lists the events of that level or more severe, in the order they
happened. A line that is not a JSON object, or names no known operation, is
refused.
-/

namespace AssetBroker

namespace Script

/-- Runs the operation a request names: its answer and the events logged. -/
def dispatch (req : Json) : Read (Json × Trail) := do
  let quiet (r : Read Json) : Read (Json × Trail) := r.map fun j => (j, #[])
  match ← needStr req "op" with
  | "batch_sink" => batchSink req
  | "traits_data" => quiet (traitsData req)
  | "property_value" => quiet (propertyValue req)
  | "property_from" => quiet (propertyFrom req)
  | "enum" => quiet (enumeration req)
  | "error_format" => quiet (errorFormat req)
  | "registry" => registryScript req
  | "closest_match" => quiet (closestMatchScript req)
  | "locate" => quiet (locateScript req)
  | "substitute_config_dir" => quiet (substituteScript req)
  | "search_paths" => searchPathsScript req
  | "fixtures" => quiet (fixturesScript req)
  | "manifest" => quiet (manifestScript req)
  | "config" => quiet (configScript req)
  | "default_manager_str" => defaultManagerTextScript req
  | "default_manager_file" => defaultManagerFileScript req
  | "config_file" => quiet (configFileScript req)
  | "load_config" => loadConfigScript req
  | "manager" => managerScript req
  | "plugins" => pluginsScript req
  | "cli" => quiet (cliScript req)
  | other => .error (badInput ("unknown op '" ++ other ++ "'"))

def answer (req : Json) : Json :=
  let threshold : Read (Option Level) :=
    match req.field? "log" with
    | none => .ok none
    | some (.str name) =>
      match Level.ofName? name with
      | some l => .ok (some l)
      | none => .error (badInput "log must be a level name")
    | some _ => .error (badInput "log must be a level name")
  match threshold with
  | .error refusal => refusal
  | .ok level =>
    match dispatch req with
    | .error refusal =>
      match level with
      | none => refusal
      | some _ => refusal.withFields [("log", .arr [])]
    | .ok (result, trail) =>
      match level with
      | none => result
      | some l =>
        let kept := trail.toList.filter fun e => l.admits e.level
        result.withFields [("log", .arr (kept.map eventJson))]

/-- The answer to one line of text, as one line of text. -/
def answerLine (line : String) : String :=
  match Json.parse line with
  | .ok req => (answer req).compact
  | .error message => (badInput ("invalid JSON: " ++ message)).compact

end Script

end AssetBroker
