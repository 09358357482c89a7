import AssetBroker.Script.Values
import AssetBroker.Plugin.Registry

/-!
# Driving a plugin registry

Registers simple providers, each naming the identifier it reports and the
display name of the managers it makes, and queries the registry. A shared
registry answers a registration with a flag only and offers its entries in
order; a plain one hands back a rejected origin and its entries one by one.
-/

namespace AssetBroker

namespace Script

/-- A provider that reports an identifier and makes managers with a display name. -/
structure NamedProvider where
  identifier : String
  tag : String

/-- A registry script's state: the registry, kept providers and events. -/
structure RegistryBench where
  registry : Registry NamedProvider
  held : List (String × NamedProvider)
  trail : Trail

def providerJson (p : NamedProvider) : Json :=
  .obj [("identifier", .str p.identifier), ("display_name", .str p.tag)]

def registryStep (shared : Bool) (b : RegistryBench) (step : Json) : Read (Json × RegistryBench) := do
  let r := b.registry
  match ← needStr step "do" with
  | "register" =>
    let id ← needStr step "id"
    let provider : NamedProvider := ⟨← strOr step "provider" id, ← strOr step "tag" ""⟩
    let origin ← readOrigin (← need step "origin")
    let (r', rejected, events) := r.register id provider origin
    let b' := { b with registry := r', trail := b.trail ++ events.toArray }
    if shared then return (.obj [("registered", .bool rejected.isNone)], b')
    else return (.obj [("registered", .bool rejected.isNone),
      ("rejected_origin", Json.opt (fun (e : Entry NamedProvider) => originJson e.origin) rejected)], b')
  | "identifiers" => return (Json.strList r.identifiers, b)
  | "plugin" =>
    match r.plugin (← needStr step "id") with
    | .ok p =>
      match ← optional step "as" asStr with
      | some name => return (providerJson p, { b with held := Keyed.insert name p b.held })
      | none => return (providerJson p, b)
    | .error e => return (brokerJson e, b)
  | "held" =>
    let name ← needStr step "name"
    match Keyed.find? name b.held with
    | some p => return (providerJson p, b)
    | none => .error (badInput ("no provider '" ++ name ++ "'"))
  | "origin" => return (Json.opt originJson (r.origin? (← needStr step "id")), b)
  | "get" => return (Json.opt (fun (e : Entry NamedProvider) => originJson e.origin) (r.get? (← needStr step "id")), b)
  | "get_debug" =>
    let text (e : Entry NamedProvider) := Json.str ("PluginEntry \x7b origin: " ++ e.origin.debug ++ ", .. \x7d")
    return (Json.opt text (r.get? (← needStr step "id")), b)
  | "entries" =>
    return (.arr (r.listed.map fun (id, e) => Json.arr [.str id, originJson e.origin]), b)
  | "len" => return (.int r.size, b)
  | "is_empty" => return (.bool (r.size == 0), b)
  | "reset" =>
    let (r', dropped) := r.reset
    let b' := { b with registry := r' }
    if shared then return (.null, b')
    else return (.obj [("dropped", Json.strList (dropped.map (·.origin.display)))], b')
  | other => .error (badInput ("unknown step '" ++ other ++ "'"))

/-- Runs registry steps; a refused step changes nothing. -/
def runRegistrySteps (shared : Bool) (b : RegistryBench) : List Json → List Json × Trail
  | [] => ([], b.trail)
  | step :: rest =>
    match registryStep shared b step with
    | .ok (answer, b') =>
      let (answers, trail) := runRegistrySteps shared b' rest
      (answer :: answers, trail)
    | .error refusal =>
      let (answers, trail) := runRegistrySteps shared b rest
      (refusal :: answers, trail)

def registryScript (req : Json) : Read (Json × Trail) := do
  let shared ← boolOr req "shared" false
  let steps ← asList (← need req "steps")
  let (answers, trail) := runRegistrySteps shared ⟨Registry.empty, [], #[]⟩ steps
  return (.obj [("steps", .arr answers)], trail)

end Script

end AssetBroker
