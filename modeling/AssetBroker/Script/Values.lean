import AssetBroker.Script.Common
import AssetBroker.Binary64.Read
import AssetBroker.Json.Read

/-!
# Scripts over plain values

Traits data held in named slots, single property values, the names of the
enumerations, and the texts of errors.
-/

namespace AssetBroker

namespace Script

/-! ## Traits data in named slots -/

/-- Named traits data; the slot `a` starts empty. -/
abbrev Slots := List (String × TraitsData)

def slot (slots : Slots) (name : String) : Read TraitsData :=
  match Keyed.find? name slots with
  | some d => .ok d
  | none => .error (badInput ("no traits data '" ++ name ++ "'"))

/-- Reads an origin written `{binary: p}`, `{package: p}`,
`{entry_point: [group, name]}` or `{static: label}`. -/
def readOrigin (j : Json) : Read Origin := do
  match j.field? "binary", j.field? "package", j.field? "entry_point", j.field? "static" with
  | some p, _, _, _ => return .binary (← asStr p)
  | _, some p, _, _ => return .package (← asStr p)
  | _, _, some gn, _ =>
    match ← asStrs gn with
    | [g, n] => return .entryPoint g n
    | _ => .error (badInput "an entry point origin is [group, name]")
  | _, _, _, some l => return .label (← asStr l)
  | _, _, _, _ => .error (badInput "unknown origin")

/-- One traits data step: the answer and the slots after it. -/
def traitsStep (slots : Slots) (step : Json) : Read (Json × Slots) := do
  let on ← strOr step "on" "a"
  let target ← strOr step "as" on
  let state (d : TraitsData) := Json.obj [("state", traitsJson d)]
  let value (j : Json) := Json.obj [("value", j)]
  let store (name : String) (d : TraitsData) : Read (Json × Slots) :=
    .ok (state d, Keyed.insert name d slots)
  match ← needStr step "do" with
  | "new" => store target TraitsData.empty
  | "with_traits" => store target (TraitsData.withTraits (← needStrs step "traits"))
  | "from_json" => store target (← readTraits (← need step "value"))
  | "clone" => store target (← slot slots on)
  | "filtered" => store target ((← slot slots on).filtered (sortedSet (← needStrs step "traits")))
  | "add_trait" => store on ((← slot slots on).addTrait (← needStr step "trait"))
  | "add_traits" => store on ((← slot slots on).addTraits (← needStrs step "traits"))
  | "set" =>
    let d ← slot slots on
    let t ← needStr step "trait"
    let k ← needStr step "key"
    let v ← readProperty (← need step "value")
    store on (d.set t k v)
  | "update" => store on ((← slot slots on).update (← slot slots (← needStr step "from")))
  | "get" =>
    let d ← slot slots on
    return (value (Json.opt tagged (d.get? (← needStr step "trait") (← needStr step "key"))), slots)
  | "has_trait" => return (value (.bool ((← slot slots on).hasTrait (← needStr step "trait"))), slots)
  | "trait_set" => return (value (Json.strList (← slot slots on).traitSet), slots)
  | "keys" => return (value (Json.strList ((← slot slots on).keys (← needStr step "trait"))), slots)
  | "len" => return (value (.int (← slot slots on).size), slots)
  | "is_empty" => return (value (.bool (← slot slots on).isEmpty), slots)
  | "eq" => return (value (.bool ((← slot slots on) == (← slot slots (← needStr step "other")))), slots)
  | "to_json" => return (value (.str (← slot slots on).toJson.compact), slots)
  | "dump" => return (state (← slot slots on), slots)
  | other => .error (badInput ("unknown step '" ++ other ++ "'"))

/-- Runs traits data steps; a refused step leaves the slots as they were. -/
def runTraitsSteps (slots : Slots) : List Json → List Json
  | [] => []
  | step :: rest =>
    match traitsStep slots step with
    | .ok (answer, slots') => answer :: runTraitsSteps slots' rest
    | .error refusal => refusal :: runTraitsSteps slots rest

def traitsData (req : Json) : Read Json := do
  let steps ← asList (← need req "steps")
  return .obj [("steps", .arr (runTraitsSteps [("a", TraitsData.empty)] steps))]

/-! ## Single property values -/

/-- Everything a property value answers about itself. -/
def propertyValue (req : Json) : Read Json := do
  let raw ← need req "value"
  let v ← readProperty raw
  let text := v.toJsonText
  let back := v.roundTrips
  return .obj [("kind", .str v.kind), ("value", tagged v), ("display", .str v.display),
    ("as_str", Json.opt Json.str v.asStr?), ("as_int", Json.opt Json.int v.asInt?),
    ("as_float", Json.opt (fun x => Json.str x.debugText) v.asFloat?),
    ("as_bool", Json.opt Json.bool v.asBool?),
    ("as_dict_keys", Json.opt (fun e => Json.strList (Keyed.keys e)) v.asDict?),
    ("to_json", .str text), ("roundtrip_equal", .bool back)]

/-- Reads a native value of the named type as a property value. -/
def readNative (type : String) (raw : Json) : Read PropertyValue :=
  match type, raw with
  | "bool", _ => PropertyValue.bool <$> asBool raw
  | "i64", .int n =>
    if -0x8000000000000000 ≤ n && n < 0x8000000000000000 then .ok (.int n) else .error (badInput "not an i64")
  | "i32", .int n =>
    if -0x80000000 ≤ n && n < 0x80000000 then .ok (.int n) else .error (badInput "not an i32")
  | "f64", .int n => .ok (.float (Binary64.ofInt n))
  | "f64", .float x => .ok (.float x)
  | "f64", .str s =>
    match Binary64.readText? s with
    | some x => .ok (.float x)
    | none => .error (badInput "not an f64")
  | "str", _ => PropertyValue.str <$> asStr raw
  | "string", _ => PropertyValue.str <$> asStr raw
  | "dict", .obj _ => PropertyValue.dict <$> readSettings raw
  | "dict", _ => .error (badInput "not an object")
  | "i64", _ => .error (badInput "not an i64")
  | "i32", _ => .error (badInput "not an i32")
  | "f64", _ => .error (badInput "not an f64")
  | other, _ => .error (badInput ("unknown type '" ++ other ++ "'"))

/-- A value built from a typed native value. -/
def propertyFrom (req : Json) : Read Json := do
  let v ← readNative (← needStr req "type") (← need req "value")
  return .obj [("value", tagged v), ("display", .str v.display)]

/-! ## Enumerations -/

/-- Reads one enumeration name: its display and diagnostic texts, and the
facts that the enumeration adds. -/
def enumName (kind name : String) : Read Json :=
  let plain (names : List String) : Read Json :=
    if names.contains name then .ok (.obj [("display", .str name), ("debug", .str (capitalized name))])
    else .error (badName kind name)
  match kind with
  | "capability" =>
    match Capability.ofName? name with
    | some c => .ok (.obj [("display", .str c.name), ("debug", .str (capitalized c.name)),
        ("required", .bool c.isRequired)])
    | none => .error (badName kind name)
  | "access" =>
    match Access.ofName? name with
    | some a => .ok (.obj [("display", .str a.name), ("debug", .str (capitalized a.name)),
        ("is_read", .bool (a == .read)), ("is_write", .bool (a == .write || a == .createRelated))])
    | none => .error (badName kind name)
  | "resolve_access" => plain (ResolveAccess.all.map (·.name))
  | "publishing_access" => plain (PublishingAccess.all.map (·.name))
  | "relations_access" => plain (RelationsAccess.all.map (·.name))
  | "policy_access" => plain (PolicyAccess.all.map (·.name))
  | "entity_traits_access" => plain (EntityTraitsAccess.all.map (·.name))
  | "default_entity_access" => plain (DefaultEntityAccess.all.map (·.name))
  | "batch_error_code" =>
    match ErrorCode.ofName? name with
    | some c => .ok (.obj [("display", .str c.name), ("debug", .str (capitalized c.name)),
        ("value", .int c.value)])
    | none => .error (badName kind name)
  | other => .error (badInput ("unknown enum '" ++ other ++ "'"))

def enumeration (req : Json) : Read Json := do
  let kind ← needStr req "enum"
  if ← boolOr req "list" false then
    match kind with
    | "capability" =>
      return .arr (Capability.all.map fun c =>
        .obj [("display", .str c.name), ("required", .bool c.isRequired)])
    | "access" => return .obj [("default", .str Access.unknown.name)]
    | other => .error (badInput ("cannot list enum '" ++ other ++ "'"))
  else enumName kind (← needStr req "value")

/-! ## Error texts -/

/-- Builds the error a request describes and answers its encoding. -/
def errorFormat (req : Json) : Read Json := do
  let str (key : String) := strOr req key ""
  let nat (key : String) : Read Nat := (optional req key asNat).map (·.getD 0)
  let broker (e : BrokerError) : Read Json := .ok (brokerJson e)
  let plugin (e : PluginError) : Read Json :=
    .ok ((pluginErrorJson e).withFields [("as_asset_error", brokerJson e.toBroker)])
  match ← needStr req "kind" with
  | "Config" => broker (.config (← str "message"))
  | "InputValidation" => broker (.invalidInput (← str "message"))
  | "NotFound" => broker (.notFound (← str "what") (← str "identifier"))
  | "PluginNotFound" => broker (BrokerError.pluginNotFound (← str "identifier"))
  | "NotImplemented" => broker (.notImplemented (← str "message"))
  | "CapabilityUnsupported" =>
    let name ← str "capability"
    match Capability.ofName? name with
    | some c => broker (.capabilityUnsupported (← str "manager") c)
    | none => .error (badName "capability" name)
  | "BatchElement" =>
    let code ← readCode (← str "code")
    broker (.batchElement (← nat "index") ⟨code, ← str "message"⟩)
  | "PluginLoad" => broker (.pluginLoad (← str "message"))
  | "Manager" => broker (.manager (← str "message"))
  | "Internal" => broker (.internal (← str "message"))
  | "OpenFailed" => plugin (.openFailed (← str "path") (← str "message"))
  | "MissingEntryPoint" => plugin (.missingEntryPoint (← str "path") (← str "symbol"))
  | "Incompatible" =>
    plugin (.incompatible (← str "path") (← nat "abi_version") (← str "core_version")
      (← nat "expected_abi") (← str "expected_core"))
  | "InvalidManifest" => plugin (.invalidManifest (← str "path") (← str "message"))
  | "UnsupportedVersion" => plugin (.unsupportedVersion (← str "path") (← str "required") (← str "running"))
  | "IdentifierMismatch" => plugin (.identifierMismatch (← str "path") (← str "declared") (← str "actual"))
  | "EmptyIdentifier" => plugin (.emptyIdentifier (← str "origin"))
  | "Panicked" => plugin (.panicked (← str "origin") (← str "message"))
  | "Origin" => return originJson (← readOrigin (← need req "origin"))
  | "BatchElementError" =>
    let code ← readCode (← str "code")
    return elementJson ⟨code, ← str "message"⟩
  | "BatchElementErrorCtor" =>
    let code ← match ← needStr req "ctor" with
      | "unknown" => pure ErrorCode.unknown
      | "invalid_entity_reference" => pure .invalidEntityReference
      | "malformed_entity_reference" => pure .malformedEntityReference
      | "entity_access_error" => pure .entityAccessError
      | "entity_resolution_error" => pure .entityResolutionError
      | "invalid_preflight_hint" => pure .invalidPreflightHint
      | "invalid_trait_set" => pure .invalidTraitSet
      | other => .error (badInput ("unknown constructor '" ++ other ++ "'"))
    return elementJson ⟨code, ← str "message"⟩
  | other => .error (badInput ("unknown error kind '" ++ other ++ "'"))

end Script

end AssetBroker
