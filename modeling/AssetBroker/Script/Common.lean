import AssetBroker.Traits.Data
import AssetBroker.Plugin.Origin
import AssetBroker.Log

/-!
# Requests and answers

A script is a JSON request naming an operation of the library, usually with
a list of steps to run against one object; its answer is a JSON object. This
module holds what every script shares: reading the fields of a request,
refusing a malformed one, and writing the library's values in the answer
form (property values tagged with their kind, errors as objects with a kind
and a message).
-/

namespace AssetBroker

namespace Script

/-- An answer that refuses a request, or a step of it. -/
def refusal (kind message : String) : Json :=
  .obj [("error", .str kind), ("message", .str message)]

/-- A request that cannot be carried out as written. -/
def badInput (message : String) : Json := refusal "DriverInput" message

/-- A name outside the values an enumeration admits. -/
def badName (what name : String) : Json := refusal "ParseEnum" ("unknown " ++ what ++ " '" ++ name ++ "'")

/-- A step that stopped on a failure it did not expect. -/
def crashed (message : String) : Json := refusal "Panic" message

/-- Reading a request: a value or the refusal to answer. -/
abbrev Read (α : Type) := Except Json α

/-- The field `key`, which must be present. -/
def need (j : Json) (key : String) : Read Json :=
  match j.field? key with
  | some v => .ok v
  | none => .error (badInput ("missing field '" ++ key ++ "'"))

def asStr (j : Json) : Read String :=
  match j with
  | .str s => .ok s
  | _ => .error (badInput "not a string")

def asBool (j : Json) : Read Bool :=
  match j with
  | .bool b => .ok b
  | _ => .error (badInput "not a bool")

def asNat (j : Json) : Read Nat :=
  match j with
  | .int n => if n ≥ 0 then .ok n.toNat else .error (badInput "not an index")
  | _ => .error (badInput "not an index")

def asStrs (j : Json) : Read (List String) :=
  match j with
  | .arr items => items.mapM asStr
  | _ => .error (badInput "not a list of strings")

def asList (j : Json) : Read (List Json) :=
  match j with
  | .arr items => .ok items
  | _ => .error (badInput "not a list")

def asFields (j : Json) : Read (List (String × Json)) :=
  match j with
  | .obj fields => .ok fields
  | _ => .error (badInput "not an object")

def needStr (j : Json) (key : String) : Read String := need j key >>= asStr

/-- A required index field. -/
def needNat (j : Json) (key : String) : Read Nat := need j key >>= asNat

def needStrs (j : Json) (key : String) : Read (List String) := need j key >>= asStrs

/-- An optional field read with `f`, `none` when absent or null. -/
def optional {α : Type} (j : Json) (key : String) (f : Json → Read α) : Read (Option α) :=
  match j.given? key with
  | some v => (f v).map some
  | none => .ok none

def strOr (j : Json) (key default : String) : Read String :=
  (optional j key asStr).map (·.getD default)

def boolOr (j : Json) (key : String) (default : Bool) : Read Bool :=
  (optional j key asBool).map (·.getD default)

def answerOf (r : Read Json) : Json :=
  match r with
  | .ok j => j
  | .error j => j

def tagged : PropertyValue → Json
  | .bool b => .obj [("bool", .bool b)]
  | .int n => .obj [("int", .int n)]
  | .float x => .obj [("float", .str x.debugText)]
  | .str s => .obj [("str", .str s)]
  | .dict entries => .obj [("dict", .obj (entries.attach.map fun ⟨(k, v), _⟩ => (k, tagged v)))]
decreasing_by
  simp_wf
  exact PropertyValue.sizeOf_lt_of_mem_entries (by assumption)

def taggedMap (s : Settings) : Json := .obj (s.map fun (k, v) => (k, tagged v))

def traitsJson (d : TraitsData) : Json := .obj (d.traits.map fun (t, props) => (t, taggedMap props))

def elementJson (e : ElementError) : Json :=
  .obj [("code", .str e.code.name), ("value", .int e.code.value), ("message", .str e.message),
    ("display", .str e.display)]

def brokerJson (e : BrokerError) : Json :=
  let base := [("error", Json.str e.kind), ("message", .str e.display), ("exit_code", .int e.exitCode)]
  match e with
  | .batchElement i el => .obj (base ++ [("index", .int i), ("element", elementJson el)])
  | _ => .obj base

def pluginErrorJson (e : PluginError) : Json :=
  .obj [("error", .str e.kind), ("message", .str e.display)]

def originJson (o : Origin) : Json := .obj [("kind", .str o.kind), ("display", .str o.display)]

def eventJson (e : Event) : Json :=
  .obj [("level", .str e.level.label), ("message", .str e.message),
    ("fields", .obj (e.fields.map fun (k, v) => (k, .str v.raw)))]

def done : Json := .obj [("ok", .bool true)]

/-- Reads a property value written as plain JSON. -/
def readProperty (j : Json) : Read PropertyValue :=
  match PropertyValue.ofJson? j with
  | some v => .ok v
  | none => .error (refusal "Deserialize" PropertyValue.noFormMatched)

/-- Reads traits data written as plain JSON. -/
def readTraits (j : Json) : Read TraitsData :=
  match TraitsData.ofJson? j with
  | .ok d => .ok d
  | .error m => .error (refusal "Deserialize" m)

/-- Reads settings written as plain JSON. -/
def readSettings (j : Json) : Read Settings :=
  match Settings.ofJson? j with
  | .ok s => .ok s
  | .error m => .error (refusal "Deserialize" m)

def readCode (name : String) : Read ErrorCode :=
  match ErrorCode.ofName? name with
  | some c => .ok c
  | none => .error (badName "batch error code" name)

/-- Reads `{code, message?}`. -/
def readElementError (j : Json) : Read ElementError := do
  let code ← readCode (← needStr j "code")
  let message ← strOr j "message" ""
  return ⟨code, message⟩

end Script

end AssetBroker
