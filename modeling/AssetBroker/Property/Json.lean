import AssetBroker.Property.Value
import AssetBroker.Json.Write
import AssetBroker.Json.Read
import AssetBroker.Text.Debug

/-!
# Property values as JSON

A property value is written as the plain JSON value of its contents. Reading
tries the forms in a fixed order: boolean, 64-bit signed integer, binary64
(which takes any other number, an unsigned integer past the signed range
included), string, then dictionary, whose entries must all read. `null` and
arrays match no form.

A failed read is reported as the reader reports a value of the wrong shape:
`invalid type: <what was found>, expected <what was wanted>`, or, for a
property value, that no form matched.
-/

namespace AssetBroker

namespace Json

/-- How a reader names a value of an unexpected shape. -/
def unexpected : Json → String
  | null => "null"
  | bool b => s!"boolean `{b}`"
  | int n => s!"integer `{n}`"
  | float x => "floating point `" ++ x.jsonText ++ "`"
  | str s => "string " ++ debugQuote s
  | arr _ => "sequence"
  | obj _ => "map"

/-- The message for a value of the wrong shape. -/
def invalidType (found : Json) (expected : String) : String :=
  "invalid type: " ++ found.unexpected ++ ", expected " ++ expected

end Json

namespace PropertyValue

def noFormMatched : String := "data did not match any variant of untagged enum PropertyValue"

/-- Reads a property value from JSON, trying its forms in order. -/
def ofJson? : Json → Option PropertyValue
  | .bool b => some (bool b)
  | .int n =>
    if -0x8000000000000000 ≤ n && n < 0x8000000000000000 then some (int n) else some (float (Binary64.ofInt n))
  | .float x => some (float x)
  | .str s => some (str s)
  | .obj fields =>
    let read := fields.attach.mapM fun (⟨(k, j), _⟩ : {_p // _p ∈ fields}) =>
      (ofJson? j).map fun v => (k, v)
    read.map fun entries => dict (Keyed.ofList entries)
  | .null => none
  | .arr _ => none
decreasing_by
  simp_wf
  exact Json.sizeOf_lt_of_mem_fields (by assumption)

def toJson : PropertyValue → Json
  | bool b => .bool b
  | int n => .int n
  | float x => .float x
  | str s => .str s
  | dict entries => .obj (entries.attach.map fun ⟨(k, v), _⟩ => (k, toJson v))
decreasing_by
  simp_wf
  exact sizeOf_lt_of_mem_entries (by assumption)

def toJsonText (v : PropertyValue) : String := v.toJson.compact

/-- Whether the compact text of a value reads back to a value equal to it. -/
def roundTrips (v : PropertyValue) : Bool :=
  match Json.parse v.toJsonText with
  | .ok j => (ofJson? j).map (beq v) |>.getD false
  | .error _ => false

end PropertyValue

namespace Settings

/-- Reads a map of property values from a JSON object. -/
def ofJson? (j : Json) : Except String Settings :=
  match j with
  | .obj fields =>
    match fields.mapM (fun (k, v) => (PropertyValue.ofJson? v).map fun p => (k, p)) with
    | some entries => .ok (Keyed.ofList entries)
    | none => .error PropertyValue.noFormMatched
  | other => .error (Json.invalidType other "a map")

def toJson (s : Settings) : Json := .obj (s.map fun (k, v) => (k, v.toJson))

end Settings

end AssetBroker
