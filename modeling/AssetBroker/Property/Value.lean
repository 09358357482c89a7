import AssetBroker.Keyed
import AssetBroker.Binary64.Text

/-!
# Property values

Settings, host and manager information and trait properties all hold
property values: a boolean, a 64-bit signed integer, a binary64, a string, or
a dictionary of further values sorted by key.

Two values are equal when they have the same form and equal contents, the
binary64 case comparing numerically (a NaN equals nothing, the zeros are
equal). The display text writes a dictionary as `{k: v, k2: v2}` in key
order and a number without exponent.
-/

namespace AssetBroker

/-- A property value. A dictionary's entries are sorted by key, each key once. -/
inductive PropertyValue where
  | bool (b : Bool)
  | int (n : Int)
  | float (x : Binary64)
  | str (s : String)
  | dict (entries : List (String × PropertyValue))
  deriving Inhabited

namespace PropertyValue

theorem sizeOf_lt_of_mem_entries {entries : List (String × PropertyValue)} {k : String}
    {v : PropertyValue} (h : (k, v) ∈ entries) : sizeOf v < 1 + sizeOf entries := by
  have := List.sizeOf_lt_of_mem h
  simp only [Prod.mk.sizeOf_spec] at this
  omega

/-- Equality of values, numeric for binary64. -/
def beq : PropertyValue → PropertyValue → Bool
  | bool a, bool b => a == b
  | int a, int b => a == b
  | float a, float b => a.numericEq b
  | str a, str b => a == b
  | dict a, dict b =>
    a.length == b.length &&
      (a.attach.zip b).all fun (⟨(ka, va), _⟩, (kb, vb)) => ka == kb && beq va vb
  | _, _ => false
decreasing_by
  simp_wf
  exact sizeOf_lt_of_mem_entries (by assumption)

instance : BEq PropertyValue := ⟨beq⟩

def display : PropertyValue → String
  | bool b => if b then "true" else "false"
  | int n => toString n
  | float x => x.displayText
  | str s => s
  | dict entries =>
    "\x7b" ++ ", ".intercalate (entries.attach.map fun ⟨(k, v), _⟩ => k ++ ": " ++ display v) ++ "\x7d"
decreasing_by
  simp_wf
  exact sizeOf_lt_of_mem_entries (by assumption)

def asStr? : PropertyValue → Option String
  | str s => some s
  | _ => none

def asInt? : PropertyValue → Option Int
  | int n => some n
  | _ => none

/-- The number of a binary64 value, or the nearest binary64 to an integer. -/
def asFloat? : PropertyValue → Option Binary64
  | float x => some x
  | int n => some (Binary64.ofInt n)
  | _ => none

def asBool? : PropertyValue → Option Bool
  | bool b => some b
  | _ => none

def asDict? : PropertyValue → Option (List (String × PropertyValue))
  | dict entries => some entries
  | _ => none

def kind : PropertyValue → String
  | bool _ => "bool"
  | int _ => "int"
  | float _ => "float"
  | str _ => "str"
  | dict _ => "dict"

end PropertyValue

/-- Named values: settings, host information, manager information. -/
abbrev Settings := List (String × PropertyValue)

namespace Settings

/-- Equality of two settings maps, value by value. -/
def beq (a b : Settings) : Bool := PropertyValue.beq (.dict a) (.dict b)

end Settings

end AssetBroker
