import AssetBroker.Config.Tree
import AssetBroker.Property.Value
import AssetBroker.Binary64.Text
import AssetBroker.Binary64.Round
import AssetBroker.Text.Debug

/-!
# Reading typed settings out of layered values

A configuration record is read from a merged value tree. The first problem
found stops the reading, and is reported as a `Fault`: what went wrong, the
path of keys to the value, and the layer of the value where it was noticed.

Tables are read in key order, so among several problems in one table the
key that sorts first decides. A key the record does not know and a value
of the wrong type are noticed at that key; a missing key once the whole
table was read, in the order the record lists its keys.
-/

namespace AssetBroker

namespace Config

/-- What went wrong while reading a value. -/
inductive FaultKind where
  /-- A free-form message. -/
  | message (text : String)
  /-- A value of another type than expected: how it is named, and what was
  expected. -/
  | invalidType (found expected : String)
  /-- A record lacks a key it needs. -/
  | missingField (key : String)
  /-- A record has a key it does not know; the keys it does know. -/
  | unknownField (key : String) (expected : List String)
  deriving Inhabited

/-- A problem with configuration: its kind, the path of keys to it, and
the layer of the value where it was noticed. -/
structure Fault where
  kind : FaultKind
  path : List String
  layer : Option Layer
  deriving Inhabited

/-- Reading that stops at the first fault. -/
abbrev Extract := Except Fault

namespace Tree

/-- How a fault names a value of the wrong type. -/
def actual : Tree → String
  | str s _ => "string " ++ debugQuote s
  | bool b _ => "bool " ++ toString b
  | signed n _ => "signed int `" ++ toString n ++ "`"
  | unsigned n _ => "unsigned int `" ++ toString n ++ "`"
  | float x _ => "float `" ++ x.displayText ++ "`"
  | dict .. => "map"
  | array .. => "sequence"

end Tree

def wrongType (t : Tree) (expected : String) : Fault :=
  ⟨.invalidType t.actual expected, [], some t.layer⟩

/-- A fault seen from the table that holds it under key `k`. -/
def Fault.under (k : String) (f : Fault) : Fault := { f with path := k :: f.path }

/-- Reads the value under key `k` with `read`; its faults gain the key. -/
def underKey (k : String) (read : Extract α) : Extract α :=
  read.mapError (Fault.under k)

def readText (t : Tree) : Extract String :=
  match t with
  | .str s _ => .ok s
  | other => .error (wrongType other "a string")

/-- Reads a path: a string, as paths are written in configuration. -/
def readPathText (t : Tree) : Extract String :=
  match t with
  | .str s _ => .ok s
  | other => .error (wrongType other "path string")

def readFlag (t : Tree) : Extract Bool :=
  match t with
  | .bool b _ => .ok b
  | other => .error (wrongType other "a boolean")

/-- Reads a sequence, each item with `item`; item faults gain the item's
index. -/
def readSeq (item : Tree → Extract α) (t : Tree) : Extract (List α) :=
  match t with
  | .array items _ =>
    (items.zipIdx).mapM fun (x, i) => underKey (toString i) (item x)
  | other => .error (wrongType other "a sequence")

/-- The largest value of the signed 64-bit integer type. -/
def int64Max : Nat := 0x7FFFFFFFFFFFFFFF

mutual

/-- Reads a property value: the first of boolean, integer, float, string
and dictionary that fits. -/
def propertyOf? : Tree → Option PropertyValue
  | .bool b _ => some (.bool b)
  | .signed n _ =>
    if -0x8000000000000000 ≤ n && n < 0x8000000000000000 then some (.int n) else some (.float (Binary64.ofInt n))
  | .unsigned n _ =>
    if n ≤ int64Max then some (.int n) else some (.float (Binary64.ofInt n))
  | .float x _ => some (.float x)
  | .str s _ => some (.str s)
  | .dict es _ => (propertiesOf? es).map PropertyValue.dict
  | .array .. => none

def propertiesOf? : List (String × Tree) → Option (List (String × PropertyValue))
  | [] => some []
  | (k, v) :: rest => do
    let pv ← propertyOf? v
    let more ← propertiesOf? rest
    pure ((k, pv) :: more)

end

def noPropertyForm : String := "data did not match any variant of untagged enum PropertyValue"

/-- Reads a settings map: a table of property values, sorted by key. A
value that fits no form is a fault at its key, noticed by the table. -/
def readSettings (t : Tree) : Extract Settings :=
  match t with
  | .dict es l =>
    es.mapM fun (k, v) =>
      match propertyOf? v with
      | some pv => .ok (k, pv)
      | none => .error ⟨.message noPropertyForm, [k], some l⟩
  | other => .error (wrongType other "a map")

/-- The entries of a record's table, or a fault naming the record. -/
def recordEntries (what : String) (t : Tree) : Extract (List (String × Tree) × Layer) :=
  match t with
  | .dict es l => .ok (es, l)
  | other => .error (wrongType other what)

/-- Checks a record's entries in key order: each key must be one of
`fields` and its value must pass `check`. -/
def checkRecord (fields : List String) (check : String → Tree → Extract Unit) (layer : Layer)
    (es : List (String × Tree)) : Extract Unit :=
  es.forM fun (k, v) =>
    if fields.contains k then underKey k (check k v)
    else .error ⟨.unknownField k fields, [k], some layer⟩

/-- Checks that a record's required keys are present, in order. -/
def checkRequired (required : List String) (layer : Layer) (es : List (String × Tree)) :
    Extract Unit :=
  match required.find? (fun r => !(es.any (·.1 == r))) with
  | some r => .error ⟨.missingField r, [], some layer⟩
  | none => .ok ()

/-- The value under a key of sorted entries. -/
def lookup (es : List (String × Tree)) (k : String) : Option Tree :=
  (es.find? (·.1 == k)).map (·.2)

end Config

end AssetBroker
