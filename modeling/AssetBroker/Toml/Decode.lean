import AssetBroker.Toml.Read
import AssetBroker.Binary64.Text
import AssetBroker.Text.Debug

/-!
# Typed reading of TOML tables

Settings files are read into records with a fixed set of keys. A key the
record does not know, a value of the wrong type and a key it needs but does
not find are errors that point into the document:

* an unknown key points at the key;
* a value of the wrong type points at the value, or at its key when the
  value has no text of its own (a table implied by a dotted key);
* a missing key points at the table that lacks it.

Keys are checked in the order they were written, so the first offending key
decides the error; missing keys are looked for after all keys were read, in
the order the record lists them.
-/

namespace AssetBroker

namespace Toml

namespace Value

/-- How a message about a value of the wrong type names the value found. -/
def unexpected : Value → String
  | string s _ => "string " ++ debugQuote s
  | integer n _ => "integer `" ++ toString n ++ "`"
  | float x _ => "floating point `" ++ x.pointedText ++ "`"
  | boolean b _ => "boolean `" ++ toString b ++ "`"
  | datetime .. | inline .. | table .. => "map"
  | array .. | tables .. => "sequence"

/-- The entries of a table, written in braces or not. -/
def entries? : Value → Option Entries
  | inline es _ _ | table es _ _ => some es
  | _ => none

end Value

def invalidType (found : Value) (expected : String) : String :=
  "invalid type: " ++ found.unexpected ++ ", expected " ++ expected

/-- The accepted keys as a message lists them. -/
def acceptedList : List String → String
  | [] => "there are no fields"
  | [a] => "`" ++ a ++ "`"
  | [a, b] => "`" ++ a ++ "` or `" ++ b ++ "`"
  | names => "one of " ++ ", ".intercalate (names.map fun n => "`" ++ n ++ "`")

/-- The message for a key a record does not have. -/
def unknownField (key : String) (accepted : List String) : String :=
  "unknown field `" ++ key ++ "`, expected " ++ acceptedList accepted

/-- The message for a key a record needs. -/
def missingField (key : String) : String := "missing field `" ++ key ++ "`"

/-- Where an error about a value under `key` points: the value's own span,
or the key's. -/
def pointAt (key : Key) (v : Value) : Option Span := some (v.span?.getD key.span)

/-- An error about the value under `key`. -/
def valueError (key : Key) (v : Value) (message : String) : ReadError := ⟨message, pointAt key v⟩

/-- Checks the keys of a table in order: each must be accepted, and its
value must pass `check`. -/
def checkKeys (accepted : List String) (check : Key → Value → Except ReadError Unit)
    (es : Entries) : Except ReadError Unit :=
  es.forM fun (k, v) =>
    if accepted.contains k.name then check k v
    else .error ⟨unknownField k.name accepted, some k.span⟩

/-- Checks that every required key is present, in the order given; a
missing one is reported at `span`. -/
def checkRequired (required : List String) (es : Entries) (span : Option Span) :
    Except ReadError Unit :=
  match required.find? (fun r => !es.contains r) with
  | some r => .error ⟨missingField r, span⟩
  | none => .ok ()

def readString (key : Key) (v : Value) : Except ReadError String :=
  match v with
  | .string s _ => .ok s
  | other => .error (valueError key other (invalidType other "a string"))

def optionalString (es : Entries) (name : String) : Option String :=
  match es.find? name with
  | some (.string s _) => some s
  | _ => none

def requiredString (es : Entries) (name : String) : String := (optionalString es name).getD ""

end Toml

end AssetBroker
