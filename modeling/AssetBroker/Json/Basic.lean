import AssetBroker.Binary64.Basic

/-!
# JSON values

A JSON document as the library reads and writes it. Objects keep their
fields in the order written, because a written object shows that order; a
reader that needs sorted keys sorts them itself. A number is an integer when
its text has neither a fraction nor an exponent, and a binary64 otherwise,
since those are the two readings the formats built on JSON tell apart.
-/

namespace AssetBroker

/-- A JSON value. -/
inductive Json where
  | null
  | bool (b : Bool)
  | int (n : Int)
  | float (x : Binary64)
  | str (s : String)
  | arr (items : List Json)
  | obj (fields : List (String × Json))
  deriving Inhabited

namespace Json

theorem sizeOf_lt_of_mem_fields {fields : List (String × Json)} {k : String} {j : Json}
    (h : (k, j) ∈ fields) : sizeOf j < 1 + sizeOf fields := by
  have := List.sizeOf_lt_of_mem h
  simp only [Prod.mk.sizeOf_spec] at this
  omega

theorem sizeOf_lt_of_mem_items {items : List Json} {j : Json}
    (h : j ∈ items) : sizeOf j < 1 + sizeOf items := by
  have := List.sizeOf_lt_of_mem h
  omega

/-- The value of the first field named `key`, if this is an object that has one. -/
def field? (j : Json) (key : String) : Option Json :=
  match j with
  | obj fields => (fields.find? (·.1 == key)).map (·.2)
  | _ => none

/-- The field `key` unless it is missing or `null`. -/
def given? (j : Json) (key : String) : Option Json :=
  match j.field? key with
  | some null => none
  | other => other

def str? : Json → Option String
  | str s => some s
  | _ => none

def int? : Json → Option Int
  | int n => some n
  | _ => none

/-- The natural number inside a non-negative integer value. -/
def nat? : Json → Option Nat
  | int n => if n ≥ 0 then some n.toNat else none
  | _ => none

def bool? : Json → Option Bool
  | bool b => some b
  | _ => none

def arr? : Json → Option (List Json)
  | arr items => some items
  | _ => none

def obj? : Json → Option (List (String × Json))
  | obj fields => some fields
  | _ => none

def strs? (j : Json) : Option (List String) :=
  j.arr? >>= fun items => items.mapM str?

/-- An object built from fields, in the given order. -/
def fromFields (fields : List (String × Json)) : Json := obj fields

/-- Adds fields after those of an object; any other value is kept as it is. -/
def withFields (j : Json) (extra : List (String × Json)) : Json :=
  match j with
  | obj fields => obj (fields ++ extra)
  | other => other

def strList (xs : List String) : Json := arr (xs.map str)

/-- An optional value, `null` when absent. -/
def opt {α : Type} (f : α → Json) : Option α → Json
  | some a => f a
  | none => null

end Json

end AssetBroker
