import AssetBroker.Binary64.Basic

/-!
# TOML documents

A TOML document read into a tree that remembers where each part was
written. Messages about a document point into its text: at a key, at a
value, or at the header of a table, so every key and value keeps its byte
span.

Tables come in three forms. A table opened by a `[header]` is explicit; a
table that exists only because a header or dotted key passes through it is
implicit, and also dotted when a dotted key made it. An inline table is a
value written in braces and cannot be extended later. An array of tables
collects the tables of its `[[header]]`s.
-/

namespace AssetBroker

namespace Toml

/-- A byte range of the source text, from `start` up to `stop`. -/
structure Span where
  start : Nat
  stop : Nat
  deriving DecidableEq, Inhabited, Repr

/-- A key as written: its text and where it stands. -/
structure Key where
  name : String
  span : Span
  deriving Inhabited

/-- How a table came to be. -/
structure TableForm where
  /-- Created by a path through it, not by its own header. -/
  implicit : Bool
  /-- Created by a dotted key. -/
  dotted : Bool
  deriving DecidableEq, Inhabited

/-- The form of a table opened by its own header. -/
def TableForm.explicit : TableForm := ⟨false, false⟩

/-- A TOML value with the span of its text. -/
inductive Value where
  | string (s : String) (span : Span)
  | integer (n : Int) (span : Span)
  | float (x : Binary64) (span : Span)
  | boolean (b : Bool) (span : Span)
  | datetime (text : String) (span : Span)
  | array (items : List Value) (span : Span)
  /-- A table written in braces. -/
  | inline (entries : List (Key × Value)) (form : TableForm) (span : Option Span)
  /-- A table of the document, opened by a header or implied by a path. -/
  | table (entries : List (Key × Value)) (form : TableForm) (span : Option Span)
  /-- The tables of an array of tables, in order. -/
  | tables (items : List Value)
  deriving Inhabited

/-- The entries of a table, in the order they were first written. -/
abbrev Entries := List (Key × Value)

namespace Value

/-- Where the value was written; implicit tables and arrays of tables have
no text of their own. -/
def span? : Value → Option Span
  | string _ s | integer _ s | float _ s | boolean _ s | datetime _ s | array _ s => some s
  | inline _ _ s | table _ _ s => s
  | tables _ => none

/-- The name of the value's type, as messages about the document use it. -/
def typeName : Value → String
  | string .. => "string"
  | integer .. => "integer"
  | float .. => "float"
  | boolean .. => "boolean"
  | datetime .. => "datetime"
  | array .. => "array"
  | inline .. => "inline table"
  | table .. => "table"
  | tables .. => "array of tables"

end Value

namespace Entries

def find? (es : Entries) (name : String) : Option Value :=
  (List.find? (fun (k, _) => k.name == name) es).map (·.2)

def contains (es : Entries) (name : String) : Bool :=
  List.any es fun (k, _) => k.name == name

/-- Replaces the value under a key, keeping its place and key. -/
def replace (es : Entries) (name : String) (v : Value) : Entries :=
  List.map (fun (k, old) => if k.name == name then (k, v) else (k, old)) es

/-- Removes a key, keeping the order of the others. -/
def erase (es : Entries) (name : String) : Entries :=
  List.filter (fun (k, _) => k.name != name) es

end Entries

end Toml

end AssetBroker
