/-!
# Diagnostic events

The library reports what it does as a sequence of events: a severity, the
component that speaks, a message and named fields. Events are data that the
operations return beside their results, so that a caller can filter, show or
compare them; nothing is printed here.

A field keeps its text together with how a console shows it: a text field
is quoted, a shown value (a number, a path, a diagnostic rendering) is
written as it is.
-/

namespace AssetBroker

/-- Severity of an event, most severe first. -/
inductive Level where
  | error
  | warn
  | info
  | debug
  | trace
  deriving DecidableEq, Repr, Inhabited

namespace Level

/-- One for errors up to five for tracing: a filter at level `l` keeps the
events whose rank is at most that of `l`. -/
def rank : Level → Nat
  | error => 1
  | warn => 2
  | info => 3
  | debug => 4
  | trace => 5

/-- The upper-case label of a level. -/
def label : Level → String
  | error => "ERROR"
  | warn => "WARN"
  | info => "INFO"
  | debug => "DEBUG"
  | trace => "TRACE"

/-- Whether an event at `l` passes a filter set to `threshold`. -/
def admits (threshold l : Level) : Bool := l.rank ≤ threshold.rank

/-- Reads a level name in any case, or its rank written as a number. -/
def ofName? (s : String) : Option Level :=
  let digits := (s.toList.dropWhile (· == '+'))
  let number := if !digits.isEmpty && digits.all Char.isDigit && s.toList.length ≤ digits.length + 1
    then some (digits.foldl (fun acc c => acc * 10 + (c.toNat - '0'.toNat)) 0) else none
  match number with
  | some 1 => some error
  | some 2 => some warn
  | some 3 => some info
  | some 4 => some debug
  | some 5 => some trace
  | some _ => none
  | none =>
    match s.toLower with
    | "error" => some error
    | "warn" => some warn
    | "info" => some info
    | "debug" => some debug
    | "trace" => some trace
    | _ => none

end Level

/-- The part of the system an event comes from. -/
inductive Component where
  | batch
  | hostManager
  | hostPager
  | hostFactory
  | registry
  | loader
  | native
  | library
  | package
  | pluginFactory
  | configLoader
  | commandLine
  deriving DecidableEq, Repr, Inhabited

namespace Component

/-- The target path a console prints before the message. -/
def target : Component → String
  | batch => "assetio_core::batch"
  | hostManager => "assetio_host::manager"
  | hostPager => "assetio_host::pager"
  | hostFactory => "assetio_host::factory"
  | registry => "assetio_plugin::registry"
  | loader => "assetio_plugin::loader"
  | native => "assetio_plugin::native"
  | library => "assetio_plugin::library"
  | package => "assetio_plugin::package"
  | pluginFactory => "assetio_plugin::factory"
  | configLoader => "assetio_config::loader"
  | commandLine => "assetio"

end Component

/-- The value of an event field. -/
inductive FieldValue where
  /-- A piece of text, shown quoted on a console. -/
  | text (s : String)
  /-- A rendered value, shown as it is. -/
  | shown (s : String)
  deriving DecidableEq, Repr, Inhabited

namespace FieldValue

def raw : FieldValue → String
  | text s => s
  | shown s => s

end FieldValue

/-- One diagnostic event. -/
structure Event where
  level : Level
  component : Component
  message : String
  fields : List (String × FieldValue)
  deriving Repr, Inhabited

namespace Event

def text (name value : String) : String × FieldValue := (name, .text value)

def shown (name value : String) : String × FieldValue := (name, .shown value)

def num (name : String) (value : Nat) : String × FieldValue := (name, .shown (toString value))

end Event

/-- Events in the order they happened. -/
abbrev Trail := Array Event

end AssetBroker
