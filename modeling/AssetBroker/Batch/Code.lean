import AssetBroker.Access

/-!
# Batch element errors

A batch query answers each of its elements on its own, and an element that
fails carries a code and a message. Codes are numbered from 128, so that a
command exiting with the code of a failed element cannot be confused with
ordinary failure.
-/

namespace AssetBroker

/-- Why one element of a batch failed. -/
inductive ErrorCode where
  | unknown
  | invalidEntityReference
  | malformedEntityReference
  | entityAccessError
  | entityResolutionError
  | invalidPreflightHint
  | invalidTraitSet
  deriving DecidableEq, Repr, Inhabited

namespace ErrorCode

/-- Every code, in numeric order. -/
def all : List ErrorCode :=
  [unknown, invalidEntityReference, malformedEntityReference, entityAccessError,
    entityResolutionError, invalidPreflightHint, invalidTraitSet]

/-- The numeric value, also the exit status of a command that fails on it. -/
def value : ErrorCode → Nat
  | unknown => 128
  | invalidEntityReference => 129
  | malformedEntityReference => 130
  | entityAccessError => 131
  | entityResolutionError => 132
  | invalidPreflightHint => 133
  | invalidTraitSet => 134

def name : ErrorCode → String
  | unknown => "unknown"
  | invalidEntityReference => "invalidEntityReference"
  | malformedEntityReference => "malformedEntityReference"
  | entityAccessError => "entityAccessError"
  | entityResolutionError => "entityResolutionError"
  | invalidPreflightHint => "invalidPreflightHint"
  | invalidTraitSet => "invalidTraitSet"

def ofName? (s : String) : Option ErrorCode := all.find? (·.name == s)

end ErrorCode

/-- The failure of one batch element. -/
structure ElementError where
  code : ErrorCode
  message : String
  deriving DecidableEq, Repr, Inhabited

namespace ElementError

/-- `code: message`. -/
def display (e : ElementError) : String := e.code.name ++ ": " ++ e.message

/-- The error given to an element that received no outcome. -/
def unreported : ElementError := ⟨.unknown, "no result was reported for this element"⟩

end ElementError

end AssetBroker
