import AssetBroker.Batch.Sink
import AssetBroker.Error

/-!
# Call shapes

A batch query is made in one of three shapes. The raw shape passes each
outcome on as the manager reports it. The other two gather the outcomes by
index, for one element or for all of them, under a policy for element
errors: with `variant` each element's outcome is returned in place and only
a failure of the whole call fails it; with `exception` the first element
error delivered fails the call, as a batch element error with that
element's index, and the sink stops at it.

An element that received no outcome counts as the `unknown` error.
-/

namespace AssetBroker

/-- How element errors of a gathered call are handed back. -/
inductive Policy where
  /-- Every element's outcome, in place. -/
  | variant
  /-- The values, or the first element error as a failure of the call. -/
  | exception
  deriving DecidableEq, Repr, Inhabited

/-- The shape of a batch call. -/
inductive Shape where
  | raw
  | one
  | all
  deriving DecidableEq, Repr, Inhabited

/-- The answer of a call gathered for one element. -/
inductive Single (α : Type) where
  | outcome (o : Except ElementError α)
  | value (v : α)

/-- The answer of a call gathered for all elements. -/
inductive Gathered (α : Type) where
  | outcomes (os : List (Except ElementError α))
  | values (vs : List α)

namespace Policy

def stopsOnError : Policy → Bool
  | variant => false
  | exception => true

end Policy

namespace Delivery

variable {α : Type}

/-- The outcome delivered first for each of `len` indices, or the `unknown`
error where none was. -/
def outcomes (len : Nat) (ds : List (Delivery α)) : List (Except ElementError α) :=
  (List.range len).map fun i =>
    match ds.find? (·.index == i) with
    | some d => d.outcome
    | none => .error ElementError.unreported

/-- The first element error delivered, with its index. -/
def firstError? (ds : List (Delivery α)) : Option (Nat × ElementError) :=
  ds.findSome? fun d =>
    match d.outcome with
    | .error e => some (d.index, e)
    | .ok _ => none

/-- The values of all elements, or the first failed element in index order. -/
def values (os : List (Except ElementError α)) : Except BrokerError (List α) :=
  go 0 os
where
  go (i : Nat) : List (Except ElementError α) → Except BrokerError (List α)
    | [] => .ok []
    | .ok v :: rest => (go (i + 1) rest).map (v :: ·)
    | .error e :: _ => .error (.batchElement i e)

/-- The values delivered, by index, where an element received a value. -/
def deliveredValues (len : Nat) (ds : List (Delivery α)) : List α :=
  (outcomes len ds).filterMap fun o =>
    match o with
    | .ok v => some v
    | .error _ => none

end Delivery

/-- Gathers the deliveries of a call for all of `len` elements. -/
def gatherAll {α : Type} (p : Policy) (len : Nat) (ds : List (Delivery α)) : Except BrokerError (Gathered α) :=
  match p with
  | .variant => .ok (.outcomes (Delivery.outcomes len ds))
  | .exception =>
    match Delivery.firstError? ds with
    | some (i, e) => .error (.batchElement i e)
    | none => (Delivery.values (Delivery.outcomes len ds)).map .values

def gatherOne {α : Type} (p : Policy) (ds : List (Delivery α)) : Except BrokerError (Single α) :=
  let outcome := ((Delivery.outcomes 1 ds).head?).getD (.error ElementError.unreported)
  match p with
  | .variant => .ok (.outcome outcome)
  | .exception =>
    match Delivery.firstError? ds with
    | some (i, e) => .error (.batchElement i e)
    | none =>
      match outcome with
      | .ok v => .ok (.value v)
      | .error e => .error (.batchElement 0 e)

end AssetBroker
