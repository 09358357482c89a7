import AssetBroker.Batch.Code
import AssetBroker.Log

/-!
# Batch sinks

A manager answers a batch query by reporting one outcome per element into a
sink, in any order. The sink passes each outcome on to the caller at once,
and guards the caller against a careless manager:

* the first outcome reported for an index is delivered and any later one
  for that index is dropped, with a warning;
* an outcome for an index outside the batch is dropped, with a warning;
* a sink that stops on error is aborted by the first error it delivers, and
  from then on drops everything;
* `finish` delivers the `unknown` error to every index never reported, in
  ascending order, stopping as soon as the sink is aborted.

`SinkRun` is a sink together with the deliveries made so far and the events
logged, so that each operation is a plain function.
-/

namespace AssetBroker

/-- The bookkeeping of a batch in progress. -/
structure Sink where
  /-- One flag per element: whether it received its outcome. -/
  reported : List Bool
  stopOnError : Bool
  aborted : Bool
  deriving DecidableEq, Repr, Inhabited

namespace Sink

def fresh (len : Nat) (stopOnError : Bool) : Sink := ⟨List.replicate len false, stopOnError, false⟩

def len (s : Sink) : Nat := s.reported.length

/-- Whether an index received its outcome; false outside the batch. -/
def isReported (s : Sink) (i : Nat) : Bool := s.reported.getD i false

/-- The indices still waiting for an outcome, ascending. -/
def unreported (s : Sink) : List Nat :=
  ((List.range s.len).zip s.reported).filterMap fun (i, done) => if done then none else some i

end Sink

/-- One outcome passed on to the caller. -/
structure Delivery (α : Type) where
  index : Nat
  outcome : Except ElementError α

/-- A sink with what it has delivered and logged so far. -/
structure SinkRun (α : Type) where
  sink : Sink
  delivered : List (Delivery α)
  trail : Trail

namespace SinkRun

variable {α : Type}

def fresh (len : Nat) (stopOnError : Bool) : SinkRun α := ⟨Sink.fresh len stopOnError, [], #[]⟩

/-- Logs one event of the batch component. -/
def log (r : SinkRun α) (level : Level) (message : String) (fields : List (String × FieldValue)) :
    SinkRun α :=
  { r with trail := r.trail.push ⟨level, .batch, message, fields⟩ }

/-- Decides whether an outcome for index `i` is delivered, marking the index
when it is. -/
def accept (r : SinkRun α) (i : Nat) : Bool × SinkRun α :=
  if r.sink.aborted then
    (false, r.log .debug "dropping outcome reported after the batch was aborted" [Event.num "index" i])
  else if i < r.sink.len then
    if r.sink.isReported i then
      (false, r.log .warn "ignoring duplicate outcome for batch element" [Event.num "index" i])
    else
      (true, { r with sink := { r.sink with reported := r.sink.reported.set i true } })
  else
    (false, r.log .warn "ignoring outcome for out-of-range batch index"
      [Event.num "index" i, Event.num "len" r.sink.len])

def success (r : SinkRun α) (i : Nat) (v : α) : SinkRun α :=
  match r.accept i with
  | (true, r') => { r' with delivered := r'.delivered ++ [⟨i, .ok v⟩] }
  | (false, r') => r'

/-- Reports an error for index `i`; a delivered error aborts a sink that
stops on error. -/
def error (r : SinkRun α) (i : Nat) (e : ElementError) : SinkRun α :=
  match r.accept i with
  | (true, r') =>
    { r' with delivered := r'.delivered ++ [⟨i, .error e⟩],
              sink := { r'.sink with aborted := r'.sink.stopOnError } }
  | (false, r') => r'

def report (r : SinkRun α) (i : Nat) : Except ElementError α → SinkRun α
  | .ok v => r.success i v
  | .error e => r.error i e

def isAborted (r : SinkRun α) : Bool := r.sink.aborted

/-- Delivers the `unknown` error to each index never reported, ascending,
stopping once the sink is aborted. -/
def finish (r : SinkRun α) : SinkRun α :=
  r.sink.unreported.foldl
    (fun acc i =>
      if acc.sink.aborted then acc
      else (acc.log .warn "manager reported no outcome for batch element" [Event.num "index" i]).error i
        ElementError.unreported)
    r

end SinkRun

end AssetBroker
