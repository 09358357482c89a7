import AssetBroker.Batch.Sink

/-!
# Relayed sinks

A manager whose code lives in a loaded binary wraps the manager that binary
made. It answers a paged query by handing the wrapped manager a sink of its
own, for a given number of elements and stopping on error when the caller's
sink does, whose callbacks pass each outcome on to the caller's sink at once:
a value wrapped first (a pager, so that it keeps the binary loaded), an
error as it is.

The relay keeps its own bookkeeping, flags and abort flag apart from the
caller's, and is never finished. Its warnings are logged by the same sink
code to the same log as the caller's.
-/

namespace AssetBroker

/-- The sink a relaying manager hands to the manager it wraps, in front of
the caller's sink. -/
structure Relay (α : Type) where
  /-- The relay's own bookkeeping. -/
  inner : Sink
  /-- The caller's sink, with what it has delivered and logged. -/
  outer : SinkRun α

namespace Relay

variable {α β : Type}

/-- The relay for `len` elements put in front of the caller's sink; it
stops on error when the caller's sink does. -/
def bind (len : Nat) (outer : SinkRun α) : Relay α :=
  ⟨Sink.fresh len outer.sink.stopOnError, outer⟩

def own (r : Relay α) : SinkRun α := ⟨r.inner, [], r.outer.trail⟩

/-- Decides whether the relay passes an outcome for index `i` on, as every
sink decides, marking the index when it does. -/
def accept (r : Relay α) (i : Nat) : Bool × Relay α :=
  let (passed, own) := r.own.accept i
  (passed, ⟨own.sink, { r.outer with trail := own.trail }⟩)

/-- Reports a value for index `i`; once the relay takes it, the caller's
sink gets it wrapped. -/
def success (wrap : β → α) (r : Relay α) (i : Nat) (v : β) : Relay α :=
  match r.accept i with
  | (true, r') => { r' with outer := r'.outer.success i (wrap v) }
  | (false, r') => r'

/-- Reports an error for index `i`; once the relay takes it, the caller's
sink gets it, and then a relay that stops on error is aborted. -/
def error (r : Relay α) (i : Nat) (e : ElementError) : Relay α :=
  match r.accept i with
  | (true, r') => ⟨{ r'.inner with aborted := r'.inner.stopOnError }, r'.outer.error i e⟩
  | (false, r') => r'

def report (wrap : β → α) (r : Relay α) (i : Nat) : Except ElementError β → Relay α
  | .ok v => r.success wrap i v
  | .error e => r.error i e

def isAborted (r : Relay α) : Bool := r.inner.aborted

/-- Whether the relay has passed an outcome for index `i` on. -/
def isReported (r : Relay α) (i : Nat) : Bool := r.inner.isReported i

end Relay

end AssetBroker
