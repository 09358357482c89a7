import AssetBroker.Manager.Session

/-!
# A manager at the caller's bench

What a caller keeps of one manager: the session, and the contexts it has
asked for, by name. The contexts outlive the manager's handles: a context
can still be read after the last handle is gone.

When the manager's code lives in a loaded binary, everything the bench
keeps that came from that code holds the binary loaded: the manager until
it is closed, each pager that is still open, and each context whose state
is anchored to the binary. `ManagerBench.binaryHolds` counts them.
-/

namespace AssetBroker

/-- A manager session and the contexts kept by name. -/
structure ManagerBench where
  session : Session
  contexts : List (String × Context) := []
  deriving Inhabited

namespace ManagerBench

/-- A bench with a fresh session and no contexts. -/
def start (session : Session) : ManagerBench := { session }

def act {α : Type} (b : ManagerBench) (a : Act α) : α × ManagerBench :=
  let (x, s) := a.run b.session
  (x, { b with session := s })

/-- Keeps a context under a name, if one is given. -/
def keepContext (b : ManagerBench) (name : Option String) (c : Context) : ManagerBench :=
  match name with
  | some n => { b with contexts := Keyed.insert n c b.contexts }
  | none => b

/-- How many things on the bench keep the manager's binary loaded: the
manager while it is open, each open pager and each anchored state. -/
def binaryHolds (b : ManagerBench) : Nat :=
  (if b.session.closed then 0 else 1) +
    (b.session.pagers.filter fun (_, p) => p.source.isSome).length +
    (b.contexts.filter fun (_, c) => c.state.any (·.anchored)).length

/-- Lets go of the whole bench: its pagers by name, then its handles. -/
def release (b : ManagerBench) : ManagerBench :=
  let ((), b) := b.act Session.finish
  { b with contexts := [] }

end ManagerBench

end AssetBroker
