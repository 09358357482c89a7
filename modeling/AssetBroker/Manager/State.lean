import AssetBroker.Traits.Data
import AssetBroker.Access

/-!
# Manager states and contexts

A stateful manager keeps per-session state of its own and hands the host an
opaque token for it, the manager state. The host carries it in a context,
together with the access the calls are made for and a locale describing
where they come from.

Copies of a context share its state: each state made by a manager gets a
fresh serial number, and two contexts hold the same state exactly when
their serial numbers agree. A state may also carry an anchor that keeps the
code of the manager that made it loaded.
-/

namespace AssetBroker

/-- What a manager keeps in a state. -/
inductive StateContent where
  /-- A state of the in-memory catalog: its number and its parent's, both
  unsigned 64-bit numbers. -/
  | catalog (id : UInt64) (parent : Option UInt64)
  /-- A state whose content the host cannot see. -/
  | hidden
  deriving DecidableEq, Repr, Inhabited

/-- A state handed out by a manager. -/
structure ManagerState where
  /-- Shared by every copy of this state, and by nothing else. -/
  serial : Nat
  content : StateContent
  /-- Whether the state keeps the code that made it loaded. -/
  anchored : Bool := false
  deriving DecidableEq, Repr, Inhabited

namespace ManagerState

/-- Whether two handles refer to the same state. -/
def same (a b : ManagerState) : Bool := a.serial == b.serial

end ManagerState

/-- The situation calls are made in. -/
structure Context where
  access : Access := .unknown
  state : Option ManagerState := none
  locale : TraitsData := .empty
  deriving Inhabited

namespace Context

/-- The context with unknown access, no state and an empty locale. -/
def blank : Context := {}

def isRead (c : Context) : Bool := c.access == .read

def isWrite (c : Context) : Bool := c.access == .write || c.access == .createRelated

end Context

end AssetBroker
