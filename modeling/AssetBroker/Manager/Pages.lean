import AssetBroker.Error

/-!
# Pages of related entities

A paged relationship query answers each element with a pager: the manager's
side of it holds the pages and a cursor. `hasNext` tells whether a page
follows the current one, `get` reads the current page (empty once the
cursor has run past the last one) and `next` moves the cursor on, but never
further than one past the last page.

Closing a pager releases it. A manager may count its pagers' closes, and
closing may fail or panic; the host sees to it that a pager is closed once.
-/

namespace AssetBroker

/-- How closing a pager ends. -/
inductive Closing where
  | quietly
  /-- Closing fails with a manager error carrying this message. -/
  | refusing (message : String)
  /-- Closing panics with this message. -/
  | panicking (message : String)
  deriving DecidableEq, Repr, Inhabited

/-- How a close ended. -/
inductive Closed where
  | done
  | failed (e : BrokerError)
  | panicked (message : String)
  deriving Inhabited

/-- How a pager that closes this way ends its close. -/
def Closing.outcome : Closing → Closed
  | .quietly => .done
  | .refusing m => .failed (.manager m)
  | .panicking m => .panicked m

/-- The manager's side of a pager. -/
inductive PageSource where
  /-- No pages, and nothing to release on close. -/
  | empty
  /-- Fixed pages and the index of the current one; its closes are counted
  by the manager that made it. -/
  | pages (pages : List (List String)) (current : Nat) (closing : Closing)
  deriving DecidableEq, Repr, Inhabited

namespace PageSource

def hasNext : PageSource → Bool
  | empty => false
  | pages ps current _ => current + 1 < ps.length

/-- The current page; empty past the last page. -/
def get : PageSource → List String
  | empty => []
  | pages ps current _ => ps.getD current []

/-- Moves to the next page, stopping one past the last. -/
def next : PageSource → PageSource
  | empty => empty
  | pages ps current c => pages ps (if current < ps.length then current + 1 else current) c

end PageSource

theorem max_one_pos (n : Nat) : 0 < max n 1 :=
  Nat.lt_of_lt_of_le Nat.zero_lt_one (Nat.le_max_right n 1)

/-- Splits a list into consecutive pieces of `width` items, the last one
possibly shorter; a width of zero counts as one. The empty list has no
pieces. -/
def chunksOf {α : Type} (width : Nat) : List α → List (List α)
  | [] => []
  | x :: rest => (x :: rest).take (max width 1) :: chunksOf width ((x :: rest).drop (max width 1))
termination_by xs => xs.length
decreasing_by
  have := max_one_pos width
  simp only [List.length_drop, List.length_cons]
  omega

end AssetBroker
