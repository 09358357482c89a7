import AssetBroker.Manager.Session
import AssetBroker.Proofs.FirstRegistration
import Mathlib

/-!
# Pagers close once, and the manager after them

A caller holds handles on a manager and the pagers its paged queries handed
out, and makes calls on them in any order (`PagerCall`). Each pager keeps
the manager's pager, its inner pager, until its first close. The host calls
into the implementation only to close: an inner pager, or the manager
itself (`Teardown`).

Beside the session a run keeps a ledger that numbers the pagers in the
order they were made and records the implementation's calls
(`PagerRun.ledger`). Its invariant (`Ledger.Sound`) says the implementation
saw exactly those calls; no inner pager is closed twice, and a pager made is
closed exactly when it is no longer held open; the manager is closed once,
exactly when nothing holds it, and last. From it,
`pagers_close_once_before_manager`.

What a call does to the session is stated through `Holdings`, the part of
a session that teardown reads, one equation per call
(`PagerCall.holdings_op`). The invariant is kept by each call
(`Ledger.Sound.step`), built from one lemma per kind of change: a pager
shut, moved on, handed out, dropped at once or let go, and the manager
settling. So it holds after every run (`PagerRun.sound_run`).
-/

namespace AssetBroker

/-! ## Calls into the implementation -/

/-- A call the host makes into a manager's implementation as its pagers and
handles go. -/
inductive Teardown where
  /-- The inner close of the pager made `k`-th, on its source as it then
  stood. -/
  | pagerClose (k : Nat) (src : PageSource)
  /-- The implementation's own close. -/
  | managerClose
  deriving DecidableEq

namespace Teardown

def apply (b : Backend) : Teardown → Backend
  | pagerClose _ src => (b.closePager src).1
  | managerClose => b.close.1

/-- The pager the call closes, if it closes one. -/
def pager? : Teardown → Option Nat
  | pagerClose k _ => some k
  | managerClose => none

end Teardown

/-- The pagers whose inner close a list of calls runs, in order. -/
def innerCloses (calls : List Teardown) : List Nat := calls.filterMap Teardown.pager?

/-! ## What teardown reads of a session -/

/-- The implementation, the handles, the held pagers and whether the
manager is closed. -/
structure Holdings where
  backend : Backend
  handles : Nat
  pagers : List (String × HostPager)
  closed : Bool

namespace Holdings

/-- The source of the pager held open under a name. -/
def source? (h : Holdings) (name : String) : Option PageSource := (Keyed.find? name h.pagers).bind (·.source)

/-- How many things hold the manager open. -/
def holders (h : Holdings) : Nat := h.handles + h.pagers.length

def closeInner (h : Holdings) (src : PageSource) : Holdings := { h with backend := (h.backend.closePager src).1 }

/-- Closes the manager once nothing holds it. -/
def settle (h : Holdings) : Holdings :=
  if h.closed || h.holders != 0 then h else { h with backend := h.backend.close.1, closed := true }

/-- The implementation's close, when the manager settles with nothing
holding it. -/
def settling (h : Holdings) : List Teardown := if h.closed || h.holders != 0 then [] else [.managerClose]

end Holdings

/-- What teardown reads of a session. -/
def Session.holdings (s : Session) : Holdings := ⟨s.backend, s.handles, s.pagers, s.closed⟩

/-! ## Calls a caller makes -/

/-- A call a caller makes on a manager's handles and on the pagers its
paged queries give. A paged query hands each pager it makes over under a
name, or drops it at once when it does not hand it over. -/
inductive PagerCall where
  /-- Clones a handle on the manager. -/
  | clone
  /-- Drops a handle on the manager. -/
  | dropManager
  /-- A paged query hands a pager over under a name, dropping a pager held
  under it before. -/
  | handOut (name : String) (src : PageSource)
  /-- A paged query drops a pager it does not hand over. -/
  | discard (src : PageSource)
  | hasNext (name : String)
  | get (name : String)
  | next (name : String)
  /-- Closes the pager under a name and keeps it. -/
  | close (name : String)
  /-- Lets go of the pager under a name. -/
  | drop (name : String)

/-- What a call answers. -/
inductive PagerAnswer where
  /-- The handles after a clone. -/
  | handles (n : Nat)
  | flag (r : Except BrokerError Bool)
  | page (r : Except BrokerError (List String))
  | moved (r : Except BrokerError Unit)
  /-- How an explicit close ended. -/
  | closed (c : Closed)
  | done
  /-- There was no handle, or no pager under the name. -/
  | refused

namespace PagerCall

open Session

/-- Runs a call that needs a handle on the manager; refused without one. -/
def withHandle (a : Act PagerAnswer) : Act PagerAnswer := do
  if (← getThe Session).handles = 0 then return .refused
  a

/-- Runs a call on the pager held under a name; refused without one. -/
def withPager (name : String) (f : HostPager → Act PagerAnswer) : Act PagerAnswer := do
  match ← pager? name with
  | some p => f p
  | none => return .refused

def op : PagerCall → Act PagerAnswer
  | .clone => withHandle do return .handles (← cloneHandle)
  | .dropManager => withHandle do dropHandle; return .done
  | .handOut name src => withHandle do keepPager name src; return .done
  | .discard src => withHandle do discardPager src; return .done
  | .hasNext name => withPager name fun p => return .flag ((openSource p).map PageSource.hasNext)
  | .get name => withPager name fun p => return .page ((openSource p).map PageSource.get)
  | .next name => withPager name fun p => return .moved (← advancePager name p)
  | .close name => withPager name fun _ => return .closed (← closePager name)
  | .drop name => withPager name fun _ => do dropPager name; return .done

def hold (h : Holdings) : PagerCall → Holdings
  | .clone => if h.handles = 0 then h else { h with handles := h.handles + 1 }
  | .dropManager => if h.handles = 0 then h else Holdings.settle { h with handles := h.handles - 1 }
  | .handOut name src =>
    if h.handles = 0 then h
    else
      let given := { h with pagers := Keyed.insert name ⟨some src⟩ h.pagers }
      match h.source? name with
      | some old => given.closeInner old
      | none => given
  | .discard src => if h.handles = 0 then h else h.closeInner src
  | .hasNext _ | .get _ => h
  | .next name =>
    match h.source? name with
    | some src => { h with pagers := Keyed.insert name ⟨some src.next⟩ h.pagers }
    | none => h
  | .close name =>
    match h.source? name with
    | some src => Holdings.closeInner { h with pagers := Keyed.insert name ⟨none⟩ h.pagers } src
    | none => h
  | .drop name =>
    match Keyed.find? name h.pagers with
    | some p =>
      let rest := { h with pagers := h.pagers.filter (·.1 != name) }
      Holdings.settle (match p.source with
        | some src => rest.closeInner src
        | none => rest)
    | none => h

end PagerCall

/-! ## Each call through the holdings -/

namespace Session

variable (s : Session)

@[simp] theorem holdings_backend : s.holdings.backend = s.backend := rfl
@[simp] theorem holdings_pagers : s.holdings.pagers = s.pagers := rfl
@[simp] theorem holdings_handles : s.holdings.handles = s.handles := rfl
@[simp] theorem holdings_closed : s.holdings.closed = s.closed := rfl

theorem holdings_settle : (settle.run s).2.holdings = s.holdings.settle := by
  unfold settle Holdings.settle
  have hholders : s.holdings.holders = s.holders := rfl
  simp only [StateT.run_bind, StateT.run_get, pure_bind, hholders, holdings_closed]
  -- the split takes the program's test and the holdings' test together
  split
  · rfl
  · cases s.backend.close.2 <;> rfl

theorem holdings_closeQuietly (src : PageSource) :
    ((closeQuietly src).run s).2.holdings = s.holdings.closeInner src := by
  cases hc : (s.backend.closePager src).2 <;> simp [closeQuietly, log, hc] <;> rfl

theorem holdings_dropHandle :
    (dropHandle.run s).2.holdings = Holdings.settle { s.holdings with handles := s.handles - 1 } :=
  holdings_settle _

theorem holdings_keepPager (name : String) (src : PageSource) :
    ((keepPager name src).run s).2.holdings =
      let given := { s.holdings with pagers := Keyed.insert name ⟨some src⟩ s.pagers }
      match s.holdings.source? name with
      | some old => given.closeInner old
      | none => given := by
  unfold keepPager pager?
  cases hp : Keyed.find? name s.pagers with
  | none => simp [hp, Holdings.source?]; rfl
  | some p =>
    obtain ⟨_ | old⟩ := p
    · simp [hp, Holdings.source?]; rfl
    · simp [hp, Holdings.source?, holdings_closeQuietly]; rfl

theorem holdings_closePager (name : String) :
    ((closePager name).run s).2.holdings =
      match s.holdings.source? name with
      | some src => Holdings.closeInner { s.holdings with pagers := Keyed.insert name ⟨none⟩ s.pagers } src
      | none => s.holdings := by
  unfold closePager pager?
  cases hp : Keyed.find? name s.pagers with
  | none => simp [hp, Holdings.source?]; rfl
  | some p =>
    obtain ⟨_ | src⟩ := p
    · simp [hp, Holdings.source?]; rfl
    · simp [hp, Holdings.source?]; rfl

theorem holdings_dropPager (name : String) :
    ((dropPager name).run s).2.holdings =
      let rest := { s.holdings with pagers := s.pagers.filter (·.1 != name) }
      Holdings.settle (match s.holdings.source? name with
        | some src => rest.closeInner src
        | none => rest) := by
  unfold dropPager pager?
  cases hp : Keyed.find? name s.pagers with
  | none => simp [hp, Holdings.source?, holdings_settle]; rfl
  | some p =>
    obtain ⟨_ | src⟩ := p
    · simp [hp, Holdings.source?, holdings_settle]; rfl
    · simp [hp, Holdings.source?]
      -- the inner close runs on the session without the pager, then the manager settles
      exact (holdings_settle _).trans (congrArg Holdings.settle (holdings_closeQuietly _ src))

end Session

namespace PagerCall

theorem run_withHandle (a : Act PagerAnswer) (s : Session) :
    (withHandle a).run s = if s.handles = 0 then (.refused, s) else a.run s := by
  change (if s.handles = 0 then pure .refused else a).run s = _
  split <;> rfl

theorem run_withPager (name : String) (f : HostPager → Act PagerAnswer) (s : Session) :
    (withPager name f).run s = match Keyed.find? name s.pagers with
      | some p => (f p).run s
      | none => (.refused, s) := by
  change (match Keyed.find? name s.pagers with | some p => f p | none => pure .refused).run s = _
  cases Keyed.find? name s.pagers <;> rfl

/-- **One equation per call.** What each call does to the holdings. -/
theorem holdings_op (c : PagerCall) (s : Session) : (c.op.run s).2.holdings = c.hold s.holdings := by
  cases c with
  | clone =>
    rw [op, run_withHandle]
    by_cases h : s.handles = 0
    · simp [h, hold]
    · simp [h, hold, Session.cloneHandle]
      rfl
  | dropManager =>
    rw [op, run_withHandle]
    by_cases h : s.handles = 0
    · simp [h, hold]
    · simp only [h, if_false, hold, Session.holdings_handles]
      exact Session.holdings_dropHandle s
  | handOut name src =>
    rw [op, run_withHandle]
    by_cases h : s.handles = 0
    · simp [h, hold]
    · simp only [h, if_false, hold, Session.holdings_handles]
      exact Session.holdings_keepPager s name src
  | discard src =>
    rw [op, run_withHandle]
    by_cases h : s.handles = 0
    · simp [h, hold]
    · simp only [h, if_false, hold, Session.holdings_handles]
      exact Session.holdings_closeQuietly s src
  | hasNext name =>
    rw [op, run_withPager]
    cases Keyed.find? name s.pagers <;> rfl
  | get name =>
    rw [op, run_withPager]
    cases Keyed.find? name s.pagers <;> rfl
  | next name =>
    rw [op, run_withPager]
    cases hp : Keyed.find? name s.pagers with
    | none => simp [hold, Holdings.source?, hp]
    | some p =>
      obtain ⟨_ | src⟩ := p
      · simp [hold, Holdings.source?, hp, Session.advancePager, Session.openSource]; rfl
      · simp [hold, Holdings.source?, hp, Session.advancePager, Session.openSource]; rfl
  | close name =>
    rw [op, run_withPager]
    cases hp : Keyed.find? name s.pagers with
    | none => simp [hold, Holdings.source?, hp]
    | some p =>
      have hclose := Session.holdings_closePager s name
      simp only [Holdings.source?, Session.holdings_pagers, hp] at hclose
      simp only [hold, Holdings.source?, Session.holdings_pagers, hp]
      exact hclose
  | drop name =>
    rw [op, run_withPager]
    cases hp : Keyed.find? name s.pagers with
    | none => simp [hold, hp]
    | some p =>
      have hdrop := Session.holdings_dropPager s name
      simp only [Holdings.source?, Session.holdings_pagers, hp, Option.bind_some] at hdrop
      simp only [hold, Session.holdings_pagers, hp]
      exact hdrop

end PagerCall

/-! ## Held pagers by name -/

namespace Keyed

variable {α : Type}

theorem insert_insert (key : String) (value value' : α) (m : List (String × α)) :
    insert key value (insert key value' m) = insert key value m := by
  induction m with
  | nil => simp [insert]
  | cons kv m ih =>
    obtain ⟨k, v⟩ := kv
    by_cases hlt : key < k
    · simp [insert, hlt]
    · by_cases hk : (key == k) = true
      · simp [insert, hlt, hk]
      · simp [insert, hlt, hk, ih]

theorem find?_filter_key (name key : String) (m : List (String × α)) :
    find? key (m.filter (·.1 != name)) = if key = name then none else find? key m := by
  induction m with
  | nil => simp [find?]
  | cons kv m ih =>
    obtain ⟨k, v⟩ := kv
    by_cases hk : k = name
    · -- the pair under `name` goes
      have hdrop : ((k, v) :: m).filter (·.1 != name) = m.filter (·.1 != name) := by simp [hk]
      rw [hdrop, ih]
      by_cases hkey : key = name
      · simp [hkey]
      · have hne : (k == key) = false := by simpa [hk] using Ne.symm hkey
        simp [find?, hkey, hne]
    · have hkeep : ((k, v) :: m).filter (·.1 != name) = (k, v) :: m.filter (·.1 != name) := by simp [hk]
      rw [hkeep]
      by_cases hkey : key = name
      · subst hkey
        simp [find?, hk, ih]
      · simp [find?, ih, hkey]

/-- Dropping a key forgets what was last set under it. -/
theorem filter_insert_self (key : String) (value : α) (m : List (String × α)) :
    (insert key value m).filter (·.1 != key) = m.filter (·.1 != key) := by
  induction m with
  | nil => simp [insert]
  | cons kv m ih =>
    obtain ⟨k, v⟩ := kv
    by_cases hlt : key < k
    · simp [insert, hlt]
    · by_cases hk : (key == k) = true
      · have hkey : k = key := (beq_iff_eq.1 hk).symm
        simp [insert, hkey]
      · have hne : k ≠ key := fun hkey => hk (by simp [hkey])
        simp [insert, hlt, hk, hne, ih]

end Keyed

namespace Holdings

variable (h : Holdings) {name n : String}

@[simp] theorem closeInner_source? (src : PageSource) : (h.closeInner src).source? = h.source? := rfl
@[simp] theorem closeInner_pagers (src : PageSource) : (h.closeInner src).pagers = h.pagers := rfl
@[simp] theorem closeInner_closed (src : PageSource) : (h.closeInner src).closed = h.closed := rfl
@[simp] theorem closeInner_settling (src : PageSource) : (h.closeInner src).settling = h.settling := rfl

/-- Settling closes the implementation at most once. -/
theorem settling_eq : h.settling = [] ∨ h.settling = [.managerClose] := by
  unfold settling
  split
  · exact .inl rfl
  · exact .inr rfl

theorem source?_insert_self (p : HostPager) :
    { h with pagers := Keyed.insert name p h.pagers }.source? name = p.source := by
  simp [source?]

theorem source?_insert_ne (hn : n ≠ name) (p : HostPager) :
    { h with pagers := Keyed.insert name p h.pagers }.source? n = h.source? n := by
  simp [source?, Keyed.find?_insert_ne (Ne.symm hn)]

theorem source?_filter (name n : String) :
    { h with pagers := h.pagers.filter (·.1 != name) }.source? n = if n = name then none else h.source? n := by
  by_cases hn : n = name <;> simp [source?, Keyed.find?_filter_key, hn]

theorem isSome_of_source? {src : PageSource} (hs : h.source? name = some src) :
    (Keyed.find? name h.pagers).isSome := by
  unfold source? at hs
  cases hp : Keyed.find? name h.pagers <;> simp_all

theorem find?_of_source? {src : PageSource} (hs : h.source? name = some src) :
    Keyed.find? name h.pagers = some ⟨some src⟩ := by
  unfold source? at hs
  cases hp : Keyed.find? name h.pagers with
  | none => simp [hp] at hs
  | some p =>
    obtain ⟨src'⟩ := p
    simp only [hp, Option.bind_some] at hs
    rw [hs]

/-- A held pager holds the manager. -/
theorem holders_ne_zero_of_find? {p : HostPager} (hp : Keyed.find? name h.pagers = some p) : h.holders ≠ 0 := by
  have hne : h.pagers ≠ [] := by
    intro hnil
    simp [hnil, Keyed.find?] at hp
  have hlen : h.pagers.length ≠ 0 := fun hz => hne (List.eq_nil_of_length_eq_zero hz)
  unfold holders
  omega

end Holdings

/-! ## The ledger of a run -/

theorem innerCloses_append (a b : List Teardown) : innerCloses (a ++ b) = innerCloses a ++ innerCloses b :=
  List.filterMap_append

@[simp] theorem innerCloses_pagerClose (k : Nat) (src : PageSource) : innerCloses [.pagerClose k src] = [k] := rfl
@[simp] theorem innerCloses_managerClose : innerCloses [.managerClose] = [] := rfl

theorem innerCloses_append_managerClose (calls : List Teardown) :
    innerCloses (calls ++ [.managerClose]) = innerCloses calls := by
  rw [innerCloses_append, innerCloses_managerClose, List.append_nil]

theorem mem_innerCloses_append_pagerClose {calls : List Teardown} {k k' : Nat} {src : PageSource} :
    k' ∈ innerCloses (calls ++ [.pagerClose k src]) ↔ k' ∈ innerCloses calls ∨ k' = k := by
  rw [innerCloses_append, innerCloses_pagerClose, List.mem_append, List.mem_singleton]

/-- The inner close of a pager not closed before keeps every inner close
single. -/
theorem nodup_innerCloses_append_pagerClose {calls : List Teardown} {k : Nat} (h : (innerCloses calls).Nodup)
    (hk : k ∉ innerCloses calls) (src : PageSource) : (innerCloses (calls ++ [.pagerClose k src])).Nodup := by
  rw [innerCloses_append, innerCloses_pagerClose]
  refine List.nodup_append.2 ⟨h, by simp, ?_⟩
  rintro a ha b hb rfl
  rw [List.mem_singleton] at hb
  exact hk (hb ▸ ha)

/-- What a proof keeps beside a session: the number each held pager was
made as, how many pagers were made, and the calls into the implementation
so far. -/
structure Ledger where
  tags : String → Option Nat
  made : Nat
  calls : List Teardown

namespace Ledger

/-- The ledger of a session that has made no pager. -/
def empty : Ledger := ⟨fun _ => none, 0, []⟩

/-- The number of the pager held open under a name. -/
def openAt (g : Ledger) (h : Holdings) (name : String) : Option Nat :=
  match g.tags name, h.source? name with
  | some k, some _ => some k
  | _, _ => none

/-- Whether the pager made `k`-th is held open. -/
def Open (g : Ledger) (h : Holdings) (k : Nat) : Prop := ∃ name, g.openAt h name = some k

/-- The inner close of the pager held open under a name. -/
def closing (g : Ledger) (h : Holdings) (name : String) : List Teardown :=
  match g.tags name, h.source? name with
  | some k, some src => [.pagerClose k src]
  | _, _ => []

end Ledger

namespace PagerCall

/-- What the call adds to the ledger: a pager handed out or dropped at
once takes the next number, and the calls into the implementation that the
call makes are recorded. -/
def track (h : Holdings) (g : Ledger) : PagerCall → Ledger
  | .clone | .hasNext _ | .get _ | .next _ => g
  | .dropManager =>
    if h.handles = 0 then g
    else { g with calls := g.calls ++ Holdings.settling { h with handles := h.handles - 1 } }
  | .handOut name _ =>
    if h.handles = 0 then g
    else { tags := Function.update g.tags name (some g.made), made := g.made + 1,
           calls := g.calls ++ g.closing h name }
  | .discard src =>
    if h.handles = 0 then g
    else { g with made := g.made + 1, calls := g.calls ++ [.pagerClose g.made src] }
  | .close name => { g with calls := g.calls ++ g.closing h name }
  | .drop name =>
    if (Keyed.find? name h.pagers).isSome then
      { g with tags := Function.update g.tags name none,
               calls := g.calls ++ g.closing h name ++ Holdings.settling { h with pagers := h.pagers.filter (·.1 != name) } }
    else g

end PagerCall

namespace Ledger

variable {g g' : Ledger} {h h' : Holdings} {name n : String} {k : Nat}

@[simp] theorem openAt_withCalls (calls : List Teardown) : ({ g with calls } : Ledger).openAt = g.openAt := rfl
@[simp] theorem open_withCalls (calls : List Teardown) : ({ g with calls } : Ledger).Open = g.Open := rfl

theorem openAt_eq_some_iff : g.openAt h n = some k ↔ g.tags n = some k ∧ (h.source? n).isSome := by
  unfold openAt
  cases g.tags n <;> cases h.source? n <;> simp

theorem openAt_of_source?_none (hs : h.source? n = none) : g.openAt h n = none := by
  simp [openAt, hs]

theorem closing_of_source?_none (hs : h.source? n = none) : g.closing h n = [] := by
  simp [closing, hs]

theorem closing_of_source? {src : PageSource} (ht : g.tags n = some k) (hs : h.source? n = some src) :
    g.closing h n = [.pagerClose k src] := by
  simp [closing, ht, hs]

/-- Which pagers are open changes only at a name where the open pager is
neither `k` before nor after. -/
theorem open_congr (haway : ∀ n ≠ name, g'.openAt h' n = g.openAt h n)
    (hk : g.openAt h name ≠ some k) (hk' : g'.openAt h' name ≠ some k) : g'.Open h' k ↔ g.Open h k := by
  constructor
  · rintro ⟨n, hn⟩
    by_cases hname : n = name
    · exact absurd (hname ▸ hn) hk'
    · exact ⟨n, (haway n hname) ▸ hn⟩
  · rintro ⟨n, hn⟩
    by_cases hname : n = name
    · exact absurd (hname ▸ hn) hk
    · exact ⟨n, (haway n hname).symm ▸ hn⟩

theorem open_of_openAt_eq (hall : ∀ n, g'.openAt h' n = g.openAt h n) : g'.Open h' k ↔ g.Open h k :=
  ⟨fun ⟨n, hn⟩ => ⟨n, hall n ▸ hn⟩, fun ⟨n, hn⟩ => ⟨n, (hall n).symm ▸ hn⟩⟩

/-! ## What the ledger keeps true -/

/-- The ledger tracks the holdings of a session whose implementation
started as `b₀`. -/
structure Tracks (b₀ : Backend) (g : Ledger) (h : Holdings) : Prop where
  /-- The implementation saw exactly the calls of the ledger. -/
  backend : h.backend = g.calls.foldl Teardown.apply b₀
  /-- A pager is held under a name exactly when the name has a number. -/
  tagged : ∀ name, (g.tags name).isSome = (Keyed.find? name h.pagers).isSome
  /-- The numbers are of pagers made, each held under one name at most. -/
  below : ∀ name k, g.tags name = some k → k < g.made
  distinct : ∀ n₁ n₂ k, g.tags n₁ = some k → g.tags n₂ = some k → n₁ = n₂
  /-- No inner close runs twice, and each runs on a pager made. -/
  once : (innerCloses g.calls).Nodup
  closesBelow : ∀ k ∈ innerCloses g.calls, k < g.made
  /-- A pager made has had its inner close exactly when it is not held open. -/
  closed_iff : ∀ k < g.made, k ∈ innerCloses g.calls ↔ ¬g.Open h k
  /-- The implementation's close has run once if the manager is closed,
  never otherwise, and it is the last call. -/
  managerCount : g.calls.count .managerClose = if h.closed then 1 else 0
  managerLast : h.closed = true → g.calls.getLast? = some .managerClose
  /-- A closed manager is held by nothing. -/
  clean : h.closed = true → h.holders = 0

/-- A ledger that tracks holdings that have settled: a manager held by
nothing is closed. -/
structure Sound (b₀ : Backend) (g : Ledger) (h : Holdings) : Prop extends g.Tracks b₀ h where
  settled : h.holders = 0 → h.closed = true

variable {b₀ : Backend}

theorem Tracks.closed_eq_false (hT : g.Tracks b₀ h) {p : HostPager} (hp : Keyed.find? n h.pagers = some p) :
    h.closed = false := by
  cases hc : h.closed
  · rfl
  · exact absurd (hT.clean hc) (h.holders_ne_zero_of_find? hp)

theorem Tracks.tag_of_source? (hT : g.Tracks b₀ h) {src : PageSource} (hs : h.source? n = some src) :
    ∃ k, g.tags n = some k := by
  have htag := hT.tagged n
  rw [h.isSome_of_source? hs] at htag
  exact Option.isSome_iff_exists.1 htag

theorem Tracks.withHandles (hT : g.Tracks b₀ h) (hc : h.closed = false) (handles : Nat) :
    g.Tracks b₀ { h with handles } where
  backend := hT.backend
  tagged := hT.tagged
  below := hT.below
  distinct := hT.distinct
  once := hT.once
  closesBelow := hT.closesBelow
  closed_iff := hT.closed_iff
  managerCount := hT.managerCount
  managerLast := hT.managerLast
  clean hc' := absurd (hc.symm.trans hc') (by simp)

/-- **Step: an explicit close.** Closing the pager open under a name runs
its inner close, the first for that pager. -/
theorem Tracks.shut (hT : g.Tracks b₀ h) {src : PageSource} (hs : h.source? name = some src)
    (ht : g.tags name = some k) :
    { g with calls := g.calls ++ [Teardown.pagerClose k src] }.Tracks b₀
      (Holdings.closeInner { h with pagers := Keyed.insert name ⟨none⟩ h.pagers } src) := by
  have hopen : g.openAt h name = some k := by simp [openAt, ht, hs]
  have hk : k ∉ innerCloses g.calls := fun hk => (hT.closed_iff k (hT.below name k ht)).1 hk ⟨name, hopen⟩
  have hclosed : h.closed = false := hT.closed_eq_false (h.find?_of_source? hs)
  -- the pager under `name` is shut; every other name is as it was
  have hshut : g.openAt (Holdings.closeInner { h with pagers := Keyed.insert name ⟨none⟩ h.pagers } src) name = none :=
    openAt_of_source?_none (h.source?_insert_self _)
  have haway : ∀ n ≠ name,
      g.openAt (Holdings.closeInner { h with pagers := Keyed.insert name ⟨none⟩ h.pagers } src) n = g.openAt h n := by
    intro n hn
    simp only [openAt, Holdings.closeInner_source?, h.source?_insert_ne hn]
  refine ⟨?_, fun n => ?_, hT.below, hT.distinct, ?_, ?_, fun k' hk' => ?_, ?_, ?_, ?_⟩
  · rw [List.foldl_append, ← hT.backend]
    rfl
  · by_cases hn : n = name
    · subst hn
      simp [ht]
    · simp [Keyed.find?_insert_ne (Ne.symm hn), hT.tagged n]
  · exact nodup_innerCloses_append_pagerClose hT.once hk src
  · intro k' hk'
    rw [mem_innerCloses_append_pagerClose] at hk'
    rcases hk' with hk' | rfl
    · exact hT.closesBelow k' hk'
    · exact hT.below name k' ht
  · rw [open_withCalls, mem_innerCloses_append_pagerClose]
    by_cases hkk : k' = k
    · -- now closed, and open nowhere: its one name is shut
      subst hkk
      simp only [or_true, true_iff]
      rintro ⟨n, hn⟩
      by_cases hname : n = name
      · rw [hname, hshut] at hn
        cases hn
      · rw [haway n hname, openAt_eq_some_iff] at hn
        exact hname (hT.distinct n name k' hn.1 ht)
    · have hcongr := open_congr (k := k') haway (by rw [hopen]; simpa using Ne.symm hkk) (by rw [hshut]; simp)
      rw [hcongr, ← hT.closed_iff k' hk']
      simp [hkk]
  · simp [List.count_append, hT.managerCount, hclosed]
  · intro hc
    simp [hclosed] at hc
  · intro hc
    simp [hclosed] at hc

theorem Tracks.closed_eq_false_of_handles (hT : g.Tracks b₀ h) (hh : h.handles ≠ 0) : h.closed = false := by
  cases hc : h.closed
  · rfl
  · have := hT.clean hc
    unfold Holdings.holders at this
    omega

/-- **Step: a next page.** Moving a pager on changes no pager's state. -/
theorem Tracks.advance (hT : g.Tracks b₀ h) {src : PageSource} (hs : h.source? name = some src) :
    g.Tracks b₀ { h with pagers := Keyed.insert name ⟨some src.next⟩ h.pagers } := by
  have hall : ∀ n, g.openAt { h with pagers := Keyed.insert name ⟨some src.next⟩ h.pagers } n = g.openAt h n := by
    intro n
    by_cases hn : n = name
    · subst hn
      simp only [openAt, h.source?_insert_self, hs]
      cases g.tags n <;> rfl
    · simp only [openAt, h.source?_insert_ne hn]
  have hclosed : h.closed = false := hT.closed_eq_false (h.find?_of_source? hs)
  refine ⟨hT.backend, fun n => ?_, hT.below, hT.distinct, hT.once, hT.closesBelow,
    fun k hk => (hT.closed_iff k hk).trans (not_congr (open_of_openAt_eq hall).symm), hT.managerCount, hT.managerLast,
    fun hc => absurd hc (by simp [hclosed])⟩
  by_cases hn : n = name
  · subst hn
    obtain ⟨k, hk⟩ := hT.tag_of_source? hs
    simp [hk]
  · simp [Keyed.find?_insert_ne (Ne.symm hn), hT.tagged n]

/-- **Step: letting go of a pager that is not open.** Its name loses its
number. -/
theorem Tracks.remove (hT : g.Tracks b₀ h) {p : HostPager} (hp : Keyed.find? name h.pagers = some p)
    (hs : h.source? name = none) :
    { g with tags := Function.update g.tags name none }.Tracks b₀
      { h with pagers := h.pagers.filter (·.1 != name) } := by
  have hall : ∀ n, ({ g with tags := Function.update g.tags name none } : Ledger).openAt
      { h with pagers := h.pagers.filter (·.1 != name) } n = g.openAt h n := by
    intro n
    by_cases hn : n = name
    · subst hn
      simp [openAt, hs]
    · simp only [openAt, Function.update_of_ne hn, h.source?_filter, hn, if_false]
  have hclosed : h.closed = false := hT.closed_eq_false hp
  -- a name that still has a number is not `name`
  have hother : ∀ n k, Function.update g.tags name none n = some k → n ≠ name ∧ g.tags n = some k := by
    intro n k hn
    by_cases hname : n = name
    · subst hname
      simp at hn
    · exact ⟨hname, by rwa [Function.update_of_ne hname] at hn⟩
  refine ⟨hT.backend, fun n => ?_, fun n k hn => hT.below n k (hother n k hn).2,
    fun n₁ n₂ k h₁ h₂ => hT.distinct n₁ n₂ k (hother n₁ k h₁).2 (hother n₂ k h₂).2, hT.once, hT.closesBelow,
    fun k hk => (hT.closed_iff k hk).trans (not_congr (open_of_openAt_eq hall).symm), hT.managerCount, hT.managerLast,
    fun hc => absurd hc (by simp [hclosed])⟩
  by_cases hn : n = name
  · subst hn
    simp [Keyed.find?_filter_key]
  · simp [Keyed.find?_filter_key, hn, hT.tagged n]

/-- **Step: settling.** A manager that nothing holds closes, and its close
comes after every call before it. -/
theorem Tracks.settle (hT : g.Tracks b₀ h) : { g with calls := g.calls ++ h.settling }.Sound b₀ h.settle := by
  unfold Holdings.settle Holdings.settling
  by_cases hstay : (h.closed || h.holders != 0) = true
  · simp only [hstay, if_true, List.append_nil]
    refine ⟨hT, fun hz => ?_⟩
    simpa [hz] using hstay
  · rw [if_neg hstay, if_neg hstay]
    obtain ⟨hclosed, hzero⟩ : h.closed = false ∧ h.holders = 0 := by simpa using hstay
    refine ⟨⟨?_, hT.tagged, hT.below, hT.distinct, ?_, ?_, fun k hk => ?_, ?_, fun _ => ?_, fun _ => hzero⟩,
      fun _ => rfl⟩
    · rw [List.foldl_append, ← hT.backend]
      rfl
    · rw [innerCloses_append_managerClose]
      exact hT.once
    · rw [innerCloses_append_managerClose]
      exact hT.closesBelow
    · rw [innerCloses_append_managerClose]
      exact hT.closed_iff k hk
    · simp [List.count_append, hT.managerCount, hclosed]
    · simp

theorem Sound.of_handles (hT : g.Tracks b₀ h) (hh : h.handles ≠ 0) : g.Sound b₀ h :=
  ⟨hT, fun hz => absurd hz (by unfold Holdings.holders; omega)⟩

theorem Sound.of_pager (hT : g.Tracks b₀ h) {p : HostPager} (hp : Keyed.find? n h.pagers = some p) :
    g.Sound b₀ h :=
  ⟨hT, fun hz => absurd hz (h.holders_ne_zero_of_find? hp)⟩

/-- **Step: a clone.** Another handle changes no pager. -/
theorem Sound.clone (hS : g.Sound b₀ h) (hh : h.handles ≠ 0) : g.Sound b₀ { h with handles := h.handles + 1 } :=
  .of_handles (hS.withHandles (hS.closed_eq_false_of_handles hh) _) (by simp)

/-- **Step: a pager handed out.** It takes the next number, under a name
where no pager is open. -/
theorem Sound.give (hS : g.Sound b₀ h) (hh : h.handles ≠ 0) (hs : h.source? name = none) (src : PageSource) :
    ({ tags := Function.update g.tags name (some g.made), made := g.made + 1, calls := g.calls } : Ledger).Sound b₀
      { h with pagers := Keyed.insert name ⟨some src⟩ h.pagers } := by
  have hclosed : h.closed = false := hS.closed_eq_false_of_handles hh
  have hnew : ({ tags := Function.update g.tags name (some g.made), made := g.made + 1, calls := g.calls } : Ledger).openAt
      { h with pagers := Keyed.insert name ⟨some src⟩ h.pagers } name = some g.made := by
    simp [openAt, h.source?_insert_self]
  have haway : ∀ n ≠ name,
      ({ tags := Function.update g.tags name (some g.made), made := g.made + 1, calls := g.calls } : Ledger).openAt
        { h with pagers := Keyed.insert name ⟨some src⟩ h.pagers } n = g.openAt h n := by
    intro n hn
    simp only [openAt, Function.update_of_ne hn, h.source?_insert_ne hn]
  -- the new number is no other name's
  have hfresh : ∀ n, g.tags n ≠ some g.made := fun n hn => Nat.lt_irrefl _ (hS.below n g.made hn)
  refine .of_handles ⟨hS.backend, fun n => ?_, fun n k hn => ?_, fun n₁ n₂ k h₁ h₂ => ?_, hS.once,
    fun k hk => Nat.lt_succ_of_lt (hS.closesBelow k hk), fun k hk => ?_, hS.managerCount, hS.managerLast,
    fun hc => absurd hc (by simp [hclosed])⟩ hh
  · by_cases hn : n = name
    · subst hn
      simp
    · simp [Function.update_of_ne hn, Keyed.find?_insert_ne (Ne.symm hn), hS.tagged n]
  · dsimp only at hn ⊢
    by_cases hname : n = name
    · subst hname
      simp only [Function.update_self, Option.some.injEq] at hn
      omega
    · rw [Function.update_of_ne hname] at hn
      exact Nat.lt_succ_of_lt (hS.below n k hn)
  · dsimp only at h₁ h₂
    by_cases hn₁ : n₁ = name <;> by_cases hn₂ : n₂ = name
    · rw [hn₁, hn₂]
    · rw [hn₁, Function.update_self] at h₁
      rw [Function.update_of_ne hn₂, ← h₁] at h₂
      exact absurd h₂ (hfresh n₂)
    · rw [hn₂, Function.update_self] at h₂
      rw [Function.update_of_ne hn₁, ← h₂] at h₁
      exact absurd h₁ (hfresh n₁)
    · rw [Function.update_of_ne hn₁] at h₁
      rw [Function.update_of_ne hn₂] at h₂
      exact hS.distinct n₁ n₂ k h₁ h₂
  · by_cases hkk : k = g.made
    · -- the new pager: open, and never closed
      subst hkk
      have hnot : g.made ∉ innerCloses g.calls := fun hm => Nat.lt_irrefl _ (hS.closesBelow _ hm)
      exact ⟨fun hm => absurd hm hnot, fun hno => absurd ⟨name, hnew⟩ hno⟩
    · have hlt : k < g.made := by simp only at hk; omega
      rw [hS.closed_iff k hlt, open_congr haway (by rw [openAt_of_source?_none hs]; simp)
        (by rw [hnew]; simpa using Ne.symm hkk)]

/-- **Step: a pager dropped at once.** It takes the next number and is
closed there and then. -/
theorem Sound.discard (hS : g.Sound b₀ h) (hh : h.handles ≠ 0) (src : PageSource) :
    { g with made := g.made + 1, calls := g.calls ++ [Teardown.pagerClose g.made src] }.Sound b₀
      (h.closeInner src) := by
  have hclosed : h.closed = false := hS.closed_eq_false_of_handles hh
  have hnot : g.made ∉ innerCloses g.calls := fun hm => Nat.lt_irrefl _ (hS.closesBelow _ hm)
  have hall : ∀ n, ({ g with made := g.made + 1, calls := g.calls ++ [Teardown.pagerClose g.made src] } : Ledger).openAt
      (h.closeInner src) n = g.openAt h n := fun _ => rfl
  refine .of_handles ⟨?_, hS.tagged, fun n k hn => Nat.lt_succ_of_lt (hS.below n k hn), hS.distinct, ?_,
    fun k hk => ?_, fun k hk => ?_, ?_, fun hc => absurd hc (by simp [hclosed]),
    fun hc => absurd hc (by simp [hclosed])⟩ hh
  · rw [List.foldl_append, ← hS.backend]
    rfl
  · exact nodup_innerCloses_append_pagerClose hS.once hnot src
  · rw [mem_innerCloses_append_pagerClose] at hk
    rcases hk with hk | rfl
    · exact Nat.lt_succ_of_lt (hS.closesBelow k hk)
    · exact Nat.lt_succ_self _
  · rw [open_of_openAt_eq hall, mem_innerCloses_append_pagerClose]
    by_cases hkk : k = g.made
    · -- closed at once: no name ever carried its number
      subst hkk
      simp only [or_true, true_iff]
      rintro ⟨n, hn⟩
      exact Nat.lt_irrefl _ (hS.below n _ (openAt_eq_some_iff.1 hn).1)
    · have hlt : k < g.made := by simp only at hk; omega
      rw [← hS.closed_iff k hlt]
      simp [hkk]
  · simp [List.count_append, hS.managerCount, hclosed]

/-- **Step.** Every call keeps the ledger sound. -/
theorem Sound.step (hS : g.Sound b₀ h) (c : PagerCall) : (c.track h g).Sound b₀ (c.hold h) := by
  cases c with
  | clone =>
    simp only [PagerCall.track, PagerCall.hold]
    split
    · exact hS
    · exact hS.clone ‹_›
  | dropManager =>
    simp only [PagerCall.track, PagerCall.hold]
    split
    · exact hS
    · exact (hS.withHandles (hS.closed_eq_false_of_handles ‹_›) _).settle
  | handOut name src =>
    simp only [PagerCall.track, PagerCall.hold]
    split
    · exact hS
    · rename_i hh
      cases hs : h.source? name with
      | none =>
        rw [closing_of_source?_none hs, List.append_nil]
        exact hS.give hh hs src
      | some old =>
        -- the pager open under the name is shut first, then the new one takes the name
        obtain ⟨k, hk⟩ := hS.tag_of_source? hs
        have hshut := Sound.of_handles (hS.shut hs hk) hh
        have hgive := hshut.give hh (h.source?_insert_self _) src
        rw [closing_of_source? hk hs]
        dsimp only
        have hhold : Holdings.closeInner { h with pagers := Keyed.insert name ⟨some src⟩ h.pagers } old =
            { Holdings.closeInner { h with pagers := Keyed.insert name ⟨none⟩ h.pagers } old with
              pagers := Keyed.insert name ⟨some src⟩ (Keyed.insert name ⟨none⟩ h.pagers) } := by
          simp [Holdings.closeInner, Keyed.insert_insert]
        rw [hhold]
        exact hgive
  | discard src =>
    simp only [PagerCall.track, PagerCall.hold]
    split
    · exact hS
    · exact hS.discard ‹_› src
  | hasNext name => exact hS
  | get name => exact hS
  | next name =>
    simp only [PagerCall.track, PagerCall.hold]
    cases hs : h.source? name with
    | none => exact hS
    | some src => exact .of_pager (hS.advance hs) (Keyed.find?_insert_self name _ h.pagers)
  | close name =>
    simp only [PagerCall.track, PagerCall.hold]
    cases hs : h.source? name with
    | none =>
      rw [closing_of_source?_none hs, List.append_nil]
      exact hS
    | some src =>
      obtain ⟨k, hk⟩ := hS.tag_of_source? hs
      rw [closing_of_source? hk hs]
      exact .of_pager (hS.shut hs hk) (Keyed.find?_insert_self name _ h.pagers)
  | drop name =>
    simp only [PagerCall.track, PagerCall.hold]
    cases hp : Keyed.find? name h.pagers with
    | none => exact hS
    | some p =>
      simp only [Option.isSome_some, if_true]
      cases hsrc : p.source with
      | none =>
        have hs : h.source? name = none := by simp [Holdings.source?, hp, hsrc]
        rw [closing_of_source?_none hs, List.append_nil]
        exact (hS.remove hp hs).settle
      | some src =>
        -- shut, then let go of the pager that is now closed, then settle
        have hs : h.source? name = some src := by simp [Holdings.source?, hp, hsrc]
        obtain ⟨k, hk⟩ := hS.tag_of_source? hs
        have hgone := (hS.shut hs hk).remove (Keyed.find?_insert_self name _ h.pagers) (h.source?_insert_self _)
        rw [closing_of_source? hk hs]
        dsimp only
        have hhold : Holdings.closeInner { h with pagers := h.pagers.filter (·.1 != name) } src =
            { Holdings.closeInner { h with pagers := Keyed.insert name ⟨none⟩ h.pagers } src with
              pagers := (Keyed.insert name ⟨none⟩ h.pagers).filter (·.1 != name) } := by
          simp [Holdings.closeInner, Keyed.filter_insert_self]
        have hsettling : (Holdings.closeInner { h with pagers := h.pagers.filter (·.1 != name) } src).settling =
            Holdings.settling { h with pagers := h.pagers.filter (·.1 != name) } := rfl
        rw [← hsettling, hhold]
        exact hgone.settle

theorem Sound.not_open_of_closed (hS : g.Sound b₀ h) (hc : h.closed = true) (k : Nat) : ¬g.Open h k := by
  rintro ⟨n, hn⟩
  have hnil : h.pagers = [] := by
    have hz := hS.clean hc
    unfold Holdings.holders at hz
    exact List.eq_nil_of_length_eq_zero (by omega)
  have hs : h.source? n = none := by simp [Holdings.source?, hnil, Keyed.find?]
  rw [openAt_of_source?_none hs] at hn
  cases hn

/-- Once the manager is closed, its close is the last call, and before it
every pager made had its inner close, once. -/
theorem Sound.closes_all (hS : g.Sound b₀ h) (hc : h.closed = true) :
    ∃ pre, g.calls = pre ++ [.managerClose] ∧ (innerCloses pre).Perm (List.range g.made) := by
  obtain ⟨pre, hpre⟩ := List.getLast?_eq_some_iff.1 (hS.managerLast hc)
  have hsame : innerCloses g.calls = innerCloses pre := by
    rw [hpre, innerCloses_append_managerClose]
  refine ⟨pre, hpre, (List.perm_ext_iff_of_nodup (hsame ▸ hS.once) List.nodup_range).2 fun k => ?_⟩
  rw [List.mem_range, ← hsame]
  constructor
  · exact hS.closesBelow k
  · exact fun hk => (hS.closed_iff k hk).2 (hS.not_open_of_closed hc k)

theorem sound_empty (b₀ : Backend) (host : Host) : empty.Sound b₀ (Session.start b₀ host).holdings where
  backend := rfl
  tagged _ := rfl
  below _ _ h := by cases h
  distinct _ _ _ h := by cases h
  once := List.nodup_nil
  closesBelow _ h := by cases h
  closed_iff _ hk := by cases hk
  managerCount := rfl
  managerLast h := by cases h
  clean h := by cases h
  settled h := by simp [Holdings.holders, Session.holdings, Session.start] at h

end Ledger

/-! ## Runs -/

/-- A session driven by a caller's calls, with its ledger. -/
structure PagerRun where
  session : Session
  ledger : Ledger

namespace PagerRun

/-- A fresh session of an implementation: one handle, no pager. -/
def start (backend : Backend) (host : Host) : PagerRun := ⟨Session.start backend host, .empty⟩

/-- A call on the run: its answer, and the session and ledger after it. -/
def step (r : PagerRun) (c : PagerCall) : PagerAnswer × PagerRun :=
  let (a, s) := c.op.run r.session
  (a, ⟨s, c.track r.session.holdings r.ledger⟩)

def after (r : PagerRun) (c : PagerCall) : PagerRun := (r.step c).2

/-- The run of a sequence of calls on a fresh session. -/
def run (backend : Backend) (host : Host) (calls : List PagerCall) : PagerRun :=
  calls.foldl after (start backend host)

theorem step_eq (r : PagerRun) (c : PagerCall) :
    r.step c = ((c.op.run r.session).1, ⟨(c.op.run r.session).2, c.track r.session.holdings r.ledger⟩) := rfl

theorem after_holdings (r : PagerRun) (c : PagerCall) :
    (r.after c).session.holdings = c.hold r.session.holdings :=
  PagerCall.holdings_op c r.session

/-- **Run.** The ledger stays sound over any calls. -/
theorem sound_foldl {b₀ : Backend} (calls : List PagerCall) {r : PagerRun}
    (h : r.ledger.Sound b₀ r.session.holdings) :
    (calls.foldl after r).ledger.Sound b₀ (calls.foldl after r).session.holdings := by
  induction calls generalizing r with
  | nil => exact h
  | cons c cs ih =>
    apply ih
    rw [after_holdings]
    exact h.step c

theorem sound_run (backend : Backend) (host : Host) (calls : List PagerCall) :
    (run backend host calls).ledger.Sound backend (run backend host calls).session.holdings :=
  sound_foldl calls (Ledger.sound_empty backend host)

end PagerRun

/-! ## The next call on a pager -/

namespace Session

variable {s : Session} {ev : Event}

/-- Settling only adds to the log. -/
theorem mem_trail_settle (hev : ev ∈ s.trail) : ev ∈ (settle.run s).2.trail := by
  unfold settle
  simp only [StateT.run_bind, StateT.run_get, pure_bind]
  split
  · exact hev
  · -- a debug line, then an error line if the close failed
    cases s.backend.close.2
    · exact Array.mem_push_of_mem _ hev
    · exact Array.mem_push_of_mem _ (Array.mem_push_of_mem _ hev)
    · exact Array.mem_push_of_mem _ (Array.mem_push_of_mem _ hev)

/-- A failing close of a pager whose holder goes is logged as an error
naming the failure. -/
theorem closeQuietly_failed {src : PageSource} {e : BrokerError} (hf : (s.backend.closePager src).2 = .failed e) :
    ∃ ev ∈ ((closeQuietly src).run s).2.trail, ev.level = .error ∧ Event.shown "error" e.display ∈ ev.fields := by
  simp [closeQuietly, log, hf]
  exact ⟨_, Array.mem_push_self, rfl, by simp⟩

/-- A panicking close of a pager whose holder goes is logged as an error
carrying the panic's message. -/
theorem closeQuietly_panicked {src : PageSource} {m : String} (hf : (s.backend.closePager src).2 = .panicked m) :
    ∃ ev ∈ ((closeQuietly src).run s).2.trail, ev.level = .error ∧ Event.shown "panic" m ∈ ev.fields := by
  simp [closeQuietly, log, hf]
  exact ⟨_, Array.mem_push_self, rfl, by simp⟩

end Session

namespace PagerCall

variable {s : Session} {name : String}

/-- The first close of an open pager answers how its inner close ended. -/
theorem run_close_of_source? {src : PageSource} (hs : s.holdings.source? name = some src) :
    ((close name).op.run s).1 = .closed (s.backend.closePager src).2 := by
  have hp : Keyed.find? name s.pagers = some ⟨some src⟩ := s.holdings.find?_of_source? hs
  rw [op, run_withPager, hp]
  simp [Session.closePager, Session.pager?, hp]
  rfl

/-- A closed pager refuses queries without reaching its inner pager, and
closing it again does nothing; the session is left as it was. -/
theorem run_of_closed (hp : Keyed.find? name s.pagers = some ⟨none⟩) :
    (hasNext name).op.run s = (.flag (.error Session.closedPager), s) ∧
    (get name).op.run s = (.page (.error Session.closedPager), s) ∧
    (next name).op.run s = (.moved (.error Session.closedPager), s) ∧
    (close name).op.run s = (.closed .done, s) := by
  refine ⟨?_, ?_, ?_, ?_⟩ <;> rw [op, run_withPager, hp]
  · rfl
  · rfl
  · rfl
  · simp [Session.closePager, Session.pager?, hp]
    rfl

/-- Dropping an open pager answers nothing but done, and a failure or panic
of its inner close goes to the log. -/
theorem run_drop_of_source? {src : PageSource} (hs : s.holdings.source? name = some src) :
    ((drop name).op.run s).1 = .done ∧
    (∀ e, (s.backend.closePager src).2 = .failed e → ∃ ev ∈ ((drop name).op.run s).2.trail,
      ev.level = .error ∧ Event.shown "error" e.display ∈ ev.fields) ∧
    (∀ m, (s.backend.closePager src).2 = .panicked m → ∃ ev ∈ ((drop name).op.run s).2.trail,
      ev.level = .error ∧ Event.shown "panic" m ∈ ev.fields) := by
  have hp : Keyed.find? name s.pagers = some ⟨some src⟩ := s.holdings.find?_of_source? hs
  -- the inner close runs on the session without the pager, then the manager settles
  have hrun : ((drop name).op.run s).2 = (Session.settle.run
      ((Session.closeQuietly src).run { s with pagers := s.pagers.filter (·.1 != name) }).2).2 := by
    rw [op, run_withPager, hp]
    simp [Session.dropPager, Session.pager?, hp]
    rfl
  refine ⟨by rw [op, run_withPager, hp]; rfl, fun e he => ?_, fun m hm => ?_⟩
  · obtain ⟨ev, hev, hlevel, hfield⟩ := Session.closeQuietly_failed (s := { s with pagers := s.pagers.filter (·.1 != name) }) he
    exact ⟨ev, by rw [hrun]; exact Session.mem_trail_settle hev, hlevel, hfield⟩
  · obtain ⟨ev, hev, hlevel, hfield⟩ := Session.closeQuietly_panicked (s := { s with pagers := s.pagers.filter (·.1 != name) }) hm
    exact ⟨ev, by rw [hrun]; exact Session.mem_trail_settle hev, hlevel, hfield⟩

end PagerCall

namespace PagerRun

variable {r : PagerRun} {name : String}

theorem after_close_calls {k : Nat} {src : PageSource} (ht : r.ledger.tags name = some k)
    (hs : r.session.holdings.source? name = some src) :
    (r.after (.close name)).ledger.calls = r.ledger.calls ++ [.pagerClose k src] := by
  simp [after, step_eq, PagerCall.track, Ledger.closing_of_source? ht hs]

/-- Dropping a pager runs its inner close if it is open, then perhaps the
implementation's close, and nothing else. -/
theorem after_drop_calls {p : HostPager} (hp : Keyed.find? name r.session.pagers = some p) :
    ∃ rest, (r.after (.drop name)).ledger.calls = r.ledger.calls ++ r.ledger.closing r.session.holdings name ++ rest ∧
      innerCloses rest = [] := by
  refine ⟨Holdings.settling { r.session.holdings with pagers := r.session.pagers.filter (·.1 != name) }, ?_, ?_⟩
  · simp [after, step_eq, PagerCall.track, hp]
  · rcases Holdings.settling_eq { r.session.holdings with pagers := r.session.pagers.filter (·.1 != name) } with
      h | h <;> rw [h] <;> rfl

/-- Calls on a closed pager change nothing, in the session or the ledger. -/
theorem step_of_closed (hp : Keyed.find? name r.session.pagers = some ⟨none⟩) :
    r.step (.hasNext name) = (.flag (.error Session.closedPager), r) ∧
    r.step (.get name) = (.page (.error Session.closedPager), r) ∧
    r.step (.next name) = (.moved (.error Session.closedPager), r) ∧
    r.step (.close name) = (.closed .done, r) := by
  obtain ⟨hhas, hget, hnext, hclose⟩ := PagerCall.run_of_closed hp
  have hs : r.session.holdings.source? name = none := by simp [Holdings.source?, hp]
  refine ⟨?_, ?_, ?_, ?_⟩
  · simp only [step_eq, hhas]
    rfl
  · simp only [step_eq, hget]
    rfl
  · simp only [step_eq, hnext]
    rfl
  · simp only [step_eq, hclose, PagerCall.track, Ledger.closing_of_source?_none hs, List.append_nil]

end PagerRun

/-- **Pagers close once, and the manager after them.** Take a fresh session
of any implementation and make any calls on its handles and pagers, in any
order: clones and drops of handles, pagers handed out or dropped at once by
paged queries, queries, closes and drops of pagers; a call is refused when
there is no handle, or no pager under its name. After them:

* the implementation has seen exactly the calls the ledger records;
* no pager's inner close has run twice, and a pager made has had its inner
  close exactly when it is no longer held open;
* the implementation's own close has run once if the manager is closed and
  never otherwise, and the manager is closed exactly when nothing holds it:
  its close is then the last call, after the inner close of every pager;
* the next close of an open pager runs its inner close and answers how that
  ended; the next drop of it runs the inner close, answers done whatever
  the close gave, and logs its failure or panic as an error;
* a closed pager answers queries with the `InputValidation` error without
  reaching its inner pager, and answers a close with done, neither changing
  anything; its drop runs no inner close. -/
theorem pagers_close_once_before_manager (backend : Backend) (host : Host) (calls : List PagerCall) :
    let r := PagerRun.run backend host calls
    let s := r.session
    let g := r.ledger
    s.backend = g.calls.foldl Teardown.apply backend ∧
    (innerCloses g.calls).Nodup ∧ (∀ k < g.made, k ∈ innerCloses g.calls ↔ ¬g.Open s.holdings k) ∧
    g.calls.count .managerClose = (if s.closed then 1 else 0) ∧ (s.closed = true ↔ s.holders = 0) ∧
    (s.closed = true → ∃ pre, g.calls = pre ++ [.managerClose] ∧ (innerCloses pre).Perm (List.range g.made)) ∧
    (∀ name k src, g.tags name = some k → s.holdings.source? name = some src →
      (r.step (.close name)).1 = .closed (s.backend.closePager src).2 ∧
      (r.after (.close name)).ledger.calls = g.calls ++ [.pagerClose k src] ∧
      (r.step (.drop name)).1 = .done ∧
      (∃ rest, (r.after (.drop name)).ledger.calls = g.calls ++ .pagerClose k src :: rest ∧ innerCloses rest = []) ∧
      (∀ e, (s.backend.closePager src).2 = .failed e → ∃ ev ∈ (r.after (.drop name)).session.trail,
        ev.level = .error ∧ Event.shown "error" e.display ∈ ev.fields) ∧
      (∀ m, (s.backend.closePager src).2 = .panicked m → ∃ ev ∈ (r.after (.drop name)).session.trail,
        ev.level = .error ∧ Event.shown "panic" m ∈ ev.fields)) ∧
    (∀ name, Keyed.find? name s.pagers = some ⟨none⟩ →
      r.step (.hasNext name) = (.flag (.error Session.closedPager), r) ∧
      r.step (.get name) = (.page (.error Session.closedPager), r) ∧
      r.step (.next name) = (.moved (.error Session.closedPager), r) ∧
      r.step (.close name) = (.closed .done, r) ∧
      ∃ rest, (r.after (.drop name)).ledger.calls = g.calls ++ rest ∧ innerCloses rest = []) := by
  intro r s g
  have hS : g.Sound backend s.holdings := PagerRun.sound_run backend host calls
  have hsettled : s.closed = true ↔ s.holders = 0 := ⟨hS.clean, hS.settled⟩
  refine ⟨hS.backend, hS.once, hS.closed_iff, hS.managerCount, hsettled, hS.closes_all,
    fun name k src ht hs => ?_, fun name hp => ?_⟩
  · -- an open pager: the explicit close and the drop both reach its inner pager
    have hp : Keyed.find? name s.pagers = some ⟨some src⟩ := s.holdings.find?_of_source? hs
    obtain ⟨hdone, hfailed, hpanicked⟩ := PagerCall.run_drop_of_source? hs
    obtain ⟨rest, hrest, hnone⟩ := PagerRun.after_drop_calls (r := r) hp
    rw [Ledger.closing_of_source? ht hs] at hrest
    exact ⟨PagerCall.run_close_of_source? hs, PagerRun.after_close_calls ht hs, hdone,
      ⟨rest, by simpa using hrest, hnone⟩, hfailed, hpanicked⟩
  · -- a closed pager: nothing reaches its inner pager
    have hs : s.holdings.source? name = none := by simp [Holdings.source?, hp]
    obtain ⟨rest, hrest, hnone⟩ := PagerRun.after_drop_calls (r := r) hp
    rw [Ledger.closing_of_source?_none hs, List.append_nil] at hrest
    exact ⟨(PagerRun.step_of_closed hp).1, (PagerRun.step_of_closed hp).2.1, (PagerRun.step_of_closed hp).2.2.1,
      (PagerRun.step_of_closed hp).2.2.2, rest, hrest, hnone⟩

/-- A pager handed out and closed, then the manager's handle dropped and
the pager dropped: the manager closes at the last drop, after the pager's
inner close. -/
theorem pager_closed_before_last_drop :
    let r := PagerRun.run (.bare {}) Host.testing
      [.handOut "p" (.pages [["a"], ["b"]] 0 .quietly), .close "p", .dropManager, .drop "p"]
    r.session.closed = true ∧ r.ledger.made = 1 ∧
      ∃ pre, r.ledger.calls = pre ++ [.managerClose] ∧ (innerCloses pre).Perm (List.range r.ledger.made) := by
  intro r
  have hclosed : r.session.closed = true := rfl
  exact ⟨hclosed, rfl, (pagers_close_once_before_manager _ _ _).2.2.2.2.2.1 hclosed⟩

end AssetBroker