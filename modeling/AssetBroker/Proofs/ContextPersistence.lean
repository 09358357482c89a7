import AssetBroker.Manager.Session
import AssetBroker.Proofs.TokenRoundTrip

/-!
# Contexts persist through tokens

A stateful manager hands its host a token for a context's state, and reads
a context back from a token. For the in-memory catalog, main statement
(`persisted_contexts_restore`):

- the token of a context whose state is none or a catalog state reads back,
  on any stateful catalog, into a context holding the same content: the
  same state number and parent, over the whole 64-bit range;
- every context that a chain of fresh contexts, children and restored
  tokens makes is such a context, and the manager stays a stateful catalog;
- a child's state records its parent's number;
- a manager without `Stateful` gives the empty token for every context, and
  the empty token restores a context without state.

Each session call has one equation (`run_createContext`, …) and the chain is
a fold of `ContextCall.keep` whose one step keeps the invariant
(`ContextCall.act_catalogued`).
-/

namespace AssetBroker

namespace Context

def content? (c : Context) : Option StateContent := c.state.map (·.content)

/-- The context has no state, or one the catalog made. -/
def Catalogued (c : Context) : Prop := ∀ st ∈ c.content?, ∃ id parent, st = .catalog id parent

end Context

namespace Session

/-- The session's manager is the in-memory catalog and advertises `Stateful`. -/
structure StatefulCatalog (s : Session) : Prop where
  catalog : ∃ c, s.backend = .catalog c
  stateful : s.backend.hasCapability .stateful = true

variable {s : Session}

theorem StatefulCatalog.stateful_catalog (h : s.StatefulCatalog) {c : Catalog}
    (hb : s.backend = .catalog c) : (Backend.catalog c).hasCapability .stateful = true :=
  hb ▸ h.stateful

theorem StatefulCatalog.withSerial (h : s.StatefulCatalog) (n : Nat) :
    ({ s with nextSerial := n } : Session).StatefulCatalog :=
  ⟨h.catalog, h.stateful⟩

/-- Handing out a state keeps the catalog's capabilities. -/
theorem StatefulCatalog.nextState (h : s.StatefulCatalog) {c : Catalog} (hb : s.backend = .catalog c)
    (k : UInt64) (n : Nat) :
    ({ s with backend := .catalog { c with nextState := k }, nextSerial := n } : Session).StatefulCatalog :=
  ⟨⟨_, rfl⟩, (h.stateful_catalog hb : (Backend.catalog c).hasCapability .stateful = true)⟩

/-! ## One equation per call -/

theorem run_createContext (h : s.StatefulCatalog) {c : Catalog} (hb : s.backend = .catalog c) :
    createContext.run s =
      (.ok { state := some ⟨s.nextSerial, .catalog c.nextState none, s.anchor⟩ },
        { s with backend := .catalog { c with nextState := c.nextState + 1 },
                 nextSerial := s.nextSerial + 1 }) := by
  simp [createContext, h.stateful_catalog hb, hb, Backend.createState, Catalog.newState, wrapState]
  rfl

theorem run_createChildContext_of_none {parent : Context} (hp : parent.state = none) :
    (createChildContext parent).run s = (.ok parent, s) := by
  simp [createChildContext, hp]
  rfl

theorem run_createChildContext (h : s.StatefulCatalog) {c : Catalog} (hb : s.backend = .catalog c)
    {parent : Context} {st : ManagerState} (hp : parent.state = some st) {id : UInt64}
    {grand : Option UInt64} (hst : st.content = .catalog id grand) :
    (createChildContext parent).run s =
      (.ok { parent with state := some ⟨s.nextSerial, .catalog c.nextState (some id), s.anchor⟩ },
        { s with backend := .catalog { c with nextState := c.nextState + 1 },
                 nextSerial := s.nextSerial + 1 }) := by
  simp [createChildContext, hp, hst, h.stateful_catalog hb, hb, Backend.createChildState, Catalog.childState,
    Catalog.newState, wrapState]
  rfl

theorem run_persistenceToken (c : Context) :
    (persistenceToken c).run s =
      (match c.state with
        | some st => if s.backend.hasCapability .stateful then s.backend.persistenceToken st.content
                     else .ok ""
        | none => .ok "", s) := by
  cases hc : c.state with
  | none => simp [persistenceToken, hc]; rfl
  | some st => by_cases hcap : s.backend.hasCapability .stateful <;> simp [persistenceToken, hc, hcap] <;> rfl

theorem run_contextFromToken_empty : (contextFromToken "").run s = (.ok {}, s) := by
  simp [contextFromToken]
  rfl

theorem run_contextFromToken (hcap : s.backend.hasCapability .stateful = true) {token : String}
    (htoken : token ≠ "") :
    (contextFromToken token).run s =
      match s.backend.stateFromToken token with
      | .ok content => (.ok { state := some ⟨s.nextSerial, content, s.anchor⟩ },
          { s with nextSerial := s.nextSerial + 1 })
      | .error e => (.error e, s) := by
  have hempty : token.isEmpty = false := by simpa [String.isEmpty_iff] using htoken
  cases hread : s.backend.stateFromToken token with
  | ok content =>
    simp [contextFromToken, require, hempty, hcap, hread, wrapState]
    rfl
  | error e =>
    simp [contextFromToken, require, hempty, hcap, hread]
    rfl

theorem persistenceToken_of_none {c : Context} (hc : c.state = none) :
    (persistenceToken c).run s = (.ok "", s) := by
  rw [run_persistenceToken, hc]

theorem persistenceToken_of_stateless (hcap : s.backend.hasCapability .stateful = false)
    (c : Context) : (persistenceToken c).run s = (.ok "", s) := by
  rw [run_persistenceToken]
  cases c.state <;> simp [hcap]

theorem persistenceToken_of_catalog (h : s.StatefulCatalog) {c : Context} {st : ManagerState}
    (hc : c.state = some st) {id : UInt64} {parent : Option UInt64}
    (hst : st.content = .catalog id parent) :
    (persistenceToken c).run s = (.ok (Token.write id parent), s) := by
  obtain ⟨cat, hb⟩ := h.catalog
  rw [run_persistenceToken, hc]
  simp [h.stateful_catalog hb, hb, Backend.persistenceToken, Catalog.tokenOf, hst]

theorem contextFromToken_write (h : s.StatefulCatalog) (id : UInt64) (parent : Option UInt64) :
    (contextFromToken (Token.write id parent)).run s =
      (.ok { state := some ⟨s.nextSerial, .catalog id parent, s.anchor⟩ },
        { s with nextSerial := s.nextSerial + 1 }) := by
  obtain ⟨cat, hb⟩ := h.catalog
  rw [run_contextFromToken h.stateful (Token.write_ne_empty id parent)]
  simp [hb, Backend.stateFromToken, Catalog.stateOfToken, Token.read_write]

end Session

namespace Context

theorem catalogued_of_state_none {c : Context} (h : c.state = none) : c.Catalogued := by
  intro st hst
  simp [content?, h] at hst

theorem catalogued_of_content {c : Context} {id : UInt64} {parent : Option UInt64}
    (h : c.content? = some (.catalog id parent)) : c.Catalogued := by
  intro st hst
  rw [h] at hst
  exact ⟨id, parent, (Option.some.inj hst).symm⟩

theorem catalogued_empty : ({} : Context).Catalogued := catalogued_of_state_none rfl

end Context

namespace Session

variable {s : Session}

/-- A token of a catalogued context, read back by a stateful catalog, gives
a context whose state holds what the first one's holds. -/
theorem persistence_round_trip {s₁ s₂ : Session} (h₁ : s₁.StatefulCatalog) (h₂ : s₂.StatefulCatalog)
    {c : Context} (hc : c.Catalogued) :
    ∃ token c', (persistenceToken c).run s₁ = (.ok token, s₁) ∧
      ((contextFromToken token).run s₂).1 = .ok c' ∧ c'.content? = c.content? := by
  cases hst : c.state with
  | none =>
    refine ⟨"", {}, persistenceToken_of_none hst, by rw [run_contextFromToken_empty], ?_⟩
    simp [Context.content?, hst]
  | some st =>
    obtain ⟨id, parent, hcontent⟩ := hc st.content (by simp [Context.content?, hst])
    refine ⟨Token.write id parent, _, persistenceToken_of_catalog h₁ hst hcontent,
      by rw [contextFromToken_write h₂], ?_⟩
    simp [Context.content?, hst, hcontent]

end Session

/-- A call that makes a context: a fresh one, a child of a context made
before (by its position among them), or one read from a token. -/
inductive ContextCall where
  | create
  | child (parent : Nat)
  | restore (token : String)

namespace ContextCall

open Session

def act (made : List Context) : ContextCall → Act (Except BrokerError Context)
  | create => createContext
  | child i =>
    match made[i]? with
    | some parent => createChildContext parent
    | none => pure (.error (.invalidInput "no such context"))
  | restore token => contextFromToken token

/-- Makes one more context, if the call succeeds. -/
def keep (made : List Context) (call : ContextCall) : Act (List Context) := do
  match ← call.act made with
  | .ok c => pure (made ++ [c])
  | .error _ => pure made

/-- The contexts made by calls one after another. -/
def runAll (calls : List ContextCall) : Act (List Context) := calls.foldlM keep []

variable {s : Session}

/-- One call on a stateful catalog gives a catalogued context, and leaves a
stateful catalog. -/
theorem act_catalogued (h : s.StatefulCatalog) {made : List Context}
    (hmade : ∀ c ∈ made, c.Catalogued) (call : ContextCall) :
    ((call.act made).run s).2.StatefulCatalog ∧
      ∀ c, ((call.act made).run s).1 = .ok c → c.Catalogued := by
  obtain ⟨cat, hb⟩ := h.catalog
  cases call with
  | create =>
    simp only [act, run_createContext h hb]
    refine ⟨h.nextState hb _ _, ?_⟩
    rintro c ⟨⟩
    exact Context.catalogued_of_content rfl
  | child i =>
    simp only [act]
    cases hp : made[i]? with
    | none => exact ⟨h, by simp [StateT.run, pure, StateT.pure]⟩
    | some parent =>
      have hparent := hmade parent (List.mem_of_getElem? hp)
      cases hst : parent.state with
      | none =>
        simp only [run_createChildContext_of_none hst]
        refine ⟨h, ?_⟩
        rintro c ⟨⟩
        exact hparent
      | some st =>
        obtain ⟨id, grand, hcontent⟩ := hparent st.content (by simp [Context.content?, hst])
        simp only [run_createChildContext h hb hst hcontent]
        refine ⟨h.nextState hb _ _, ?_⟩
        rintro c ⟨⟩
        exact Context.catalogued_of_content rfl
  | restore token =>
    simp only [act]
    by_cases htoken : token = ""
    · subst htoken
      simp only [run_contextFromToken_empty]
      refine ⟨h, ?_⟩
      rintro c ⟨⟩
      exact Context.catalogued_empty
    · rw [run_contextFromToken h.stateful htoken]
      cases hread : s.backend.stateFromToken token with
      | error e =>
        refine ⟨h, ?_⟩
        rintro c ⟨⟩
      | ok content =>
        refine ⟨h.withSerial _, ?_⟩
        rintro c ⟨⟩
        -- the catalog reads a token only into a state of its own
        rw [hb] at hread
        simp only [Backend.stateFromToken, Catalog.stateOfToken] at hread
        split at hread
        · cases hread
          exact Context.catalogued_of_content rfl
        · cases hread

theorem run_keep (made : List Context) (call : ContextCall) :
    (keep made call).run s =
      match (call.act made).run s with
      | (.ok c, s') => (made ++ [c], s')
      | (.error _, s') => (made, s') := by
  simp only [keep, StateT.run_bind]
  rcases (call.act made).run s with ⟨_ | c, s'⟩ <;> rfl

/-- Calls one after another on a stateful catalog make only catalogued
contexts and leave a stateful catalog. -/
theorem foldlM_keep_catalogued (calls : List ContextCall) :
    ∀ (made : List Context) (s : Session), s.StatefulCatalog → (∀ c ∈ made, c.Catalogued) →
      ((calls.foldlM keep made).run s).2.StatefulCatalog ∧
        ∀ c ∈ ((calls.foldlM keep made).run s).1, c.Catalogued := by
  induction calls with
  | nil => intro made s h hmade; exact ⟨h, hmade⟩
  | cons call calls ih =>
    intro made s h hmade
    obtain ⟨hs', hc⟩ := act_catalogued h hmade call
    rw [List.foldlM_cons, StateT.run_bind, run_keep]
    revert hs' hc
    rcases (call.act made).run s with ⟨_ | c, s'⟩
    · intro hs' _
      exact ih made s' hs' hmade
    · intro hs' hc
      refine ih (made ++ [c]) s' hs' ?_
      intro d hd
      rcases List.mem_append.1 hd with hd | hd
      · exact hmade d hd
      · rw [List.mem_singleton.1 hd]
        exact hc c rfl

end ContextCall

namespace Session

variable {s : Session}

/-- A child made on a stateful catalog records its parent's number. -/
theorem child_records_parent (h : s.StatefulCatalog) {parent : Context} {id : UInt64}
    {grand : Option UInt64} (hp : parent.content? = some (.catalog id grand)) :
    ∃ child n, ((createChildContext parent).run s).1 = .ok child ∧
      child.content? = some (.catalog n (some id)) := by
  obtain ⟨cat, hb⟩ := h.catalog
  obtain ⟨st, hst, hcontent⟩ := Option.map_eq_some_iff.1 hp
  rw [run_createChildContext h hb hst hcontent]
  exact ⟨_, cat.nextState, rfl, rfl⟩

end Session

open Session in
/-- Tokens of the in-memory catalog restore the states they were made from,
in particular for every context a chain of calls makes; a child records its
parent; a manager without `Stateful` persists nothing. -/
theorem persisted_contexts_restore :
    (∀ s₁ s₂ : Session, s₁.StatefulCatalog → s₂.StatefulCatalog → ∀ c : Context, c.Catalogued →
      ∃ token c', (persistenceToken c).run s₁ = (.ok token, s₁) ∧
        ((contextFromToken token).run s₂).1 = .ok c' ∧ c'.content? = c.content?) ∧
    (∀ (s : Session) (calls : List ContextCall), s.StatefulCatalog →
      let (made, s') := (ContextCall.runAll calls).run s
      ∀ c ∈ made, ∃ token c', (persistenceToken c).run s' = (.ok token, s') ∧
        ((contextFromToken token).run s').1 = .ok c' ∧ c'.content? = c.content?) ∧
    (∀ s : Session, s.StatefulCatalog → ∀ (parent : Context) (id : UInt64) (grand : Option UInt64),
      parent.content? = some (.catalog id grand) →
      ∃ child n, ((createChildContext parent).run s).1 = .ok child ∧
        child.content? = some (.catalog n (some id))) ∧
    (∀ s : Session, s.backend.hasCapability .stateful = false → ∀ c : Context,
      (persistenceToken c).run s = (.ok "", s) ∧
        ∃ c', ((contextFromToken "").run s).1 = .ok c' ∧ c'.state = none) := by
  refine ⟨?_, ?_, ?_, ?_⟩
  · intro s₁ s₂ h₁ h₂ c hc
    exact persistence_round_trip h₁ h₂ hc
  · intro s calls h
    -- every context the chain makes is catalogued, and the manager is still a stateful catalog
    obtain ⟨hs', hmade⟩ := ContextCall.foldlM_keep_catalogued calls [] s h (by simp)
    intro c hc
    exact persistence_round_trip hs' hs' (hmade c hc)
  · intro s h parent id grand hp
    exact child_records_parent h hp
  · intro s hcap c
    exact ⟨persistenceToken_of_stateless hcap c, {}, by rw [run_contextFromToken_empty], rfl⟩

/-- The largest state number, with parent zero, survives a round trip
through its token. -/
theorem largest_state_restored :
    (Session.start (.catalog {}) Host.testing).StatefulCatalog ∧
      ({ state := some ⟨1, .catalog 18446744073709551615 (some 0), false⟩ } : Context).Catalogued ∧
      ∃ token c', (Session.persistenceToken
            { state := some ⟨1, .catalog 18446744073709551615 (some 0), false⟩ }).run
            (Session.start (.catalog {}) Host.testing) =
          (.ok token, Session.start (.catalog {}) Host.testing) ∧
        ((Session.contextFromToken token).run (Session.start (.catalog {}) Host.testing)).1 = .ok c' ∧
        c'.content? = some (.catalog 18446744073709551615 (some 0)) := by
  have hs : (Session.start (.catalog {}) Host.testing).StatefulCatalog := ⟨⟨{}, rfl⟩, by decide⟩
  have hc : ({ state := some ⟨1, .catalog 18446744073709551615 (some 0), false⟩ } : Context).Catalogued :=
    Context.catalogued_of_content rfl
  exact ⟨hs, hc, persisted_contexts_restore.1 _ _ hs hs _ hc⟩

end AssetBroker
