import AssetBroker.Script.Plugins
import AssetBroker.Proofs.LibraryHandles

/-!
# What a manager's bench holds on its binary

A bench holds its manager's binary through the manager while it is open,
each open pager and each context whose state is anchored
(`ManagerBench.binaryHolds`). Only closing the manager changes whether it is
closed, and it closes once nothing holds it: so a closed manager has no
handle and no pager (`Session.Clean`), and every step the caller can ask of
it needs a handle or a pager. Every state a manager hands out carries the
manager's anchor.

From these, `ManagerBench.managerStep_follows`: a step of a manager script
keeps a bench sound, keeps its anchor, and never brings back a hold once the
bench held nothing. A sound bench whose manager anchors its states counts
exactly the open manager, its open pagers and its contexts with a state
(`ManagerBench.Sound.binaryHolds_eq`).
-/

namespace AssetBroker

namespace Session

/-- A closed manager has no handle and no pager left. -/
def Clean (s : Session) : Prop := s.closed = true → s.handles = 0 ∧ s.pagers = []

/-- A step that leaves the manager open or closed as it was, and the anchor
of its states. -/
def Steady {α : Type} (a : Act α) : Prop :=
  ∀ s, (a.run s).2.closed = s.closed ∧ (a.run s).2.anchor = s.anchor

/-- A step that, run on an open manager, leaves it clean, with its anchor as
it was. -/
def Tame {α : Type} (a : Act α) : Prop :=
  ∀ s, s.closed = false → (a.run s).2.Clean ∧ (a.run s).2.anchor = s.anchor

variable {α β γ : Type}

/-! ## Steady steps -/

theorem steady_pure (x : α) : Steady (pure x : Act α) := fun _ => ⟨rfl, rfl⟩

theorem Steady.bind {x : Act α} {f : α → Act β} (hx : Steady x) (hf : ∀ a, Steady (f a)) :
    Steady (x >>= f) := by
  intro s
  obtain ⟨h₁, h₂⟩ := hx s
  obtain ⟨h₃, h₄⟩ := hf (x.run s).1 (x.run s).2
  exact ⟨h₃.trans h₁, h₄.trans h₂⟩

theorem steady_get : Steady (get : Act Session) := fun _ => ⟨rfl, rfl⟩

theorem steady_modify {g : Session → Session} (hg : ∀ s, (g s).closed = s.closed ∧ (g s).anchor = s.anchor) :
    Steady (modify g) := hg

theorem steady_forIn {xs : List γ} {b : β} {f : γ → β → Act (ForInStep β)} (hf : ∀ x b, Steady (f x b)) :
    Steady (forIn xs b f) := by
  induction xs generalizing b with
  | nil => exact steady_pure b
  | cons x xs ih =>
    rw [List.forIn_cons]
    refine (hf x b).bind fun r => ?_
    cases r with
    | done b' => exact steady_pure b'
    | yield b' => exact ih

/-- A steady step never closes an open manager, so it leaves it clean. -/
theorem Steady.tame {a : Act α} (h : Steady a) : Tame a := fun s hs =>
  ⟨fun hc => absurd ((h s).1.symm.trans hc) (by simp [hs]), (h s).2⟩

theorem Steady.bind_tame {x : Act α} {f : α → Act β} (hx : Steady x) (hf : ∀ a, Tame (f a)) :
    Tame (x >>= f) := fun s hs =>
  hf (x.run s).1 (x.run s).2 ((hx s).1.trans hs) |>.imp id fun h => h.trans (hx s).2

theorem steady_log (level : Level) (component : Component) (message : String)
    (fields : List (String × FieldValue)) : Steady (log level component message fields) :=
  steady_modify fun _ => ⟨rfl, rfl⟩

theorem steady_closeQuietly (src : PageSource) : Steady (closeQuietly src) := by
  intro s
  cases hc : (s.backend.closePager src).2 <;> simp [closeQuietly, log, hc] <;> exact ⟨rfl, rfl⟩

theorem steady_keepPager (name : String) (src : PageSource) : Steady (keepPager name src) := by
  refine steady_get.bind fun s₀ => Steady.bind (steady_modify fun _ => ⟨rfl, rfl⟩) fun _ => ?_
  split
  · exact steady_closeQuietly _
  · exact steady_pure ()

theorem steady_configure (settings : Settings) : Steady (configure settings) := by
  intro s
  cases hb : s.backend.start settings <;> simp [configure, identifier, log, hb]
  all_goals (try split) <;> exact ⟨rfl, rfl⟩

theorem steady_updateTerminology (terms : List (String × String)) : Steady (updateTerminology terms) :=
  steady_get.bind fun _ => by dsimp only; split <;> exact steady_pure _

theorem steady_managementPolicy (sets : List TraitSet) (access : PolicyAccess) :
    Steady (managementPolicy sets access) := by
  intro s
  cases hb : s.backend.managementPolicy sets access <;> simp [managementPolicy, hb]
  all_goals (try split) <;> exact ⟨rfl, rfl⟩

theorem steady_createEntityReference (candidate : String) : Steady (createEntityReference candidate) :=
  steady_get.bind fun _ => by dsimp only; split <;> exact steady_pure _

theorem steady_wrapState (content : StateContent) : Steady (wrapState content) := fun _ => ⟨rfl, rfl⟩

theorem steady_createContext : Steady createContext := by
  intro s
  by_cases hc : s.backend.hasCapability .stateful
  · cases hb : s.backend.createState <;> simp [createContext, hb, hc, wrapState] <;> exact ⟨rfl, rfl⟩
  · simp [createContext, hc]
    exact ⟨rfl, rfl⟩

theorem steady_createChildContext (parent : Context) : Steady (createChildContext parent) := by
  intro s
  cases hp : parent.state with
  | none => simp [createChildContext, hp]; exact ⟨rfl, rfl⟩
  | some st =>
    by_cases hc : s.backend.hasCapability .stateful
    · cases hb : s.backend.createChildState st.content <;>
        simp [createChildContext, hp, hb, hc, wrapState] <;> exact ⟨rfl, rfl⟩
    · simp [createChildContext, hp, hc]
      exact ⟨rfl, rfl⟩

theorem steady_persistenceToken (c : Context) : Steady (persistenceToken c) := by
  refine steady_get.bind fun _ => ?_
  split
  · dsimp only
    split <;> exact steady_pure _
  · exact steady_pure _

theorem steady_require (cap : Capability) : Steady (require cap) := by
  refine steady_get.bind fun _ => ?_
  dsimp only
  split
  · exact steady_pure _
  · exact (steady_log _ _ _ _).bind fun _ => steady_pure _

theorem steady_contextFromToken (token : String) : Steady (contextFromToken token) := by
  unfold contextFromToken
  split
  · exact steady_pure _
  · refine (steady_require _).bind fun r => ?_
    split
    · exact steady_pure _
    · refine steady_get.bind fun s₀ => ?_
      split
      · exact steady_pure _
      · exact (steady_wrapState _).bind fun _ => steady_pure _

theorem steady_cloneHandle : Steady cloneHandle :=
  Steady.bind (steady_modify fun _ => ⟨rfl, rfl⟩) fun _ => steady_get.bind fun _ => steady_pure _

theorem steady_runSink {len : Nat} {stop : Bool} {call : Backend → SinkRun α → Reply α} :
    Steady (runSink len stop call) := fun _ => ⟨rfl, rfl⟩

theorem steady_gated {cap : Capability} {check : Except BrokerError Unit} {len : Nat} {stop : Bool}
    {call : Backend → SinkRun α → Reply α} : Steady (gated cap check len stop call) := by
  refine (steady_require cap).bind fun r => ?_
  split
  · exact steady_pure _
  · split
    · exact steady_pure _
    · exact steady_runSink

theorem steady_closePager (name : String) : Steady (closePager name) := by
  refine steady_get.bind fun s₀ => ?_
  split
  · exact Steady.bind (steady_modify fun _ => ⟨rfl, rfl⟩) fun _ => steady_get.bind fun _ =>
      Steady.bind (steady_modify fun _ => ⟨rfl, rfl⟩) fun _ => steady_pure _
  · exact steady_pure _

theorem steady_advancePager (name : String) (p : HostPager) : Steady (advancePager name p) := by
  unfold advancePager
  split
  · exact Steady.bind (steady_modify fun _ => ⟨rfl, rfl⟩) fun _ => steady_pure _
  · exact steady_pure _

/-! ## Closing once nothing holds the manager -/

/-- The manager closes only once no handle and no pager holds it. -/
theorem tame_settle : Tame settle := by
  intro s hs
  unfold settle
  simp only [StateT.run_bind, StateT.run_get, pure_bind]
  split
  · exact ⟨fun hc => absurd (hs.symm.trans hc) (by simp), rfl⟩
  · -- no holder is left: no handle, no pager
    rename_i hsettled
    have hheld : s.handles = 0 ∧ s.pagers = [] := by
      simp only [Bool.or_eq_true, bne_iff_ne, ne_eq, not_or, Decidable.not_not, holders] at hsettled
      exact ⟨by omega, List.eq_nil_of_length_eq_zero (by omega)⟩
    cases (s.backend.close).2 <;> simp [log] <;> exact ⟨fun _ => hheld, rfl⟩

theorem tame_dropHandle : Tame dropHandle :=
  Steady.bind_tame (steady_modify fun _ => ⟨rfl, rfl⟩) fun _ => tame_settle

theorem tame_dropPager (name : String) : Tame (dropPager name) := by
  refine steady_get.bind_tame fun s₀ => Steady.bind_tame (steady_modify fun _ => ⟨rfl, rfl⟩) fun _ => ?_
  split
  · exact (steady_closeQuietly _).bind_tame fun _ => tame_settle
  · exact (steady_pure ()).bind_tame fun _ => tame_settle

theorem steady_references (texts : List String) : Steady (Query.references texts) := by
  unfold Query.references
  refine (steady_forIn fun t r => ?_).bind fun r => ?_
  · refine (steady_createEntityReference t).bind fun x => ?_
    split <;> exact steady_pure _
  · dsimp only
    split <;> exact steady_pure _

theorem steady_gatherOutcomes {texts : List String} {call : List String → Act (Ran α)}
    (hc : ∀ refs, Steady (call refs)) : Steady (Query.gatherOutcomes texts call) := by
  unfold Query.gatherOutcomes
  refine (steady_references texts).bind fun r => ?_
  split
  · exact steady_pure _
  · refine steady_createContext.bind fun c => ?_
    split
    · exact steady_pure _
    · refine (hc _).bind fun ⟨ds, result⟩ => ?_
      dsimp only
      split <;> exact steady_pure _

theorem steady_resolution (texts : List String) (traits : TraitSet) : Steady (Query.resolution texts traits) :=
  (steady_gatherOutcomes fun _ => steady_gated).bind fun _ => by split <;> exact steady_pure _

theorem steady_existence (texts : List String) : Steady (Query.existence texts) :=
  (steady_gatherOutcomes fun _ => steady_gated).bind fun _ => by split <;> exact steady_pure _

/-! ## States handed out -/

/-- The contexts a step hands out carry states anchored as the manager's, or
the state of the context they copy. -/
def Anchors (a : Act (Except BrokerError Context)) (parent : Option ManagerState) : Prop :=
  ∀ s c st, (a.run s).1 = .ok c → c.state = some st → st.anchored = s.anchor ∨ some st = parent

theorem anchors_createContext : Anchors createContext none := by
  intro s c st hc hst
  by_cases hcap : s.backend.hasCapability .stateful
  · cases hb : s.backend.createState with
    | error e => simp [createContext, hb, hcap] at hc
    | ok p =>
      simp [createContext, hb, hcap, wrapState] at hc
      obtain rfl := Except.ok.inj hc
      obtain rfl := Option.some.inj hst
      exact .inl rfl
  · simp [createContext, hcap] at hc
    obtain rfl := Except.ok.inj hc
    cases hst

theorem anchors_createChildContext (parent : Context) : Anchors (createChildContext parent) parent.state := by
  intro s c st hc hst
  cases hp : parent.state with
  | none =>
    simp [createChildContext, hp] at hc
    obtain rfl := Except.ok.inj hc
    exact .inr (hst.symm.trans hp)
  | some pst =>
    by_cases hcap : s.backend.hasCapability .stateful
    · cases hb : s.backend.createChildState pst.content with
      | error e => simp [createChildContext, hp, hb, hcap] at hc
      | ok q =>
        simp [createChildContext, hp, hb, hcap, wrapState] at hc
        obtain rfl := Except.ok.inj hc
        obtain rfl := Option.some.inj hst
        exact .inl rfl
    · simp [createChildContext, hp, hcap] at hc
      obtain rfl := Except.ok.inj hc
      exact .inr (hst.symm.trans hp)

theorem anchors_contextFromToken (token : String) : Anchors (contextFromToken token) none := by
  intro s c st hc hst
  by_cases hempty : token.isEmpty
  · simp [contextFromToken, hempty] at hc
    obtain rfl := Except.ok.inj hc
    cases hst
  · by_cases hcap : s.backend.hasCapability .stateful
    · cases hb : s.backend.stateFromToken token with
      | error e => simp [contextFromToken, require, hempty, hcap, hb] at hc
      | ok content =>
        simp [contextFromToken, require, hempty, hcap, hb, wrapState] at hc
        obtain rfl := Except.ok.inj hc
        obtain rfl := Option.some.inj hst
        exact .inl rfl
    · simp [contextFromToken, require, hempty, hcap, log] at hc

end Session

namespace Script

open Session

variable {α : Type}

theorem steady_plainBatch {shape : Shape} {policy : Policy} {len : Nat} {encode : α → Json}
    {call : Bool → Act (Ran α)} (hc : ∀ stop, Steady (call stop)) :
    Steady (plainBatch shape policy len encode call) :=
  (hc _).bind fun _ => steady_pure _

theorem steady_discardAll (srcs : List PageSource) : Steady (discardAll srcs) := by
  unfold discardAll
  refine (steady_forIn fun src r => ?_).bind fun _ => steady_pure _
  exact (steady_closeQuietly src).bind fun _ => steady_pure _

theorem steady_pagedBatch {shape : Shape} {policy : Policy} {len : Nat} {name : String}
    {call : Bool → Act (Ran PageSource)} (hc : ∀ stop, Steady (call stop)) :
    Steady (pagedBatch shape policy len name call) := by
  -- every pager handed over is kept, every other one let go; neither closes the manager
  have hkeep : ∀ {β : Type} n src (x : β), Steady (do keepPager n src; pure x : Act β) := fun n src x =>
    (steady_keepPager n src).bind fun _ => steady_pure x
  unfold pagedBatch
  split
  · refine (hc false).bind fun ⟨ds, result⟩ => ?_
    dsimp only
    refine (steady_forIn fun d ev => ?_).bind fun ev => ?_
    · split
      · exact hkeep _ _ _
      · exact steady_pure _
    · split <;> exact steady_pure _
  · refine (hc _).bind fun ⟨ds, result⟩ => ?_
    dsimp only
    split
    · exact (steady_discardAll _).bind fun _ => steady_pure _
    · exact hkeep _ _ _
    · exact steady_pure _
    · exact hkeep _ _ _
  · refine (hc _).bind fun ⟨ds, result⟩ => ?_
    dsimp only
    split
    · exact (steady_discardAll _).bind fun _ => steady_pure _
    · refine (steady_forIn fun x ev => ?_).bind fun _ => steady_pure _
      split
      · exact hkeep _ _ _
      · exact steady_pure _
    · exact (steady_forIn fun x ev => hkeep _ _ _).bind fun _ => steady_pure _

theorem bind_eq_ok {β ε : Type} {x : Except ε α} {f : α → Except ε β} {v : β} :
    (x >>= f) = .ok v ↔ ∃ a, x = .ok a ∧ f a = .ok v := by
  cases x <;> simp [bind, Except.bind]

theorem pure_eq_ok {ε : Type} {a v : α} : (pure a : Except ε α) = .ok v ↔ a = v := by
  simp [pure, Except.pure]

theorem needManager_eq_ok {b : ManagerBench} {u : Unit} : needManager b = .ok u ↔ b.session.handles ≠ 0 := by
  unfold needManager
  split <;> simp_all

/-- A context a step names is one the bench keeps, or the blank one. -/
theorem contextArg_eq_ok {b : ManagerBench} {step : Json} {key : String} {c : Context}
    (h : contextArg b step key = .ok c) : c.state = none ∨ ∃ e ∈ b.contexts, e.2 = c := by
  unfold contextArg at h
  rw [bind_eq_ok] at h
  obtain ⟨name, -, h⟩ := h
  cases name with
  | none =>
    obtain rfl := Except.ok.inj h
    exact .inl rfl
  | some name =>
    dsimp only at h
    split at h
    · rename_i c' hfind
      obtain rfl := Except.ok.inj h
      exact .inr ⟨_, Keyed.mem_of_find?_eq_some hfind, rfl⟩
    · cases h

end Script

namespace ManagerBench

/-- A bench as the steps of its manager leave it: a closed manager has no
handle and no pager, and every state kept is anchored as the manager's
states are. -/
structure Sound (b : ManagerBench) : Prop where
  clean : b.session.Clean
  anchored : ∀ e ∈ b.contexts, ∀ st, e.2.state = some st → st.anchored = b.session.anchor

/-- A move from `b` to `b'` that keeps the bench sound and its anchor, and
holds nothing on the binary once the bench held nothing. -/
structure Follows (b b' : ManagerBench) : Prop where
  sound : b'.Sound
  anchor : b'.session.anchor = b.session.anchor
  dead : b.binaryHolds = 0 → b'.binaryHolds = 0

variable {α : Type} {b b₁ : ManagerBench}

theorem binaryHolds_eq_zero_iff : b.binaryHolds = 0 ↔ b.session.closed = true ∧
    (∀ p ∈ b.session.pagers, p.2.source = none) ∧ ∀ e ∈ b.contexts, e.2.state.any (·.anchored) = false := by
  unfold binaryHolds
  simp [List.filter_eq_nil_iff, and_assoc]

theorem Sound.open_of_handles (hb : b.Sound) (hh : b.session.handles ≠ 0) : b.session.closed = false := by
  cases hc : b.session.closed with
  | false => rfl
  | true => exact absurd (hb.clean hc).1 hh

theorem Sound.open_of_pager (hb : b.Sound) {name : String} {p : HostPager}
    (hp : Keyed.find? name b.session.pagers = some p) : b.session.closed = false := by
  cases hc : b.session.closed with
  | false => rfl
  | true =>
    rw [(hb.clean hc).2] at hp
    cases hp

theorem Sound.follows_refl (hb : b.Sound) : Follows b b := ⟨hb, rfl, id⟩

/-- A step on an open manager: the contexts stay, and the open manager held
the binary before. -/
theorem Sound.follows_act (hb : b.Sound) (hopen : b.session.closed = false) {a : Act α}
    (ha : Session.Tame a) : Follows b (b.act a).2 := by
  obtain ⟨hclean, hanchor⟩ := ha b.session hopen
  refine ⟨⟨hclean, fun e he st hst => (hb.anchored e he st hst).trans hanchor.symm⟩, hanchor, fun h0 => ?_⟩
  exact absurd (binaryHolds_eq_zero_iff.1 h0).1 (by simp [hopen])

theorem Follows.keepContext (h : Follows b b₁) (name : Option String) {c : Context}
    (hc : ∀ st, c.state = some st → st.anchored = b₁.session.anchor)
    (hdead : b.binaryHolds = 0 → c.state.any (·.anchored) = false) :
    Follows b (b₁.keepContext name c) := by
  cases name with
  | none => exact h
  | some n =>
    refine ⟨⟨h.sound.clean, fun e he st hst => ?_⟩, h.anchor, fun h0 => ?_⟩
    · rcases Keyed.mem_insert he with rfl | hold
      · exact hc st hst
      · exact h.sound.anchored e hold st hst
    · obtain ⟨hclosed, hpagers, hcontexts⟩ := binaryHolds_eq_zero_iff.1 (h.dead h0)
      refine binaryHolds_eq_zero_iff.2 ⟨hclosed, hpagers, fun e he => ?_⟩
      rcases Keyed.mem_insert he with rfl | hold
      · exact hdead h0
      · exact hcontexts e hold

/-- A step on an open manager that hands out a context, kept under a name. -/
theorem Sound.follows_handOut (hb : b.Sound) (hopen : b.session.closed = false)
    {a : Act (Except BrokerError Context)} {parent : Option ManagerState} (ha : Session.Tame a)
    (hanch : Session.Anchors a parent) (hparent : ∀ st, parent = some st → st.anchored = b.session.anchor)
    (name : Option String) {c : Context} (hr : (b.act a).1 = .ok c) :
    Follows b ((b.act a).2.keepContext name c) := by
  have h := hb.follows_act hopen ha
  refine h.keepContext name (fun st hst => ?_) fun h0 => absurd (binaryHolds_eq_zero_iff.1 h0).1 (by simp [hopen])
  rcases hanch b.session c st hr hst with hst' | hst'
  · exact hst'.trans h.anchor.symm
  · exact (hparent st hst'.symm).trans h.anchor.symm

/-- A copy of a kept or blank context, kept under a name. -/
theorem Sound.follows_copy (hb : b.Sound) (name : Option String) {c c' : Context}
    (hc : c.state = none ∨ ∃ e ∈ b.contexts, e.2 = c) (hst : c'.state = c.state) :
    Follows b (b.keepContext name c') := by
  refine hb.follows_refl.keepContext name (fun st h => ?_) fun h0 => ?_
  · rw [hst] at h
    rcases hc with hn | ⟨e, he, rfl⟩
    · rw [hn] at h
      cases h
    · exact hb.anchored e he st h
  · rw [hst]
    rcases hc with hn | ⟨e, he, rfl⟩
    · simp [hn]
    · exact (binaryHolds_eq_zero_iff.1 h0).2.2 e he

/-- Every bench a step of a manager script answers with satisfies `P`. -/
def Yields (P : ManagerBench → Prop) (x : Script.Read (Json × ManagerBench)) : Prop :=
  ∀ v, x = .ok v → P v.2

section Yields

variable {P : ManagerBench → Prop} {γ : Type}

@[simp] theorem yields_bind {x : Script.Read γ} {f : γ → Script.Read (Json × ManagerBench)} :
    Yields P (x >>= f) ↔ ∀ a, x = .ok a → Yields P (f a) := by
  simp only [Yields, Script.bind_eq_ok, forall_exists_index, and_imp]
  exact ⟨fun h a ha v hv => h v a ha hv, fun h v a ha hv => h a ha v hv⟩

@[simp] theorem yields_pure {v : Json × ManagerBench} : Yields P (pure v) ↔ P v.2 := by
  simp only [Yields, Script.pure_eq_ok, forall_eq']

@[simp] theorem yields_error {e : Json} : Yields P (.error e) ↔ True := by
  simp [Yields]

@[simp] theorem yields_ite {c : Prop} [Decidable c] {x y : Script.Read (Json × ManagerBench)} :
    Yields P (if c then x else y) ↔ (c → Yields P x) ∧ (¬c → Yields P y) := by
  split <;> simp_all

end Yields

theorem pagerArg_eq_ok {step : Json} {name : String} {p : HostPager}
    (h : Script.pagerArg b step = .ok (name, p)) : Keyed.find? name b.session.pagers = some p := by
  unfold Script.pagerArg at h
  rw [Script.bind_eq_ok] at h
  obtain ⟨n, -, h⟩ := h
  split at h
  · rename_i p' hfind
    obtain ⟨rfl, rfl⟩ := Prod.mk.inj (Except.ok.inj h)
    exact hfind
  · cases h

/-- A step on a held pager: the manager is open while the pager is held. -/
theorem pagerStep_follows (hb : b.Sound) {counted : Bool} {step : Json} {op : String} :
    Yields (Follows b) (Script.pagerStep counted b step op) := by
  unfold Script.pagerStep
  simp only [yields_bind]
  rintro ⟨name, p⟩ hp
  have hopen := hb.open_of_pager (pagerArg_eq_ok hp)
  dsimp only
  split
  all_goals try simp only [yields_pure, yields_error]
  case h_1 | h_2 | h_3 | h_4 => exact hb.follows_refl
  case h_5 => exact hb.follows_act hopen (Session.steady_advancePager name p).tame
  case h_6 =>
    -- whatever the close reports, the bench is the one it left
    have h := hb.follows_act hopen (Session.steady_closePager name).tame
    cases (b.act (Session.closePager name)).1 <;> exact yields_pure.2 h
  case h_7 => exact hb.follows_act hopen (Session.tame_dropPager name)

theorem batchStep_follows (hb : b.Sound) {step : Json} {op : String} :
    Yields (Follows b) (Script.batchStep b step op) := by
  -- whatever fields it reads, a batch step needs a handle and runs one
  -- steady batch call on the open manager
  have hcall : ∀ A : Act Json, Session.Steady A → b.session.handles ≠ 0 → Follows b (b.act A).2 :=
    fun A hA hh => hb.follows_act (hb.open_of_handles hh) hA.tame
  unfold Script.batchStep
  simp only [yields_bind]
  intro shape _ policy _
  split
  all_goals try simp only [yields_bind, yields_pure, yields_error, yields_ite, Script.needManager_eq_ok]
  all_goals (repeat' first | intro _ | apply And.intro)
  all_goals first
    | exact hcall _ (Script.steady_plainBatch fun _ => Session.steady_gated) ‹_›
    | exact hcall _ (Script.steady_pagedBatch fun _ => Session.steady_gated) ‹_›
    -- a bound manager's paged queries go through the binding's relay
    | exact hcall _ (Script.steady_pagedBatch fun _ => by split <;> exact Session.steady_gated) ‹_›

/-- A step on an open manager that hands out a context: the bench keeps the
context under the name asked for, or stays as the step left it. -/
theorem Sound.yields_handOut (hb : b.Sound) (hh : b.session.handles ≠ 0)
    {a : Act (Except BrokerError Context)} {parent : Option ManagerState} (ha : Session.Tame a)
    (hanch : Session.Anchors a parent) (hparent : ∀ st, parent = some st → st.anchored = b.session.anchor)
    (name : Option String) (f : Context → Json) (g : BrokerError → Json) :
    Yields (Follows b) (match (b.act a).1 with
      | .ok c => pure (f c, (b.act a).2.keepContext name c)
      | .error e => pure (g e, (b.act a).2)) := by
  have hopen := hb.open_of_handles hh
  split
  · rename_i c hr
    exact yields_pure.2 (hb.follows_handOut hopen ha hanch hparent name hr)
  · exact yields_pure.2 (hb.follows_act hopen ha)

/-- A step of a manager script keeps the bench sound and its anchor, and
never brings back a hold on the binary once the bench held nothing: every step
that reaches the manager needs a handle or a pager, which a closed manager
lacks. -/
theorem managerStep_follows (hb : b.Sound) {counted : Bool} {step : Json} :
    Yields (Follows b) (Script.managerStep counted b step) := by
  have hact : ∀ {α : Type} (a : Act α), Session.Steady a → b.session.handles ≠ 0 → Follows b (b.act a).2 :=
    fun a ha hh => hb.follows_act (hb.open_of_handles hh) ha.tame
  unfold Script.managerStep
  simp only [yields_bind]
  intro op _
  split
  all_goals try simp only [yields_bind, yields_pure, yields_ite, Script.needManager_eq_ok]
  all_goals intros
  all_goals try (apply And.intro <;> intros)
  -- the steps that read the manager or the bench and change neither
  case h_1 | h_2 | h_3 | h_4 | h_6 | h_8 | h_14 | h_18 | h_20 | h_22 | h_24 | h_25 | h_26 | h_27 =>
    exact hb.follows_refl
  -- the steps that run one steady step on the manager
  case h_5 => exact hact _ (Session.steady_configure _) ‹_›
  case h_7 => exact hact _ (Session.steady_updateTerminology _) ‹_›
  case h_9 => exact hact _ (Session.steady_managementPolicy _ _) ‹_›
  case h_12 => exact hact _ (Session.steady_persistenceToken _) ‹_›
  case h_19 => exact hact _ (Session.steady_createEntityReference _) ‹_›
  case h_21 => exact hact _ Session.steady_cloneHandle ‹_›
  case h_28 => exact hact _ (Session.steady_resolution _ _) ‹_›
  case h_29 => exact hact _ (Session.steady_existence _) ‹_›
  -- the steps that hand out a context
  case h_10 =>
    exact hb.yields_handOut ‹_› Session.steady_createContext.tame Session.anchors_createContext
      (fun _ h => by cases h) _ _ _
  case h_11 parent _ _ _ _ _ =>
    refine hb.yields_handOut ‹_› (Session.steady_createChildContext parent).tame
      (Session.anchors_createChildContext parent) (fun st hst => ?_) _ _ _
    rcases Script.contextArg_eq_ok ‹Script.contextArg b step "parent" = .ok parent› with hn | ⟨e, he, rfl⟩
    · rw [hn] at hst
      cases hst
    · exact hb.anchored e he st hst
  case h_13 =>
    exact hb.yields_handOut ‹_› (Session.steady_contextFromToken _).tame (Session.anchors_contextFromToken _)
      (fun _ h => by cases h) _ _ _
  -- the steps that copy a context under a name
  case h_15 | h_16 =>
    have hc := Script.contextArg_eq_ok ‹Script.contextArg b step "ctx" = _›
    exact hb.follows_copy _ hc rfl
  case h_17 =>
    -- comparing two states changes nothing
    repeat' split
    all_goals simp only [yields_bind]
    all_goals intros
    all_goals (repeat' split) <;> exact yields_pure.2 hb.follows_refl
  -- dropping a handle needs one
  case h_23.left => exact nomatch ‹Except.error Script.noManager = Except.ok _›
  case h_23.right => exact hb.follows_act (hb.open_of_handles (by omega)) Session.tame_dropHandle
  case h_30 | h_31 | h_32 | h_33 | h_34 | h_35 | h_36 => exact pagerStep_follows hb
  case h_37 => exact batchStep_follows hb

theorem Follows.trans {b₂ : ManagerBench} (h₁ : Follows b b₁) (h₂ : Follows b₁ b₂) : Follows b b₂ :=
  ⟨h₂.sound, h₂.anchor.trans h₁.anchor, h₂.dead ∘ h₁.dead⟩

/-! ## What a bench keeps alive -/

/-- What a bench keeps alive of its manager's code: the manager while it is
open, each pager still open, and each context with a state. -/
def liveObjects (b : ManagerBench) : Nat :=
  (if b.session.closed then 0 else 1) +
    (b.session.pagers.filter fun (_, p) => p.source.isSome).length +
    (b.contexts.filter fun (_, c) => c.state.isSome).length

/-- A sound bench whose manager anchors its states holds its binary once for
everything it keeps alive. -/
theorem Sound.binaryHolds_eq (hb : b.Sound) (ha : b.session.anchor = true) : b.binaryHolds = b.liveObjects := by
  unfold binaryHolds liveObjects
  congr 2
  refine List.filter_congr fun ⟨name, c⟩ he => ?_
  show c.state.any (·.anchored) = c.state.isSome
  cases hst : c.state with
  | none => rfl
  | some st => simp [hb.anchored _ he st hst, ha]

end ManagerBench

end AssetBroker
