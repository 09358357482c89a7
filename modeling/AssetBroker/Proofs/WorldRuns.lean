import AssetBroker.Plugin.Scan
import Mathlib

/-!
# Runs of operations on the plugin world

An operation on the world may panic; `Op.Ends x w Q` says that run from `w`
it does not, and ends with an answer and a world satisfying `Q`. Sequencing
and loops have their rules, so a run is followed step by step.

Plugin discovery changes the world a little at each step. `World.Extends`
collects what a native scan keeps: the files and stand-in behaviours, every
provider made before, and `World.Sound` tables, whose binaries are what the
opener gives for their paths. A `World.Calm` step also leaves the sources
alone. Each primitive operation gets its lemma here: logging, replacing a
table, unloading what nothing holds, asking an identifier, adding a provider
and changing a loader.
-/

namespace AssetBroker

namespace Op

variable {α β γ : Type}

/-- Run from `w`, the operation finishes without a panic, with an answer and
a world that satisfy `Q`. -/
def Ends (x : Op α) (w : World) (Q : α → World → Prop) : Prop :=
  ∃ a w', x.run.run w = (.ok a, w') ∧ Q a w'

theorem run_bind (x : Op α) (f : α → Op β) (w : World) :
    (x >>= f).run.run w =
      match x.run.run w with
      | (.ok a, w') => (f a).run.run w'
      | (.error e, w') => (.error e, w') := by
  simp only [ExceptT.run_bind, StateT.run_bind]
  rcases x.run.run w with ⟨_ | _, w'⟩ <;> simp <;> rfl

@[simp] theorem run_pure (a : α) (w : World) : (pure a : Op α).run.run w = (.ok a, w) := rfl

@[simp] theorem run_throw (message : String) (w : World) :
    (throw message : Op α).run.run w = (.error message, w) := rfl

@[simp] theorem run_get (w : World) : (get : Op World).run.run w = (.ok w, w) := rfl

/-- A handled operation answers as it does, unless it panics: then the
handler runs from the world the panic left. -/
theorem run_tryCatch (x : Op α) (handle : String → Op α) (w : World) :
    (tryCatch x handle).run.run w =
      match x.run.run w with
      | (.ok a, w') => (.ok a, w')
      | (.error e, w') => (handle e).run.run w' := by
  show (ExceptT.tryCatch x handle).run.run w = _
  simp only [ExceptT.tryCatch, ExceptT.run, ExceptT.mk, StateT.run, bind, StateT.bind]
  rcases x w with ⟨_ | _, w'⟩ <;> rfl

@[simp] theorem run_modify (g : World → World) (w : World) :
    (modify g : Op Unit).run.run w = (.ok (), g w) := rfl

variable {x : Op α} {w : World} {Q R : α → World → Prop}

theorem Ends.mono (h : x.Ends w Q) (hQ : ∀ a w', Q a w' → R a w') : x.Ends w R := by
  obtain ⟨a, w', hrun, hq⟩ := h
  exact ⟨a, w', hrun, hQ a w' hq⟩

theorem ends_pure {a : α} (h : Q a w) : (pure a : Op α).Ends w Q := ⟨a, w, rfl, h⟩

/-- The rule of sequencing: what the first operation ends in is where the
second starts. -/
theorem Ends.bind {f : α → Op β} {S : β → World → Prop} (h : x.Ends w Q)
    (hf : ∀ a w', Q a w' → (f a).Ends w' S) : (x >>= f).Ends w S := by
  obtain ⟨a, w', hrun, hq⟩ := h
  obtain ⟨b, w'', hrun', hs⟩ := hf a w' hq
  refine ⟨b, w'', ?_, hs⟩
  rw [run_bind, hrun]
  exact hrun'

theorem ends_modify {g : World → World} {Q : Unit → World → Prop} (h : Q () (g w)) :
    (modify g : Op Unit).Ends w Q := ⟨(), g w, rfl, h⟩

/-- Reading the world reads the world the run starts from. -/
theorem ends_get_bind {f : World → Op β} {S : β → World → Prop} (h : (f w).Ends w S) :
    (get >>= f).Ends w S := h

/-- The rule of loops that run to the end: an invariant over what remains
to be walked, kept by each pass. -/
theorem ends_forIn {xs : List γ} {b : β} {f : γ → β → Op (ForInStep β)}
    (I : List γ → β → World → Prop)
    (hstep : ∀ y ys b w, I (y :: ys) b w → (f y b).Ends w fun r w' => ∃ b', r = .yield b' ∧ I ys b' w')
    (h0 : I xs b w) : (forIn xs b f).Ends w fun b' w' => I [] b' w' := by
  induction xs generalizing b w with
  | nil => exact ends_pure h0
  | cons y ys ih =>
    rw [List.forIn_cons]
    refine (hstep y ys b w h0).bind ?_
    rintro r w' ⟨b', rfl, hi⟩
    exact ih hi

end Op

namespace World

/-- Every binary loaded in a table is what the opener gives for its path. -/
def Sound (w : World) : Prop :=
  ∀ shelf p b, (p, b) ∈ (w.table shelf).loaded → w.opener shelf p = .ok b

/-- Whether the world has the table of a shelf: the process-wide one
always, one of the scenario's when its number is in range. -/
def HasTable (w : World) : Shelf → Prop
  | .scratch i => i < w.tables.length
  | .system => True

/-- What the operations of a native scan keep: the files, the stand-in
behaviours, the maker and binary of every provider made before, and sound
tables. -/
structure Extends (w w' : World) : Prop where
  fs : w'.fs = w.fs
  behaviours : w'.standIns.behaviours = w.standIns.behaviours
  size : w.providers.size ≤ w'.providers.size
  tables : w'.tables.length = w.tables.length
  provider : ∀ n < w.providers.size,
    (w'.provider n).maker = (w.provider n).maker ∧ (w'.provider n).binary = (w.provider n).binary
  sound : w.Sound → w'.Sound

/-- A step that extends the world and leaves its sources alone. -/
structure Calm (w w' : World) : Prop where
  frame : Extends w w'
  children : w'.children = w.children

variable {w w' w₁ w₂ w₃ : World}

theorem Extends.refl (w : World) : Extends w w :=
  ⟨rfl, rfl, Nat.le_refl _, rfl, fun _ _ => ⟨rfl, rfl⟩, id⟩

theorem Extends.trans (h₁ : Extends w₁ w₂) (h₂ : Extends w₂ w₃) : Extends w₁ w₃ where
  fs := h₂.fs.trans h₁.fs
  behaviours := h₂.behaviours.trans h₁.behaviours
  size := Nat.le_trans h₁.size h₂.size
  tables := h₂.tables.trans h₁.tables
  provider n hn := by
    obtain ⟨hm₂, hb₂⟩ := h₂.provider n (Nat.lt_of_lt_of_le hn h₁.size)
    obtain ⟨hm₁, hb₁⟩ := h₁.provider n hn
    exact ⟨hm₂.trans hm₁, hb₂.trans hb₁⟩
  sound := h₂.sound ∘ h₁.sound

theorem Calm.refl (w : World) : Calm w w := ⟨Extends.refl w, rfl⟩

theorem Calm.trans (h₁ : Calm w₁ w₂) (h₂ : Calm w₂ w₃) : Calm w₁ w₃ :=
  ⟨h₁.frame.trans h₂.frame, h₂.children.trans h₁.children⟩

/-- The opener reads the files and the stand-in behaviours only. -/
theorem opener_eq (hfs : w'.fs = w.fs) (hb : w'.standIns.behaviours = w.standIns.behaviours) :
    w'.opener = w.opener := by
  funext shelf canonical
  cases shelf <;> simp [World.opener, hfs, hb]

theorem Extends.opener (h : Extends w w') : w'.opener = w.opener := opener_eq h.fs h.behaviours

theorem Extends.hasTable (h : Extends w w') {shelf : Shelf} (ht : w.HasTable shelf) : w'.HasTable shelf := by
  cases shelf with
  | scratch i =>
    show i < w'.tables.length
    rw [h.tables]
    exact ht
  | system => trivial

/-- A step that keeps the files, the behaviours, the providers and the
sources, and loads nothing but what the opener gives, is calm. -/
theorem calm_of_tables (hfs : w'.fs = w.fs) (hb : w'.standIns.behaviours = w.standIns.behaviours)
    (hp : w'.providers = w.providers) (hc : w'.children = w.children)
    (hlen : w'.tables.length = w.tables.length) (ht : ∀ shelf p b, (p, b) ∈ (w'.table shelf).loaded →
      (p, b) ∈ (w.table shelf).loaded ∨ w.opener shelf p = .ok b) : Calm w w' where
  frame :=
    { fs := hfs
      behaviours := hb
      size := Nat.le_of_eq (by rw [hp])
      tables := hlen
      provider := fun n _ => by simp [provider, hp]
      sound := fun hs shelf p b hmem => by
        rw [opener_eq hfs hb]
        rcases ht shelf p b hmem with hold | hnew
        · exact hs shelf p b hold
        · exact hnew }
  children := hc

/-- Logging changes the trail only. -/
theorem calm_withTrail (w : World) (t : Trail) : Calm w { w with trail := t } :=
  calm_of_tables rfl rfl rfl rfl rfl fun _ _ _ h => .inl h

/-- Counting opens and unloads changes the stand-ins' counts only. -/
theorem calm_withCounts (w : World) (s : StandIns) (h : s.behaviours = w.standIns.behaviours) :
    Calm w { w with standIns := s } :=
  calm_of_tables rfl h rfl rfl rfl fun _ _ _ h => .inl h

theorem Calm.loader? (h : Calm w w') (i : Nat) : w'.loader? i = w.loader? i := by
  unfold World.loader? child
  rw [h.children]

/-- Logging adds an event to the trail and does nothing else. -/
theorem ends_log_eq (level : Level) (component : Component) (message : String)
    (fields : List (String × FieldValue)) (w : World) :
    (log level component message fields).Ends w fun _ w' =>
      w' = { w with trail := w.trail.push ⟨level, component, message, fields⟩ } :=
  Op.ends_modify rfl

@[simp] theorem run_log (level : Level) (component : Component) (message : String)
    (fields : List (String × FieldValue)) (w : World) :
    (log level component message fields).run.run w =
      (.ok (), { w with trail := w.trail.push ⟨level, component, message, fields⟩ }) := rfl

theorem ends_log (level : Level) (component : Component) (message : String)
    (fields : List (String × FieldValue)) (w : World) :
    (log level component message fields).Ends w fun _ w' => Calm w w' :=
  (ends_log_eq level component message fields w).mono fun _ _ h =>
    h ▸ calm_withTrail w _

theorem ends_logAll (events : List Event) (w : World) :
    (logAll events).Ends w fun _ w' => Calm w w' :=
  Op.ends_modify (calm_withTrail w _)

/-- Replacing a table changes that table alone. -/
theorem ends_setTable (shelf : Shelf) (t : Table) (w : World) :
    (setTable shelf t).Ends w fun _ w' =>
      w'.fs = w.fs ∧ w'.standIns = w.standIns ∧ w'.providers = w.providers ∧
        w'.children = w.children ∧ w'.tables.length = w.tables.length ∧
        (w.HasTable shelf → w'.table shelf = t) ∧
        ∀ s, w'.table s = w.table s ∨ (s = shelf ∧ w'.table s = t) := by
  refine Op.ends_modify ?_
  cases shelf with
  | system =>
    refine ⟨rfl, rfl, rfl, rfl, rfl, fun _ => rfl, fun s => ?_⟩
    cases s with
    | system => exact .inr ⟨rfl, rfl⟩
    | scratch j => exact .inl rfl
  | scratch i =>
    refine ⟨rfl, rfl, rfl, rfl, List.length_set, fun hi => by simp [table, List.getD_eq_getElem?_getD, show i < w.tables.length from hi], fun s => ?_⟩
    cases s with
    | system => exact .inl rfl
    | scratch j =>
      -- setting another index, or one past the end, leaves the table read
      simp only [table, List.getD_eq_getElem?_getD, List.getElem?_set]
      split_ifs with hij hlt
      · simp [hij]
      · subst hij
        simp [List.getElem?_eq_none (Nat.le_of_not_lt hlt)]
      · simp

theorem ends_collectShelf (shelf : Shelf) (w : World) :
    (collectShelf shelf).Ends w fun _ w' => Calm w w' := by
  unfold collectShelf
  refine Op.ends_get_bind ?_
  dsimp only
  split
  · exact Op.ends_pure (Calm.refl w)
  · refine (ends_setTable shelf _ w).bind ?_
    rintro _ w₁ ⟨hfs, hsi, hp, hc, hlen, -, ht⟩
    -- the table keeps some of the binaries it had
    have hcalm : Calm w w₁ := calm_of_tables hfs (by rw [hsi]) hp hc hlen fun s p b hmem => by
      rcases ht s with heq | ⟨rfl, heq⟩
      · exact .inl (heq ▸ hmem)
      · rw [heq] at hmem
        exact .inl (List.mem_filter.1 hmem).1
    cases shelf with
    | scratch i =>
      refine (Op.ends_modify (Q := fun _ w' => Calm w w') ?_).bind fun _ w₂ h₂ => Op.ends_pure h₂
      exact hcalm.trans (calm_withCounts w₁ _ rfl)
    | system => exact Op.ends_pure hcalm

theorem ends_collect (w : World) : collect.Ends w fun _ w' => Calm w w' := by
  unfold collect
  refine Op.ends_get_bind ?_
  -- both loops keep the world calm, pass by pass
  refine (Op.ends_forIn (fun _ _ w' => Calm w w') (fun shelf _ _ w₁ h₁ => ?_) (Calm.refl w)).bind
    fun gone w₁ h₁ => ?_
  · exact (ends_collectShelf shelf w₁).bind fun _ w₂ h₂ => Op.ends_pure ⟨_, rfl, h₁.trans h₂⟩
  · refine (Op.ends_forIn (fun _ _ w' => Calm w w') (fun path _ _ w₂ h₂ => ?_) h₁).bind
      fun _ w₂ h₂ => Op.ends_pure h₂
    exact (ends_log _ _ _ _ w₂).bind fun _ w₃ h₃ => Op.ends_pure ⟨_, rfl, h₂.trans h₃⟩

/-- Asking a provider its identifier counts the question and changes
nothing else about it. -/
theorem ends_identify (n : Nat) (w : World) :
    (identify n).Ends w fun a w' =>
      a = (w.provider n).maker.identify (w.provider n).asked ∧ Calm w w' := by
  refine ⟨_, _, rfl, rfl, ⟨⟨rfl, rfl, by simp, rfl, fun m hm => ?_, fun hs => hs⟩, rfl⟩⟩
  by_cases hnm : n = m
  · subst hnm
    simp [provider, Array.getD, hm]
  · simp [provider, Array.getD, hm, hnm]

/-- A new provider takes the next number. -/
theorem ends_addProvider (p : Provider) (w : World) :
    (addProvider p).Ends w fun n w' =>
      n = w.providers.size ∧ w'.provider n = p ∧ w'.providers.size = n + 1 ∧ Calm w w' := by
  refine ⟨_, _, rfl, rfl, by simp [provider, Array.getD], by simp, ⟨⟨rfl, rfl, by simp, rfl,
    fun m hm => ?_, fun hs => hs⟩, rfl⟩⟩
  simp [provider, Array.getD, hm, Nat.lt_succ_of_lt hm, Array.getElem_push_lt]

/-- Changing the loader of a source changes nothing else the scan reads. -/
theorem ends_updateLoader (i : Nat) (f : Loader → Loader) (w : World) :
    (updateLoader i f).Ends w fun _ w' => Extends w w' ∧ w'.loader? i = (w.loader? i).map f := by
  unfold updateLoader
  refine Op.ends_get_bind ?_
  cases hc : w.child i with
  | lazy l paths scanned =>
    refine Op.ends_modify ⟨⟨rfl, rfl, Nat.le_refl _, rfl, fun _ _ => ⟨rfl, rfl⟩, id⟩, ?_⟩
    -- a lazy source is in range, so setting it sticks
    have hi : i < w.children.size := by
      rcases Nat.lt_or_ge i w.children.size with h | h
      · exact h
      · simp [child, Array.getD, Nat.not_lt.2 h] at hc
    rw [show w.loader? i = some l by simp [loader?, hc]]
    simp [loader?, child, hi]
  | fixed ps =>
    exact Op.ends_pure ⟨Extends.refl w, by simp [loader?, hc]⟩

end World

end AssetBroker
