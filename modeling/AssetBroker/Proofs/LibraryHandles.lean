import AssetBroker.Script.Plugins
import AssetBroker.Proofs.NativeLoad
import AssetBroker.Proofs.FirstRegistration
import Mathlib

/-!
# Handles on loaded binaries

A table opens each binary once per canonical path and keeps it loaded while
something holds it. Nothing counts the holders as they come and go:
`World.holders` derives the count from what the world holds, and
`World.collect` unloads what nothing holds. This module shows the two agree
after every step a caller takes with handles: opening a path and keeping the
handle under a name, keeping a clone of a kept handle under another, and
closing one.

`World.Balanced` says they agree: each table lists a canonical path once, and
lists it exactly while something holds its binary. A call changes what is
kept and perhaps opens a binary, reaching a `World.Prepared` world, and then
unloads what nothing holds (`World.Collected`); the two together balance the
tables again (`World.Prepared.balanced_unloads`). So every call keeps the
tables balanced (`HandleCall.ends_op`), and every run does
(`HandleCall.run_calls`). The counters a caller reads follow: the reference
count of a path is the number of holders of its canonical form, the loaded
paths are the held ones in order, the opener is asked only for a path nothing
holds, an open that fails changes nothing, and a binary is unloaded exactly
when its last holder goes.
-/

namespace AssetBroker

namespace Keyed

variable {α : Type}

theorem mem_insert {key : String} {value : α} {m : List (String × α)} {e : String × α}
    (h : e ∈ insert key value m) : e = (key, value) ∨ e ∈ m := by
  induction m with
  | nil => simpa [insert] using h
  | cons kv m ih =>
    obtain ⟨k, v⟩ := kv
    unfold insert at h
    split_ifs at h with hlt heq
    · simpa using h
    · rcases List.mem_cons.1 h with h | h
      · exact .inl h
      · exact .inr (List.mem_cons_of_mem _ h)
    · rcases List.mem_cons.1 h with h | h
      · exact .inr (h ▸ List.mem_cons_self)
      · exact (ih h).imp_right (List.mem_cons_of_mem _)

theorem mem_insert_self (key : String) (value : α) (m : List (String × α)) :
    (key, value) ∈ insert key value m :=
  mem_of_find?_eq_some (find?_insert_self key value m)

theorem isSome_find?_iff {key : String} {m : List (String × α)} :
    (find? key m).isSome ↔ key ∈ m.map (·.1) := by
  induction m with
  | nil => simp [find?]
  | cons kv m ih =>
    obtain ⟨k, v⟩ := kv
    by_cases hk : k = key
    · simp [find?, hk]
    · simp [find?, hk, ih, Ne.symm hk]

end Keyed

/-- Whether the stand-in opener serves a table. -/
def Shelf.standIn : Shelf → Bool
  | .scratch _ => true
  | .system => false

namespace Op

variable {α : Type} {x : Op α} {w : World} {Q R : α → World → Prop}

/-- A run ends one way only, so what two of its descriptions say holds
together. -/
theorem Ends.and (hq : x.Ends w Q) (hr : x.Ends w R) : x.Ends w fun a w' => Q a w' ∧ R a w' := by
  obtain ⟨a, w₁, h₁, hqa⟩ := hq
  obtain ⟨b, w₂, h₂, hrb⟩ := hr
  rw [h₁] at h₂
  cases h₂
  exact ⟨a, w₁, h₁, hqa, hrb⟩

end Op

namespace World

variable {w w' w₁ : World} {r : BinaryRef}

/-! ## Holding a binary -/

/-- Whether something holds a binary: a held provider whose code it is, or a
kept thing with a hold on it. -/
def Held (w : World) (r : BinaryRef) : Prop :=
  (∃ n ∈ w.heldProviders, (w.provider n).binary = some r) ∨ ∃ e ∈ w.kept, 0 < Keepsake.holds r e.2

theorem holders_pos_iff : 0 < w.holders r ↔ w.Held r := by
  unfold holders Held
  rw [← List.sum_eq_foldr, Nat.add_pos_iff_pos_or_pos, List.length_filter_pos_iff,
    List.sum_pos_iff_exists_pos_nat]
  simp only [List.mem_eraseDups, beq_iff_eq, List.mem_map]
  constructor
  · rintro (h | ⟨x, ⟨e, he, rfl⟩, hx⟩)
    · exact .inl h
    · exact .inr ⟨e, he, hx⟩
  · rintro (h | ⟨e, he, hx⟩)
    · exact .inl h
    · exact .inr ⟨_, ⟨e, he, rfl⟩, hx⟩

/-- A provider held once the kept things change is held by a source, or by
a kept thing that was kept before. -/
theorem mem_heldProviders_of_kept {ks : List (String × Keepsake)} {n : Nat}
    (hks : ∀ e ∈ ks, e.2 = .provider n → e ∈ w.kept)
    (h : n ∈ ({ w with kept := ks } : World).heldProviders) : n ∈ w.heldProviders := by
  unfold heldProviders at h ⊢
  rw [List.mem_append, List.mem_filterMap] at h ⊢
  rcases h with h | ⟨⟨name, k⟩, he, hk⟩
  · exact .inl h
  · cases k <;> simp only [Option.some.injEq, reduceCtorEq] at hk
    exact .inr ⟨_, hks _ he (by simp [hk]), by simp [hk]⟩

/-- When the kept things change by adding handles only, whatever is held
afterwards was held before or is held by one of the handles. -/
theorem held_of_kept {ks : List (String × Keepsake)}
    (hks : ∀ e ∈ ks, e ∈ w.kept ∨ ∃ r', e.2 = .handle r')
    (h : ({ w with kept := ks } : World).Held r) : w.Held r ∨ ∃ e ∈ ks, e.2 = .handle r := by
  rcases h with ⟨n, hn, hb⟩ | ⟨e, he, hpos⟩
  · -- a handle is no provider, so the provider was kept before
    refine .inl (.inl ⟨n, mem_heldProviders_of_kept (fun e he hp => ?_) hn, hb⟩)
    rcases hks e he with hold | ⟨r', hr'⟩
    · exact hold
    · rw [hr'] at hp
      cases hp
  · rcases hks e he with hold | ⟨r', hr'⟩
    · exact .inl (.inr ⟨e, hold, hpos⟩)
    · rw [hr'] at hpos
      have : r' = r := by
        simp only [Keepsake.holds] at hpos
        split_ifs at hpos with hrr
        · exact beq_iff_eq.1 hrr
        · exact absurd hpos (Nat.lt_irrefl 0)
      exact .inr ⟨e, he, by rw [hr', this]⟩

theorem held_of_handle {e : String × Keepsake} (he : e ∈ w.kept) (hr : e.2 = .handle r) : w.Held r :=
  .inr ⟨e, he, by simp [hr, Keepsake.holds]⟩

/-! ## Unloading what nothing holds -/

/-- The tables, the counts of opens and unloads and the trail are all that
changed. -/
def OnlyTables (w w' : World) : Prop :=
  ∃ tables system opens unloads trail,
    w' = { w with tables, system, standIns := { w.standIns with opens, unloads }, trail }

theorem OnlyTables.refl (w : World) : OnlyTables w w :=
  ⟨w.tables, w.system, w.standIns.opens, w.standIns.unloads, w.trail, rfl⟩

theorem OnlyTables.trans {w₁ w₂ w₃ : World} (h₁ : OnlyTables w₁ w₂) (h₂ : OnlyTables w₂ w₃) :
    OnlyTables w₁ w₃ := by
  obtain ⟨_, _, _, _, _, rfl⟩ := h₁
  obtain ⟨t, s, o, u, tr, rfl⟩ := h₂
  exact ⟨t, s, o, u, tr, rfl⟩

theorem OnlyTables.holders (h : OnlyTables w w') : w'.holders = w.holders := by
  obtain ⟨_, _, _, _, _, rfl⟩ := h
  rfl

theorem OnlyTables.frame (h : OnlyTables w w') :
    w'.fs = w.fs ∧ w'.kept = w.kept ∧ w'.standIns.behaviours = w.standIns.behaviours := by
  obtain ⟨_, _, _, _, _, rfl⟩ := h
  exact ⟨rfl, rfl, rfl⟩

theorem count_foldl_bump (c : String) (paths : List String) (counts : List (String × Nat)) :
    (Keyed.find? c (paths.foldl StandIns.bump counts)).getD 0 = (Keyed.find? c counts).getD 0 + paths.count c := by
  induction paths generalizing counts with
  | nil => rfl
  | cons p paths ih =>
    rw [List.foldl_cons, ih, List.count_cons]
    by_cases hp : p = c
    · subst hp
      simp [StandIns.bump]
      omega
    · simp [StandIns.bump, Keyed.find?_insert_ne hp, beq_iff_eq, hp]

/-- The unheld paths of a table whose unloads the stand-ins count: those of
the scenario's tables. -/
def countedUnheld (w : World) : Shelf → List String
  | .scratch k => w.unheld (.scratch k)
  | .system => []

/-- An entry of a table is let go exactly when nothing holds its binary. -/
theorem contains_unheld {s : Shelf} {e : String × Binary} (he : e ∈ (w.table s).loaded) :
    (w.unheld s).contains e.1 = (w.holders ⟨s, e.1⟩ == 0) := by
  unfold unheld
  rw [Bool.eq_iff_iff, List.contains_iff_mem, List.mem_map, beq_iff_eq]
  constructor
  · rintro ⟨e', he', hpath⟩
    have := (List.mem_filter.1 he').2
    simp only [beq_iff_eq] at this
    rw [← hpath]
    exact this
  · intro h
    exact ⟨e, List.mem_filter.2 ⟨he, by simpa using h⟩, rfl⟩

theorem ends_setTable_onlyTables (s : Shelf) (t : Table) (w : World) :
    (setTable s t).Ends w fun _ w' => OnlyTables w w' := by
  cases s with
  | scratch k => exact Op.ends_modify ⟨_, w.system, w.standIns.opens, w.standIns.unloads, w.trail, rfl⟩
  | system => exact Op.ends_modify ⟨w.tables, _, w.standIns.opens, w.standIns.unloads, w.trail, rfl⟩

/-- Unloading the unheld binaries of one table keeps the held ones and counts
one unload for each binary of a scenario table let go. -/
theorem run_collectShelf (s : Shelf) (w : World) (ht : w.HasTable s) :
    (collectShelf s).Ends w fun gone w' => gone = w.unheld s ∧ OnlyTables w w' ∧
      w'.tables.length = w.tables.length ∧
      (w'.table s).loaded = (w.table s).loaded.filter (fun e => 0 < w.holders ⟨s, e.1⟩) ∧
      (∀ s', s' ≠ s → w'.table s' = w.table s') ∧ w'.standIns.opens = w.standIns.opens ∧
      ∀ c, w'.standIns.unloadCount c = w.standIns.unloadCount c + (w.countedUnheld s).count c := by
  unfold collectShelf
  refine Op.ends_get_bind ?_
  dsimp only
  split
  · -- nothing is unheld: the table stays, and so do the counts
    rename_i hempty
    have hgone : w.unheld s = [] := List.isEmpty_iff.1 hempty
    refine Op.ends_pure ⟨hgone.symm, OnlyTables.refl w, rfl, ?_, fun _ _ => rfl, rfl, fun c => ?_⟩
    · refine (List.filter_eq_self.2 fun e he => ?_).symm
      have hheld := contains_unheld he
      rw [hgone, List.contains_nil] at hheld
      have h0 : w.holders ⟨s, e.1⟩ ≠ 0 := fun h => by simp [h] at hheld
      simpa [Nat.pos_iff_ne_zero] using h0
    · cases s <;> simp [countedUnheld, hgone]
  · have hfilter : ((w.table s).loaded.filter fun e => !(w.unheld s).contains e.1) =
        (w.table s).loaded.filter (fun e => 0 < w.holders ⟨s, e.1⟩) := by
      refine List.filter_congr fun e he => ?_
      rw [contains_unheld he]
      by_cases h0 : w.holders ⟨s, e.1⟩ = 0 <;> simp [h0, Nat.pos_iff_ne_zero]
    refine ((ends_setTable s _ w).and (ends_setTable_onlyTables s _ w)).bind
      fun _ w₁ ⟨⟨_, hsi, _, _, hlen, hset, hrest⟩, h₁⟩ => ?_
    have hothers : ∀ s', s' ≠ s → w₁.table s' = w.table s' := fun s' hne =>
      (hrest s').resolve_right fun h => hne h.1
    cases s with
    | scratch k =>
      refine (Op.ends_modify (Q := fun _ w₂ => w₂ = { w₁ with standIns :=
        { w₁.standIns with unloads := (w.unheld (.scratch k)).foldl StandIns.bump w₁.standIns.unloads } }) rfl).bind
        fun _ w₂ h₂ => Op.ends_pure ⟨rfl, ?_, ?_, ?_, ?_, ?_, fun c => ?_⟩
      all_goals subst h₂
      · exact h₁.trans ⟨w₁.tables, w₁.system, w₁.standIns.opens, _, w₁.trail, rfl⟩
      · exact hlen
      · exact (congrArg Table.loaded (hset ht)).trans hfilter
      · exact hothers
      · exact (congrArg StandIns.opens hsi : _)
      · simp only [StandIns.unloadCount, count_foldl_bump, hsi, countedUnheld]
    | system =>
      refine Op.ends_pure ⟨rfl, h₁, hlen, (congrArg Table.loaded (hset ht)).trans hfilter, hothers,
        congrArg StandIns.opens hsi, fun c => ?_⟩
      simp [StandIns.unloadCount, hsi, countedUnheld]

/-- What unloading every unheld binary leaves: each table keeps what
something holds, the stand-ins count one unload for each binary of a scenario
table let go, and only the tables, the counts and the trail change. -/
structure Collected (w w' : World) : Prop where
  only : OnlyTables w w'
  length : w'.tables.length = w.tables.length
  opens : w'.standIns.opens = w.standIns.opens
  table : ∀ s, w.HasTable s →
    (w'.table s).loaded = (w.table s).loaded.filter fun e => 0 < w.holders ⟨s, e.1⟩
  unloads : ∀ c, w'.standIns.unloadCount c = w.standIns.unloadCount c +
    (((List.range w.tables.length).map Shelf.scratch ++ [Shelf.system]).flatMap w.countedUnheld).count c

theorem ends_collect_collected (w : World) : collect.Ends w fun _ w' => Collected w w' := by
  unfold collect
  refine Op.ends_get_bind ?_
  -- table by table: one not reached yet is as it was, one passed keeps what
  -- is held, and the counts grew by what the passed tables let go
  refine (Op.ends_forIn (fun todo _ w₁ => OnlyTables w w₁ ∧ w₁.tables.length = w.tables.length ∧
      w₁.standIns.opens = w.standIns.opens ∧ todo.Nodup ∧ (∀ s ∈ todo, w.HasTable s ∧ w₁.table s = w.table s) ∧
      (∀ s, w.HasTable s → s ∉ todo →
        (w₁.table s).loaded = (w.table s).loaded.filter fun e => 0 < w.holders ⟨s, e.1⟩) ∧
      ∀ c, w₁.standIns.unloadCount c + (todo.flatMap w.countedUnheld).count c =
        w.standIns.unloadCount c +
          (((List.range w.tables.length).map Shelf.scratch ++ [Shelf.system]).flatMap w.countedUnheld).count c)
    (fun s todo _ w₁ h₁ => ?_) ⟨OnlyTables.refl w, rfl, rfl, ?_, ?_, ?_, fun _ => rfl⟩).bind
    fun gone w₁ h₁ => ?_
  · obtain ⟨honly, hlen, hopens, hnodup, hsame, hpassed, hcount⟩ := h₁
    obtain ⟨hts, hs⟩ := hsame s List.mem_cons_self
    have hts₁ : w₁.HasTable s := by
      cases s with
      | scratch k =>
        show k < w₁.tables.length
        rw [hlen]
        exact hts
      | system => trivial
    -- the table reached is still the first one's, and so is what it lets go
    have hunheld : w₁.countedUnheld s = w.countedUnheld s := by
      cases s <;> simp [countedUnheld, unheld, hs, honly.holders]
    refine (run_collectShelf s w₁ hts₁).bind fun _ w₂ ⟨_, h₂, hlen₂, htab, hothers, hopens₂, hun⟩ =>
      Op.ends_pure ⟨_, rfl, honly.trans h₂, hlen₂.trans hlen, hopens₂.trans hopens, (List.nodup_cons.1 hnodup).2,
        fun s' hs' => ?_, fun s' hts' hs' => ?_, fun c => ?_⟩
    · have hne : s' ≠ s := fun h => (List.nodup_cons.1 hnodup).1 (h ▸ hs')
      exact ⟨(hsame s' (List.mem_cons_of_mem _ hs')).1,
        (hothers s' hne).trans (hsame s' (List.mem_cons_of_mem _ hs')).2⟩
    · by_cases hne : s' = s
      · subst hne
        rw [htab, hs, honly.holders]
      · rw [hothers s' hne]
        exact hpassed s' hts' fun h => (List.mem_cons.1 h).elim hne hs'
    · rw [hun, ← hcount c, List.flatMap_cons, List.count_append, hunheld]
      omega
  · refine List.nodup_append.2 ⟨List.Nodup.map (fun _ _ h => Shelf.scratch.inj h) List.nodup_range,
      List.nodup_singleton _, ?_⟩
    simp
  · intro s hs
    refine ⟨?_, rfl⟩
    simp only [List.mem_append, List.mem_map, List.mem_range, List.mem_singleton] at hs
    rcases hs with ⟨k, hk, rfl⟩ | rfl
    · exact hk
    · trivial
  · intro s hts hs
    cases s with
    | scratch k => exact absurd (List.mem_append_left _ (List.mem_map.2 ⟨k, List.mem_range.2 hts, rfl⟩)) hs
    | system => exact absurd (by simp) hs
  · -- the events name what went, and change nothing else
    obtain ⟨honly, hlen, hopens, -, -, hpassed, hcount⟩ := h₁
    refine (Op.ends_forIn (fun _ _ w₂ => ∃ t, w₂ = { w₁ with trail := t }) (fun path _ _ w₂ h₂ => ?_)
      ⟨w₁.trail, rfl⟩).bind fun _ w₂ ⟨t, h₂⟩ => Op.ends_pure ?_
    · obtain ⟨t, rfl⟩ := h₂
      exact (ends_log_eq _ _ _ _ _).bind fun _ w₃ h₃ => Op.ends_pure ⟨_, rfl, _, h₃⟩
    · subst h₂
      exact ⟨honly.trans ⟨w₁.tables, w₁.system, w₁.standIns.opens, w₁.standIns.unloads, t, rfl⟩, hlen, hopens,
        fun s hts => hpassed s hts (List.not_mem_nil), fun c => by simpa using hcount c⟩

/-! ## Tables that agree with their holders -/

def isLoaded (w : World) (r : BinaryRef) : Bool := ((w.table r.shelf).binary? r.path).isSome

theorem isLoaded_iff_mem : w.isLoaded r = true ↔ ∃ b, (r.path, b) ∈ (w.table r.shelf).loaded := by
  rw [isLoaded, Table.binary?, Keyed.isSome_find?_iff, List.mem_map]
  constructor
  · rintro ⟨⟨p, b⟩, hmem, rfl⟩
    exact ⟨b, hmem⟩
  · rintro ⟨b, hmem⟩
    exact ⟨_, hmem, rfl⟩

/-- The tables agree with the holders: each lists a canonical path once, and
lists it exactly while something holds the binary. -/
structure Balanced (w : World) : Prop where
  nodup : ∀ s, w.HasTable s → ((w.table s).loaded.map (·.1)).Nodup
  loaded : ∀ r, w.HasTable r.shelf → (w.isLoaded r = true ↔ w.Held r)

/-- A world on its way through a call, before the unheld binaries go: its
tables list each path once and load everything held, and it keeps what was
loaded and loads nothing new that nothing holds. -/
structure Prepared (w w₁ : World) : Prop where
  fs : w₁.fs = w.fs
  behaviours : w₁.standIns.behaviours = w.standIns.behaviours
  length : w₁.tables.length = w.tables.length
  nodup : ∀ s, w₁.HasTable s → ((w₁.table s).loaded.map (·.1)).Nodup
  held : ∀ r, w₁.HasTable r.shelf → w₁.Held r → w₁.isLoaded r = true
  keeps : ∀ r, w.isLoaded r = true → w₁.isLoaded r = true
  fresh : ∀ r, w₁.isLoaded r = true → w.isLoaded r = true ∨ w₁.Held r
  unloads : w₁.standIns.unloads = w.standIns.unloads

theorem OnlyTables.held (h : OnlyTables w w') : w'.Held = w.Held := by
  obtain ⟨_, _, _, _, _, rfl⟩ := h
  rfl

theorem hasTable_iff_of_length (h : w'.tables.length = w.tables.length) {s : Shelf} :
    w'.HasTable s ↔ w.HasTable s := by
  cases s with
  | scratch k =>
    show k < w'.tables.length ↔ k < w.tables.length
    rw [h]
  | system => exact Iff.rfl

theorem Collected.isLoaded (h : Collected w w') (ht : w.HasTable r.shelf) :
    w'.isLoaded r = true ↔ w.isLoaded r = true ∧ w.Held r := by
  rw [isLoaded_iff_mem, isLoaded_iff_mem, h.table _ ht, ← holders_pos_iff]
  constructor
  · rintro ⟨b, hmem⟩
    exact ⟨⟨b, (List.mem_filter.1 hmem).1⟩, by simpa using (List.mem_filter.1 hmem).2⟩
  · rintro ⟨⟨b, hmem⟩, hpos⟩
    exact ⟨b, List.mem_filter.2 ⟨hmem, by simpa using hpos⟩⟩

/-- With each path listed once, a table lets a path go once when nothing
holds its binary. -/
theorem count_unheld {s : Shelf} (hnodup : ((w.table s).loaded.map (·.1)).Nodup) (x : String) :
    (w.unheld s).count x = if w.isLoaded ⟨s, x⟩ && w.holders ⟨s, x⟩ == 0 then 1 else 0 := by
  have hkeys : w.unheld s = ((w.table s).loaded.map (·.1)).filter fun p => w.holders ⟨s, p⟩ == 0 := by
    rw [unheld, List.filter_map]
    rfl
  have hmem : w.isLoaded ⟨s, x⟩ = true ↔ x ∈ (w.table s).loaded.map (·.1) := Keyed.isSome_find?_iff
  rw [hkeys]
  by_cases h0 : w.holders ⟨s, x⟩ = 0
  · rw [List.count_filter (by simpa using h0), hnodup.count]
    by_cases hx : x ∈ (w.table s).loaded.map (·.1) <;> simp [hx, h0, hmem]
  · rw [List.count_eq_zero.2 fun hx => h0 (by simpa using (List.mem_filter.1 hx).2)]
    simp [h0]

/-- Counted over the scenario's tables, the binaries at a path let go are
those loaded with nothing holding them. -/
theorem count_flatMap_countedUnheld (hnodup : ∀ s, w.HasTable s → ((w.table s).loaded.map (·.1)).Nodup)
    (x : String) (ks : List Nat) (hks : ∀ k ∈ ks, k < w.tables.length) :
    ((ks.map Shelf.scratch ++ [Shelf.system]).flatMap w.countedUnheld).count x =
      (ks.filter fun k => w.isLoaded ⟨.scratch k, x⟩ && w.holders ⟨.scratch k, x⟩ == 0).length := by
  induction ks with
  | nil => simp [countedUnheld]
  | cons k ks ih =>
    rw [List.map_cons, List.cons_append, List.flatMap_cons, List.count_append,
      ih fun k' hk' => hks k' (List.mem_cons_of_mem _ hk'), List.filter_cons]
    simp only [countedUnheld]
    rw [count_unheld (hnodup (.scratch k) (hks k List.mem_cons_self))]
    by_cases hb : (w.isLoaded ⟨.scratch k, x⟩ && w.holders ⟨.scratch k, x⟩ == 0) = true
    · simp only [hb, if_true, List.length_cons]
      omega
    · simp only [hb, if_false, Bool.false_eq_true]
      omega

/-- A call that reaches the unloading through a prepared world leaves the
tables balanced, and unloads a binary at a path once for each scenario table
where it was held and no longer is. -/
theorem Prepared.balanced_unloads (hw : w.Balanced) (hp : Prepared w w₁) (hc : Collected w₁ w') :
    w'.Balanced ∧ ∀ x, w'.standIns.unloadCount x = w.standIns.unloadCount x +
      ((List.range w.tables.length).filter fun k =>
        0 < w.holders ⟨.scratch k, x⟩ && w'.holders ⟨.scratch k, x⟩ == 0).length := by
  have hlen : w'.tables.length = w.tables.length := hc.length.trans hp.length
  have hheld : w'.Held = w₁.Held := hc.only.held
  refine ⟨⟨fun s hs => ?_, fun r hr => ?_⟩, fun x => ?_⟩
  · have hs₁ : w₁.HasTable s := (hasTable_iff_of_length hc.length).1 hs
    rw [hc.table s hs₁]
    exact (hp.nodup s hs₁).sublist ((List.filter_sublist).map _)
  · have hr₁ : w₁.HasTable r.shelf := (hasTable_iff_of_length hc.length).1 hr
    rw [hc.isLoaded hr₁, hheld]
    exact ⟨fun h => h.2, fun h => ⟨hp.held r hr₁ h, h⟩⟩
  · rw [hc.unloads, hp.length, count_flatMap_countedUnheld hp.nodup x _
      (fun k hk => hp.length ▸ List.mem_range.1 hk), StandIns.unloadCount, StandIns.unloadCount,
      hp.unloads, hc.only.holders]
    congr 2
    refine List.filter_congr fun k hk => ?_
    have hr : w.HasTable (Shelf.scratch k) := List.mem_range.1 hk
    -- with nothing holding it before the unloading, the binary was loaded
    -- in the prepared world exactly when it was loaded, so held, before
    by_cases h0 : w₁.holders ⟨.scratch k, x⟩ = 0
    · have hnot : ¬ w₁.Held ⟨.scratch k, x⟩ := by rw [← holders_pos_iff, h0]; exact Nat.lt_irrefl 0
      have hsame : w₁.isLoaded ⟨.scratch k, x⟩ = w.isLoaded ⟨.scratch k, x⟩ :=
        Bool.eq_iff_iff.2 ⟨fun h => (hp.fresh _ h).resolve_right hnot, hp.keeps _⟩
      have hbal : w.isLoaded ⟨.scratch k, x⟩ = decide (0 < w.holders ⟨.scratch k, x⟩) :=
        Bool.eq_iff_iff.2 ((hw.loaded _ hr).trans (holders_pos_iff.symm.trans decide_eq_true_iff.symm))
      simp [h0, hsame, hbal]
    · have hne : (w₁.holders ⟨.scratch k, x⟩ == 0) = false := by simpa using h0
      simp [hne]

/-! ## Opening, keeping and closing -/

variable {shelf : Shelf} {path c : String}

theorem ends_keepOrDrop_some (n : String) (k : Keepsake) (w : World) :
    (Script.Plugins.keepOrDrop (some n) k).Ends w fun _ w' =>
      Collected { w with kept := Keyed.insert n k w.kept } w' := by
  unfold Script.Plugins.keepOrDrop
  exact (Op.ends_modify (Q := fun _ w₁ => w₁ = { w with kept := Keyed.insert n k w.kept }) rfl).bind
    fun _ w₁ h₁ => h₁ ▸ ends_collect_collected w₁

theorem ends_releaseNamed_handle {n : String} (h : Keyed.find? n w.kept = some (.handle r)) :
    (Script.Plugins.releaseNamed n).Ends w fun _ w' =>
      Collected { w with kept := w.kept.filter (·.1 != n) } w' := by
  unfold Script.Plugins.releaseNamed
  refine Op.ends_get_bind ?_
  simp only [h]
  -- letting go of a handle runs nothing before the unloading
  exact (Op.ends_modify (Q := fun _ w₁ => w₁ = { w with kept := w.kept.filter (·.1 != n) }) rfl).bind
    fun _ w₁ h₁ => (Op.ends_pure (Q := fun _ w₂ => w₂ = w₁) rfl).bind fun _ w₂ h₂ => by
      subst h₁ h₂
      exact ends_collect_collected _

theorem handleNamed_eq_some_iff {n : String} :
    Script.Plugins.handleNamed w n = some r ↔ Keyed.find? n w.kept = some (.handle r) := by
  unfold Script.Plugins.handleNamed
  split <;> simp_all

theorem ends_closeHandle_of_handle {n : String} (h : Keyed.find? n w.kept = some (.handle r)) :
    (Script.Plugins.closeHandle n).Ends w fun closed w' =>
      closed = true ∧ Collected { w with kept := w.kept.filter (·.1 != n) } w' := by
  unfold Script.Plugins.closeHandle
  refine Op.ends_get_bind ?_
  rw [handleNamed_eq_some_iff.2 h]
  exact (ends_releaseNamed_handle h).bind fun _ w₁ h₁ => Op.ends_pure ⟨rfl, h₁⟩

theorem run_closeHandle_of_none {n : String} (h : Script.Plugins.handleNamed w n = none) :
    (Script.Plugins.closeHandle n).run.run w = (.ok false, w) := by
  unfold Script.Plugins.closeHandle
  simp only [Op.run_bind, Op.run_get, h, Op.run_pure]

theorem run_openBinary_of_canonicalize_error {e : IoError} (hc : w.fs.canonicalize "/" path = .error e) :
    (openBinary shelf path).run.run w = (.ok (.error (.openFailed path e.message)), w) := by
  unfold openBinary
  simp only [Op.run_bind, Op.run_get, hc, Op.run_pure]

/-- A path whose binary is loaded is opened again with nothing but a log
entry: the opener is not asked. -/
theorem ends_openBinary_of_loaded (hc : w.fs.canonicalize "/" path = .ok c)
    (hl : w.isLoaded ⟨shelf, c⟩ = true) :
    (openBinary shelf path).Ends w fun res w' => res = .ok ⟨shelf, c⟩ ∧ ∃ t, w' = { w with trail := t } := by
  unfold openBinary
  refine Op.ends_get_bind ?_
  simp only [hc]
  rw [if_pos (show ((w.table shelf).binary? c).isSome = true from hl)]
  exact (ends_log_eq _ _ _ _ w).bind fun _ w₁ h₁ => Op.ends_pure ⟨rfl, _, h₁⟩

theorem run_openBinary_of_opener_error {e : PluginError} (hc : w.fs.canonicalize "/" path = .ok c)
    (hl : w.isLoaded ⟨shelf, c⟩ = false) (he : w.opener shelf c = .error e) :
    (openBinary shelf path).run.run w = (.ok (.error e), w) := by
  unfold openBinary
  have hl' : ¬ ((w.table shelf).binary? c).isSome = true := by simpa [isLoaded] using hl
  simp only [Op.run_bind, Op.run_get, hc, if_neg hl', he, Op.run_pure]

/-- The end of a fresh open: the binary joins the end of its table. -/
theorem ends_appendLoaded (b : Binary) (ht : w.HasTable shelf) :
    (do
      let t ← get
      setTable shelf { loaded := (t.table shelf).loaded ++ [(c, b)] }
      log .debug .library "opened native plugin binary" [Event.shown "path" c]
      pure (Except.ok ⟨shelf, c⟩) : Op (Except PluginError BinaryRef)).Ends w fun res w' =>
        res = .ok ⟨shelf, c⟩ ∧ OnlyTables w w' ∧ w'.tables.length = w.tables.length ∧
        (w'.table shelf).loaded = (w.table shelf).loaded ++ [(c, b)] ∧
        (∀ s', s' ≠ shelf → w'.table s' = w.table s') ∧ w'.standIns = w.standIns := by
  refine Op.ends_get_bind ?_
  refine ((ends_setTable shelf _ w).and (ends_setTable_onlyTables shelf _ w)).bind
    fun _ w₁ ⟨⟨_, hsi, _, _, hlen, hset, hrest⟩, h₁⟩ => ?_
  refine (ends_log_eq _ _ _ _ w₁).bind fun _ w₂ h₂ => Op.ends_pure ⟨rfl, ?_, ?_, ?_, fun s' hne => ?_, ?_⟩
  all_goals subst h₂
  · exact h₁.trans ⟨w₁.tables, w₁.system, w₁.standIns.opens, w₁.standIns.unloads, _, rfl⟩
  · exact hlen
  · exact congrArg Table.loaded (hset ht)
  · exact (hrest s').resolve_right fun h => hne h.1
  · exact hsi

theorem openCount_bump (x : String) (si : StandIns) :
    ({ si with opens := StandIns.bump si.opens c } : StandIns).openCount x = si.openCount x + if x == c then 1 else 0 := by
  have h := count_foldl_bump x [c] si.opens
  simp only [List.foldl_cons, List.foldl_nil, List.count_singleton] at h
  simp only [StandIns.openCount, h]
  by_cases hx : x = c
  · simp [hx]
  · simp [hx, Ne.symm hx]

/-- A path whose binary is not loaded is opened by the opener; when it
succeeds, the binary joins its table and a stand-in counts the open. -/
theorem ends_openBinary_of_opened {b : Binary} (hc : w.fs.canonicalize "/" path = .ok c)
    (hl : w.isLoaded ⟨shelf, c⟩ = false) (hb : w.opener shelf c = .ok b) (ht : w.HasTable shelf) :
    (openBinary shelf path).Ends w fun res w' => res = .ok ⟨shelf, c⟩ ∧ OnlyTables w w' ∧
      w'.tables.length = w.tables.length ∧
      (w'.table shelf).loaded = (w.table shelf).loaded ++ [(c, b)] ∧
      (∀ s', s' ≠ shelf → w'.table s' = w.table s') ∧ w'.standIns.unloads = w.standIns.unloads ∧
      ∀ x, w'.standIns.openCount x = w.standIns.openCount x + if shelf.standIn && x == c then 1 else 0 := by
  unfold openBinary
  refine Op.ends_get_bind ?_
  have hl' : ¬ ((w.table shelf).binary? c).isSome = true := by simpa [isLoaded] using hl
  simp only [hc]
  rw [if_neg hl']
  simp only [hb]
  cases shelf with
  | scratch k =>
    -- the stand-in counts the open before the table changes
    refine (Op.ends_modify (Q := fun _ w₁ => w₁ = { w with standIns :=
      { w.standIns with opens := StandIns.bump w.standIns.opens c } }) rfl).bind fun _ w₁ h₁ => ?_
    subst h₁
    have ht₁ : ({ w with standIns := { w.standIns with opens := StandIns.bump w.standIns.opens c } } : World).HasTable
        (.scratch k) := ht
    refine (ends_appendLoaded b ht₁).mono fun res w' ⟨hres, h', hlen, htab, hothers, hsi⟩ =>
      ⟨hres, ?_, hlen, htab, hothers, by rw [hsi], fun x => ?_⟩
    · exact (OnlyTables.refl w |>.trans ⟨w.tables, w.system, _, w.standIns.unloads, w.trail, rfl⟩).trans h'
    · rw [hsi, openCount_bump]
      rfl
  | system =>
    exact (ends_appendLoaded b ht).mono fun res w' ⟨hres, h', hlen, htab, hothers, hsi⟩ =>
      ⟨hres, h', hlen, htab, hothers, by rw [hsi], fun x => by simp [hsi, Shelf.standIn]⟩

/-- Keeping a handle on a binary that is loaded, once what the call did
before left the tables as they were or loaded only that binary. -/
theorem Prepared.keepHandle {w₀ : World} {n : String} {r₀ : BinaryRef} (hw : w.Balanced)
    (ho : OnlyTables w w₀) (hlen : w₀.tables.length = w.tables.length)
    (hnodup : ∀ s, w₀.HasTable s → ((w₀.table s).loaded.map (·.1)).Nodup)
    (hkeeps : ∀ r, w.isLoaded r = true → w₀.isLoaded r = true)
    (hfresh : ∀ r, w₀.isLoaded r = true → w.isLoaded r = true ∨ r = r₀)
    (hloaded : w₀.HasTable r₀.shelf → w₀.isLoaded r₀ = true) (hunloads : w₀.standIns.unloads = w.standIns.unloads) :
    Prepared w { w₀ with kept := Keyed.insert n (.handle r₀) w₀.kept } := by
  obtain ⟨hfs, hkept, hbeh⟩ := ho.frame
  have hkeep : ({ w₀ with kept := Keyed.insert n (.handle r₀) w₀.kept } : World).Held r₀ :=
    held_of_handle (Keyed.mem_insert_self n _ _) rfl
  -- a binary held before the call is loaded before it, so still loaded
  have hbefore : ∀ r, w₀.HasTable r.shelf → w₀.Held r → w₀.isLoaded r = true := fun r hr h =>
    hkeeps r ((hw.loaded r ((hasTable_iff_of_length hlen).1 hr)).2 (ho.held ▸ h))
  refine ⟨hfs, hbeh, hlen, hnodup, fun r hr h => ?_, hkeeps, fun r h => ?_, hunloads⟩
  · rcases held_of_kept (fun e he => (Keyed.mem_insert he).elim (fun h => .inr ⟨r₀, by rw [h]⟩) .inl) h with
      h | ⟨e, he, hhandle⟩
    · exact hbefore r hr h
    · rcases Keyed.mem_insert he with rfl | hold
      · cases hhandle
        exact hloaded hr
      · exact hbefore r hr (held_of_handle hold hhandle)
  · exact (hfresh r h).imp_right fun h => by rw [h]; exact hkeep

/-- Letting go of kept things prepares the unloading. -/
theorem Prepared.ofKeptSubset {ks : List (String × Keepsake)} (hw : w.Balanced) (hks : ∀ e ∈ ks, e ∈ w.kept) :
    Prepared w { w with kept := ks } := by
  refine ⟨rfl, rfl, rfl, hw.nodup, fun r hr h => ?_, fun _ h => h, fun _ h => .inl h, rfl⟩
  rcases held_of_kept (fun e he => .inl (hks e he)) h with h | ⟨e, he, hhandle⟩
  · exact (hw.loaded r hr).2 h
  · exact (hw.loaded r hr).2 (held_of_handle (hks e he) hhandle)

/-- In balanced tables a path's reference count is the number of holders of
its canonical form, or of the path itself when it has none. -/
theorem Balanced.refCount (hw : w.Balanced) (s : Shelf) (p : String) (ht : w.HasTable s) :
    (Script.Plugins.libraryJson w s p).field? "ref_count" =
      some (.int (w.holders ⟨s, Script.canonicalOr w.fs p⟩)) := by
  have hl := hw.loaded ⟨s, Script.canonicalOr w.fs p⟩ ht
  -- a binary that is not loaded has no holder, so the count read is the holders'
  have hcount : (if ((w.table s).binary? (Script.canonicalOr w.fs p)).isSome = true then
      w.holders ⟨s, Script.canonicalOr w.fs p⟩ else 0) = w.holders ⟨s, Script.canonicalOr w.fs p⟩ := by
    split
    · rfl
    · rename_i hnot
      exact (Nat.eq_zero_of_not_pos fun h => hnot (hl.2 (holders_pos_iff.1 h))).symm
  unfold Script.Plugins.libraryJson
  cases s <;> simp [Json.field?, hcount]

/-- In balanced tables the loaded paths are listed in order, each once, and
are exactly the paths whose binaries something holds. -/
theorem Balanced.paths (hw : w.Balanced) (s : Shelf) (ht : w.HasTable s) :
    (w.table s).paths.Pairwise (· < ·) ∧ ∀ q, q ∈ (w.table s).paths ↔ 0 < w.holders ⟨s, q⟩ := by
  have hperm := List.mergeSort_perm ((w.table s).loaded.map (·.1)) fun a b => decide (a ≤ b)
  have hsorted := @List.pairwise_mergeSort String (fun a b => decide (a ≤ b))
    (fun a b c hab hbc => by simp only [decide_eq_true_eq] at *; exact le_trans hab hbc)
    (fun a b => by simpa using le_total a b) ((w.table s).loaded.map (·.1))
  refine ⟨(hsorted.and (hperm.nodup_iff.2 (hw.nodup s ht))).imp fun ⟨hle, hne⟩ =>
    lt_of_le_of_ne (by simpa using hle) hne, fun q => ?_⟩
  rw [Table.paths, hperm.mem_iff, ← Keyed.isSome_find?_iff, holders_pos_iff]
  exact hw.loaded ⟨s, q⟩ ht

theorem isLoaded_of_append {s : Shelf} {extra : List (String × Binary)}
    (htab : (w'.table s).loaded = (w.table s).loaded ++ extra)
    (hothers : ∀ s', s' ≠ s → w'.table s' = w.table s') :
    w'.isLoaded r = true ↔ w.isLoaded r = true ∨ r.shelf = s ∧ ∃ b, (r.path, b) ∈ extra := by
  rw [isLoaded_iff_mem, isLoaded_iff_mem]
  by_cases hs : r.shelf = s
  · rw [hs, htab]
    simp only [List.mem_append, exists_or, true_and]
  · rw [hothers _ hs]
    simp [hs]

theorem run_openHandle_of_error {k : Option String} {e : PluginError}
    (h : (openBinary shelf path).run.run w = (.ok (.error e), w)) :
    (Script.Plugins.openHandle shelf path k).run.run w = (.ok (.error e), w) := by
  unfold Script.Plugins.openHandle
  rw [Op.run_bind, h]
  rfl

/-- Once the open gives a binary, the handle is kept and the answer counts
the holders with it. -/
theorem ends_openHandle_of_ok {n : String} {ref : BinaryRef} {P : World → Prop}
    (h : (openBinary shelf path).Ends w fun res w₀ => res = .ok ref ∧ P w₀) :
    (Script.Plugins.openHandle shelf path (some n)).Ends w fun res w' => ∃ w₀, P w₀ ∧
      res = .ok (ref.path, w₀.holders ref + 1) ∧
      Collected { w₀ with kept := Keyed.insert n (.handle ref) w₀.kept } w' := by
  unfold Script.Plugins.openHandle
  refine h.bind fun res w₀ ⟨hres, hp⟩ => ?_
  subst hres
  refine Op.ends_get_bind ?_
  exact (ends_keepOrDrop_some n _ w₀).bind fun _ w' hc => Op.ends_pure ⟨w₀, hp, rfl, hc⟩

end World

/-- What opening a path answers: its canonical form and how many hold the
binary with the new handle, or why the open failed. The opener is asked only
when nothing holds the binary. -/
def World.openAnswer (w : World) (shelf : Shelf) (path : String) : Except PluginError (String × Nat) :=
  match w.fs.canonicalize "/" path with
  | .error e => .error (.openFailed path e.message)
  | .ok c =>
    if 0 < w.holders ⟨shelf, c⟩ then .ok (c, w.holders ⟨shelf, c⟩ + 1)
    else (w.opener shelf c).map fun _ => (c, 1)

/-- How many binaries at a path lose their last holder between two worlds,
over the scenario's tables. -/
def World.lastHoldsGone (w w' : World) (x : String) : Nat :=
  ((List.range w.tables.length).filter fun k =>
    0 < w.holders ⟨.scratch k, x⟩ && w'.holders ⟨.scratch k, x⟩ == 0).length

/-- What a caller does with handles on loaded binaries. -/
inductive HandleCall where
  /-- Opens a path in a table, keeping the handle under a name and letting go
  of what the name held. -/
  | openAt (shelf : Shelf) (path : String) (name : String)
  /-- Keeps a clone of the handle kept under one name under another. -/
  | clone (source target : String)
  /-- Closes the handle kept under a name. -/
  | close (name : String)

namespace HandleCall

def op : HandleCall → Op Unit
  | .openAt shelf path name => do let _ ← Script.Plugins.openHandle shelf path (some name)
  | .clone source target => do
    match Script.Plugins.handleNamed (← get) source with
    | some r => Script.Plugins.keepOrDrop (some target) (.handle r)
    | none => pure ()
  | .close name => do let _ ← Script.Plugins.closeHandle name

/-- Whether the call has the stand-in opener open a binary at a path: it
opens a path of a scenario table whose canonical form is that path, nothing
holds the binary there, and the opener succeeds. -/
def opensAfresh (w : World) (x : String) : HandleCall → Bool
  | .openAt shelf path _ =>
    shelf.standIn && (w.fs.canonicalize "/" path).toOption == some x && w.holders ⟨shelf, x⟩ == 0 &&
      (w.opener shelf x).toBool
  | _ => false

/-- The tables a call opens in exist. -/
def Valid (w : World) : HandleCall → Prop
  | .openAt shelf _ _ => w.HasTable shelf
  | _ => True

/-- What a call leaves: balanced tables, the same files and stand-ins, one
more open of a path exactly when the call opens it afresh, and one more
unload of a path for each binary there that lost its last holder. -/
structure Steps (call : HandleCall) (w w' : World) : Prop where
  balanced : w'.Balanced
  fs : w'.fs = w.fs
  behaviours : w'.standIns.behaviours = w.standIns.behaviours
  length : w'.tables.length = w.tables.length
  opens : ∀ x, w'.standIns.openCount x = w.standIns.openCount x + if call.opensAfresh w x then 1 else 0
  unloads : ∀ x, w'.standIns.unloadCount x = w.standIns.unloadCount x + w.lastHoldsGone w' x

variable {w w' w₁ : World} {call : HandleCall}

theorem Steps.stay (hw : w.Balanced) (h : ∀ x, call.opensAfresh w x = false) : Steps call w w := by
  refine ⟨hw, rfl, rfl, rfl, fun x => by simp [h x], fun x => ?_⟩
  simp only [World.lastHoldsGone, Nat.left_eq_add, List.length_eq_zero_iff, List.filter_eq_nil_iff]
  intro k _
  cases w.holders ⟨.scratch k, x⟩ <;> simp

theorem Steps.ofPrepared (hw : w.Balanced) (hp : World.Prepared w w₁) (hc : World.Collected w₁ w')
    (hopens : ∀ x, w₁.standIns.openCount x = w.standIns.openCount x + if call.opensAfresh w x then 1 else 0) :
    Steps call w w' := by
  obtain ⟨hbal, hunloads⟩ := hp.balanced_unloads hw hc
  obtain ⟨hfs, -, hbeh⟩ := hc.only.frame
  refine ⟨hbal, hfs.trans hp.fs, hbeh.trans hp.behaviours, hc.length.trans hp.length, fun x => ?_, hunloads⟩
  rw [← hopens x]
  simp only [StandIns.openCount, hc.opens]

/-- Opening a path answers what `World.openAnswer` says, leaves the world as
it was when it fails, and steps as a call does. -/
theorem ends_openHandle (shelf : Shelf) (path name : String) (hw : w.Balanced) (ht : w.HasTable shelf) :
    (Script.Plugins.openHandle shelf path (some name)).Ends w fun res w' =>
      res = w.openAnswer shelf path ∧ (res.toBool = false → w' = w) ∧ Steps (.openAt shelf path name) w w' := by
  cases hc : w.fs.canonicalize "/" path with
  | error e =>
    refine ⟨_, w, World.run_openHandle_of_error (World.run_openBinary_of_canonicalize_error hc), ?_, fun _ => rfl,
      Steps.stay hw fun x => ?_⟩
    · unfold World.openAnswer
      rw [hc]
    · simp [opensAfresh, hc, Except.toOption]
  | ok c =>
    have hbal := hw.loaded ⟨shelf, c⟩ ht
    cases hl : w.isLoaded ⟨shelf, c⟩ with
    | true =>
      -- the binary is held, so the open only takes another hold on it
      have hpos : 0 < w.holders ⟨shelf, c⟩ := World.holders_pos_iff.2 (hbal.1 hl)
      refine (World.ends_openHandle_of_ok (World.ends_openBinary_of_loaded hc hl)).mono ?_
      rintro res w' ⟨w₀, ⟨t, rfl⟩, rfl, hcol⟩
      have hw₀ : World.OnlyTables w { w with trail := t } :=
        ⟨w.tables, w.system, w.standIns.opens, w.standIns.unloads, t, rfl⟩
      have hanswer : (Except.ok (c, ({ w with trail := t } : World).holders ⟨shelf, c⟩ + 1) :
          Except PluginError (String × Nat)) = w.openAnswer shelf path := by
        rw [hw₀.holders]
        unfold World.openAnswer
        rw [hc]
        dsimp only
        rw [if_pos hpos]
      refine ⟨hanswer, fun h => by simp [Except.toBool] at h,
        Steps.ofPrepared hw (World.Prepared.keepHandle hw hw₀ rfl hw.nodup (fun _ h => h) (fun _ h => .inl h)
          (fun _ => hl) rfl) hcol fun x => ?_⟩
      by_cases hx : x = c
      · subst hx
        simp [opensAfresh, hc, Except.toOption, Nat.pos_iff_ne_zero.1 hpos]
      · simp [opensAfresh, hc, Except.toOption, Ne.symm hx]
    | false =>
      have hzero : w.holders ⟨shelf, c⟩ = 0 :=
        Nat.eq_zero_of_not_pos fun h => by simp [hbal.2 (World.holders_pos_iff.1 h)] at hl
      cases hb : w.opener shelf c with
      | error e =>
        refine ⟨_, w, World.run_openHandle_of_error (World.run_openBinary_of_opener_error hc hl hb), ?_, fun _ => rfl,
          Steps.stay hw fun x => ?_⟩
        · unfold World.openAnswer
          rw [hc]
          dsimp only
          rw [if_neg (by omega), hb]
          rfl
        · by_cases hx : x = c
          · subst hx
            simp [opensAfresh, hc, hb, Except.toOption, Except.toBool]
          · simp [opensAfresh, hc, Except.toOption, Ne.symm hx]
      | ok b =>
        -- the opener opens the binary, and the new handle is its only holder
        refine (World.ends_openHandle_of_ok (World.ends_openBinary_of_opened hc hl hb ht)).mono ?_
        rintro res w' ⟨w₀, ⟨h₀, hlen, htab, hothers, hunloads, hopens⟩, rfl, hcol⟩
        have hfresh : ∀ r, w₀.isLoaded r = true ↔ w.isLoaded r = true ∨ r = ⟨shelf, c⟩ := fun r => by
          rw [World.isLoaded_of_append htab hothers]
          apply or_congr_right
          obtain ⟨rs, rp⟩ := r
          simp only [List.mem_singleton, Prod.mk.injEq, BinaryRef.mk.injEq]
          constructor
          · rintro ⟨hs, b', hp, -⟩
            exact ⟨hs, hp⟩
          · rintro ⟨hs, hp⟩
            exact ⟨hs, b, hp, rfl⟩
        have hnodup : ∀ s, w₀.HasTable s → ((w₀.table s).loaded.map (·.1)).Nodup := fun s hs => by
          have hs' := (World.hasTable_iff_of_length hlen).1 hs
          by_cases hss : s = shelf
          · subst hss
            rw [htab, List.map_append, List.nodup_append]
            refine ⟨hw.nodup s hs', List.nodup_singleton _, ?_⟩
            -- the path was not listed, since its binary was not loaded
            have hnot : c ∉ (w.table s).loaded.map (·.1) := fun h =>
              by simp [World.isLoaded, Table.binary?, Keyed.isSome_find?_iff.2 h] at hl
            intro a ha b' hb' hab
            simp only [List.map_cons, List.map_nil, List.mem_singleton] at hb'
            subst hb' hab
            exact hnot ha
          · rw [hothers s hss]
            exact hw.nodup s hs'
        refine ⟨?_, fun h => by simp [Except.toBool] at h, Steps.ofPrepared hw (World.Prepared.keepHandle hw h₀ hlen hnodup
          (fun r h => (hfresh r).2 (.inl h)) (fun r h => (hfresh r).1 h) (fun _ => (hfresh _).2 (.inr rfl))
          hunloads) hcol fun x => ?_⟩
        · rw [h₀.holders, hzero]
          unfold World.openAnswer
          rw [hc]
          dsimp only
          rw [if_neg (by omega), hb]
          rfl
        · rw [show (({ w₀ with kept := Keyed.insert name (.handle ⟨shelf, c⟩) w₀.kept } : World).standIns.openCount x) =
            w₀.standIns.openCount x from rfl, hopens x]
          by_cases hx : x = c
          · subst hx
            simp [opensAfresh, hc, hb, hzero, Except.toOption, Except.toBool]
          · simp [opensAfresh, hc, Except.toOption, Ne.symm hx, hx]

theorem ends_clone (source target : String) (hw : w.Balanced) :
    (HandleCall.clone source target).op.Ends w fun _ w' => Steps (.clone source target) w w' := by
  unfold op
  refine Op.ends_get_bind ?_
  cases h : Script.Plugins.handleNamed w source with
  | none => exact Op.ends_pure (Steps.stay hw fun _ => rfl)
  | some r =>
    -- the clone holds a binary its source holds already
    have hheld : w.Held r :=
      World.held_of_handle (Keyed.mem_of_find?_eq_some (World.handleNamed_eq_some_iff.1 h)) rfl
    exact (World.ends_keepOrDrop_some target _ w).mono fun _ w' hc =>
      Steps.ofPrepared hw (World.Prepared.keepHandle hw (World.OnlyTables.refl w) rfl hw.nodup (fun _ h => h)
        (fun _ h => .inl h) (fun hr => (hw.loaded r hr).2 hheld) rfl) hc fun x => by simp [opensAfresh]

theorem ends_close (name : String) (hw : w.Balanced) :
    (HandleCall.close name).op.Ends w fun _ w' => Steps (.close name) w w' := by
  unfold op
  cases h : Script.Plugins.handleNamed w name with
  | none =>
    refine ⟨(), w, ?_, Steps.stay hw fun _ => rfl⟩
    rw [Op.run_bind, World.run_closeHandle_of_none h]
    rfl
  | some r =>
    exact (World.ends_closeHandle_of_handle (World.handleNamed_eq_some_iff.1 h)).bind fun _ w' ⟨_, hc⟩ =>
      Op.ends_pure (Steps.ofPrepared hw (World.Prepared.ofKeptSubset hw fun e he => (List.mem_filter.1 he).1) hc
        fun x => by simp [opensAfresh])

/-- Every call steps: it ends, and leaves what `Steps` says. -/
theorem ends_op (c : HandleCall) (hw : w.Balanced) (hv : c.Valid w) : c.op.Ends w fun _ w' => Steps c w w' := by
  cases c with
  | openAt shelf path name => exact (ends_openHandle shelf path name hw hv).bind fun _ w' h => Op.ends_pure h.2.2
  | clone source target => exact ends_clone source target hw
  | close name => exact ends_close name hw

def after (w : World) (c : HandleCall) : World := (c.op.run.run w).2

theorem run_op (c : HandleCall) (hw : w.Balanced) (hv : c.Valid w) :
    c.op.run.run w = (.ok (), after w c) ∧ Steps c w (after w c) := by
  obtain ⟨_, w', hrun, hs⟩ := ends_op c hw hv
  have hafter : after w c = w' := by rw [after, hrun]
  rw [hafter]
  exact ⟨hrun, hs⟩

theorem Steps.valid (h : Steps c w w') {c' : HandleCall} (hv : c'.Valid w) : c'.Valid w' := by
  cases c' with
  | openAt shelf _ _ => exact (World.hasTable_iff_of_length h.length).2 hv
  | clone => trivial
  | close => trivial

/-- How often a run has the stand-in opener open a binary at a path. -/
def freshOpens (x : String) : World → List HandleCall → Nat
  | _, [] => 0
  | w, c :: cs => (if c.opensAfresh w x then 1 else 0) + freshOpens x (after w c) cs

/-- How many times along a run a binary at a path loses its last holder, over
the scenario's tables. -/
def lastReleases (x : String) : World → List HandleCall → Nat
  | _, [] => 0
  | w, c :: cs => w.lastHoldsGone (after w c) x + lastReleases x (after w c) cs

/-- A run keeps the tables balanced, and counts one open of a path for each
call that opens it afresh and one unload for each time a binary there loses
its last holder. -/
theorem run_calls (cs : List HandleCall) (hw : w.Balanced) (hv : ∀ c ∈ cs, c.Valid w) :
    (cs.foldl after w).Balanced ∧ (cs.foldl after w).fs = w.fs ∧
      (cs.foldl after w).tables.length = w.tables.length ∧
      (∀ x, (cs.foldl after w).standIns.openCount x = w.standIns.openCount x + freshOpens x w cs) ∧
      ∀ x, (cs.foldl after w).standIns.unloadCount x = w.standIns.unloadCount x + lastReleases x w cs := by
  induction cs generalizing w with
  | nil => exact ⟨hw, rfl, rfl, fun _ => rfl, fun _ => rfl⟩
  | cons c cs ih =>
    -- one call steps, and the rest run from where it ends
    have hs := (run_op c hw (hv c List.mem_cons_self)).2
    obtain ⟨hbal, hfs, hlen, hopens, hunloads⟩ :=
      ih hs.balanced fun c' hc' => hs.valid (hv c' (List.mem_cons_of_mem _ hc'))
    refine ⟨hbal, hfs.trans hs.fs, hlen.trans hs.length, fun x => ?_, fun x => ?_⟩
    · rw [List.foldl_cons, hopens x, hs.opens x, freshOpens]
      omega
    · rw [List.foldl_cons, hunloads x, hs.unloads x, lastReleases]
      omega

end HandleCall

/-- The handles of the loaded-binary tables, over every run of opens, clones
and closes from balanced tables. Each call ends without a panic and keeps the
tables balanced. An open answers `World.openAnswer`: the opener is asked only
for a canonical path nothing holds, and an open that fails leaves the world
as it was. After any run, the reference count of a path is the number of
holders of its canonical form, the loaded paths are the held ones in order,
each open of a path by the stand-in opener is a call that opened it afresh,
and each unload a binary there losing its last holder. -/
theorem handle_runs_track_holders :
    (∀ (v : World) (c : HandleCall), v.Balanced → c.Valid v →
      c.op.run.run v = (.ok (), c.after v) ∧ (c.after v).Balanced) ∧
    (∀ (v : World) (shelf : Shelf) (path name : String), v.Balanced → v.HasTable shelf →
      ∃ v', (Script.Plugins.openHandle shelf path (some name)).run.run v = (.ok (v.openAnswer shelf path), v') ∧
        ((v.openAnswer shelf path).toBool = false → v' = v)) ∧
    ∀ (w : World) (calls : List HandleCall), w.Balanced → (∀ c ∈ calls, c.Valid w) →
      let w' := calls.foldl HandleCall.after w
      w'.Balanced ∧
      (∀ s p, w'.HasTable s → (Script.Plugins.libraryJson w' s p).field? "ref_count" =
        some (.int (w'.holders ⟨s, Script.canonicalOr w'.fs p⟩))) ∧
      (∀ s, w'.HasTable s →
        (w'.table s).paths.Pairwise (· < ·) ∧ ∀ q, q ∈ (w'.table s).paths ↔ 0 < w'.holders ⟨s, q⟩) ∧
      (∀ x, w'.standIns.openCount x = w.standIns.openCount x + HandleCall.freshOpens x w calls) ∧
      ∀ x, w'.standIns.unloadCount x = w.standIns.unloadCount x + HandleCall.lastReleases x w calls := by
  refine ⟨fun v c hv hc => ?_, fun v shelf path name hv ht => ?_, fun w calls hw hcalls => ?_⟩
  · obtain ⟨hrun, hs⟩ := HandleCall.run_op c hv hc
    exact ⟨hrun, hs.balanced⟩
  · obtain ⟨res, v', hrun, hres, hfail, -⟩ := HandleCall.ends_openHandle shelf path name hv ht
    subst hres
    exact ⟨v', hrun, hfail⟩
  · obtain ⟨hbal, -, -, hopens, hunloads⟩ := HandleCall.run_calls calls hw hcalls
    exact ⟨hbal, fun s p hs => hbal.refCount s p hs, fun s hs => hbal.paths s hs, hopens, hunloads⟩

/-- A scenario table with nothing loaded, and no providers, sources or kept things. -/
def World.emptyScratch : World := { fs := default, env := default, tables := [{}] }

theorem World.emptyScratch_table (s : Shelf) : World.emptyScratch.table s = {} := by
  cases s with
  | scratch k =>
    rcases k with _ | k
    · rfl
    · simp [World.emptyScratch, World.table]
  | system => rfl

theorem World.emptyScratch_balanced : World.emptyScratch.Balanced := by
  refine ⟨fun s _ => by simp [World.emptyScratch_table], fun r _ => ?_⟩
  -- nothing is loaded and nothing holds anything
  have hheld : ¬ World.emptyScratch.Held r := by
    rintro (⟨n, hn, -⟩ | ⟨e, he, -⟩)
    · simp [World.emptyScratch, World.heldProviders] at hn
    · simp [World.emptyScratch] at he
  have hloaded : World.emptyScratch.isLoaded r = false := by
    simp [World.isLoaded, World.emptyScratch_table, Table.binary?, Keyed.find?]
  simp [hheld, hloaded]

/-- Opening a path twice under two names and closing both, from an empty
scenario table, is a run the laws above cover. -/
theorem open_twice_close_twice_tracked :
    let calls := [HandleCall.openAt (.scratch 0) "/lib/one.so" "a", .openAt (.scratch 0) "/lib/./one.so" "b",
      .close "a", .close "b"]
    World.emptyScratch.Balanced ∧ (∀ c ∈ calls, c.Valid World.emptyScratch) ∧
      (calls.foldl HandleCall.after World.emptyScratch).Balanced :=
  ⟨World.emptyScratch_balanced, by simp [HandleCall.Valid, World.HasTable, World.emptyScratch],
    (handle_runs_track_holders.2.2 World.emptyScratch _ World.emptyScratch_balanced
      (by simp [HandleCall.Valid, World.HasTable, World.emptyScratch])).1⟩

end AssetBroker
