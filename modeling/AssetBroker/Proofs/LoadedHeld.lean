import AssetBroker.Proofs.BenchHolds

/-!
# Loaded exactly while held

The invariant that ties the tables of loaded binaries to the things that hold
them, kept by every operation on providers, sources and scans.

At every point of an operation the world is `World.Orderly`: each table
lists a path once, every binary something holds is loaded, every provider
held was made, those a listing names were made without a binary, and every
bench kept is sound, its manager anchoring its states exactly when its code
lives in a binary. When an operation ends, through its last unloading, the
world is `World.Fit`: also nothing stays loaded that nothing holds.

Operations may panic. `Op.Within x w P Q` says what a run leaves either
way: a world satisfying `P` after a panic, an answer and a world satisfying
`Q` otherwise. Scans only add holders (`World.Grows`); a reset lets go of
what its loader found.
-/

namespace AssetBroker

namespace Op

variable {α β γ : Type} {x : Op α} {w : World} {P : World → Prop} {Q R : α → World → Prop}

/-- Run from `w`, the operation leaves a world satisfying `P` when it
panics, and an answer and a world satisfying `Q` when it does not. -/
def Within (x : Op α) (w : World) (P : World → Prop) (Q : α → World → Prop) : Prop :=
  match x.run.run w with
  | (.ok a, w') => Q a w'
  | (.error _, w') => P w'

theorem Ends.within (h : x.Ends w Q) : x.Within w P Q := by
  obtain ⟨a, w', hrun, hq⟩ := h
  unfold Within
  rw [hrun]
  exact hq

theorem within_pure {a : α} (h : Q a w) : (pure a : Op α).Within w P Q := (ends_pure h).within

theorem within_throw (message : String) (h : P w) : (throw message : Op α).Within w P Q := by
  unfold Within
  rw [run_throw]
  exact h

theorem Within.mono {P' : World → Prop} (h : x.Within w P Q) (hP : ∀ w', P w' → P' w')
    (hQ : ∀ a w', Q a w' → R a w') : x.Within w P' R := by
  unfold Within at h ⊢
  generalize x.run.run w = res at h ⊢
  obtain ⟨_ | a, w'⟩ := res
  · exact hP _ h
  · exact hQ _ _ h

/-- The rule of sequencing: a panic of the first operation ends the whole. -/
theorem Within.bind {f : α → Op β} {S : β → World → Prop} (h : x.Within w P Q)
    (hf : ∀ a w', Q a w' → (f a).Within w' P S) : (x >>= f).Within w P S := by
  unfold Within at h ⊢
  rw [run_bind]
  generalize x.run.run w = res at h ⊢
  obtain ⟨_ | a, w'⟩ := res
  · exact h
  · exact hf _ _ h

theorem within_get_bind {f : World → Op β} {S : β → World → Prop} (h : (f w).Within w P S) :
    (get >>= f).Within w P S := h

/-- A handled operation: the handler runs from wherever the panic left. -/
theorem within_tryCatch {handle : String → Op α} (h : x.Within w P Q)
    (hc : ∀ message w', P w' → (handle message).Within w' P Q) : (tryCatch x handle).Within w P Q := by
  unfold Within at h ⊢
  rw [run_tryCatch]
  generalize x.run.run w = res at h ⊢
  obtain ⟨_ | a, w'⟩ := res
  · exact hc _ _ h
  · exact h

/-- The rule of loops: an invariant over what remains to be walked, kept by
each pass, whether it goes on or stops early. -/
theorem within_forIn {xs : List γ} {b : β} {f : γ → β → Op (ForInStep β)}
    (I : List γ → β → World → Prop)
    (hstep : ∀ y ys b w, I (y :: ys) b w → (f y b).Within w P fun r w' =>
      match r with
      | .yield b' => I ys b' w'
      | .done b' => I [] b' w')
    (h0 : I xs b w) : (forIn xs b f).Within w P fun b' w' => I [] b' w' := by
  induction xs generalizing b w with
  | nil => exact within_pure h0
  | cons y ys ih =>
    rw [List.forIn_cons]
    refine (hstep y ys b w h0).bind fun r w' hr => ?_
    cases r with
    | done b' => exact within_pure hr
    | yield b' => exact ih hr

end Op

/-- What a source holds: the providers its loader registered, or those it
lists. -/
def Child.providers : Child → List Nat
  | .lazy l _ _ => l.registry.entries.map (·.2.provider)
  | .fixed ps => ps

@[simp] theorem Provider.binary_default : (default : Provider).binary = none := rfl

/-- A kept thing as operations leave it: a bench is sound, its manager
anchoring its states exactly when its code lives in a binary. -/
def Keepsake.WellFormed : Keepsake → Prop
  | .bench b binary _ => b.Sound ∧ b.session.anchor = binary.isSome
  | _ => True

namespace Keyed

variable {α : Type}

/-- Inserting under one key keeps the entries under every other key. -/
theorem mem_insert_of_ne {key : String} {value : α} {m : List (String × α)} {e : String × α}
    (he : e ∈ m) (hne : e.1 ≠ key) : e ∈ insert key value m := by
  induction m with
  | nil => cases he
  | cons kv m ih =>
    obtain ⟨k, v⟩ := kv
    unfold insert
    rcases List.mem_cons.1 he with rfl | he
    · split_ifs with hlt heq
      · exact List.mem_cons_of_mem _ List.mem_cons_self
      · exact absurd (beq_iff_eq.1 heq).symm hne
      · exact List.mem_cons_self
    · split_ifs with hlt heq
      · exact List.mem_cons_of_mem _ (List.mem_cons_of_mem _ he)
      · exact List.mem_cons_of_mem _ he
      · exact List.mem_cons_of_mem _ (ih he)

theorem fst_ne_of_find?_eq_none {key : String} {m : List (String × α)} {e : String × α}
    (h : find? key m = none) (he : e ∈ m) : e.1 ≠ key := by
  induction m with
  | nil => cases he
  | cons kv m ih =>
    obtain ⟨k, v⟩ := kv
    by_cases hk : k = key
    · simp [find?, hk] at h
    · have hrest : find? key m = none := by simpa [find?, hk] using h
      rcases List.mem_cons.1 he with rfl | he
      · exact hk
      · exact ih hrest he

end Keyed

namespace Registry

variable {P : Type} {r : Registry P} {identifier : String} {p : P} {origin : Origin} {e : String × Entry P}

theorem mem_register_of_mem (he : e ∈ r.entries) : e ∈ (r.register identifier p origin).1.entries := by
  unfold register
  split
  · exact he
  · rename_i hnone
    exact Keyed.mem_insert_of_ne he (Keyed.fst_ne_of_find?_eq_none hnone he)

/-- Registering adds at most the entry registered. -/
theorem mem_of_mem_register (he : e ∈ (r.register identifier p origin).1.entries) :
    e ∈ r.entries ∨ e = (identifier, ⟨p, origin⟩) := by
  unfold register at he
  split at he
  · exact .inl he
  · exact (Keyed.mem_insert he).symm

end Registry

namespace World

variable {w w' w₁ : World} {r : BinaryRef} {n : Nat}

/-- The holds are in order at every point of an operation: each table lists
a path once and loads every binary something holds; every provider held was
made; the providers a listing names were made without a binary; and every
kept thing is well formed. -/
structure Orderly (w : World) : Prop where
  nodup : ∀ s, w.HasTable s → ((w.table s).loaded.map (·.1)).Nodup
  held : ∀ r, w.HasTable r.shelf → w.Held r → w.isLoaded r = true
  made : ∀ n ∈ w.heldProviders, n < w.providers.size
  listed : ∀ i l listed, w.loader? i = some l → l.discovery = .listed listed →
    ∀ e ∈ listed, ∀ n ∈ e.2, n < w.providers.size ∧ (w.provider n).binary = none
  kept : ∀ e ∈ w.kept, e.2.WellFormed

/-- The holds at the end of an operation: in order, and nothing loaded that
nothing holds. -/
structure Fit (w : World) : Prop where
  orderly : w.Orderly
  tidy : ∀ r, w.HasTable r.shelf → w.isLoaded r = true → w.Held r

/-- A fit world's tables agree with the holders. -/
theorem Fit.balanced (h : w.Fit) : w.Balanced :=
  ⟨h.orderly.nodup, fun r hr => ⟨h.tidy r hr, h.orderly.held r hr⟩⟩

/-- A world on its way through a load: in order, with provider `n` just made,
whose binary is loaded and may be held by nothing yet. -/
structure Pending (w : World) (n : Nat) : Prop where
  orderly : w.Orderly
  lt : n < w.providers.size
  loaded : ∀ r, (w.provider n).binary = some r → w.HasTable r.shelf → w.isLoaded r = true
  tidy : ∀ r, w.HasTable r.shelf → w.isLoaded r = true → w.Held r ∨ (w.provider n).binary = some r

/-- A provider made without a binary leaves nothing pending. -/
theorem Fit.pending (h : w.Fit) (hn : n < w.providers.size) (hb : (w.provider n).binary = none) :
    w.Pending n :=
  ⟨h.orderly, hn, fun r hr => (by rw [hb] at hr; cases hr), fun r hr hl => .inl (h.tidy r hr hl)⟩

/-! ## Who holds providers -/

theorem heldProviders_eq (w : World) :
    w.heldProviders = w.children.toList.flatMap Child.providers ++
      w.kept.filterMap fun (_, k) => match k with
        | .provider n => some n
        | _ => none := by
  unfold heldProviders
  congr 1

theorem child_of_lt {i : Nat} (h : i < w.children.size) : w.child i = w.children[i] := by
  simp [child, Array.getD, h]

/-- A source out of range is the empty fixed one. -/
theorem child_of_ge {i : Nat} (h : w.children.size ≤ i) : w.child i = .fixed [] := by
  simp [child, Array.getD, Nat.not_lt.2 h]

/-- A provider is held by a source, by number, or kept by a caller. -/
theorem mem_heldProviders :
    n ∈ w.heldProviders ↔ (∃ i, n ∈ (w.child i).providers) ∨ ∃ e ∈ w.kept, e.2 = .provider n := by
  rw [heldProviders_eq, List.mem_append, List.mem_flatMap, List.mem_filterMap]
  refine or_congr ⟨fun ⟨c, hc, hn⟩ => ?_, fun ⟨i, hi⟩ => ?_⟩ ⟨fun ⟨e, he, hk⟩ => ?_, fun ⟨e, he, hk⟩ => ?_⟩
  · obtain ⟨i, hi, rfl⟩ := List.getElem_of_mem hc
    rw [Array.length_toList] at hi
    exact ⟨i, by rw [child_of_lt hi]; simpa using hn⟩
  · by_cases hlt : i < w.children.size
    · rw [child_of_lt hlt] at hi
      exact ⟨_, Array.getElem_mem_toList hlt, hi⟩
    · rw [child_of_ge (Nat.le_of_not_lt hlt)] at hi
      cases hi
  · obtain ⟨name, k⟩ := e
    cases k <;> simp only [Option.some.injEq, reduceCtorEq] at hk
    exact ⟨_, he, by rw [hk]⟩
  · obtain ⟨name, k⟩ := e
    dsimp only at hk
    exact ⟨_, he, by rw [hk]⟩

theorem child_setChild (i j : Nat) (c : Child) :
    ({ w with children := w.children.set! j c } : World).child i =
      if i = j ∧ j < w.children.size then c else w.child i := by
  unfold child
  by_cases hij : i = j
  · subst hij
    by_cases hlt : i < w.children.size <;> simp [Array.getD, hlt]
  · simp only [Array.getD, Array.set!_eq_setIfInBounds, Array.size_setIfInBounds, hij, false_and, if_false]
    split_ifs <;> simp_all [Array.getElem_setIfInBounds_ne, Ne.symm hij]

/-- What the loader of a source is after one source was replaced. -/
theorem loader?_setChild (i j : Nat) (c : Child) :
    ({ w with children := w.children.set! j c } : World).loader? i =
      if i = j ∧ j < w.children.size then (match c with
        | .lazy l _ _ => some l
        | .fixed _ => none) else w.loader? i := by
  unfold loader?
  rw [child_setChild]
  split_ifs <;> rfl

/-- A provider held once a source was replaced is held by the new source or
was held before. -/
theorem mem_heldProviders_setChild {j : Nat} {c : Child}
    (h : n ∈ ({ w with children := w.children.set! j c } : World).heldProviders) :
    n ∈ w.heldProviders ∨ n ∈ c.providers := by
  rcases mem_heldProviders.1 h with ⟨i, hi⟩ | hk
  · rw [child_setChild] at hi
    split at hi
    · exact .inr hi
    · exact .inl (mem_heldProviders.2 (.inl ⟨i, hi⟩))
  · exact .inl (mem_heldProviders.2 (.inr hk))

/-- A source replaced by one holding at least its providers keeps every
provider held. -/
theorem mem_heldProviders_setChild_of_mem {j : Nat} {c : Child} (h : n ∈ w.heldProviders)
    (hsub : ∀ m ∈ (w.child j).providers, m ∈ c.providers) :
    n ∈ ({ w with children := w.children.set! j c } : World).heldProviders := by
  rcases mem_heldProviders.1 h with ⟨i, hi⟩ | hk
  · refine mem_heldProviders.2 (.inl ⟨i, ?_⟩)
    rw [child_setChild]
    split
    · rename_i hij
      obtain ⟨rfl, -⟩ := hij
      exact hsub n hi
    · exact hi
  · exact mem_heldProviders.2 (.inr hk)

/-! ## Steps that leave the holds alone -/

/-- The search paths of a source; none for a fixed source. -/
def searchPaths? (w : World) (i : Nat) : Option SearchPaths :=
  match w.child i with
  | .lazy _ paths _ => some paths
  | .fixed _ => none

/-- A step that leaves what the holds read as it was, which providers are
held apart: the tables, the kept things, the binary of every provider and
the discovery and search paths of every source. Providers made meanwhile
have no binary. -/
structure Frame (w w' : World) : Prop where
  tables : w'.tables = w.tables
  system : w'.system = w.system
  kept : w'.kept = w.kept
  size : w.providers.size ≤ w'.providers.size
  binary : ∀ n, (w'.provider n).binary = (w.provider n).binary
  discovery : ∀ i, (w'.loader? i).map (·.discovery) = (w.loader? i).map (·.discovery)
  searchPaths : ∀ i, w'.searchPaths? i = w.searchPaths? i

/-- A step that leaves the holds as they were. -/
structure SameHolds (w w' : World) : Prop extends Frame w w' where
  held : ∀ n, n ∈ w'.heldProviders ↔ n ∈ w.heldProviders

/-- A step that may hold one provider more and leaves the rest of the holds
as they were. -/
structure Adds (n : Nat) (w w' : World) : Prop extends Frame w w' where
  keeps : ∀ m ∈ w.heldProviders, m ∈ w'.heldProviders
  adds : ∀ m ∈ w'.heldProviders, m ∈ w.heldProviders ∨ m = n

theorem Frame.refl (w : World) : Frame w w :=
  ⟨rfl, rfl, rfl, Nat.le_refl _, fun _ => rfl, fun _ => rfl, fun _ => rfl⟩

theorem Frame.trans {w₂ : World} (h₁ : Frame w w₁) (h₂ : Frame w₁ w₂) : Frame w w₂ :=
  ⟨h₂.tables.trans h₁.tables, h₂.system.trans h₁.system, h₂.kept.trans h₁.kept, Nat.le_trans h₁.size h₂.size,
    fun n => (h₂.binary n).trans (h₁.binary n), fun i => (h₂.discovery i).trans (h₁.discovery i),
    fun i => (h₂.searchPaths i).trans (h₁.searchPaths i)⟩

theorem SameHolds.refl (w : World) : SameHolds w w := ⟨Frame.refl w, fun _ => Iff.rfl⟩

theorem SameHolds.trans {w₂ : World} (h₁ : SameHolds w w₁) (h₂ : SameHolds w₁ w₂) : SameHolds w w₂ :=
  ⟨h₁.toFrame.trans h₂.toFrame, fun n => (h₂.held n).trans (h₁.held n)⟩

theorem Frame.table (h : Frame w w') (s : Shelf) : w'.table s = w.table s := by
  cases s <;> simp [World.table, h.tables, h.system]

theorem Frame.hasTable (h : Frame w w') {s : Shelf} : w'.HasTable s ↔ w.HasTable s :=
  hasTable_iff_of_length (by rw [h.tables])

theorem Frame.isLoaded (h : Frame w w') (r : BinaryRef) : w'.isLoaded r = w.isLoaded r := by
  simp [World.isLoaded, h.table]

/-- A binary held once the step may hold provider `n` more was held before
or is `n`'s. -/
theorem Frame.held_of_adds (h : Frame w w') (hadds : ∀ m ∈ w'.heldProviders, m ∈ w.heldProviders ∨ m = n)
    (hr : w'.Held r) : w.Held r ∨ (w.provider n).binary = some r := by
  rcases hr with ⟨m, hm, hb⟩ | ⟨e, he, hpos⟩
  · rw [h.binary] at hb
    rcases hadds m hm with hm | rfl
    · exact .inl (.inl ⟨m, hm, hb⟩)
    · exact .inr hb
  · exact .inl (.inr ⟨e, h.kept ▸ he, hpos⟩)

theorem Frame.held_of_keeps (h : Frame w w') (hkeeps : ∀ m ∈ w.heldProviders, m ∈ w'.heldProviders)
    (hr : w.Held r) : w'.Held r := by
  rcases hr with ⟨m, hm, hb⟩ | ⟨e, he, hpos⟩
  · exact .inl ⟨m, hkeeps m hm, (h.binary m).trans hb⟩
  · exact .inr ⟨e, h.kept ▸ he, hpos⟩

theorem SameHolds.heldIff (h : SameHolds w w') : w'.Held r ↔ w.Held r := by
  unfold Held
  simp only [h.held, h.binary, h.kept]

/-- A listing's providers as a replaced world sees them: the loader of the
source had the same discovery before. -/
theorem exists_loader?_of_discovery {i : Nat} {l' : Loader}
    (hd : (w'.loader? i).map (·.discovery) = (w.loader? i).map (·.discovery)) (hl : w'.loader? i = some l') :
    ∃ l, w.loader? i = some l ∧ l.discovery = l'.discovery := by
  rw [hl] at hd
  cases hw : w.loader? i with
  | none => simp [hw] at hd
  | some l => exact ⟨l, rfl, by simpa [hw] using hd.symm⟩

/-- A step that keeps the frame keeps the tables, the listings and the kept
things in order; what it holds must be made and loaded. -/
theorem Frame.orderly (h : Frame w w') (ho : w.Orderly) (hmade : ∀ n ∈ w'.heldProviders, n < w'.providers.size)
    (hheld : ∀ r, w.HasTable r.shelf → w'.Held r → w.isLoaded r = true) : w'.Orderly where
  nodup s hs := by
    rw [h.table]
    exact ho.nodup s (h.hasTable.1 hs)
  held r hr hh := by
    rw [h.isLoaded]
    exact hheld r (h.hasTable.1 hr) hh
  made := hmade
  listed i l' listed hl hd e he n hn := by
    obtain ⟨l, hl₀, hd₀⟩ := exists_loader?_of_discovery (h.discovery i) hl
    obtain ⟨hlt, hb⟩ := ho.listed i l listed hl₀ (hd₀.trans hd) e he n hn
    exact ⟨Nat.lt_of_lt_of_le hlt h.size, (h.binary n).trans hb⟩
  kept e he := ho.kept e (h.kept ▸ he)

theorem Frame.held_of_sub (h : Frame w w') (hsub : ∀ m ∈ w'.heldProviders, m ∈ w.heldProviders)
    (hr : w'.Held r) : w.Held r := by
  rcases hr with ⟨m, hm, hb⟩ | ⟨e, he, hpos⟩
  · exact .inl ⟨m, hsub m hm, (h.binary m).symm.trans hb⟩
  · exact .inr ⟨e, h.kept ▸ he, hpos⟩

/-- A step that keeps the frame and holds no provider that was not held
keeps the world orderly. -/
theorem Frame.orderly_of_sub (h : Frame w w') (ho : w.Orderly)
    (hsub : ∀ m ∈ w'.heldProviders, m ∈ w.heldProviders) : w'.Orderly :=
  h.orderly ho (fun m hm => Nat.lt_of_lt_of_le (ho.made m (hsub m hm)) h.size)
    fun r hr hh => ho.held r hr (h.held_of_sub hsub hh)

/-- A step that keeps the frame and every hold keeps a load pending, and may
hold the pending provider. -/
theorem Frame.pending (h : Frame w w') (hp : w.Pending n) (hkeeps : ∀ m ∈ w.heldProviders, m ∈ w'.heldProviders)
    (hadds : ∀ m ∈ w'.heldProviders, m ∈ w.heldProviders ∨ m = n) : w'.Pending n where
  orderly := h.orderly hp.orderly
    (fun m hm => Nat.lt_of_lt_of_le ((hadds m hm).elim (hp.orderly.made m) (· ▸ hp.lt)) h.size)
    fun r hr hh => (h.held_of_adds hadds hh).elim (hp.orderly.held r hr) fun hb => hp.loaded r hb hr
  lt := Nat.lt_of_lt_of_le hp.lt h.size
  loaded r hr ht := by
    rw [h.isLoaded]
    exact hp.loaded r ((h.binary n).symm.trans hr) (h.hasTable.1 ht)
  tidy r hr hl := by
    rw [h.binary]
    exact (hp.tidy r (h.hasTable.1 hr) (h.isLoaded r ▸ hl)).imp_left (h.held_of_keeps hkeeps)

theorem SameHolds.orderly (h : SameHolds w w') (ho : w.Orderly) : w'.Orderly :=
  h.toFrame.orderly_of_sub ho fun m hm => (h.held m).1 hm

theorem SameHolds.fit (h : SameHolds w w') (hf : w.Fit) : w'.Fit :=
  ⟨h.orderly hf.orderly, fun r hr hl => h.heldIff.2 (hf.tidy r (h.hasTable.1 hr) (h.isLoaded r ▸ hl))⟩

theorem SameHolds.pending (h : SameHolds w w') (hp : w.Pending n) : w'.Pending n :=
  h.toFrame.pending hp (fun m hm => (h.held m).2 hm) fun m hm => .inl ((h.held m).1 hm)

theorem Adds.pending (h : Adds n w w') (hp : w.Pending n) : w'.Pending n :=
  h.toFrame.pending hp h.keeps h.adds

/-- A step that changes neither the tables, the kept things nor the sources,
and the binary of no provider. -/
theorem sameHolds_of_binaries (htables : w'.tables = w.tables) (hsystem : w'.system = w.system)
    (hkept : w'.kept = w.kept) (hchildren : w'.children = w.children)
    (hsize : w.providers.size ≤ w'.providers.size)
    (hbinary : ∀ n, (w'.provider n).binary = (w.provider n).binary) : SameHolds w w' where
  tables := htables
  system := hsystem
  kept := hkept
  held n := by simp [heldProviders, hchildren, hkept]
  size := hsize
  binary := hbinary
  discovery i := by simp [loader?, child, hchildren]
  searchPaths i := by simp [searchPaths?, child, hchildren]

theorem providers_setChild {j : Nat} {c : Child} (hp : c.providers = (w.child j).providers) (i : Nat) :
    (({ w with children := w.children.set! j c } : World).child i).providers = (w.child i).providers := by
  rw [child_setChild]
  split_ifs with hij
  · rw [hij.1, hp]
  · rfl

/-- Replacing a lazy source by one with the same discovery and search
paths. -/
theorem frame_setChild {j : Nat} {l l' : Loader} {paths : SearchPaths} {g g' : ScanState}
    (hc : w.child j = .lazy l paths g) (hd : l'.discovery = l.discovery) :
    Frame w { w with children := w.children.set! j (.lazy l' paths g') } where
  tables := rfl
  system := rfl
  kept := rfl
  size := Nat.le_refl _
  binary _ := rfl
  discovery i := by
    rw [loader?_setChild]
    split_ifs with hij
    · obtain ⟨rfl, -⟩ := hij
      simp [loader?, hc, hd]
    · rfl
  searchPaths i := by
    unfold searchPaths?
    rw [child_setChild]
    split_ifs with hij
    · obtain ⟨rfl, -⟩ := hij
      simp [hc]
    · rfl

/-- Replacing a lazy source by one with the same registry and discovery. -/
theorem sameHolds_setChild {j : Nat} {l l' : Loader} {paths : SearchPaths} {g g' : ScanState}
    (hc : w.child j = .lazy l paths g) (hr : l'.registry = l.registry) (hd : l'.discovery = l.discovery) :
    SameHolds w { w with children := w.children.set! j (.lazy l' paths g') } := by
  have hp : (Child.lazy l' paths g').providers = (w.child j).providers := by
    rw [hc]
    simp [Child.providers, hr]
  exact ⟨frame_setChild hc hd, fun n => by simp only [mem_heldProviders, providers_setChild hp]⟩

/-! ## The primitive steps -/

theorem ends_log_sameHolds (level : Level) (component : Component) (message : String)
    (fields : List (String × FieldValue)) (w : World) :
    (log level component message fields).Ends w fun _ w' => SameHolds w w' :=
  Op.ends_modify (sameHolds_of_binaries rfl rfl rfl rfl (Nat.le_refl _) fun _ => rfl)

theorem ends_logAll_sameHolds (events : List Event) (w : World) :
    (logAll events).Ends w fun _ w' => SameHolds w w' :=
  Op.ends_modify (sameHolds_of_binaries rfl rfl rfl rfl (Nat.le_refl _) fun _ => rfl)

theorem provider_set (n m : Nat) (p : Provider) :
    ({ w with providers := w.providers.set! n p } : World).provider m =
      if m = n ∧ n < w.providers.size then p else w.provider m := by
  unfold provider
  by_cases hmn : m = n
  · subst hmn
    by_cases hlt : m < w.providers.size <;> simp [Array.getD, hlt]
  · simp only [Array.getD, Array.set!_eq_setIfInBounds, Array.size_setIfInBounds, hmn, false_and, if_false]
    split_ifs <;> simp_all [Array.getElem_setIfInBounds_ne, Ne.symm hmn]

/-- Replacing a provider by one with the same binary. -/
theorem sameHolds_setProvider {p : Provider} (hp : p.binary = (w.provider n).binary) :
    SameHolds w { w with providers := w.providers.set! n p } := by
  refine sameHolds_of_binaries rfl rfl rfl rfl (by simp) fun m => ?_
  rw [provider_set]
  split_ifs with h
  · rw [h.1, hp]
  · rfl

theorem ends_setProvider_sameHolds {p : Provider} (hp : p.binary = (w.provider n).binary) :
    (setProvider n p).Ends w fun _ w' => SameHolds w w' :=
  Op.ends_modify (sameHolds_setProvider hp)

theorem ends_identify_sameHolds (n : Nat) (w : World) :
    (identify n).Ends w fun _ w' => SameHolds w w' :=
  ⟨_, _, rfl, sameHolds_setProvider rfl⟩

theorem ends_setGate_sameHolds (i : Nat) (g : ScanState) (w : World) :
    (setGate i g).Ends w fun _ w' => SameHolds w w' := by
  unfold setGate
  refine Op.ends_get_bind ?_
  cases hc : w.child i with
  | lazy l paths g₀ => exact Op.ends_modify (sameHolds_setChild hc rfl rfl)
  | fixed ps => exact Op.ends_pure (SameHolds.refl w)

theorem run_updateLoader {i : Nat} {l : Loader} {paths : SearchPaths} {g : ScanState}
    (hc : w.child i = .lazy l paths g) (f : Loader → Loader) :
    (updateLoader i f).run.run w = (.ok (), { w with children := w.children.set! i (.lazy (f l) paths g) }) := by
  show (match w.child i with
    | .lazy l paths g => setChild i (.lazy (f l) paths g)
    | .fixed _ => pure ()).run.run w = _
  rw [hc]
  rfl

/-- Changing a loader but neither its registry nor its discovery. -/
theorem ends_updateLoader_sameHolds (i : Nat) {f : Loader → Loader}
    (hr : ∀ l, (f l).registry = l.registry) (hd : ∀ l, (f l).discovery = l.discovery) (w : World) :
    (updateLoader i f).Ends w fun _ w' => SameHolds w w' := by
  cases hc : w.child i with
  | lazy l paths g => exact ⟨_, _, run_updateLoader hc f, sameHolds_setChild hc (hr l) (hd l)⟩
  | fixed ps =>
    refine ⟨(), w, ?_, SameHolds.refl w⟩
    show (match w.child i with
      | .lazy l paths g => setChild i (.lazy (f l) paths g)
      | .fixed _ => pure ()).run.run w = _
    rw [hc]
    rfl

/-! ## Steps of a scan: holders only come -/

/-- What a step of a scan keeps: the kept things, every provider held, the
binary of every provider made, and the discovery and search paths of every
source. -/
structure Grows (w w' : World) : Prop where
  kept : w'.kept = w.kept
  held : ∀ n ∈ w.heldProviders, n ∈ w'.heldProviders
  size : w.providers.size ≤ w'.providers.size
  binary : ∀ n < w.providers.size, (w'.provider n).binary = (w.provider n).binary
  discovery : ∀ i, (w'.loader? i).map (·.discovery) = (w.loader? i).map (·.discovery)
  searchPaths : ∀ i, w'.searchPaths? i = w.searchPaths? i

theorem Grows.refl (w : World) : Grows w w :=
  ⟨rfl, fun _ h => h, Nat.le_refl _, fun _ _ => rfl, fun _ => rfl, fun _ => rfl⟩

theorem Grows.trans {w₂ : World} (h₁ : Grows w w₁) (h₂ : Grows w₁ w₂) : Grows w w₂ :=
  ⟨h₂.kept.trans h₁.kept, fun n hn => h₂.held n (h₁.held n hn), Nat.le_trans h₁.size h₂.size,
    fun n hn => (h₂.binary n (Nat.lt_of_lt_of_le hn h₁.size)).trans (h₁.binary n hn),
    fun i => (h₂.discovery i).trans (h₁.discovery i), fun i => (h₂.searchPaths i).trans (h₁.searchPaths i)⟩

theorem SameHolds.grows (h : SameHolds w w') : Grows w w' :=
  ⟨h.kept, fun n hn => (h.held n).2 hn, h.size, fun n _ => h.binary n, h.discovery, h.searchPaths⟩

/-- Where a scan from `w` leaves the world, whether it panics or not: fit,
with every holder of `w` still there. -/
structure Scanned (w w' : World) : Prop where
  fit : w'.Fit
  grows : Grows w w'

theorem Scanned.refl (hf : w.Fit) : Scanned w w := ⟨hf, Grows.refl w⟩

theorem Scanned.trans {w₂ : World} (h₁ : Scanned w w₁) (h₂ : Scanned w₁ w₂) : Scanned w w₂ :=
  ⟨h₂.fit, h₁.grows.trans h₂.grows⟩

theorem Adds.grows (h : Adds n w w') : Grows w w' :=
  ⟨h.kept, h.keeps, h.size, fun m _ => h.binary m, h.discovery, h.searchPaths⟩

theorem OnlyTables.grows (h : OnlyTables w w') : Grows w w' := by
  obtain ⟨_, _, _, _, _, rfl⟩ := h
  exact ⟨rfl, fun _ hn => hn, Nat.le_refl _, fun _ _ => rfl, fun _ => rfl, fun _ => rfl⟩

/-- In an orderly world a scan keeps every binary held. -/
theorem Grows.held_of (h : Grows w w') (ho : w.Orderly) (hr : w.Held r) : w'.Held r := by
  rcases hr with ⟨n, hn, hb⟩ | ⟨e, he, hpos⟩
  · exact .inl ⟨n, h.held n hn, (h.binary n (ho.made n hn)).trans hb⟩
  · exact .inr ⟨e, h.kept ▸ he, hpos⟩

/-! ## Unloading -/

/-- A step that changes only the tables keeps the world orderly when each
table still lists a path once and everything held stays loaded. -/
theorem OnlyTables.orderly (h : OnlyTables w w') (ho : w.Orderly)
    (hnodup : ∀ s, w'.HasTable s → ((w'.table s).loaded.map (·.1)).Nodup)
    (hheld : ∀ r, w'.HasTable r.shelf → w.Held r → w'.isLoaded r = true) : w'.Orderly := by
  have hsame : w'.Held = w.Held := h.held
  obtain ⟨_, _, _, _, _, rfl⟩ := h
  exact ⟨hnodup, fun r hr hh => hheld r hr (hsame ▸ hh), ho.made, ho.listed, ho.kept⟩

/-- Unloading what nothing holds leaves an orderly world fit. -/
theorem Collected.fit (hc : Collected w w') (ho : w.Orderly) : w'.Fit := by
  have hs : ∀ {s}, w'.HasTable s ↔ w.HasTable s := hasTable_iff_of_length hc.length
  have hheld : w'.Held = w.Held := hc.only.held
  refine ⟨hc.only.orderly ho (fun s h => ?_) (fun r hr hh => ?_), fun r hr hl => hheld ▸ ((hc.isLoaded (hs.1 hr)).1 hl).2⟩
  · rw [hc.table s (hs.1 h)]
    exact (ho.nodup s (hs.1 h)).sublist (List.filter_sublist.map _)
  · exact (hc.isLoaded (hs.1 hr)).2 ⟨ho.held r (hs.1 hr) hh, hh⟩

theorem ends_collect_fit (ho : w.Orderly) : collect.Ends w fun _ w' => w'.Fit ∧ OnlyTables w w' :=
  (ends_collect_collected w).mono fun _ _ hc => ⟨hc.fit ho, hc.only⟩

/-- A pending provider without a binary leaves nothing pending. -/
theorem Pending.fit (hp : w.Pending n) (hb : (w.provider n).binary = none) : w.Fit :=
  ⟨hp.orderly, fun r hr hl => (hp.tidy r hr hl).resolve_right (by simp [hb])⟩

/-! ## Registering -/

theorem child_of_loader? {i : Nat} {l : Loader} (hl : w.loader? i = some l) :
    ∃ paths g, w.child i = .lazy l paths g := by
  unfold loader? at hl
  split at hl
  · rename_i paths g hc
    cases hl
    exact ⟨paths, g, hc⟩
  · cases hl

/-- Registering with a source's loader keeps every provider it held and may
hold the one registered. -/
theorem ends_updateLoader_register {i : Nat} {l : Loader} {identifier : String} {origin : Origin}
    {registry : Registry Nat} (hl : w.loader? i = some l)
    (hr : (l.registry.register identifier n origin).1 = registry) :
    (updateLoader i fun l' => { l' with registry }).Ends w fun _ w' => Adds n w w' := by
  subst hr
  obtain ⟨paths, g, hc⟩ := child_of_loader? hl
  refine ⟨_, _, run_updateLoader hc _, ⟨frame_setChild hc rfl, fun m hm => ?_, fun m hm => ?_⟩⟩
  · refine mem_heldProviders_setChild_of_mem hm fun m' hm' => ?_
    rw [hc] at hm'
    obtain ⟨e, he, rfl⟩ := List.mem_map.1 hm'
    exact List.mem_map.2 ⟨e, Registry.mem_register_of_mem he, rfl⟩
  · rcases mem_heldProviders_setChild hm with hold | hnew
    · exact .inl hold
    · obtain ⟨e, he, rfl⟩ := List.mem_map.1 hnew
      rcases Registry.mem_of_mem_register he with hold | rfl
      · exact .inl (mem_heldProviders.2 (.inl ⟨i, by rw [hc]; exact List.mem_map.2 ⟨e, hold, rfl⟩⟩))
      · exact .inr rfl

/-! ## Opening and loading -/

variable {shelf : Shelf} {path c : String}

/-- What opening a binary leaves: only the tables and the counts change,
every binary loaded stays loaded, and the one opened is the only one to
join, once, where its table exists. -/
structure Opens (ref : BinaryRef) (w w' : World) : Prop where
  only : OnlyTables w w'
  length : w'.tables.length = w.tables.length
  keeps : ∀ r, w.isLoaded r = true → w'.isLoaded r = true
  fresh : ∀ r, w'.isLoaded r = true → w.isLoaded r = true ∨ r = ref
  loaded : w'.HasTable ref.shelf → w'.isLoaded ref = true
  nodup : (∀ s, w.HasTable s → ((w.table s).loaded.map (·.1)).Nodup) →
    ∀ s, w'.HasTable s → ((w'.table s).loaded.map (·.1)).Nodup

theorem Opens.orderly {ref : BinaryRef} (h : Opens ref w w') (ho : w.Orderly) : w'.Orderly :=
  h.only.orderly ho (h.nodup ho.nodup) fun r hr hh =>
    h.keeps r (ho.held r ((hasTable_iff_of_length h.length).1 hr) hh)

/-- A step that changes the counts and the trail only opens nothing. -/
theorem Opens.of_tables {ref : BinaryRef} (h : OnlyTables w w') (htables : w'.tables = w.tables)
    (hsystem : w'.system = w.system) (hl : w'.HasTable ref.shelf → w'.isLoaded ref = true) : Opens ref w w' := by
  have ht : ∀ s, w'.table s = w.table s := fun s => by cases s <;> simp [table, htables, hsystem]
  have hl' : ∀ r, w'.isLoaded r = w.isLoaded r := fun r => by simp [isLoaded, ht]
  refine ⟨h, by rw [htables], fun r hr => (hl' r).trans hr, fun r hr => .inl ((hl' r).symm.trans hr), hl,
    fun hnodup s hs => ?_⟩
  rw [ht]
  exact hnodup s ((hasTable_iff_of_length (by rw [htables])).1 hs)

/-- Opening a binary: a failure changes nothing, and a success opens the
binary it answers. -/
theorem ends_openBinary_opens (shelf : Shelf) (path : String) (w : World) :
    (openBinary shelf path).Ends w fun res w' => match res with
      | .ok ref => Opens ref w w'
      | .error _ => w' = w := by
  cases hc : w.fs.canonicalize "/" path with
  | error e => exact ⟨_, _, run_openBinary_of_canonicalize_error hc, rfl⟩
  | ok c =>
    cases hl : w.isLoaded ⟨shelf, c⟩ with
    | true =>
      refine (ends_openBinary_of_loaded hc hl).mono fun res w' ⟨hres, t, hw'⟩ => ?_
      subst hres hw'
      exact Opens.of_tables ⟨w.tables, w.system, w.standIns.opens, w.standIns.unloads, t, rfl⟩ rfl rfl
        fun _ => hl
    | false =>
      cases hb : w.opener shelf c with
      | error e => exact ⟨_, _, run_openBinary_of_opener_error hc hl hb, rfl⟩
      | ok b =>
        by_cases ht : w.HasTable shelf
        · refine (ends_openBinary_of_opened hc hl hb ht).mono
            fun res w' ⟨hres, honly, hlen, htab, hothers, _, _⟩ => ?_
          subst hres
          have hload := fun r => isLoaded_of_append (r := r) htab hothers
          refine ⟨honly, hlen, fun r hr => (hload r).2 (.inl hr), fun r hr => ?_,
            fun _ => (hload _).2 (.inr ⟨rfl, b, List.mem_singleton_self _⟩), fun hnodup s hs => ?_⟩
          · rcases (hload r).1 hr with hold | ⟨hs, b', hb'⟩
            · exact .inl hold
            · obtain ⟨rfl, -⟩ := Prod.mk.inj (List.mem_singleton.1 hb')
              exact .inr (by cases r; simp_all)
          · by_cases hss : s = shelf
            · subst hss
              rw [htab, List.map_append, List.nodup_append]
              refine ⟨hnodup s ht, List.nodup_singleton _, fun x hx y hy => ?_⟩
              obtain rfl := List.mem_singleton.1 (by simpa using hy)
              rintro rfl
              obtain ⟨⟨p, b'⟩, hmem, rfl⟩ := List.mem_map.1 hx
              have : w.isLoaded ⟨s, p⟩ = true := isLoaded_iff_mem.2 ⟨b', hmem⟩
              rw [hl] at this
              cases this
            · rw [hothers s hss]
              exact hnodup s ((hasTable_iff_of_length hlen).1 hs)
        · -- a scenario table out of range: the open is counted and nothing loads
          cases shelf with
          | system => exact absurd trivial ht
          | scratch k =>
            have hk : w.tables.length ≤ k := Nat.le_of_not_lt ht
            have hl' : ¬ ((w.table (.scratch k)).binary? c).isSome = true := by simpa [isLoaded] using hl
            refine ⟨.ok ⟨.scratch k, c⟩, _, ?_, Opens.of_tables ⟨w.tables, w.system, StandIns.bump w.standIns.opens c,
              w.standIns.unloads, w.trail.push ⟨.debug, .library, "opened native plugin binary",
                [Event.shown "path" c]⟩, rfl⟩ rfl rfl fun h => absurd (show k < w.tables.length from h) ht⟩
            unfold openBinary
            simp only [Op.run_bind, Op.run_get, hc, if_neg hl', hb, Op.run_pure, Op.run_modify, setTable, run_log]
            simp [List.set_eq_of_length_le hk]

theorem ends_declarationOf_sameHolds (b : Binary) (ref : BinaryRef) (symbol : Option String) (w : World) :
    (declarationOf b ref symbol).Ends w fun _ w' => SameHolds w w' := by
  unfold declarationOf
  cases symbol with
  | some s => exact Op.ends_pure (SameHolds.refl w)
  | none =>
    dsimp only
    cases b.declaration? entrySymbol with
    | some d => exact Op.ends_pure (SameHolds.refl w)
    | none =>
      cases b.declaration? legacySymbol with
      | some d => exact (ends_log_sameHolds _ _ _ _ w).bind fun _ _ h => Op.ends_pure h
      | none => exact Op.ends_pure (SameHolds.refl w)

theorem provider_push (p : Provider) (m : Nat) :
    ({ w with providers := w.providers.push p } : World).provider m =
      if m = w.providers.size then p else w.provider m := by
  unfold provider
  rcases Nat.lt_trichotomy m w.providers.size with hlt | rfl | hgt
  · simp [Array.getD, hlt, Nat.lt_succ_of_lt hlt, Array.getElem_push_lt, Nat.ne_of_lt hlt]
  · simp [Array.getD]
  · simp [Array.getD, Nat.not_lt.2 (Nat.le_of_lt hgt), Nat.not_lt.2 (Nat.succ_le_of_lt hgt), Nat.ne_of_gt hgt]

/-- A new provider leaves a load pending: whatever is loaded and not held is
its binary, and its binary is loaded. -/
theorem ends_addProvider_pending {p : Provider} (ho : w.Orderly)
    (hload : ∀ r, p.binary = some r → w.HasTable r.shelf → w.isLoaded r = true)
    (htidy : ∀ r, w.HasTable r.shelf → w.isLoaded r = true → w.Held r ∨ p.binary = some r) :
    (addProvider p).Ends w fun n w' => w'.Pending n ∧ Grows w w' := by
  refine ⟨_, { w with providers := w.providers.push p }, rfl, ?_⟩
  -- the held providers are older than the new one, so keep their binaries
  have hold : ∀ m, m < w.providers.size →
      ({ w with providers := w.providers.push p } : World).provider m = w.provider m := fun m hm => by
    rw [provider_push, if_neg (Nat.ne_of_lt hm)]
  have hheld : ∀ r, ({ w with providers := w.providers.push p } : World).Held r ↔ w.Held r := fun r => by
    unfold Held
    refine or_congr_left ⟨fun ⟨m, hm, hb⟩ => ⟨m, hm, ?_⟩, fun ⟨m, hm, hb⟩ => ⟨m, hm, ?_⟩⟩
    · rwa [hold m (ho.made m hm)] at hb
    · rwa [hold m (ho.made m hm)]
  have hnew : ({ w with providers := w.providers.push p } : World).provider w.providers.size = p := by
    rw [provider_push, if_pos rfl]
  have hsize : w.providers.size ≤ (w.providers.push p).size := by simp
  refine ⟨⟨⟨ho.nodup, fun r hr hh => ho.held r hr ((hheld r).1 hh),
      fun m hm => Nat.lt_of_lt_of_le (ho.made m hm) hsize, fun i l listed hl hd e he m hm => ?_, ho.kept⟩,
    by simp, fun r hr ht => hload r (hnew ▸ hr) ht,
    fun r hr hl => (htidy r hr hl).imp (hheld r).2 fun hb => by rw [hnew]; exact hb⟩,
    ⟨rfl, fun _ hm => hm, hsize, fun m hm => by rw [hold m hm], fun _ => rfl, fun _ => rfl⟩⟩
  obtain ⟨hlt, hb⟩ := ho.listed i l listed hl hd e he m hm
  exact ⟨Nat.lt_of_lt_of_le hlt hsize, by rw [hold m hlt, hb]⟩

/-- Loading a binary from a fit world: a failure leaves it fit, a success
leaves the new provider pending. -/
theorem ends_loadBinary_pending (hf : w.Fit) (shelf : Shelf) (path : String) (symbol : Option String) :
    (loadBinary shelf path symbol).Ends w fun res w' => Grows w w' ∧ match res with
      | .ok n => w'.Pending n
      | .error _ => w'.Fit := by
  unfold loadBinary
  refine (ends_openBinary_opens shelf path w).bind fun res w₁ h₁ => ?_
  cases res with
  | error e =>
    rw [h₁]
    exact Op.ends_pure ⟨Grows.refl w, hf⟩
  | ok ref =>
    refine Op.ends_get_bind ?_
    have ho₁ : w₁.Orderly := h₁.orderly hf.orderly
    dsimp only
    refine (ends_declarationOf_sameHolds _ ref symbol w₁).bind fun d w₂ h₂ => ?_
    have ho₂ : w₂.Orderly := h₂.orderly ho₁
    have hgrows : Grows w w₂ := h₁.only.grows.trans h₂.grows
    -- a failure after the open lets go of what nothing holds
    have hfailed : ∀ e : PluginError, (do collect; pure (Except.error e) : Op (Except PluginError Nat)).Ends w₂
        fun res w' => Grows w w' ∧ match res with
          | .ok n => w'.Pending n
          | .error _ => w'.Fit := fun e =>
      (ends_collect_fit ho₂).bind fun _ w₃ ⟨hf₃, h₃⟩ => Op.ends_pure ⟨hgrows.trans h₃.grows, hf₃⟩
    have ht₂ : ∀ {s}, w₂.HasTable s → w.HasTable s := fun h =>
      (hasTable_iff_of_length h₁.length).1 (h₂.hasTable.1 h)
    cases d with
    | error e => exact hfailed e
    | ok d =>
      dsimp only
      split
      · exact hfailed _
      · split
        · exact hfailed _
        · -- the new provider's binary is the one opened, loaded and not yet held
          refine (ends_addProvider_pending ho₂ (fun r hr ht => ?_) fun r hr hl => ?_).bind
            fun n w₃ ⟨hp₃, h₃⟩ => Op.ends_pure ⟨hgrows.trans h₃, hp₃⟩
          · obtain rfl := Option.some.inj hr
            rw [h₂.isLoaded]
            exact h₁.loaded (h₂.hasTable.1 ht)
          · rw [h₂.isLoaded] at hl
            rcases h₁.fresh r hl with hold | rfl
            · refine .inl (h₂.heldIff.2 ?_)
              rw [h₁.only.held]
              exact hf.tidy r (ht₂ hr) hold
            · exact .inr rfl

/-- Registering a pending provider with a source's loader leaves the world
fit, whether the provider is taken or let go. -/
theorem ends_registerProvider_scanned {i : Nat} (hp : w.Pending n) (hl : (w.loader? i).isSome) (origin : Origin) :
    (registerProvider i n origin).Ends w fun _ => Scanned w := by
  unfold registerProvider
  refine (ends_identify_sameHolds n w).bind fun a w₁ h₁ => ?_
  have hp₁ := h₁.pending hp
  -- a provider that is let go leaves its binary to the unloading
  have hdrop : ∀ e : PluginError, (do collect; pure (Except.error e) : Op (Except PluginError (Option String))).Ends w₁
      fun _ => Scanned w := fun e =>
    (ends_collect_fit hp₁.orderly).bind fun _ w₂ ⟨hf₂, h₂⟩ => Op.ends_pure ⟨hf₂, h₁.grows.trans h₂.grows⟩
  cases a with
  | error message => exact hdrop _
  | ok identifier =>
    dsimp only
    split
    · exact hdrop _
    · refine Op.ends_get_bind ?_
      cases hl₁ : w₁.loader? i with
      | none =>
        have hd := h₁.discovery i
        rw [hl₁] at hd
        cases hw : w.loader? i <;> simp_all
      | some l =>
        dsimp only
        rcases hreg : l.registry.register identifier n origin with ⟨registry, rejected, events⟩
        dsimp only
        refine (ends_updateLoader_register hl₁ (congrArg Prod.fst hreg)).bind fun _ w₂ h₂ => ?_
        refine (ends_logAll_sameHolds _ w₂).bind fun _ w₃ h₃ => ?_
        exact (ends_collect_fit (h₃.pending (h₂.pending hp₁)).orderly).bind fun _ w₄ ⟨hf₄, h₄⟩ =>
          Op.ends_pure ⟨hf₄, h₁.grows.trans (h₂.grows.trans (h₃.grows.trans h₄.grows))⟩

/-! ## Scanning -/

variable {i : Nat} {w₀ : World}

theorem Grows.isSome_loader? (h : Grows w w') (i : Nat) : (w'.loader? i).isSome = (w.loader? i).isSome := by
  have hd := h.discovery i
  cases h' : w'.loader? i <;> cases h'' : w.loader? i <;> simp_all

/-- A step that leaves the holds alone keeps a scan fit. -/
theorem SameHolds.scanned (h : SameHolds w w') (hf : w.Fit) (hg : Grows w₀ w) : Scanned w₀ w' :=
  ⟨h.fit hf, hg.trans h.grows⟩

theorem ends_log_scanned (hf : w.Fit) (hg : Grows w₀ w) (level : Level) (component : Component) (message : String)
    (fields : List (String × FieldValue)) :
    (log level component message fields).Ends w fun _ => Scanned w₀ :=
  (ends_log_sameHolds _ _ _ _ w).mono fun _ _ h => h.scanned hf hg

theorem ends_scanNativeEntry_scanned (hf : w.Fit) (hl : (w.loader? i).isSome) (shelf : Shelf) (path : String) :
    (scanNativeEntry i shelf path).Ends w fun _ => Scanned w := by
  unfold scanNativeEntry
  refine Op.ends_get_bind ?_
  split
  · exact (ends_log_scanned hf (Grows.refl w) _ _ _ _).bind fun _ _ h => Op.ends_pure h
  · refine (ends_loadBinary_pending hf shelf path none).bind fun res w₁ ⟨h₁, hres⟩ => ?_
    cases res with
    | error e => exact ends_log_scanned hres h₁ _ _ _ _
    | ok n =>
      refine Op.ends_get_bind ?_
      refine (ends_registerProvider_scanned hres (h₁.isSome_loader? i ▸ hl) _).bind fun r w₂ ⟨hf₂, h₂⟩ => ?_
      cases r with
      | error e => exact ends_log_scanned hf₂ (h₁.trans h₂) _ _ _ _
      | ok _ => exact Op.ends_pure ⟨hf₂, h₁.trans h₂⟩

/-- Loading a package from a fit world: a failure leaves it fit, a success
leaves its provider pending. -/
theorem ends_loadPackage_pending (hf : w.Fit) (shelf : Shelf) (manifestPath : String) :
    (loadPackage shelf manifestPath).Ends w fun res w' => Grows w w' ∧ match res with
      | .ok (_, n) => w'.Pending n
      | .error _ => w'.Fit := by
  unfold loadPackage
  refine Op.ends_get_bind ?_
  dsimp only
  split
  · exact Op.ends_pure ⟨Grows.refl w, hf⟩
  · rename_i m _
    refine (ends_loadBinary_pending hf shelf m.library m.symbol).bind fun res w₁ ⟨h₁, hres⟩ => ?_
    cases res with
    | error e => exact Op.ends_pure ⟨h₁, hres⟩
    | ok n =>
      refine Op.ends_get_bind ?_
      refine (ends_identify_sameHolds n w₁).bind fun a w₂ h₂ => ?_
      have hp₂ := h₂.pending hres
      -- a provider that names itself wrongly is let go with its binary
      have hdrop : ∀ e : PluginError, (do collect; pure (Except.error e) : Op (Except PluginError (Manifest × Nat))).Ends w₂
          fun res w' => Grows w w' ∧ match res with
            | .ok (_, n) => w'.Pending n
            | .error _ => w'.Fit := fun e =>
        (ends_collect_fit hp₂.orderly).bind fun _ w₃ ⟨hf₃, h₃⟩ =>
          Op.ends_pure ⟨h₁.trans (h₂.grows.trans h₃.grows), hf₃⟩
      cases a with
      | error message => exact hdrop _
      | ok actual =>
        dsimp only
        split
        · exact hdrop _
        · exact Op.ends_pure ⟨h₁.trans h₂.grows, hp₂⟩

/-- Loading and registering the package of one entry of a search path. -/
theorem ends_scanPackageEntry_scanned (hf : w.Fit) (hl : (w.loader? i).isSome) (shelf : Shelf) (entry : String) :
    (scanPackageEntry i shelf entry).Ends w fun _ => Scanned w := by
  unfold scanPackageEntry
  refine Op.ends_get_bind ?_
  dsimp only
  split
  · exact ends_log_scanned hf (Grows.refl w) _ _ _ _
  · refine (ends_loadPackage_pending hf shelf _).bind fun res w₁ ⟨h₁, hres⟩ => ?_
    rcases res with e | ⟨manifest, n⟩
    · exact ends_log_scanned hres h₁ _ _ _ _
    · refine (ends_registerProvider_scanned hres (h₁.isSome_loader? i ▸ hl) _).bind fun r w₂ ⟨hf₂, h₂⟩ => ?_
      rcases r with e | _ | identifier
      · exact ends_log_scanned hf₂ (h₁.trans h₂) _ _ _ _
      · exact Op.ends_pure ⟨hf₂, h₁.trans h₂⟩
      · -- the manifest is kept beside the registry
        refine (ends_updateLoader_sameHolds i ?_ ?_ w₂).mono fun _ _ h => h.scanned hf₂ (h₁.trans h₂)
        all_goals exact fun _ => rfl

theorem ends_scanEntryPoint_scanned (hf : w.Fit) (hl : (w.loader? i).isSome) (e : EntryPoint) :
    (scanEntryPoint i e).Ends w fun _ => Scanned w := by
  unfold scanEntryPoint
  refine Op.ends_get_bind ?_
  split
  · exact ends_log_scanned hf (Grows.refl w) _ _ _ _
  · -- a provider made by a function of the program has no binary
    refine (ends_addProvider_pending hf.orderly (fun r hr => by cases hr)
      fun r hr hl => .inl (hf.tidy r hr hl)).bind fun n w₁ ⟨hp₁, h₁⟩ => ?_
    refine (ends_registerProvider_scanned hp₁ (h₁.isSome_loader? i ▸ hl) _).bind
      fun res w₂ ⟨hf₂, h₂⟩ => ?_
    cases res with
    | error err => exact ends_log_scanned hf₂ (h₁.trans h₂) _ _ _ _
    | ok _ => exact Op.ends_pure ⟨hf₂, h₁.trans h₂⟩

theorem ends_scanEntryPoints_scanned (hf : w.Fit) (hl : (w.loader? i).isSome) (group : String) :
    (scanEntryPoints i group).Ends w fun _ => Scanned w := by
  -- disabled, the scan only logs; enabled, it registers each entry point in turn
  have hoff : ∀ fields, (do log .debug .package "entry point plugins disabled" fields; pure () : Op Unit).Ends w
      fun _ => Scanned w := fun _ =>
    (ends_log_scanned hf (Grows.refl w) _ _ _ _).bind fun _ _ h => Op.ends_pure h
  unfold scanEntryPoints
  refine Op.ends_get_bind ?_
  dsimp only
  split
  · split
    · exact hoff _
    · refine (ends_log_scanned hf (Grows.refl w) _ _ _ _).bind fun _ w₁ h₁ => ?_
      refine (Op.ends_forIn (fun _ _ => Scanned w) (fun e _ _ w₂ h₂ => ?_) h₁).bind
        fun _ w₂ h₂ => Op.ends_pure h₂
      obtain ⟨hf₂, h₂⟩ := h₂
      exact (ends_scanEntryPoint_scanned hf₂ ((h₂.isSome_loader? i).trans hl) e).bind fun _ _ h =>
        Op.ends_pure ⟨_, rfl, h.fit, h₂.trans h.grows⟩
  · rw [if_pos (show (!false) = true from rfl)]
    exact hoff _

/-- A provider a listing names for a path is named by one of its entries. -/
theorem mem_listed_of_find? {listed : List (String × List Nat)} {p : String × List Nat → Bool}
    (hn : n ∈ ((listed.find? p).map (·.2)).getD []) : ∃ e ∈ listed, n ∈ e.2 := by
  cases hf : listed.find? p with
  | none => simp [hf] at hn
  | some e =>
    rw [hf] at hn
    exact ⟨e, List.mem_of_find?_eq_some hf, hn⟩

/-- Holding one provider more, made without a binary, keeps a world fit. -/
theorem Adds.fit (h : Adds n w w') (hf : w.Fit) (hn : n < w.providers.size) (hb : (w.provider n).binary = none) :
    w'.Fit :=
  (h.pending (hf.pending hn hb)).fit (by rw [h.binary, hb])

/-- A listing registers the providers it names for each path; asking one its
identifier may panic, which ends the scan where it stands. -/
theorem within_scanListed {listed : List (String × List Nat)} (hf : w.Fit)
    (hl : (w.loader? i).map (·.discovery) = some (.listed listed)) (paths : List String) :
    (scanListed i listed paths).Within w (Scanned w) fun _ => Scanned w := by
  unfold scanListed
  refine ((ends_updateLoader_sameHolds i (f := fun l => { l with scans := l.scans + 1 }) (fun _ => rfl)
    (fun _ => rfl) w).mono fun _ _ h => h.scanned hf (Grows.refl w)).within.bind fun _ w₁ h₁ => ?_
  refine (Op.within_forIn (fun _ _ => Scanned w) (fun path _ _ w₂ h₂ => ?_) h₁).bind
    fun _ w₂ h₂ => Op.within_pure h₂
  dsimp only
  -- every provider still to be asked is named by the listing
  refine (Op.within_forIn (fun ns _ w' => Scanned w w' ∧ ∀ n ∈ ns, ∃ e ∈ listed, n ∈ e.2)
    (fun n ns _ w₃ h₃ => ?_) ⟨h₂, fun n hn => mem_listed_of_find? hn⟩).bind fun _ w₃ h₃ => Op.within_pure h₃.1
  obtain ⟨⟨hf₃, hg₃⟩, hns⟩ := h₃
  have hrest : ∀ m ∈ ns, ∃ e ∈ listed, m ∈ e.2 := fun m hm => hns m (List.mem_cons_of_mem _ hm)
  -- and was made without a binary
  obtain ⟨l₃, hl₃, hd₃⟩ := Option.map_eq_some_iff.1 ((hg₃.discovery i).trans hl)
  obtain ⟨e, he, hne⟩ := hns n List.mem_cons_self
  obtain ⟨hlt, hb⟩ := hf₃.orderly.listed i l₃ listed hl₃ hd₃ e he n hne
  refine (ends_identify_sameHolds n w₃).within.bind fun a w₄ h₄ => ?_
  have hf₄ := h₄.fit hf₃
  have hg₄ := hg₃.trans h₄.grows
  cases a with
  | error message => exact (Op.within_throw (Q := fun _ _ => False) message ⟨hf₄, hg₄⟩).bind fun _ _ h => h.elim
  | ok identifier =>
    refine Op.within_get_bind ?_
    split
    · exact Op.within_pure ⟨⟨hf₄, hg₄⟩, hrest⟩
    · rename_i l₄ hl₄
      rcases hreg : l₄.registry.register identifier n (.label path) with ⟨registry, rejected, events⟩
      dsimp only
      have hlt₄ : n < w₄.providers.size := Nat.lt_of_lt_of_le hlt h₄.size
      have hb₄ : (w₄.provider n).binary = none := (h₄.binary n).trans hb
      exact ((ends_updateLoader_register hl₄ (congrArg Prod.fst hreg)).bind fun _ w₅ h₅ =>
        (ends_logAll_sameHolds events w₅).bind fun _ w₆ h₆ =>
          Op.ends_pure ⟨⟨h₆.fit (h₅.fit hf₄ hlt₄ hb₄), hg₄.trans (h₅.grows.trans h₆.grows)⟩, hrest⟩).within

theorem ends_directoryEntries_sameHolds (dir : String) (visited : List String) (kind : String) (w : World) :
    (directoryEntries dir visited kind).Ends w fun _ w' => SameHolds w w' := by
  unfold directoryEntries
  refine Op.ends_get_bind ?_
  split
  · exact (ends_log_sameHolds _ _ _ _ w).bind fun _ _ h => Op.ends_pure h
  · dsimp only
    split
    · exact (ends_log_sameHolds _ _ _ _ w).bind fun _ _ h => Op.ends_pure h
    · exact Op.ends_pure (SameHolds.refl w)

/-- Walking the directories of a native or package loader, entry by entry,
with an entry scan that keeps the world fit. -/
theorem ends_walkPaths {kind searching : String} {component : Component} {scan : String → Op Unit}
    (paths : List String) (hf : w.Fit)
    (hscan : ∀ entry w', Scanned w w' → (scan entry).Ends w' fun _ => Scanned w) :
    (forIn paths ([] : List String) fun dir visited => do
      log .debug component searching [Event.text "loader" kind, Event.shown "path" dir]
      let found ← directoryEntries dir visited kind
      forIn (found.1.getD []) PUnit.unit fun entry _ => do
        scan entry
        pure (ForInStep.yield PUnit.unit)
      pure (ForInStep.yield found.2)).Ends w fun _ => Scanned w := by
  refine Op.ends_forIn (fun _ _ => Scanned w) (fun dir _ visited w₁ ⟨hf₁, hg₁⟩ => ?_) (Scanned.refl hf)
  refine (ends_log_sameHolds _ _ _ _ w₁).bind fun _ w₂ h₂ => ?_
  refine (ends_directoryEntries_sameHolds _ _ _ w₂).bind fun found w₃ h₃ => ?_
  refine (Op.ends_forIn (fun _ _ => Scanned w) (fun entry _ _ w₄ h₄ => ?_)
    ((h₂.trans h₃).scanned hf₁ hg₁)).bind fun _ w₄ h₄ => Op.ends_pure ⟨_, rfl, h₄⟩
  exact (hscan entry w₄ h₄).bind fun _ w₅ h₅ => Op.ends_pure ⟨_, rfl, h₅⟩

theorem within_scanPaths {l : Loader} (hf : w.Fit) (hl : (w.loader? i).map (·.discovery) = some l.discovery)
    (paths : List String) :
    (scanPaths i l paths).Within w (Scanned w) fun _ => Scanned w := by
  unfold scanPaths
  split
  · rename_i listed hd
    exact within_scanListed hf (hd ▸ hl) paths
  all_goals
    have hsome : (w.loader? i).isSome := by
      obtain ⟨l', hl', -⟩ := Option.map_eq_some_iff.1 hl
      simp [hl']
    rename_i hd
    simp only [hd]
  · refine (ends_walkPaths paths hf fun entry w' h' => ?_).within.bind fun _ w₁ h₁ => Op.within_pure h₁
    exact (ends_scanNativeEntry_scanned h'.fit ((h'.grows.isSome_loader? i).trans hsome) _ _).mono
      fun _ _ h => h'.trans h
  · refine (ends_walkPaths paths hf fun entry w' h' => ?_).within.bind fun _ w₁ h₁ => ?_
    · exact (ends_scanPackageEntry_scanned h'.fit ((h'.grows.isSome_loader? i).trans hsome) _ _).mono
        fun _ _ h => h'.trans h
    · -- a package loader registers its entry points last
      exact ((ends_scanEntryPoints_scanned h₁.fit ((h₁.grows.isSome_loader? i).trans hsome) _).mono
        fun _ _ h => h₁.trans h).within

/-- A source's scan: its paths resolved, then walked. -/
theorem within_scanSource (hf : w.Fit) (i : Nat) :
    (scanSource i).Within w (Scanned w) fun _ => Scanned w := by
  unfold scanSource
  refine Op.within_get_bind ?_
  split
  · rename_i l paths g hc
    refine Op.within_get_bind ?_
    dsimp only
    refine (ends_logAll_sameHolds _ w).within.bind fun _ w₁ h₁ => ?_
    refine (ends_log_sameHolds _ _ _ _ w₁).within.bind fun _ w₂ h₂ => ?_
    have hs := h₁.trans h₂
    have hl : (w₂.loader? i).map (·.discovery) = some l.discovery := by
      rw [hs.discovery i]
      simp [loader?, hc]
    exact (within_scanPaths (hs.fit hf) hl _).mono (fun _ h => ⟨h.1, hs.grows.trans h.2⟩)
      fun _ _ h => ⟨h.1, hs.grows.trans h.2⟩
  · exact Op.within_pure ⟨hf, Grows.refl w⟩

/-- A scan through its gate keeps the world fit, and only adds holders, even
when it panics. -/
theorem within_gatedScan {scan : Op Unit} (hf : w.Fit)
    (hscan : ∀ w₁, w₁.Fit → scan.Within w₁ (Scanned w₁) fun _ => Scanned w₁) :
    (gatedScan i scan).Within w (Scanned w) fun _ => Scanned w := by
  unfold gatedScan
  refine Op.within_get_bind ?_
  split
  · refine (ends_setGate_sameHolds i _ w).within.bind fun _ w₁ h₁ => ?_
    have hrun : scan.Within w₁ (Scanned w) fun _ => Scanned w :=
      (hscan w₁ (h₁.fit hf)).mono (fun _ ⟨hf', hg'⟩ => ⟨hf', h₁.grows.trans hg'⟩)
        fun _ _ ⟨hf', hg'⟩ => ⟨hf', h₁.grows.trans hg'⟩
    refine (Op.within_tryCatch hrun fun message w₂ ⟨hf₂, hg₂⟩ => ?_).bind fun _ w₂ ⟨hf₂, hg₂⟩ => ?_
    · -- a panic reopens the gate and goes on
      exact (ends_setGate_sameHolds i _ w₂).within.bind fun _ w₃ h₃ =>
        Op.within_throw message (h₃.scanned hf₂ hg₂)
    · exact ((ends_setGate_sameHolds i _ w₂).mono fun _ _ h => h.scanned hf₂ hg₂).within
  · exact Op.within_throw _ ⟨hf, Grows.refl w⟩
  · exact Op.within_pure ⟨hf, Grows.refl w⟩

theorem within_ensureScanned (hf : w.Fit) (i : Nat) :
    (ensureScanned i).Within w (Scanned w) fun _ => Scanned w :=
  within_gatedScan hf fun _ hf₁ => within_scanSource hf₁ i

/-! ## Resetting -/

/-- Clearing a source lets go of what its loader found, and of the binaries
nothing else holds. -/
theorem ends_clearSource_fit (hf : w.Fit) (i : Nat) : (clearSource i).Ends w fun _ w' => w'.Fit := by
  unfold clearSource
  refine Op.ends_get_bind ?_
  split
  · rename_i l paths g hc
    refine (Op.ends_modify (Q := fun _ w₁ => w₁.Orderly) ?_).bind fun _ w₁ ho₁ =>
      (ends_collect_fit ho₁).mono fun _ _ h => h.1
    have hframe : Frame w
        { w with children := w.children.set! i (.lazy { l with registry := .empty, manifests := [] } paths g) } :=
      frame_setChild hc rfl
    refine hframe.orderly_of_sub hf.orderly fun m hm => ?_
    rcases mem_heldProviders_setChild hm with hold | hnew
    · exact hold
    · simp [Child.providers, Registry.empty] at hnew
  · exact Op.ends_pure hf

/-- A reset through its gate keeps the world fit, even when it panics. -/
theorem within_gatedReset {clear : Op Unit} (hf : w.Fit)
    (hclear : ∀ w₁, w₁.Fit → clear.Within w₁ Fit fun _ => Fit) :
    (gatedReset i clear).Within w Fit fun _ => Fit := by
  unfold gatedReset
  refine Op.within_get_bind ?_
  split
  · exact hclear w hf
  · exact Op.within_throw _ hf
  · refine (ends_setGate_sameHolds i _ w).within.bind fun _ w₁ h₁ => ?_
    refine (Op.within_tryCatch (hclear w₁ (h₁.fit hf)) fun message w₂ hf₂ => ?_).bind fun _ w₂ hf₂ => ?_
    · -- a panic reopens the gate and goes on
      exact (ends_setGate_sameHolds i _ w₂).within.bind fun _ _ h₃ => Op.within_throw message (h₃.fit hf₂)
    · exact ((ends_setGate_sameHolds i _ w₂).mono fun _ _ h => h.fit hf₂).within
  · exact Op.within_pure hf

theorem within_resetSource (hf : w.Fit) (i : Nat) : (resetSource i).Within w Fit fun _ => Fit :=
  within_gatedReset hf fun _ hf₁ => (ends_clearSource_fit hf₁ i).within

end World

end AssetBroker
