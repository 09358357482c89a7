import AssetBroker.Proofs.LoadedHeld
import Mathlib

/-!
# Objects bound to a binary keep it loaded

Everything made from a provider whose code lives in a binary holds that
binary: the provider itself, however many registries and names hold it, the
implementations it makes, the managers made for the host with their open
pagers and the states of their contexts, and any handle on the binary.

- `ImplementationFactory.Keeps`: a factory whose questions keep the world fit,
  only add holders, and make implementations on binaries something holds.
  Sources keep it (`sourceFactory_keeps`), and so do hybrid compositions of
  factories that keep it (`ImplementationFactory.Keeps.hybrid`).
- Keeping and releasing things, and the steps of a session on a kept bench,
  keep the world fit.
- `BoundCall`: the calls that make, keep and drop such objects. Every run of
  them keeps the world fit, so a binary is loaded exactly while something
  made from it is alive, and its count of holders is the count of those
  objects (`World.liveObjects`).
-/

namespace AssetBroker

namespace ManagerBench

/-- A session step keeps a sound bench sound, whether it is answered or
refused. -/
theorem Sound.follows_stepOrRefuse {b : ManagerBench} (hb : b.Sound) (step : Json) :
    b.Follows (Script.Plugins.stepOrRefuse b step).2 := by
  unfold Script.Plugins.stepOrRefuse
  split
  · rename_i answer b' hstep
    exact managerStep_follows hb (answer, b') hstep
  · exact hb.follows_refl

end ManagerBench

namespace Op

variable {α β γ : Type} {w : World}

/-- The rule of lists of questions: an invariant kept by each question is
kept by asking them all, in order, even when one panics. -/
theorem within_mapM {f : γ → Op β} (I : World → Prop) (hf : ∀ y w, I w → (f y).Within w I fun _ => I)
    (xs : List γ) (h : I w) : (xs.mapM f).Within w I fun _ => I := by
  induction xs generalizing w with
  | nil => exact within_pure h
  | cons y ys ih =>
    rw [List.mapM_cons]
    exact (hf y w h).bind fun _ w₁ h₁ => (ih h₁).bind fun _ w₂ h₂ => within_pure h₂

/-- Whether it answers or panics, a run leaves a world that satisfies what a
panic promises, when an answer promises as much. -/
theorem Within.world {x : Op α} {P : World → Prop} {Q : α → World → Prop} (h : x.Within w P Q)
    (hQ : ∀ a w', Q a w' → P w') : P (x.run.run w).2 := by
  unfold Within at h
  generalize x.run.run w = res at h ⊢
  obtain ⟨_ | a, w'⟩ := res
  · exact h
  · exact hQ _ _ h

/-- An answer thrown away keeps what the run promised of the world. -/
theorem Within.discard {x : Op α} {P R : World → Prop} (h : x.Within w P fun _ => R) :
    (x >>= fun _ => pure ()).Within w P fun _ => R :=
  h.bind fun _ _ h => within_pure h

end Op

namespace World

variable {w w' w₁ : World} {r : BinaryRef} {n : Nat} {i : Nat}

/-! ## Implementations made on held binaries -/

/-- An answer that, when it is an implementation, runs on a binary something
holds. -/
def Backs (w : World) (res : Except BrokerError Made) : Prop :=
  ∀ made, res = .ok made → ∀ r, made.binary = some r → w.Held r

theorem backs_error (e : BrokerError) : w.Backs (.error e) := fun _ h => nomatch h

/-- A scan keeps the binaries of implementations held. -/
theorem Scanned.backs {res : Except BrokerError Made} (h : Scanned w w') (ho : w.Orderly) (hb : w.Backs res) :
    w'.Backs res :=
  fun made hm r hr => h.grows.held_of ho (hb made hm r hr)

/-- A held provider makes implementations on its own binary. -/
theorem ends_makeWith (hn : n ∈ w.heldProviders) : (makeWith n).Ends w fun res w' => w' = w ∧ w'.Backs res := by
  refine ⟨_, w, rfl, rfl, fun made hm r hr => .inl ⟨n, hn, ?_⟩⟩
  cases hmake : (w.provider n).make with
  | error e => simp [hmake, Except.map] at hm
  | ok c =>
    simp only [hmake, Except.map, Except.ok.injEq] at hm
    rw [← hr, ← hm]

/-- A provider a source's loader registered is held. -/
theorem mem_heldProviders_of_plugin {l : Loader} {identifier : String} (hl : w.loader? i = some l)
    (hp : l.registry.plugin identifier = .ok n) : n ∈ w.heldProviders := by
  obtain ⟨paths, g, hc⟩ := child_of_loader? hl
  unfold Registry.plugin Registry.get? at hp
  cases hf : Keyed.find? identifier l.registry.entries with
  | none => simp [hf] at hp
  | some e =>
    simp only [hf, Except.ok.injEq] at hp
    refine mem_heldProviders.2 (.inl ⟨i, ?_⟩)
    rw [hc]
    exact List.mem_map.2 ⟨(identifier, e), Keyed.mem_of_find?_eq_some hf, hp⟩

theorem within_identifyOrPanic {w₀ : World} (hs : Scanned w₀ w) (n : Nat) :
    (identifyOrPanic n).Within w (Scanned w₀) fun _ => Scanned w₀ := by
  unfold identifyOrPanic
  refine (ends_identify_sameHolds n w).within.bind fun a w₁ h₁ => ?_
  have hs₁ : Scanned w₀ w₁ := h₁.scanned hs.fit hs.grows
  cases a with
  | ok identifier => exact Op.within_pure hs₁
  | error message => exact Op.within_throw message hs₁

/-! ## Sources as factories -/

theorem within_childIdentifiers (hf : w.Fit) (i : Nat) :
    (childIdentifiers i).Within w (Scanned w) fun _ => Scanned w := by
  unfold childIdentifiers
  refine Op.within_get_bind ?_
  split
  · exact (within_ensureScanned hf i).bind fun _ w₁ h₁ => Op.within_get_bind (Op.within_pure h₁)
  · exact Op.within_mapM (Scanned w) (fun n _ h => within_identifyOrPanic h n) _ (Scanned.refl hf)

theorem within_childOrigin (hf : w.Fit) (i : Nat) (identifier : String) :
    (childOrigin i identifier).Within w (Scanned w) fun _ => Scanned w := by
  unfold childOrigin
  refine Op.within_get_bind ?_
  split
  · exact (within_ensureScanned hf i).bind fun _ w₁ h₁ => Op.within_get_bind (Op.within_pure h₁)
  · exact Op.within_pure (Scanned.refl hf)

/-- A source makes implementations only with providers it holds. -/
theorem within_childInstantiate (hf : w.Fit) (i : Nat) (identifier : String) :
    (childInstantiate i identifier).Within w (Scanned w) fun res w' => Scanned w w' ∧ w'.Backs res := by
  unfold childInstantiate
  refine Op.within_get_bind ?_
  split
  · refine (within_ensureScanned hf i).bind fun _ w₁ h₁ => Op.within_get_bind ?_
    split
    · exact Op.within_pure ⟨h₁, backs_error _⟩
    · rename_i l hl
      split
      · exact Op.within_pure ⟨h₁, backs_error _⟩
      · rename_i n hp
        have hn := mem_heldProviders_of_plugin hl hp
        refine (ends_log_sameHolds _ _ _ _ w₁).within.bind fun _ w₂ h₂ => ?_
        exact ((ends_makeWith ((h₂.held n).2 hn)).mono fun res w₃ ⟨hw₃, hb⟩ =>
          ⟨hw₃ ▸ h₂.scanned h₁.fit h₁.grows, hb⟩).within
  · -- a fixed source asks its providers in order; the first that answers
    -- the identifier makes the implementation
    rename_i providers hc
    have hheld : ∀ n ∈ providers, n ∈ w.heldProviders := fun n hn =>
      mem_heldProviders.2 (.inl ⟨i, by rw [hc]; exact hn⟩)
    refine (Op.within_forIn
      (fun ns b w' => (∀ m ∈ ns, m ∈ w.heldProviders) ∧ Scanned w w' ∧ ∀ res, b.1 = some res → w'.Backs res)
      (fun n ns b w₁ ⟨hns, h₁, _⟩ => ?_) ⟨hheld, Scanned.refl hf, fun _ h => (by cases h)⟩).bind
      fun b w₁ ⟨_, h₁, hb⟩ => ?_
    · dsimp only
      split
      · rename_i res hres
        exact Op.within_pure ⟨h₁, hb res hres⟩
      · exact Op.within_pure ⟨h₁, backs_error _⟩
    · have hrest : ∀ m ∈ ns, m ∈ w.heldProviders := fun m hm => hns m (List.mem_cons_of_mem _ hm)
      refine (within_identifyOrPanic h₁ n).bind fun a w₂ h₂ => ?_
      split
      · have hn : n ∈ w₂.heldProviders := h₂.grows.held n (hns n List.mem_cons_self)
        refine Op.Ends.within ((ends_makeWith hn).bind fun res w₃ hres => ?_)
        obtain ⟨rfl, hb₃⟩ := hres
        exact Op.ends_pure ⟨fun _ h => (by cases h), h₂, fun _ h => by cases h; exact hb₃⟩
      · exact Op.within_pure ⟨hrest, h₂, fun _ h => by cases h⟩

end World

/-! ## Factories that keep the holds -/

namespace ImplementationFactory

open World

variable {w₀ w : World} {fs : List ImplementationFactory}

/-- A factory whose questions, asked of a world a scan left, leave it where a
scan leaves it, whatever they answer and when they panic; and whose
implementations run on binaries something holds. -/
structure Keeps (f : ImplementationFactory) : Prop where
  identifiers : ∀ w₀ w, Scanned w₀ w → f.identifiers.Within w (Scanned w₀) fun _ => Scanned w₀
  instantiate : ∀ w₀ w identifier, Scanned w₀ w →
    (f.instantiate identifier).Within w (Scanned w₀) fun res w' => Scanned w₀ w' ∧ w'.Backs res
  origin : ∀ w₀ w identifier, Scanned w₀ w → (f.origin identifier).Within w (Scanned w₀) fun _ => Scanned w₀

theorem within_gather (hfs : ∀ f ∈ fs, f.Keeps) (hs : Scanned w₀ w) :
    (gather fs).Within w (Scanned w₀) fun _ => Scanned w₀ := by
  induction fs generalizing w with
  | nil => exact Op.within_pure hs
  | cons f fs ih =>
    rw [gather]
    refine ((hfs f List.mem_cons_self).identifiers w₀ w hs).bind fun res w₁ h₁ => ?_
    cases res with
    | error e => exact Op.within_pure h₁
    | ok ids =>
      refine (ih (fun g hg => hfs g (List.mem_cons_of_mem _ hg)) h₁).bind fun res w₂ h₂ => ?_
      cases res <;> exact Op.within_pure h₂

/-- The owner of an identifier is one of the factories asked. -/
theorem within_owner (hfs : ∀ f ∈ fs, f.Keeps) (hs : Scanned w₀ w) (identifier : String) :
    (owner fs identifier).Within w (Scanned w₀) fun res w' => Scanned w₀ w' ∧ ∀ f, res = .ok (some f) → f ∈ fs := by
  induction fs generalizing w with
  | nil => exact Op.within_pure ⟨hs, fun _ h => nomatch h⟩
  | cons f fs ih =>
    rw [owner]
    refine ((hfs f List.mem_cons_self).identifiers w₀ w hs).bind fun res w₁ h₁ => ?_
    cases res with
    | error e => exact Op.within_pure ⟨h₁, fun _ h => nomatch h⟩
    | ok ids =>
      dsimp only
      split
      · exact Op.within_pure ⟨h₁, fun g h => by cases h; exact List.mem_cons_self⟩
      · exact (ih (fun g hg => hfs g (List.mem_cons_of_mem _ hg)) h₁).mono (fun _ h => h)
          fun _ _ ⟨h₂, hmem⟩ => ⟨h₂, fun g hg => List.mem_cons_of_mem _ (hmem g hg)⟩

/-- Composing factories that keep the holds keeps them. -/
theorem Keeps.hybrid (hfs : ∀ f ∈ fs, f.Keeps) : (hybrid fs).Keeps where
  identifiers w₀ w hs := (within_gather hfs hs).bind fun res w₁ h₁ => by
    cases res <;> exact Op.within_pure h₁
  instantiate w₀ w identifier hs := (within_owner hfs hs identifier).bind fun res w₁ ⟨h₁, hmem⟩ => by
    rcases res with e | _ | f
    · exact Op.within_pure ⟨h₁, backs_error e⟩
    · exact Op.within_pure ⟨h₁, backs_error _⟩
    · exact (hfs f (hmem f rfl)).instantiate w₀ w₁ identifier h₁
  origin w₀ w identifier hs := (within_owner hfs hs identifier).bind fun res w₁ ⟨h₁, hmem⟩ => by
    rcases res with e | _ | f
    · exact Op.within_pure h₁
    · exact Op.within_pure h₁
    · exact (hfs f (hmem f rfl)).origin w₀ w₁ identifier h₁

end ImplementationFactory

namespace World

open ImplementationFactory

variable {w₀ w : World}

/-- A source, asked as a factory, keeps the holds. -/
theorem sourceFactory_keeps (i : Nat) : (sourceFactory i).Keeps where
  identifiers _ _ hs := ((within_childIdentifiers hs.fit i).mono (fun _ h => hs.trans h)
    fun _ _ h => hs.trans h).bind fun _ _ h₁ => Op.within_pure h₁
  instantiate _ _ identifier hs := (within_childInstantiate hs.fit i identifier).mono (fun _ h => hs.trans h)
    fun _ _ ⟨h, hb⟩ => ⟨hs.trans h, hb⟩
  origin _ _ identifier hs := (within_childOrigin hs.fit i identifier).mono (fun _ h => hs.trans h)
    fun _ _ h => hs.trans h

/-- The top factory of any composition of sources keeps the holds. -/
theorem factory_keeps (top : Composition) : (factory top).Keeps := by
  cases top with
  | hybrid children =>
    refine Keeps.hybrid fun f hf => ?_
    obtain ⟨i, -, rfl⟩ := List.mem_map.1 hf
    exact sourceFactory_keeps i
  | single i => exact sourceFactory_keeps i

/-- A manager made for the host runs on a binary something holds. -/
theorem within_createManager (hs : Scanned w₀ w) (top : Composition) (identifier : String) :
    (createManager top identifier).Within w (Scanned w₀) fun res w' => Scanned w₀ w' ∧ w'.Backs res := by
  unfold createManager
  refine ((factory_keeps top).instantiate w₀ w identifier hs).bind fun res w₁ ⟨h₁, hb₁⟩ => ?_
  cases res with
  | error e => exact Op.within_pure ⟨h₁, backs_error e⟩
  | ok made =>
    dsimp only
    -- asking the origin may scan again, which keeps every holder
    refine (((factory_keeps top).origin w₁ w₁ identifier (Scanned.refl h₁.fit)).mono (fun _ h => h₁.trans h)
      fun _ _ h => h).bind fun _ w₂ h₂ => ?_
    refine (ends_log_sameHolds _ _ _ _ w₂).within.bind fun _ w₃ h₃ => Op.within_pure ?_
    have h₁₃ : Scanned w₁ w₃ := h₂.trans (h₃.scanned h₂.fit (Grows.refl w₂))
    exact ⟨h₁.trans h₁₃, h₁₃.backs h₁.fit.orderly hb₁⟩

/-! ## Keeping and letting go -/

variable {k : Keepsake} {n : Nat}

theorem mem_heldProviders_withKept {ks : List (String × Keepsake)}
    (h : n ∈ ({ w with kept := ks } : World).heldProviders) :
    n ∈ w.heldProviders ∨ ∃ e ∈ ks, e.2 = .provider n := by
  rcases mem_heldProviders.1 h with ⟨i, hi⟩ | hk
  · exact .inl (mem_heldProviders.2 (.inl ⟨i, hi⟩))
  · exact .inr hk

/-- What may be kept in a world: a thing well formed whose holds are on
loaded binaries and that, when a provider, names one made whose binary is
loaded. -/
structure Keepable (w : World) (k : Keepsake) : Prop where
  wellFormed : k.WellFormed
  loaded : ∀ r, w.HasTable r.shelf → 0 < Keepsake.holds r k → w.isLoaded r = true
  provider : ∀ m, k = .provider m →
    m < w.providers.size ∧ ∀ r, (w.provider m).binary = some r → w.HasTable r.shelf → w.isLoaded r = true

theorem Orderly.keep (ho : w.Orderly) (hk : w.Keepable k) (name : String) :
    ({ w with kept := Keyed.insert name k w.kept } : World).Orderly where
  nodup := ho.nodup
  held r hr hh := by
    rcases hh with ⟨m, hm, hb⟩ | ⟨e, he, hpos⟩
    · rcases mem_heldProviders_withKept hm with hm | ⟨e, he, hp⟩
      · exact ho.held r hr (.inl ⟨m, hm, hb⟩)
      · rcases Keyed.mem_insert he with rfl | he
        · exact (hk.provider m hp).2 r hb hr
        · exact ho.held r hr (.inl ⟨m, mem_heldProviders.2 (.inr ⟨e, he, hp⟩), hb⟩)
    · rcases Keyed.mem_insert he with rfl | he
      · exact hk.loaded r hr hpos
      · exact ho.held r hr (.inr ⟨e, he, hpos⟩)
  made m hm := by
    rcases mem_heldProviders_withKept hm with hm | ⟨e, he, hp⟩
    · exact ho.made m hm
    · rcases Keyed.mem_insert he with rfl | he
      · exact (hk.provider m hp).1
      · exact ho.made m (mem_heldProviders.2 (.inr ⟨e, he, hp⟩))
  listed := ho.listed
  kept e he := by
    rcases Keyed.mem_insert he with rfl | he
    · exact hk.wellFormed
    · exact ho.kept e he

/-- Letting go of kept things keeps a world orderly. -/
theorem Orderly.of_kept (ho : w.Orderly) {ks : List (String × Keepsake)} (hks : ∀ e ∈ ks, e ∈ w.kept) :
    ({ w with kept := ks } : World).Orderly where
  nodup := ho.nodup
  held r hr hh := by
    refine ho.held r hr ?_
    rcases hh with ⟨m, hm, hb⟩ | ⟨e, he, hpos⟩
    · rcases mem_heldProviders_withKept hm with hm | ⟨e, he, hp⟩
      · exact .inl ⟨m, hm, hb⟩
      · exact .inl ⟨m, mem_heldProviders.2 (.inr ⟨e, hks e he, hp⟩), hb⟩
    · exact .inr ⟨e, hks e he, hpos⟩
  made m hm := by
    rcases mem_heldProviders_withKept hm with hm | ⟨e, he, hp⟩
    · exact ho.made m hm
    · exact ho.made m (mem_heldProviders.2 (.inr ⟨e, hks e he, hp⟩))
  listed := ho.listed
  kept e he := ho.kept e (hks e he)

/-- A provider that is held or pending, or an implementation, a bench or a
handle on a loaded binary, may be kept. -/
theorem keepable_provider (ho : w.Orderly) (hn : n ∈ w.heldProviders) : w.Keepable (.provider n) where
  wellFormed := trivial
  loaded _ _ h := by simp [Keepsake.holds] at h
  provider m hm := by
    cases hm
    exact ⟨ho.made n hn, fun r hb hr => ho.held r hr (.inl ⟨n, hn, hb⟩)⟩

theorem Pending.keepable (hp : w.Pending n) : w.Keepable (.provider n) where
  wellFormed := trivial
  loaded _ _ h := by simp [Keepsake.holds] at h
  provider m hm := by
    cases hm
    exact ⟨hp.lt, hp.loaded⟩

theorem keepable_implementation (ho : w.Orderly) {made : Made} (hb : w.Backs (.ok made)) :
    w.Keepable (.implementation made) where
  wellFormed := trivial
  loaded r hr h := by
    have hbin : made.binary = some r := by
      simp only [Keepsake.holds] at h
      split_ifs at h with hm
      · exact beq_iff_eq.1 hm
      · exact absurd h (Nat.lt_irrefl 0)
    exact ho.held r hr (hb made rfl r hbin)
  provider _ h := nomatch h

theorem keepable_handle (hl : w.HasTable r.shelf → w.isLoaded r = true) : w.Keepable (.handle r) where
  wellFormed := trivial
  loaded r' hr h := by
    have hrr : r = r' := by
      simp only [Keepsake.holds] at h
      split_ifs at h with hm
      · exact beq_iff_eq.1 hm
      · exact absurd h (Nat.lt_irrefl 0)
    subst hrr
    exact hl hr
  provider _ h := nomatch h

theorem keepable_bench {b : ManagerBench} {binary : Option BinaryRef} (hb : b.Sound)
    (ha : b.session.anchor = binary.isSome)
    (hl : ∀ r, binary = some r → 0 < b.binaryHolds → w.HasTable r.shelf → w.isLoaded r = true) :
    w.Keepable (.bench b binary n) where
  wellFormed := ⟨hb, ha⟩
  loaded r hr h := by
    simp only [Keepsake.holds] at h
    split_ifs at h with hm
    · exact hl r (beq_iff_eq.1 hm) h hr
    · exact absurd h (Nat.lt_irrefl 0)
  provider _ h := nomatch h

/-- Keeping something keepable, or letting it go, leaves the world fit. -/
theorem ends_keepOrDrop_fit (ho : w.Orderly) (hk : w.Keepable k) (keepAs : Option String) :
    (Script.Plugins.keepOrDrop keepAs k).Ends w fun _ w' => w'.Fit := by
  unfold Script.Plugins.keepOrDrop
  cases keepAs with
  | some name =>
    dsimp only
    exact (Op.ends_modify (Q := fun _ w₁ => w₁.Orderly) (ho.keep hk name)).bind fun _ _ h =>
      (ends_collect_fit h).mono fun _ _ h => h.1
  | none => exact (ends_collect_fit ho).mono fun _ _ h => h.1

theorem ends_onBench_sameHolds {α : Type} (b : ManagerBench) (a : Act α) (w : World) :
    (onBench b a).Ends w fun _ w' => SameHolds w w' := by
  unfold onBench
  rcases b.act a with ⟨x, b'⟩
  exact (Op.ends_modify (Q := fun _ w' => SameHolds w w')
    (sameHolds_of_binaries rfl rfl rfl rfl (Nat.le_refl _) fun _ => rfl)).bind fun _ _ h => Op.ends_pure h

theorem ends_release_sameHolds (k : Keepsake) (w : World) :
    (Script.Plugins.release k).Ends w fun _ w' => SameHolds w w' := by
  unfold Script.Plugins.release
  cases k with
  | bench b binary n => exact (ends_onBench_sameHolds b _ w).bind fun _ _ h => Op.ends_pure h
  | _ => exact Op.ends_pure (SameHolds.refl w)

/-- Letting go of what is kept under a name leaves the world fit. -/
theorem ends_releaseNamed_fit (hf : w.Fit) (name : String) :
    (Script.Plugins.releaseNamed name).Ends w fun _ w' => w'.Fit := by
  unfold Script.Plugins.releaseNamed
  refine Op.ends_get_bind ?_
  split
  · rename_i k _
    refine (Op.ends_modify (Q := fun _ w₁ => w₁.Orderly)
      (hf.orderly.of_kept fun e he => (List.mem_filter.1 he).1)).bind fun _ w₁ ho₁ => ?_
    refine (ends_release_sameHolds k w₁).bind fun _ w₂ h₂ => ?_
    exact (ends_collect_fit (h₂.orderly ho₁)).mono fun _ _ h => h.1
  · exact Op.ends_pure hf

theorem ends_dropBench_fit (ho : w.Orderly) (b : ManagerBench) : (dropBench b).Ends w fun _ w' => w'.Fit := by
  unfold dropBench
  exact (ends_onBench_sameHolds b _ w).bind fun _ _ h => (ends_collect_fit (h.orderly ho)).mono fun _ _ h => h.1

/-- Keeping a bench under a name lets go of what was kept there before. -/
theorem ends_keepBench_fit {b : ManagerBench} {made : Made} (ho : w.Orderly)
    (hk : w.Keepable (.bench b made.binary made.provider)) (keepAs : Option String) :
    (Script.Plugins.keepBench keepAs b made).Ends w fun _ w' => w'.Fit := by
  unfold Script.Plugins.keepBench
  dsimp only
  cases keepAs with
  | some name =>
    refine Op.ends_get_bind ?_
    refine (Op.ends_modify (Q := fun _ w₁ => w₁.Orderly) (ho.keep hk name)).bind fun _ w₁ ho₁ => ?_
    -- what was kept under the name before is let go
    split
    · exact (ends_release_sameHolds _ w₁).bind fun _ w₂ h₂ =>
        (ends_collect_fit (h₂.orderly ho₁)).bind fun _ _ h => Op.ends_pure h.1
    · exact (ends_collect_fit ho₁).bind fun _ _ h => Op.ends_pure h.1
  | none => exact (ends_dropBench_fit ho b).bind fun _ _ h => Op.ends_pure h

/-- A bench kept in an orderly world has its binary loaded while it holds it. -/
theorem Orderly.loaded_of_bench {b : ManagerBench} {binary : Option BinaryRef} (ho : w.Orderly)
    (he : (name, Keepsake.bench b binary n) ∈ w.kept) :
    ∀ r, binary = some r → 0 < b.binaryHolds → w.HasTable r.shelf → w.isLoaded r = true := by
  intro r hr hpos ht
  subst hr
  exact ho.held r ht (.inr ⟨_, he, by simp [Keepsake.holds, hpos]⟩)

/-- A bench on its way through a session, with the world around it: the
world fit, the bench sound and anchoring its states as its code lives in a
binary, and that binary loaded while the bench holds it. -/
structure SessionFit (binary : Option BinaryRef) (b : ManagerBench) (w : World) : Prop where
  fit : w.Fit
  sound : b.Sound
  anchor : b.session.anchor = binary.isSome
  loaded : ∀ r, binary = some r → 0 < b.binaryHolds → w.HasTable r.shelf → w.isLoaded r = true

/-- A session leaves the world fit: each step, answered or refused, leaves a
sound bench that holds its binary only if the bench before it did, and the
bench is kept under its name again before what nothing holds is unloaded. -/
theorem ends_sessionSteps_fit (hf : w.Fit) (name : String) (steps : List Json) :
    (Script.Plugins.sessionSteps name steps).Ends w fun _ w' => w'.Fit := by
  unfold Script.Plugins.sessionSteps
  refine Op.ends_get_bind ?_
  split
  · rename_i b₀ binary n hfind
    have hmem := Keyed.mem_of_find?_eq_some hfind
    have hwf := hf.orderly.kept _ hmem
    dsimp only
    refine Op.ends_get_bind ?_
    refine (Op.ends_forIn (fun _ st w' => SessionFit binary st.1 w') ?_
      ⟨hf, ⟨hwf.1.clean, hwf.1.anchored⟩, hwf.2, fun r hr hpos => hf.orderly.loaded_of_bench hmem r hr hpos⟩).bind fun st w₁ h₁ => ?_
    · rintro step - ⟨b, answers⟩ w₁ h₁
      have hfol := h₁.sound.follows_stepOrRefuse step
      dsimp only at h₁ ⊢
      rcases hres : Script.Plugins.stepOrRefuse b step with ⟨answer, b'⟩
      rw [hres] at hfol
      dsimp only at hfol ⊢
      -- the bench holds its binary after the step only if it held it before
      have hpos : 0 < b'.binaryHolds → 0 < b.binaryHolds := fun hp =>
        Nat.pos_of_ne_zero fun h0 => Nat.pos_iff_ne_zero.1 hp (hfol.dead h0)
      refine (Op.ends_modify (Q := fun _ w₂ => SameHolds w₁ w₂)
        (sameHolds_of_binaries rfl rfl rfl rfl (Nat.le_refl _) fun _ => rfl)).bind fun _ w₂ h₂ => ?_
      have hk : w₂.Keepable (.bench { b' with session := { b'.session with trail := #[] } } binary n) := by
        refine keepable_bench ⟨hfol.sound.clean, hfol.sound.anchored⟩ (hfol.anchor.trans h₁.anchor) ?_
        intro r hr hp ht
        rw [h₂.isLoaded]
        exact h₁.loaded r hr (hpos hp) (h₂.hasTable.1 ht)
      refine (Op.ends_modify (Q := fun _ w₃ => w₃.Orderly ∧
          (name, Keepsake.bench { b' with session := { b'.session with trail := #[] } } binary n) ∈ w₃.kept)
        ⟨(h₂.orderly h₁.fit.orderly).keep hk name, Keyed.mem_insert_self _ _ _⟩).bind fun _ w₃ h₃ => ?_
      refine (ends_collect_fit h₃.1).bind fun _ w₄ h₄ => Op.ends_pure ⟨_, rfl, ?_⟩
      -- the bench kept again under its name keeps its binary loaded
      have hkept := h₄.2.frame.2.1 ▸ h₃.2
      exact ⟨h₄.1, ⟨hfol.sound.clean, hfol.sound.anchored⟩, hfol.anchor.trans h₁.anchor,
        fun r hr hp => h₄.1.orderly.loaded_of_bench hkept r hr hp⟩
    · refine Op.ends_get_bind ?_
      refine (ends_setProvider_sameHolds (w := w₁) (n := n) ?_).bind fun _ _ h => Op.ends_pure (h.fit h₁.fit)
      rfl
  · exact Op.ends_pure hf

/-! ## The calls on bound objects -/

/-- Loading a binary and keeping its provider, or letting it go, leaves the
world fit: the new provider holds the binary until it is kept or collected. -/
theorem ends_loadNative_fit (hf : w.Fit) (shelf : Shelf) (path : String) (keepAs : Option String) :
    (Script.Plugins.loadNative shelf path keepAs).Ends w fun _ w' => w'.Fit := by
  unfold Script.Plugins.loadNative
  refine (ends_loadBinary_pending hf shelf path none).bind fun res w₁ h₁ => ?_
  cases res with
  | error e => exact Op.ends_pure h₁.2
  | ok n =>
    have hp₁ : w₁.Pending n := h₁.2
    refine (ends_identify_sameHolds n w₁).bind fun _ w₂ h₂ => Op.ends_get_bind ?_
    have hp₂ := h₂.pending hp₁
    exact (ends_keepOrDrop_fit hp₂.orderly hp₂.keepable keepAs).bind fun _ _ h => Op.ends_pure h

theorem loader?_of_loaderOf {l : Loader} (h : Script.Plugins.loaderOf w i = .ok l) : w.loader? i = some l := by
  unfold Script.Plugins.loaderOf at h
  split at h
  · rename_i l' hl
    cases h
    exact hl
  · cases h

/-- Keeping a provider a registry holds, or letting it go, leaves the world fit. -/
theorem ends_keepProvider_fit (hf : w.Fit) (i : Nat) (identifier : String) (keepAs : Option String) :
    (Script.Plugins.keepProvider i identifier keepAs).Ends w fun _ w' => w'.Fit := by
  unfold Script.Plugins.keepProvider
  refine Op.ends_get_bind ?_
  split
  · exact Op.ends_pure hf
  · rename_i l hl
    split
    · exact Op.ends_pure hf
    · rename_i n hn
      have hheld : n ∈ w.heldProviders := mem_heldProviders_of_plugin (loader?_of_loaderOf hl) hn
      refine (ends_identify_sameHolds n w).bind fun _ w₁ h₁ => ?_
      have ho₁ := h₁.orderly hf.orderly
      exact (ends_keepOrDrop_fit ho₁ (keepable_provider ho₁ ((h₁.held n).2 hheld)) keepAs).bind
        fun _ _ h => Op.ends_pure h

/-- Making an implementation with a kept provider, and keeping it or letting
it go, leaves the world fit. -/
theorem ends_createFrom_fit (hf : w.Fit) (name : String) (keepAs : Option String) :
    (Script.Plugins.createFrom name keepAs).Ends w fun _ w' => w'.Fit := by
  unfold Script.Plugins.createFrom
  refine Op.ends_get_bind ?_
  split
  · rename_i n hfind
    -- the provider kept under the name is held
    have hn : n ∈ w.heldProviders :=
      mem_heldProviders.2 (.inr ⟨_, Keyed.mem_of_find?_eq_some hfind, rfl⟩)
    refine (ends_makeWith hn).bind fun res w₁ ⟨hw₁, hb₁⟩ => ?_
    subst hw₁
    cases res with
    | ok made =>
      exact (ends_keepOrDrop_fit hf.orderly (keepable_implementation hf.orderly hb₁) keepAs).bind
        fun _ _ h => Op.ends_pure h
    | error e => exact Op.ends_pure hf
  · exact Op.ends_pure hf

/-- Making an implementation with the top factory, and keeping it or letting
it go, leaves the world fit, also when a factory panics. -/
theorem within_instantiateAs (hf : w.Fit) (top : Composition) (identifier : String) (keepAs : Option String) :
    (Script.Plugins.instantiateAs top identifier keepAs).Within w Fit fun _ => Fit := by
  unfold Script.Plugins.instantiateAs
  refine (((factory_keeps top).instantiate w w identifier (Scanned.refl hf)).mono (fun _ h => h.fit)
    fun _ _ h => h).bind fun res w₁ ⟨h₁, hb₁⟩ => ?_
  cases res with
  | ok made =>
    have ho₁ := h₁.fit.orderly
    exact ((ends_keepOrDrop_fit ho₁ (keepable_implementation ho₁ hb₁) keepAs).bind
      fun _ _ h => Op.ends_pure h).within
  | error e => exact Op.within_pure h₁.fit

/-- A fresh bench is sound, and anchors its states as its implementation
lives in a binary. -/
theorem ends_benchFor (made : Made) (w : World) :
    (benchFor made).Ends w fun b w' => w' = w ∧ b.Sound ∧ b.session.anchor = made.binary.isSome := by
  refine ⟨_, w, rfl, rfl, ⟨fun h => ?_, fun e he => ?_⟩, rfl⟩
  · simp [ManagerBench.start, Session.start] at h
  · simp [ManagerBench.start] at he

/-- Making a manager for the host, and keeping its bench or letting it go,
leaves the world fit, also when a factory panics. -/
theorem within_createManagerAs (hf : w.Fit) (top : Composition) (identifier : String) (keepAs : Option String) :
    (Script.Plugins.createManagerAs top identifier keepAs).Within w Fit fun _ => Fit := by
  unfold Script.Plugins.createManagerAs
  refine ((within_createManager (Scanned.refl hf) top identifier).mono (fun _ h => h.fit)
    fun _ _ h => h).bind fun res w₁ ⟨h₁, hb₁⟩ => ?_
  cases res with
  | ok made =>
    refine Op.Ends.within ((ends_benchFor made w₁).bind fun b w₂ ⟨hw₂, hs, ha⟩ => ?_)
    subst hw₂
    -- the new manager holds the binary its implementation runs on, which
    -- something already holds
    have hk : w₂.Keepable (.bench b made.binary made.provider) :=
      keepable_bench hs ha fun r hr _ ht => h₁.fit.orderly.held r ht (hb₁ made rfl r hr)
    exact ends_keepBench_fit h₁.fit.orderly hk keepAs
  | error e => exact Op.within_pure h₁.fit

/-- Opening a handle on a binary, and keeping it or letting it go, leaves the
world fit. -/
theorem ends_openHandle_fit (hf : w.Fit) (shelf : Shelf) (path : String) (keepAs : Option String) :
    (Script.Plugins.openHandle shelf path keepAs).Ends w fun _ w' => w'.Fit := by
  unfold Script.Plugins.openHandle
  refine (ends_openBinary_opens shelf path w).bind fun res w₁ h₁ => ?_
  cases res with
  | error e =>
    have hw₁ : w₁ = w := h₁
    subst hw₁
    exact Op.ends_pure hf
  | ok ref =>
    have ho₁ : Opens ref w w₁ := h₁
    refine Op.ends_get_bind ?_
    exact (ends_keepOrDrop_fit (ho₁.orderly hf.orderly) (keepable_handle ho₁.loaded) keepAs).bind
      fun _ _ h => Op.ends_pure h

end World

/-! ## What is alive of a binary's code -/

namespace ManagerBench

/-- A bench with a live state or an open pager keeps something alive. -/
theorem liveObjects_pos {b : ManagerBench}
    (h : (∃ c ∈ b.contexts, c.2.state.isSome) ∨ ∃ p ∈ b.session.pagers, p.2.source.isSome) :
    0 < b.liveObjects := by
  unfold liveObjects
  rcases h with ⟨⟨name, c⟩, hc, hs⟩ | ⟨⟨name, p⟩, hp, hs⟩
  · refine Nat.lt_of_lt_of_le ?_ (Nat.le_add_left _ _)
    exact List.length_pos_of_mem (List.mem_filter.2 ⟨hc, hs⟩)
  · refine Nat.lt_of_lt_of_le ?_ (Nat.le_trans (Nat.le_add_left _ _) (Nat.le_add_right _ _))
    exact List.length_pos_of_mem (List.mem_filter.2 ⟨hp, hs⟩)

end ManagerBench

namespace World

variable {w : World} {r : BinaryRef} {k : Keepsake}

/-- What a kept thing keeps alive of the code of a binary: an implementation
made from it, the manager of a bench whose code lives there while it is
open with the bench's open pagers and the states of its contexts, and a
handle on it. A kept provider is counted with the held providers. -/
def Keepsake.live (r : BinaryRef) : Keepsake → Nat
  | .provider _ => 0
  | .implementation m => if m.binary == some r then 1 else 0
  | .bench b binary _ => if binary == some r then b.liveObjects else 0
  | .handle h => if h == r then 1 else 0

/-- The objects alive that are made from the code of a binary: each provider
that a registry or a name holds, once however many hold it, and what the
kept things keep alive. -/
def liveObjects (w : World) (r : BinaryRef) : Nat :=
  (w.heldProviders.eraseDups.filter fun n => (w.provider n).binary == some r).length +
    (w.kept.map fun (_, k) => Keepsake.live r k).sum

/-- A kept thing as operations leave it holds a binary once for each object
it keeps alive of its code: a bench's manager anchors the states its
contexts hold. -/
theorem Keepsake.holds_eq_live (hk : k.WellFormed) : Keepsake.holds r k = Keepsake.live r k := by
  cases k with
  | bench b binary n =>
    obtain ⟨hsound, hanchor⟩ := hk
    simp only [Keepsake.holds, Keepsake.live]
    split_ifs with hb
    · have hbin : binary = some r := beq_iff_eq.1 hb
      subst hbin
      exact hsound.binaryHolds_eq hanchor
    · rfl
  | _ => rfl

/-- In an orderly world a binary's holders are the objects alive of its code. -/
theorem Orderly.holders_eq_liveObjects (ho : w.Orderly) (r : BinaryRef) : w.holders r = w.liveObjects r := by
  unfold holders liveObjects
  congr 1
  congr 1
  refine List.map_congr_left fun e he => ?_
  exact Keepsake.holds_eq_live (ho.kept e he)

/-- In a fit world a binary is loaded exactly while something made from its
code is alive. -/
theorem Fit.isLoaded_iff (hf : w.Fit) (ht : w.HasTable r.shelf) : w.isLoaded r = true ↔ 0 < w.liveObjects r := by
  rw [← hf.orderly.holders_eq_liveObjects, holders_pos_iff]
  exact hf.balanced.loaded r ht

/-- A kept bench whose manager's code lives in a binary, with a live state
or an open pager, keeps something alive of that code. -/
theorem liveObjects_pos_of_bench {b : ManagerBench} {name : String} {n : Nat}
    (he : (name, Keepsake.bench b (some r) n) ∈ w.kept)
    (halive : (∃ c ∈ b.contexts, c.2.state.isSome) ∨ ∃ p ∈ b.session.pagers, p.2.source.isSome) :
    0 < w.liveObjects r := by
  have hlive : Keepsake.live r (.bench b (some r) n) = b.liveObjects := by simp [Keepsake.live]
  have hle : b.liveObjects ≤ (w.kept.map fun (_, k) => Keepsake.live r k).sum :=
    hlive ▸ List.le_sum_of_mem (List.mem_map.2 ⟨_, he, rfl⟩)
  have hpos := ManagerBench.liveObjects_pos halive
  unfold liveObjects
  omega

theorem emptyScratch_fit : World.emptyScratch.Fit := by
  have hb := World.emptyScratch_balanced
  refine ⟨⟨hb.nodup, fun r hr hh => (hb.loaded r hr).2 hh, fun n hn => ?_, fun i l listed hl => ?_,
    fun e he => ?_⟩, fun r hr hl => (hb.loaded r hr).1 hl⟩
  · simp [World.emptyScratch, World.heldProviders] at hn
  · simp [World.emptyScratch, World.loader?, World.child] at hl
  · simp [World.emptyScratch] at he

end World

/-! ## Runs of calls on bound objects -/

/-- The calls that make, keep and let go of what is bound to a binary's code. -/
inductive BoundCall where
  /-- Loads the native binary at a path, keeping its provider under a name
  or letting it go. -/
  | load (shelf : Shelf) (path : String) (keepAs : Option String)
  /-- Asks a source for its identifiers, which scans it on the first question. -/
  | scan (i : Nat)
  /-- Keeps the provider a source registered under an identifier. -/
  | provider (i : Nat) (identifier : String) (keepAs : Option String)
  /-- Makes an implementation with the provider kept under a name. -/
  | make (name : String) (keepAs : Option String)
  /-- Makes an implementation with the top factory. -/
  | instantiate (top : Composition) (identifier : String) (keepAs : Option String)
  /-- Makes a manager for the host with the top factory. -/
  | manage (top : Composition) (identifier : String) (keepAs : Option String)
  /-- Runs steps on the manager kept under a name: making states, child
  states and states from tokens, cloning them, paged queries and closing. -/
  | session (name : String) (steps : List Json)
  /-- Opens a handle on a binary. -/
  | openHandle (shelf : Shelf) (path : String) (keepAs : Option String)
  /-- Lets go of what is kept under a name. -/
  | release (name : String)
  /-- Resets a source, which lets go of what its registry holds. -/
  | reset (i : Nat)

namespace BoundCall

open World

def op : BoundCall → Op Unit
  | .load shelf path keepAs => do let _ ← Script.Plugins.loadNative shelf path keepAs
  | .scan i => do let _ ← childIdentifiers i
  | .provider i identifier keepAs => do let _ ← Script.Plugins.keepProvider i identifier keepAs
  | .make name keepAs => do let _ ← Script.Plugins.createFrom name keepAs
  | .instantiate top identifier keepAs => do let _ ← Script.Plugins.instantiateAs top identifier keepAs
  | .manage top identifier keepAs => do let _ ← Script.Plugins.createManagerAs top identifier keepAs
  | .session name steps => do let _ ← Script.Plugins.sessionSteps name steps
  | .openHandle shelf path keepAs => do let _ ← Script.Plugins.openHandle shelf path keepAs
  | .release name => Script.Plugins.releaseNamed name
  | .reset i => resetSource i

variable {w : World}

/-- Every call keeps the world fit, whether it answers or panics. -/
theorem within_op (c : BoundCall) (hf : w.Fit) : c.op.Within w Fit fun _ => Fit := by
  cases c with
  | load shelf path keepAs => exact (ends_loadNative_fit hf shelf path keepAs).within.discard
  | scan i => exact ((within_childIdentifiers hf i).mono (fun _ h => h.fit) fun _ _ h => h.fit).discard
  | provider i identifier keepAs => exact (ends_keepProvider_fit hf i identifier keepAs).within.discard
  | make name keepAs => exact (ends_createFrom_fit hf name keepAs).within.discard
  | instantiate top identifier keepAs => exact (within_instantiateAs hf top identifier keepAs).discard
  | manage top identifier keepAs => exact (within_createManagerAs hf top identifier keepAs).discard
  | session name steps => exact (ends_sessionSteps_fit hf name steps).within.discard
  | openHandle shelf path keepAs => exact (ends_openHandle_fit hf shelf path keepAs).within.discard
  | release name => exact (ends_releaseNamed_fit hf name).within
  | reset i => exact within_resetSource hf i

/-- The world a call leaves, whether it answers or panics. -/
def after (w : World) (c : BoundCall) : World := (c.op.run.run w).2

theorem fit_after (c : BoundCall) (hf : w.Fit) : (after w c).Fit :=
  (within_op c hf).world fun _ _ h => h

/-- A run of calls from a fit world leaves it fit. -/
theorem fit_foldl_after (calls : List BoundCall) (hf : w.Fit) : (calls.foldl after w).Fit := by
  induction calls generalizing w with
  | nil => exact hf
  | cons c cs ih => exact ih (fit_after c hf)

end BoundCall

/-- The lifetime of a binary's code through what is made from it, over every
run of calls from a fit world, panics included. After the run the world is
fit, and the holders of a binary are the objects alive of its code: each
provider held by registries or names, once however many hold it, each
implementation, each manager while open with its open pagers and the states
of its contexts, and each handle. So the reference count a table reports is
that number, and a binary is loaded exactly while one of those is alive: in
particular while a kept manager has a live state or an open pager, once its
provider, every registry entry and the manager itself are gone. -/
theorem bound_objects_hold_binary (w : World) (calls : List BoundCall) (hf : w.Fit) :
    let w' := calls.foldl BoundCall.after w
    w'.Fit ∧ (∀ r, w'.holders r = w'.liveObjects r) ∧
      (∀ r, w'.HasTable r.shelf → (w'.isLoaded r = true ↔ 0 < w'.liveObjects r)) ∧
      (∀ s p, w'.HasTable s → (Script.Plugins.libraryJson w' s p).field? "ref_count" =
        some (.int (w'.liveObjects ⟨s, Script.canonicalOr w'.fs p⟩))) ∧
      ∀ name b n r, (name, Keepsake.bench b (some r) n) ∈ w'.kept →
        ((∃ c ∈ b.contexts, c.2.state.isSome) ∨ ∃ p ∈ b.session.pagers, p.2.source.isSome) →
        w'.HasTable r.shelf → w'.isLoaded r = true := by
  intro w'
  have hf' : w'.Fit := BoundCall.fit_foldl_after calls hf
  have hlive := hf'.orderly.holders_eq_liveObjects
  refine ⟨hf', hlive, fun r ht => hf'.isLoaded_iff ht, fun s p ht => ?_, fun name b n r he halive ht => ?_⟩
  · rw [← hlive]
    exact hf'.balanced.refCount s p ht
  · exact (hf'.isLoaded_iff ht).2 (World.liveObjects_pos_of_bench he halive)

/-- Loading a binary, keeping its provider and letting it go, from an empty
scenario table, is a run the lifetime law covers. -/
theorem load_keep_release_tracked :
    World.emptyScratch.Fit ∧
      ([BoundCall.load (.scratch 0) "/lib/one.so" (some "p"), .release "p"].foldl BoundCall.after
        World.emptyScratch).Fit :=
  ⟨World.emptyScratch_fit, (bound_objects_hold_binary World.emptyScratch _ World.emptyScratch_fit).1⟩

end AssetBroker
