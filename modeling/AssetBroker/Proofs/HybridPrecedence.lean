import AssetBroker.Plugin.Factory
import AssetBroker.Proofs.WorldRuns
import AssetBroker.Proofs.FirstRegistration
import Mathlib

/-!
# The first factory to offer an identifier wins

A hybrid composition asks its factories in list order, and each question
is an operation on the world that may change it (a source scans on its
first use) or fail. `ImplementationFactory.Lists` describes the run of the
first few: asked in turn, each lists its identifiers in the world the one
before it left. Main statements, over factories of any behaviour:

* the composition's identifiers are the union of theirs, sorted and without
  repeats, or the failure of the first factory that fails
  (`hybrid_identifiers_of_lists`, `hybrid_identifiers_of_fails`);
* instantiating asks the factories up to the first one listing the
  identifier and then is exactly that factory's instantiation, whatever
  factories come after it (`hybrid_instantiate_of_owner`); with no factory
  listing it, it is a not-found error, and a factory failing first fails
  it;
* the origin is the same factory's, and none when no factory lists the
  identifier or one fails first;
* a configuration builds its sources in the order it names them
  (`fromConfig_children`), so the host's manager for an identifier is made
  by the first configured source listing it (`createManager_of_owner`).
-/

namespace AssetBroker

/-! ## Sorted sets of identifiers -/

namespace Keyed

variable {α : Type}

theorem mem_keys_insert {key x : String} {value : α} {m : List (String × α)} :
    x ∈ keys (insert key value m) ↔ x = key ∨ x ∈ keys m := by
  induction m with
  | nil => simp [insert, keys]
  | cons kv m ih =>
    obtain ⟨k, v⟩ := kv
    unfold insert
    split_ifs with hlt heq
    · simp [keys]
    · -- the pair under `k` gives way to the new one with the same key
      have hk : k = key := (beq_iff_eq.1 heq).symm
      simp [keys, hk]
    · simp only [keys, List.map_cons, List.mem_cons] at ih ⊢
      rw [ih]
      tauto

theorem keys_insert_sorted {key : String} {value : α} {m : List (String × α)}
    (h : (keys m).Pairwise (· < ·)) : (keys (insert key value m)).Pairwise (· < ·) := by
  induction m with
  | nil => simp [insert, keys]
  | cons kv m ih =>
    obtain ⟨k, v⟩ := kv
    have hm : (k :: keys m).Pairwise (· < ·) := h
    obtain ⟨hk, hrest⟩ := List.pairwise_cons.1 hm
    unfold insert
    split_ifs with hlt heq
    · -- the new key goes first, below `k` and so below every later key
      refine List.pairwise_cons.2 ⟨fun x hx => ?_, hm⟩
      rcases List.mem_cons.1 hx with rfl | hx
      · exact hlt
      · exact String.lt_trans hlt (hk x hx)
    · have hkey : key = k := beq_iff_eq.1 heq
      simpa [keys, hkey] using hm
    · -- `k` stays first: the new key is above it
      have hgt : k < key := lt_of_le_of_ne (not_lt.1 hlt) fun e => heq (beq_iff_eq.2 e.symm)
      refine List.pairwise_cons.2 ⟨fun x hx => ?_, ih hrest⟩
      rcases mem_keys_insert.1 hx with rfl | hx
      · exact hgt
      · exact hk x hx

/-- Inserting pairs one by one keeps the keys strictly increasing and adds
the keys of the pairs. -/
theorem keys_foldl_insert (pairs : List (String × α)) (m : List (String × α))
    (h : (keys m).Pairwise (· < ·)) :
    (keys (pairs.foldl (fun m (k, v) => insert k v m) m)).Pairwise (· < ·) ∧
      ∀ x, x ∈ keys (pairs.foldl (fun m (k, v) => insert k v m) m) ↔ x ∈ keys m ∨ x ∈ pairs.map (·.1) := by
  induction pairs generalizing m with
  | nil => simpa using h
  | cons kv pairs ih =>
    obtain ⟨sorted, mem⟩ := ih (insert kv.1 kv.2 m) (keys_insert_sorted h)
    refine ⟨sorted, fun x => ?_⟩
    rw [List.foldl_cons, mem, mem_keys_insert]
    simp only [List.map_cons, List.mem_cons]
    tauto

end Keyed

/-- A sorted set is strictly increasing, so it has no repeats. -/
theorem sortedSet_sorted (xs : List String) : (sortedSet xs).Pairwise (· < ·) :=
  (Keyed.keys_foldl_insert (xs.map fun x => (x, ())) [] List.Pairwise.nil).1

theorem mem_sortedSet {xs : List String} {x : String} : x ∈ sortedSet xs ↔ x ∈ xs := by
  have hmem := (Keyed.keys_foldl_insert (xs.map fun x => (x, ())) [] List.Pairwise.nil).2 x
  simpa [sortedSet, Keyed.ofList, Keyed.keys] using hmem

/-! ## Runs of a composition -/

namespace ImplementationFactory

/-- Asked in turn from `w`, the factories list `idss`, each asked in the
world the one before it left; the last leaves `w'`. -/
inductive Lists : List ImplementationFactory → World → List (List String) → World → Prop
  | nil (w : World) : Lists [] w [] w
  | cons {f : ImplementationFactory} {fs : List ImplementationFactory} {w w₁ w₂ : World}
      {ids : List String} {idss : List (List String)} :
      f.identifiers.run.run w = (.ok (.ok ids), w₁) → Lists fs w₁ idss w₂ →
      Lists (f :: fs) w (ids :: idss) w₂

variable {pre fs : List ImplementationFactory} {f : ImplementationFactory}
  {w w₁ w₂ : World} {idss : List (List String)}

theorem gather_of_lists (h : Lists fs w idss w₁) :
    (gather fs).run.run w = (.ok (.ok idss.flatten), w₁) := by
  induction h with
  | nil => rfl
  | cons hrun _ ih => simp only [gather, Op.run_bind, hrun, ih, Op.run_pure, List.flatten_cons]

/-- The first factory that fails, after some that list, fails the gathering
with its own failure: an error or a panic. -/
theorem gather_of_fails (post : List ImplementationFactory) (h : Lists pre w idss w₁)
    {r : Except String (Except BrokerError (List String))} (hf : f.identifiers.run.run w₁ = (r, w₂))
    (hr : ∀ ids, r ≠ .ok (.ok ids)) : (gather (pre ++ f :: post)).run.run w = (r, w₂) := by
  induction h with
  | nil =>
    rcases r with p | e | ids
    · simp only [List.nil_append, gather, Op.run_bind, hf]
    · simp only [List.nil_append, gather, Op.run_bind, hf, Op.run_pure]
    · exact absurd rfl (hr ids)
  | cons hrun _ ih =>
    rcases r with p | e | ids
    · simp only [List.cons_append, gather, Op.run_bind, hrun, ih hf]
    · simp only [List.cons_append, gather, Op.run_bind, hrun, ih hf, Op.run_pure]
    · exact absurd rfl (hr ids)

variable {identifier : String}

/-- Factories that list without the identifier are passed over: the search
goes on where they left the world. -/
theorem owner_append_of_lists (post : List ImplementationFactory) (h : Lists pre w idss w₁)
    (hnot : ∀ ids ∈ idss, identifier ∉ ids) :
    (owner (pre ++ post) identifier).run.run w = (owner post identifier).run.run w₁ := by
  induction h with
  | nil => rfl
  | @cons f fs w w₁ w₂ ids idss hrun _ ih =>
    have hid : ids.contains identifier = false := by
      simpa using hnot ids List.mem_cons_self
    simp only [List.cons_append, owner, Op.run_bind, hrun, hid, Bool.false_eq_true, if_false]
    exact ih fun ids' h' => hnot ids' (List.mem_cons_of_mem ids h')

theorem owner_of_lists (h : Lists fs w idss w₁) (hnot : ∀ ids ∈ idss, identifier ∉ ids) :
    (owner fs identifier).run.run w = (.ok (.ok none), w₁) := by
  rw [← List.append_nil fs, owner_append_of_lists [] h hnot]
  rfl

theorem owner_cons_of_mem (fs : List ImplementationFactory) {ids : List String}
    (hf : f.identifiers.run.run w = (.ok (.ok ids), w₁)) (hmem : identifier ∈ ids) :
    (owner (f :: fs) identifier).run.run w = (.ok (.ok (some f)), w₁) := by
  have hid : ids.contains identifier = true := by simpa using hmem
  simp only [owner, Op.run_bind, hf, hid, if_true, Op.run_pure]

theorem owner_cons_of_error (fs : List ImplementationFactory) {e : BrokerError}
    (hf : f.identifiers.run.run w = (.ok (.error e), w₁)) :
    (owner (f :: fs) identifier).run.run w = (.ok (.error e), w₁) := by
  simp only [owner, Op.run_bind, hf, Op.run_pure]

theorem owner_cons_of_panic (fs : List ImplementationFactory) {message : String}
    (hf : f.identifiers.run.run w = (.error message, w₁)) :
    (owner (f :: fs) identifier).run.run w = (.error message, w₁) := by
  simp only [owner, Op.run_bind, hf]

/-! ## What the composition answers -/

theorem hybrid_identifiers_of_lists (h : Lists fs w idss w₁) :
    (hybrid fs).identifiers.run.run w = (.ok (.ok (sortedSet idss.flatten)), w₁) := by
  simp only [hybrid, Op.run_bind, gather_of_lists h, Op.run_pure]

theorem hybrid_identifiers_of_fails (post : List ImplementationFactory) (h : Lists pre w idss w₁)
    {r : Except String (Except BrokerError (List String))} (hf : f.identifiers.run.run w₁ = (r, w₂))
    (hr : ∀ ids, r ≠ .ok (.ok ids)) : (hybrid (pre ++ f :: post)).identifiers.run.run w = (r, w₂) := by
  rcases r with p | e | ids
  · simp only [hybrid, Op.run_bind, gather_of_fails post h hf hr]
  · simp only [hybrid, Op.run_bind, gather_of_fails post h hf hr, Op.run_pure]
  · exact absurd rfl (hr ids)

section Owner

variable {ids : List String} (post : List ImplementationFactory) (h : Lists pre w idss w₁)
  (hnot : ∀ ids ∈ idss, identifier ∉ ids)
include h hnot

/-- The first factory listing the identifier makes it, in the world the
search left; no factory after it is asked anything. -/
theorem hybrid_instantiate_of_owner (hf : f.identifiers.run.run w₁ = (.ok (.ok ids), w₂))
    (hmem : identifier ∈ ids) :
    ((hybrid (pre ++ f :: post)).instantiate identifier).run.run w =
      (f.instantiate identifier).run.run w₂ := by
  have howner : (owner (pre ++ f :: post) identifier).run.run w = (.ok (.ok (some f)), w₂) := by
    rw [owner_append_of_lists _ h hnot, owner_cons_of_mem post hf hmem]
  simp only [hybrid, Op.run_bind, howner]

theorem hybrid_origin_of_owner (hf : f.identifiers.run.run w₁ = (.ok (.ok ids), w₂))
    (hmem : identifier ∈ ids) :
    ((hybrid (pre ++ f :: post)).origin identifier).run.run w = (f.origin identifier).run.run w₂ := by
  have howner : (owner (pre ++ f :: post) identifier).run.run w = (.ok (.ok (some f)), w₂) := by
    rw [owner_append_of_lists _ h hnot, owner_cons_of_mem post hf hmem]
  simp only [hybrid, Op.run_bind, howner]

theorem hybrid_instantiate_of_error {e : BrokerError}
    (hf : f.identifiers.run.run w₁ = (.ok (.error e), w₂)) :
    ((hybrid (pre ++ f :: post)).instantiate identifier).run.run w = (.ok (.error e), w₂) := by
  have howner : (owner (pre ++ f :: post) identifier).run.run w = (.ok (.error e), w₂) := by
    rw [owner_append_of_lists _ h hnot, owner_cons_of_error post hf]
  simp only [hybrid, Op.run_bind, howner, Op.run_pure]

theorem hybrid_origin_of_error {e : BrokerError}
    (hf : f.identifiers.run.run w₁ = (.ok (.error e), w₂)) :
    ((hybrid (pre ++ f :: post)).origin identifier).run.run w = (.ok none, w₂) := by
  have howner : (owner (pre ++ f :: post) identifier).run.run w = (.ok (.error e), w₂) := by
    rw [owner_append_of_lists _ h hnot, owner_cons_of_error post hf]
  simp only [hybrid, Op.run_bind, howner, Op.run_pure]

theorem hybrid_instantiate_of_panic {message : String}
    (hf : f.identifiers.run.run w₁ = (.error message, w₂)) :
    ((hybrid (pre ++ f :: post)).instantiate identifier).run.run w = (.error message, w₂) := by
  have howner : (owner (pre ++ f :: post) identifier).run.run w = (.error message, w₂) := by
    rw [owner_append_of_lists _ h hnot, owner_cons_of_panic post hf]
  simp only [hybrid, Op.run_bind, howner]

theorem hybrid_origin_of_panic {message : String}
    (hf : f.identifiers.run.run w₁ = (.error message, w₂)) :
    ((hybrid (pre ++ f :: post)).origin identifier).run.run w = (.error message, w₂) := by
  have howner : (owner (pre ++ f :: post) identifier).run.run w = (.error message, w₂) := by
    rw [owner_append_of_lists _ h hnot, owner_cons_of_panic post hf]
  simp only [hybrid, Op.run_bind, howner]

end Owner

theorem hybrid_instantiate_of_lists (h : Lists fs w idss w₁) (hnot : ∀ ids ∈ idss, identifier ∉ ids) :
    ((hybrid fs).instantiate identifier).run.run w =
      (.ok (.error (BrokerError.pluginNotFound identifier)), w₁) := by
  simp only [hybrid, Op.run_bind, owner_of_lists h hnot, Op.run_pure]

theorem hybrid_origin_of_lists (h : Lists fs w idss w₁) (hnot : ∀ ids ∈ idss, identifier ∉ ids) :
    ((hybrid fs).origin identifier).run.run w = (.ok none, w₁) := by
  simp only [hybrid, Op.run_bind, owner_of_lists h hnot, Op.run_pure]

end ImplementationFactory

/-! ## Configured sources -/

namespace World

open ImplementationFactory

/-- Every member of a list is built, in order, when building them all
succeeds. -/
theorem map_eq_of_mapM_eq_ok {α β ε : Type} {f : α → Except ε β} {xs : List α} {ys : List β}
    (h : xs.mapM f = .ok ys) : xs.map f = ys.map .ok := by
  induction xs generalizing ys with
  | nil =>
    cases h
    rfl
  | cons x xs ih =>
    rw [List.mapM_cons] at h
    cases hx : f x with
    | error e => simp [hx, bind, Except.bind] at h
    | ok y =>
      cases hxs : xs.mapM f with
      | error e => simp [hx, hxs, bind, Except.bind] at h
      | ok ys' =>
        simp only [hx, hxs] at h
        cases h
        simp [hx, ih hxs]

/-- A configuration that builds its sources builds one for each name it
lists, in order. -/
theorem configuredChildren_eq_ok {config : Config.PluginsConfig} {made : List Child}
    (h : configuredChildren config = .ok made) :
    config.sources.map (configuredChild config) = made.map some := by
  -- a source is built exactly when the configuration knows its name
  have hknown : ∀ source, (buildSource config source).toOption = configuredChild config source := by
    intro source
    unfold buildSource
    split <;> simp_all [Except.toOption]
  calc config.sources.map (configuredChild config)
      = (config.sources.map (buildSource config)).map Except.toOption := by simp [hknown]
    _ = (made.map .ok).map Except.toOption := by rw [map_eq_of_mapM_eq_ok h]
    _ = made.map some := by simp [Except.toOption]

/-- Sources appended to the world are read back by their numbers. -/
theorem child_append (w : World) (made : List Child) :
    (List.range' w.children.size made.length).map
        (fun i => some ({ w with children := w.children ++ made.toArray }.child i)) =
      made.map some := by
  apply List.ext_getElem (by simp)
  intro k hk _
  have hk' : k < made.length := by simpa using hk
  simp [child, Array.getD, hk']

/-- A configuration that succeeds builds a hybrid composition over sources
that are new, one for each source name, in the order the configuration
lists them. -/
theorem fromConfig_children {config : Config.PluginsConfig} {w w' : World} {top : Composition}
    (h : (fromConfig config).run.run w = (.ok (.ok top), w')) :
    ∃ children : List Nat, top = .hybrid children ∧ children ≠ [] ∧
      config.sources.map (configuredChild config) = children.map fun i => some (w'.child i) := by
  cases hc : configuredChildren config with
  | error e =>
    simp only [fromConfig, hc, Op.run_pure] at h
    cases h
  | ok made =>
    cases made with
    | nil =>
      simp only [fromConfig, hc, Op.run_bind, run_log, List.isEmpty_nil, if_true, Op.run_pure] at h
      cases h
    | cons c cs =>
      simp only [fromConfig, hc, Op.run_bind, run_log, List.isEmpty_cons, Bool.false_eq_true,
        if_false, Op.run_get, Op.run_modify, Op.run_pure] at h
      cases h
      refine ⟨_, rfl, by simp, ?_⟩
      rw [configuredChildren_eq_ok hc]
      exact (child_append _ (c :: cs)).symm

/-- The host makes a manager with what the top factory instantiates; asking
the origin afterwards only adds to the log. -/
theorem instantiate_of_createManager {top : Composition} {identifier : String} {w w' : World}
    {made : Made} (h : (createManager top identifier).run.run w = (.ok (.ok made), w')) :
    ∃ w₁, (instantiate top identifier).run.run w = (.ok (.ok made), w₁) := by
  unfold createManager at h
  rw [Op.run_bind] at h
  rcases hi : (instantiate top identifier).run.run w with ⟨r, w₁⟩
  rw [hi] at h
  rcases r with message | e | m
  · cases h
  · simp only [Op.run_pure] at h
    cases h
  · dsimp only at h
    rw [Op.run_bind] at h
    rcases ho : (origin top identifier).run.run w₁ with ⟨ro, w₂⟩
    rw [ho] at h
    rcases ro with message | o
    · cases h
    · simp only [Op.run_bind, run_log, Op.run_pure] at h
      cases h
      exact ⟨w₁, rfl⟩

/-- Over configured sources, the host's manager for an identifier is what
the first source listing it makes. -/
theorem createManager_of_owner {pre post : List Nat} {i : Nat} {identifier : String}
    {w w₁ w₂ w' : World} {idss : List (List String)} {ids : List String} {made : Made}
    (h : Lists (pre.map sourceFactory) w idss w₁) (hnot : ∀ l ∈ idss, identifier ∉ l)
    (hf : (sourceFactory i).identifiers.run.run w₁ = (.ok (.ok ids), w₂)) (hmem : identifier ∈ ids)
    (hmade : (createManager (.hybrid (pre ++ i :: post)) identifier).run.run w = (.ok (.ok made), w')) :
    ∃ w₃, (childInstantiate i identifier).run.run w₂ = (.ok (.ok made), w₃) := by
  obtain ⟨w₃, hinst⟩ := instantiate_of_createManager hmade
  -- the top factory over the sources is their hybrid composition
  have htop : instantiate (.hybrid (pre ++ i :: post)) identifier =
      (hybrid (pre.map sourceFactory ++ sourceFactory i :: post.map sourceFactory)).instantiate identifier := by
    simp [instantiate, factory]
  have hrun := hybrid_instantiate_of_owner (post.map sourceFactory) h hnot hf hmem
  rw [htop, hrun] at hinst
  exact ⟨w₃, hinst⟩

end World

/-- **The first factory to offer an identifier wins.** For factories of any
behaviour, asked in turn from a world:

* the hybrid composition's identifiers are the union of theirs, strictly
  increasing and so without repeats, or, when one fails (with an error or a
  panic) after the ones before it listed theirs, exactly its failure;
* instantiating asks them up to the first one listing the identifier and is
  then that factory's own instantiation, from the world the search left,
  whatever factories follow it; the origin is that factory's origin;
* when none lists it, instantiating fails as not found and there is no
  origin; when one fails first, instantiating fails with its error and there
  is no origin, and a panic goes through both;
* a configuration that builds its factory builds one new source per source
  name in the order given, and the host's manager for an identifier is then
  the one the first source listing it makes. -/
theorem hybrid_first_match_wins :
    (∀ (fs : List ImplementationFactory) (w w' : World) (idss : List (List String)),
      ImplementationFactory.Lists fs w idss w' →
      ∃ all, (ImplementationFactory.hybrid fs).identifiers.run.run w = (.ok (.ok all), w') ∧
        all.Pairwise (· < ·) ∧ ∀ x, x ∈ all ↔ ∃ ids ∈ idss, x ∈ ids) ∧
    (∀ (pre post : List ImplementationFactory) (f : ImplementationFactory) (w w₁ w₂ : World)
      (idss : List (List String)) (r : Except String (Except BrokerError (List String))),
      ImplementationFactory.Lists pre w idss w₁ → f.identifiers.run.run w₁ = (r, w₂) →
      (∀ ids, r ≠ .ok (.ok ids)) →
      (ImplementationFactory.hybrid (pre ++ f :: post)).identifiers.run.run w = (r, w₂)) ∧
    (∀ (pre post : List ImplementationFactory) (f : ImplementationFactory) (identifier : String)
      (w w₁ w₂ : World) (idss : List (List String)) (ids : List String),
      ImplementationFactory.Lists pre w idss w₁ → (∀ l ∈ idss, identifier ∉ l) →
      f.identifiers.run.run w₁ = (.ok (.ok ids), w₂) → identifier ∈ ids →
      ((ImplementationFactory.hybrid (pre ++ f :: post)).instantiate identifier).run.run w =
          (f.instantiate identifier).run.run w₂ ∧
        ((ImplementationFactory.hybrid (pre ++ f :: post)).origin identifier).run.run w =
          (f.origin identifier).run.run w₂) ∧
    (∀ (fs : List ImplementationFactory) (identifier : String) (w w' : World)
      (idss : List (List String)),
      ImplementationFactory.Lists fs w idss w' → (∀ l ∈ idss, identifier ∉ l) →
      ((ImplementationFactory.hybrid fs).instantiate identifier).run.run w =
          (.ok (.error (BrokerError.pluginNotFound identifier)), w') ∧
        ((ImplementationFactory.hybrid fs).origin identifier).run.run w = (.ok none, w')) ∧
    (∀ (pre post : List ImplementationFactory) (f : ImplementationFactory) (identifier : String)
      (w w₁ w₂ : World) (idss : List (List String)) (e : BrokerError),
      ImplementationFactory.Lists pre w idss w₁ → (∀ l ∈ idss, identifier ∉ l) →
      f.identifiers.run.run w₁ = (.ok (.error e), w₂) →
      ((ImplementationFactory.hybrid (pre ++ f :: post)).instantiate identifier).run.run w =
          (.ok (.error e), w₂) ∧
        ((ImplementationFactory.hybrid (pre ++ f :: post)).origin identifier).run.run w =
          (.ok none, w₂)) ∧
    (∀ (pre post : List ImplementationFactory) (f : ImplementationFactory) (identifier : String)
      (w w₁ w₂ : World) (idss : List (List String)) (message : String),
      ImplementationFactory.Lists pre w idss w₁ → (∀ l ∈ idss, identifier ∉ l) →
      f.identifiers.run.run w₁ = (.error message, w₂) →
      ((ImplementationFactory.hybrid (pre ++ f :: post)).instantiate identifier).run.run w =
          (.error message, w₂) ∧
        ((ImplementationFactory.hybrid (pre ++ f :: post)).origin identifier).run.run w =
          (.error message, w₂)) ∧
    (∀ (config : Config.PluginsConfig) (w w' : World) (top : Composition),
      (World.fromConfig config).run.run w = (.ok (.ok top), w') →
      ∃ children : List Nat, top = .hybrid children ∧ children ≠ [] ∧
        config.sources.map (World.configuredChild config) = children.map fun i => some (w'.child i)) ∧
    (∀ (pre post : List Nat) (i : Nat) (identifier : String) (w w₁ w₂ w' : World)
      (idss : List (List String)) (ids : List String) (made : Made),
      ImplementationFactory.Lists (pre.map World.sourceFactory) w idss w₁ →
      (∀ l ∈ idss, identifier ∉ l) →
      (World.sourceFactory i).identifiers.run.run w₁ = (.ok (.ok ids), w₂) → identifier ∈ ids →
      (World.createManager (.hybrid (pre ++ i :: post)) identifier).run.run w = (.ok (.ok made), w') →
      ∃ w₃, (World.childInstantiate i identifier).run.run w₂ = (.ok (.ok made), w₃)) := by
  refine ⟨?union, ?union_fails, ?owner, ?none, ?error, ?panic, ?config, ?host⟩
  case union =>
    intro fs w w' idss h
    refine ⟨_, ImplementationFactory.hybrid_identifiers_of_lists h, sortedSet_sorted _, fun x => ?_⟩
    rw [mem_sortedSet, List.mem_flatten]
  case union_fails =>
    intro pre post f w w₁ w₂ idss r h hf hr
    exact ImplementationFactory.hybrid_identifiers_of_fails post h hf hr
  case owner =>
    intro pre post f identifier w w₁ w₂ idss ids h hnot hf hmem
    exact ⟨ImplementationFactory.hybrid_instantiate_of_owner post h hnot hf hmem,
      ImplementationFactory.hybrid_origin_of_owner post h hnot hf hmem⟩
  case none =>
    intro fs identifier w w' idss h hnot
    exact ⟨ImplementationFactory.hybrid_instantiate_of_lists h hnot,
      ImplementationFactory.hybrid_origin_of_lists h hnot⟩
  case error =>
    intro pre post f identifier w w₁ w₂ idss e h hnot hf
    exact ⟨ImplementationFactory.hybrid_instantiate_of_error post h hnot hf,
      ImplementationFactory.hybrid_origin_of_error post h hnot hf⟩
  case panic =>
    intro pre post f identifier w w₁ w₂ idss message h hnot hf
    exact ⟨ImplementationFactory.hybrid_instantiate_of_panic post h hnot hf,
      ImplementationFactory.hybrid_origin_of_panic post h hnot hf⟩
  case config =>
    intro config w w' top h
    exact World.fromConfig_children h
  case host =>
    intro pre post i identifier w w₁ w₂ w' idss ids made h hnot hf hmem hmade
    exact World.createManager_of_owner h hnot hf hmem hmade

/-- Two factories both offering `org.shared`, the second also
`org.only_second`: the first one makes `org.shared` and gives its origin. -/
theorem shared_identifier_made_by_first_factory :
    let first : ImplementationFactory :=
      ⟨pure (.ok ["org.shared"]), fun _ => pure (.error (.manager "first")), fun _ => pure (some (.label "first"))⟩
    let second : ImplementationFactory :=
      ⟨pure (.ok ["org.shared", "org.only_second"]), fun _ => pure (.error (.manager "second")),
        fun _ => pure (some (.label "second"))⟩
    first.identifiers.run.run default = (.ok (.ok ["org.shared"]), default) ∧
    ((ImplementationFactory.hybrid [first, second]).instantiate "org.shared").run.run default =
        (.ok (.error (.manager "first")), default) ∧
      ((ImplementationFactory.hybrid [first, second]).origin "org.shared").run.run default =
        (.ok (some (.label "first")), default) := by
  intro first second
  have hwins := hybrid_first_match_wins.2.2.1 [] [second] first "org.shared" default default default []
    ["org.shared"] (.nil default) (by simp) rfl (by simp)
  exact ⟨rfl, hwins.1, hwins.2⟩

end AssetBroker
