import AssetBroker.Plugin.Registry
import Mathlib

/-!
# The first registration wins

A registry keeps two structures that must agree: the order in which
identifiers came, and the sorted map from identifiers to entries. This module
follows a registry through any sequence of registrations and resets. The
invariant `Registry.Records` ties both structures to the list of registrations
made since the last reset: the order is that list's identifiers without
repeats, and each identifier maps to its first entry there. Every change keeps
it (`Records.apply`), so every run does (`records_replay`), and the answers of
`register`, `identifiers`, `listed` and `plugin` follow.

The map lemmas at the start hold of any keyed list, sorted or not.
-/

namespace AssetBroker

namespace Keyed

variable {α : Type}

@[simp] theorem find?_insert_self (key : String) (value : α) (m : List (String × α)) :
    find? key (insert key value m) = some value := by
  induction m with
  | nil => simp [insert, find?]
  | cons kv m ih =>
    obtain ⟨k, v⟩ := kv
    unfold insert
    split_ifs with hlt heq
    · simp [find?]
    · simp [find?]
    · -- `key` goes further down, past `k`
      have hne : k ≠ key := fun h => heq (by simp [h])
      simp [find?, hne, ih]

theorem find?_insert_ne {key k : String} (h : key ≠ k) (value : α) (m : List (String × α)) :
    find? k (insert key value m) = find? k m := by
  induction m with
  | nil => simp [insert, find?, h]
  | cons kv m ih =>
    obtain ⟨k', v'⟩ := kv
    unfold insert
    split_ifs with hlt heq
    · simp [find?, h]
    · -- `key` replaces the pair under `k'`, which is not `k` either
      have hk' : k' = key := (beq_iff_eq.1 heq).symm
      simp [find?, h, hk']
    · simp [find?, ih]

/-- Inserting a new key adds it to the keys, wherever it lands. -/
theorem keys_insert_perm {key : String} {m : List (String × α)} (h : find? key m = none) (value : α) :
    (keys (insert key value m)).Perm (key :: keys m) := by
  induction m with
  | nil => simp [insert, keys]
  | cons kv m ih =>
    obtain ⟨k, v⟩ := kv
    have hk : k ≠ key := by
      intro hk
      simp [find?, hk] at h
    have hrest : find? key m = none := by simpa [find?, hk] using h
    unfold insert
    split_ifs with hlt heq
    · simp [keys]
    · exact absurd (beq_iff_eq.1 heq).symm hk
    · -- the new key sits below `k`; swapping brings it to the front
      calc keys ((k, v) :: insert key value m)
          = k :: keys (insert key value m) := rfl
        List.Perm _ (k :: key :: keys m) := List.Perm.cons k (ih hrest)
        List.Perm _ (key :: k :: keys m) := List.Perm.swap key k (keys m)
        _ = key :: keys ((k, v) :: m) := rfl

end Keyed

namespace Registry

variable {P : Type}

/-- A change made to a registry. -/
inductive Change (P : Type) where
  | register (identifier : String) (provider : P) (origin : Origin)
  | reset

/-- The registry a change leaves; what the change hands back is dropped. -/
def apply (r : Registry P) : Change P → Registry P
  | .register identifier provider origin => (r.register identifier provider origin).1
  | .reset => r.reset.1

/-- The registry a sequence of changes leaves, from the empty one. -/
def replay (cs : List (Change P)) : Registry P := cs.foldl apply empty

/-- The registrations since the last reset, once one more change is made. -/
def Change.since (regs : List (String × Entry P)) : Change P → List (String × Entry P)
  | .register identifier provider origin => regs ++ [(identifier, ⟨provider, origin⟩)]
  | .reset => []

/-- The registrations since the last reset of a sequence of changes. -/
def sinceReset (cs : List (Change P)) : List (String × Entry P) := cs.foldl Change.since []

/-- A registry records the registrations `regs` when it holds the first entry
given for each identifier and lists the identifiers as they first came. -/
structure Records (regs : List (String × Entry P)) (r : Registry P) : Prop where
  order : r.order = (regs.map (·.1)).eraseDups
  get : ∀ identifier, r.get? identifier = (regs.find? (·.1 == identifier)).map (·.2)
  keys : r.order.Perm (Keyed.keys r.entries)
  nodup : r.order.Nodup

theorem find?_fst_eq_none_iff {regs : List (String × Entry P)} {identifier : String} :
    regs.find? (·.1 == identifier) = none ↔ identifier ∉ regs.map (·.1) := by
  simp only [List.find?_eq_none, beq_iff_eq, List.mem_map, not_exists, not_and]

theorem eraseDups_append_singleton (ids : List String) (identifier : String) :
    (ids ++ [identifier]).eraseDups =
      if identifier ∈ ids then ids.eraseDups else ids.eraseDups ++ [identifier] := by
  rw [List.eraseDups_append]
  by_cases h : identifier ∈ ids
  · simp [h, List.removeAll]
  · simp [h, List.removeAll, List.eraseDups_cons]

theorem records_empty : Records [] (empty : Registry P) where
  order := rfl
  get _ := rfl
  keys := List.Perm.refl _
  nodup := List.nodup_nil

theorem register_of_get?_some {r : Registry P} {identifier : String} {e : Entry P}
    (h : r.get? identifier = some e) (provider : P) (origin : Origin) :
    (r.register identifier provider origin).1 = r ∧
      (r.register identifier provider origin).2.1 = some ⟨provider, origin⟩ := by
  simp [register, h]

theorem register_of_get?_none {r : Registry P} {identifier : String}
    (h : r.get? identifier = none) (provider : P) (origin : Origin) :
    (r.register identifier provider origin).1 =
        ⟨r.order ++ [identifier], Keyed.insert identifier ⟨provider, origin⟩ r.entries⟩ ∧
      (r.register identifier provider origin).2.1 = none := by
  simp [register, h]

theorem plugin_eq_error_iff {r : Registry P} {identifier : String} :
    r.plugin identifier = .error (.pluginNotFound identifier) ↔ r.get? identifier = none := by
  unfold plugin
  cases r.get? identifier with
  | some e => simp
  | none => simp

/-- Listing walks a list of identifiers, keeping those that have an entry. -/
theorem map_fst_filterMap_get? {r : Registry P} {l : List String}
    (hl : ∀ identifier ∈ l, (r.get? identifier).isSome) :
    (l.filterMap fun identifier => (r.get? identifier).map fun e => (identifier, e)).map (·.1) = l := by
  induction l with
  | nil => rfl
  | cons identifier l ih =>
    obtain ⟨e, he⟩ := Option.isSome_iff_exists.1 (hl identifier List.mem_cons_self)
    rw [List.filterMap_cons, he]
    simp [ih fun other hother => hl other (List.mem_cons_of_mem identifier hother)]

namespace Records

variable {regs : List (String × Entry P)} {r : Registry P}

theorem mem_order_iff (h : Records regs r) {identifier : String} :
    identifier ∈ r.order ↔ identifier ∈ regs.map (·.1) := by
  rw [h.order, List.mem_eraseDups]

theorem get?_eq_none_iff (h : Records regs r) {identifier : String} :
    r.get? identifier = none ↔ identifier ∉ regs.map (·.1) := by
  rw [h.get, Option.map_eq_none_iff, find?_fst_eq_none_iff]

theorem exists_get?_of_mem (h : Records regs r) {identifier : String}
    (htaken : identifier ∈ regs.map (·.1)) : ∃ e, r.get? identifier = some e :=
  Option.ne_none_iff_exists'.1 (mt h.get?_eq_none_iff.1 (Classical.not_not.2 htaken))

/-- A registration under a taken identifier leaves the registry as it was,
which records the longer list all the same. -/
theorem register_taken (h : Records regs r) {identifier : String}
    (htaken : identifier ∈ regs.map (·.1)) (provider : P) (origin : Origin) :
    Records (regs ++ [(identifier, ⟨provider, origin⟩)]) (r.register identifier provider origin).1 := by
  obtain ⟨e, he⟩ := h.exists_get?_of_mem htaken
  rw [(register_of_get?_some he provider origin).1]
  refine ⟨?order, ?get, h.keys, h.nodup⟩
  case order =>
    rw [h.order, List.map_append, List.map_singleton, eraseDups_append_singleton, if_pos htaken]
  case get =>
    intro other
    rw [h.get, List.find?_append]
    cases hf : regs.find? (·.1 == other) with
    | some x => rfl
    | none =>
      -- `other` was never registered, so it is not the taken identifier
      have hne : identifier ≠ other := fun heq => (find?_fst_eq_none_iff.1 hf) (heq ▸ htaken)
      simp [hne]

/-- A registration under a free identifier appends it to the order and
inserts its entry. -/
theorem register_free (h : Records regs r) {identifier : String}
    (hfree : identifier ∉ regs.map (·.1)) (provider : P) (origin : Origin) :
    Records (regs ++ [(identifier, ⟨provider, origin⟩)]) (r.register identifier provider origin).1 := by
  have hnone := h.get?_eq_none_iff.2 hfree
  rw [(register_of_get?_none hnone provider origin).1]
  refine ⟨?order, ?get, ?keys, ?nodup⟩
  case order =>
    rw [h.order, List.map_append, List.map_singleton, eraseDups_append_singleton, if_neg hfree]
  case get =>
    intro other
    show Keyed.find? other (Keyed.insert identifier ⟨provider, origin⟩ r.entries) = _
    rw [List.find?_append]
    by_cases hid : identifier = other
    · subst hid
      simp [find?_fst_eq_none_iff.2 hfree]
    · rw [Keyed.find?_insert_ne hid]
      have hold : Keyed.find? other r.entries = _ := h.get other
      cases hf : regs.find? (·.1 == other) with
      | some x => simpa [hf] using hold
      | none => simpa [hf, hid] using hold
  case keys =>
    -- the identifier goes last in the order and wherever it sorts among the keys
    show List.Perm (r.order ++ [identifier]) (Keyed.keys (Keyed.insert identifier _ r.entries))
    calc List.Perm (r.order ++ [identifier]) (identifier :: r.order) :=
          List.perm_append_singleton identifier r.order
      List.Perm _ (identifier :: Keyed.keys r.entries) := h.keys.cons identifier
      List.Perm _ (Keyed.keys (Keyed.insert identifier ⟨provider, origin⟩ r.entries)) :=
        (Keyed.keys_insert_perm hnone _).symm
  case nodup =>
    show (r.order ++ [identifier]).Nodup
    refine List.nodup_append.2 ⟨h.nodup, by simp, ?_⟩
    intro old hold new hnew
    rw [List.mem_singleton.1 hnew]
    -- an identifier already in the order was registered, unlike the new one
    rintro rfl
    exact hfree (h.mem_order_iff.1 hold)

/-- The step lemma: every change keeps the registry recording the
registrations since the last reset. -/
theorem apply (h : Records regs r) (c : Change P) : Records (c.since regs) (r.apply c) := by
  cases c with
  | register identifier provider origin =>
    by_cases htaken : identifier ∈ regs.map (·.1)
    · exact h.register_taken htaken provider origin
    · exact h.register_free htaken provider origin
  | reset => exact records_empty

/-- The run lemma, by induction on the changes. -/
theorem foldl (h : Records regs r) (cs : List (Change P)) :
    Records (cs.foldl Change.since regs) (cs.foldl Registry.apply r) := by
  induction cs generalizing regs r with
  | nil => exact h
  | cons c cs ih => exact ih (h.apply c)

/-- What a registration answers: nothing when the identifier is free, and
otherwise the rejected entry, leaving the registry as it was. -/
theorem register_answer (h : Records regs r) (identifier : String) (provider : P) (origin : Origin) :
    ((r.register identifier provider origin).2.1 = none ↔ identifier ∉ regs.map (·.1)) ∧
      (identifier ∈ regs.map (·.1) →
        (r.register identifier provider origin).1 = r ∧
          (r.register identifier provider origin).2.1 = some ⟨provider, origin⟩) := by
  by_cases htaken : identifier ∈ regs.map (·.1)
  · obtain ⟨e, he⟩ := h.exists_get?_of_mem htaken
    have hreg := register_of_get?_some he provider origin
    exact ⟨by simp [hreg.2, htaken], fun _ => hreg⟩
  · have hreg := register_of_get?_none (h.get?_eq_none_iff.2 htaken) provider origin
    exact ⟨by simp [hreg.2, htaken], fun hmem => absurd hmem htaken⟩

theorem listed_keys (h : Records regs r) : r.listed.map (·.1) = r.order := by
  refine map_fst_filterMap_get? fun identifier hmem => ?_
  -- every identifier in the order has an entry
  rw [Option.isSome_iff_ne_none, Ne, h.get?_eq_none_iff, Classical.not_not]
  exact h.mem_order_iff.1 hmem

theorem plugin_eq_error_iff_not_mem (h : Records regs r) (identifier : String) :
    r.plugin identifier = .error (.pluginNotFound identifier) ↔ identifier ∉ r.identifiers := by
  rw [plugin_eq_error_iff, h.get?_eq_none_iff, identifiers, h.mem_order_iff]

end Records

theorem records_replay (cs : List (Change P)) : Records (sinceReset cs) (replay cs) :=
  records_empty.foldl cs

/-- The first registration of an identifier since the last reset wins. After
any sequence of registrations and resets, the order lists each identifier
once and exactly the identifiers with an entry; each entry is the first one
registered since the last reset; a registration is refused exactly when its
identifier was registered since then, handing back what it was given and
leaving the registry alone; identifiers and the listing follow the order of
first registration, and a provider is not found exactly when its identifier
is not listed. -/
theorem first_registration_wins (cs : List (Change P)) :
    let r := replay cs
    let regs := sinceReset cs
    (r.order.Nodup ∧ r.order.Perm (Keyed.keys r.entries)) ∧
    (∀ identifier, r.get? identifier = (regs.find? (·.1 == identifier)).map (·.2)) ∧
    (∀ identifier provider origin,
      ((r.register identifier provider origin).2.1 = none ↔ identifier ∉ regs.map (·.1)) ∧
      (identifier ∈ regs.map (·.1) →
        (r.register identifier provider origin).1 = r ∧
          (r.register identifier provider origin).2.1 = some ⟨provider, origin⟩)) ∧
    r.identifiers = (regs.map (·.1)).eraseDups ∧
    r.listed.map (·.1) = (regs.map (·.1)).eraseDups ∧
    (∀ identifier, r.plugin identifier = .error (.pluginNotFound identifier) ↔
      identifier ∉ r.identifiers) := by
  intro r regs
  have h : Records regs r := records_replay cs
  refine ⟨⟨h.nodup, h.keys⟩, h.get, h.register_answer, h.order, ?_, h.plugin_eq_error_iff_not_mem⟩
  rw [h.listed_keys, h.order]

end Registry

end AssetBroker
