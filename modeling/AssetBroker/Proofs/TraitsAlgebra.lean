import AssetBroker.Proofs.TraitsCanonical
import Mathlib

/-!
# Merging and filtering traits data

`update` merges traits data into other traits data: every trait of either
is present afterwards, and under each trait and key the merged-in value
wins over the one there before. `filtered` keeps the traits of a set, each
with all its properties. On canonical traits data (sorted at both levels,
as every traits data the library builds is) these two operations form a
small algebra:

* merging is associative and idempotent, with no traits as a two-sided
  identity;
* filtering twice is filtering by the intersection, and filtering a merge
  is merging the filtered parts.

The laws are proved first as equalities of the data itself, through
extensionality: canonical traits data are equal when they hold the same
traits and the same value under every trait and key. A trait without
properties counts as present, which is what makes `update` keep empty
traits and lets the laws hold at both levels of nesting. The equality of
traits data compares values as values, so a NaN equals nothing; for data
without NaN the laws hold for that equality too.
-/

namespace AssetBroker

/-! ## Maps keyed by text -/

namespace Keyed

variable {α : Type}

/-- A map compares entry by entry with itself when every value relates to
itself. -/
theorem entrywise_self {r : α → α → Bool} {m : List (String × α)} (h : ∀ kv ∈ m, r kv.2 kv.2 = true) :
    entrywise r m m = true := by
  induction m with
  | nil => rfl
  | cons kv m ih =>
    obtain ⟨k, v⟩ := kv
    rw [entrywise_cons]
    exact ⟨rfl, h _ List.mem_cons_self, ih fun kv hkv => h kv (List.mem_cons_of_mem _ hkv)⟩

/-- Sorted maps with the same value under every key are equal. -/
theorem eq_of_find? {m₁ m₂ : List (String × α)} (h₁ : Sorted m₁) (h₂ : Sorted m₂)
    (h : ∀ key, find? key m₁ = find? key m₂) : m₁ = m₂ := by
  have hp₁ : m₁.Pairwise fun a b => a.1 < b.1 := List.pairwise_map.1 h₁
  have hp₂ : m₂.Pairwise fun a b => a.1 < b.1 := List.pairwise_map.1 h₂
  -- the same pairs, each once, so one list is a permutation of the other
  have hperm : m₁.Perm m₂ := by
    rw [List.perm_ext_iff_of_nodup (h₁.nodup.of_map _) (h₂.nodup.of_map _)]
    intro kv
    rw [← find?_eq_some_iff h₁.nodup, ← find?_eq_some_iff h₂.nodup, h]
  exact hperm.eq_of_pairwise (fun a b _ _ hab hba => absurd (lt_trans hab hba) (lt_irrefl _)) hp₁ hp₂

theorem find?_filterKeys (p : String → Bool) (key : String) (m : List (String × α)) :
    find? key (filterKeys p m) = if p key then find? key m else none := by
  induction m with
  | nil => simp [filterKeys, find?]
  | cons kv m ih =>
    obtain ⟨k, v⟩ := kv
    have hcons : filterKeys p ((k, v) :: m) = if p k then (k, v) :: filterKeys p m else filterKeys p m := by
      by_cases hp : p k <;> simp [filterKeys, hp]
    rw [hcons]
    by_cases hk : k = key
    · subst hk
      by_cases hp : p k <;> simp [hp, find?, ih]
    · by_cases hp : p k <;> simp [hp, find?, hk, ih]

end Keyed

/-! ## Property values -/

namespace PropertyValue

/-- Induction over property values, where the hypothesis for a dictionary
holds for every value among its entries. -/
theorem ind {P : PropertyValue → Prop} (bool : ∀ b, P (bool b)) (int : ∀ n, P (int n))
    (float : ∀ x, P (float x)) (str : ∀ s, P (str s))
    (dict : ∀ entries, (∀ k v, (k, v) ∈ entries → P v) → P (dict entries)) : ∀ v, P v
  | .bool b => bool b
  | .int n => int n
  | .float x => float x
  | .str s => str s
  | .dict entries => dict entries fun _ v _ => ind bool int float str dict v
termination_by v => sizeOf v
decreasing_by
  simp_wf
  exact sizeOf_lt_of_mem_entries (by assumption)

mutual

/-- The binary64 numbers a value holds, those of nested dictionaries
included, in order. -/
def floats : PropertyValue → List Binary64
  | float x => [x]
  | dict entries => entryFloats entries
  | _ => []

/-- The binary64 numbers the values of some entries hold. -/
def entryFloats : List (String × PropertyValue) → List Binary64
  | [] => []
  | (_, v) :: rest => floats v ++ entryFloats rest

end

theorem entryFloats_eq_flatMap (entries : List (String × PropertyValue)) :
    entryFloats entries = entries.flatMap fun e => e.2.floats := by
  induction entries with
  | nil => rfl
  | cons e rest ih =>
    obtain ⟨k, v⟩ := e
    simp [entryFloats, ih]

theorem mem_entryFloats {entries : List (String × PropertyValue)} {x : Binary64} :
    x ∈ entryFloats entries ↔ ∃ k v, (k, v) ∈ entries ∧ x ∈ v.floats := by
  simp [entryFloats_eq_flatMap]

/-- A value holding no NaN equals itself. -/
theorem beq_self : ∀ v : PropertyValue, (∀ x ∈ v.floats, x.isNaN = false) → v.beq v = true := by
  intro v
  induction v using ind with
  | bool b => simp [beq]
  | int n => simp [beq]
  | float x =>
    intro h
    have hx : x.isNaN = false := h x (by simp [floats])
    simp [beq, Binary64.numericEq, hx]
  | str s => simp [beq]
  | dict entries ih =>
    intro h
    show Settings.beq entries entries = true
    rw [Settings.beq_eq_entrywise]
    refine Keyed.entrywise_self fun kv hkv => ih kv.1 kv.2 hkv fun x hx => h x ?_
    exact mem_entryFloats.2 ⟨kv.1, kv.2, hkv, hx⟩

end PropertyValue

/-! ## Traits data -/

namespace TraitsData

open Keyed

/-- The binary64 numbers the values of traits data hold. -/
def floats (d : TraitsData) : List Binary64 := d.traits.flatMap fun tp => PropertyValue.entryFloats tp.2

/-- Traits data holding no NaN, in any value or nested dictionary. -/
def NaNFree (d : TraitsData) : Prop := ∀ x ∈ d.floats, x.isNaN = false

instance : DecidablePred NaNFree := fun d => inferInstanceAs (Decidable (∀ x ∈ d.floats, x.isNaN = false))

theorem mem_floats_of_get? {d : TraitsData} {t key : String} {v : PropertyValue}
    (h : d.get? t key = some v) {x : Binary64} (hx : x ∈ v.floats) : x ∈ d.floats := by
  obtain ⟨props, hprops, hv⟩ := Option.bind_eq_some_iff.1 h
  simp only [floats, List.mem_flatMap]
  exact ⟨(t, props), mem_of_find?_eq_some hprops,
    PropertyValue.mem_entryFloats.2 ⟨key, v, mem_of_find?_eq_some hv, hx⟩⟩

/-- In canonical traits data every number sits in the value of some trait
and key. -/
theorem exists_get?_of_mem_floats {d : TraitsData} (hd : d.Canonical) {x : Binary64} (hx : x ∈ d.floats) :
    ∃ t key v, d.get? t key = some v ∧ x ∈ v.floats := by
  simp only [floats, List.mem_flatMap] at hx
  obtain ⟨⟨t, props⟩, htp, hx⟩ := hx
  obtain ⟨key, v, hkv, hv⟩ := PropertyValue.mem_entryFloats.1 hx
  have hprops : find? t d.traits = some props := (find?_eq_some_iff hd.1.nodup).2 htp
  have hsorted : Sorted props := hd.2 _ htp
  exact ⟨t, key, v, by simp [get?, hprops, (find?_eq_some_iff hsorted.nodup).2 hkv], hv⟩

theorem NaNFree.get? {d : TraitsData} (hd : d.NaNFree) {t key : String} {v : PropertyValue}
    (h : d.get? t key = some v) : ∀ x ∈ v.floats, x.isNaN = false :=
  fun _ hx => hd _ (mem_floats_of_get? h hx)

/-- Canonical traits data whose values hold no NaN equal themselves. -/
theorem beq_self {d : TraitsData} (hd : d.Canonical) (hn : d.NaNFree) : (d == d) = true := by
  rw [beq_iff_same_traits_and_values hd hd]
  refine ⟨rfl, fun t key => ?_⟩
  cases h : d.get? t key with
  | none => rfl
  | some v => exact PropertyValue.beq_self v (hn.get? h)

/-- Canonical traits data are equal when they hold the same traits and the
same value under every trait and key. -/
theorem eq_of_get? {a b : TraitsData} (ha : a.Canonical) (hb : b.Canonical)
    (htraits : ∀ t, a.hasTrait t = b.hasTrait t) (hvals : ∀ t key, a.get? t key = b.get? t key) :
    a = b := by
  obtain ⟨as⟩ := a
  obtain ⟨bs⟩ := b
  congr 1
  refine eq_of_find? ha.1 hb.1 fun t => ?_
  have ht : (find? t as).isSome = (find? t bs).isSome := htraits t
  cases hp : find? t as with
  | none =>
    rw [hp, Option.isSome_none] at ht
    exact (Option.not_isSome_iff_eq_none.1 (by rw [← ht]; exact Bool.false_ne_true)).symm
  | some p =>
    rw [hp, Option.isSome_some] at ht
    obtain ⟨q, hq⟩ := Option.isSome_iff_exists.1 ht.symm
    rw [hq]
    -- the properties of `t` on both sides are sorted with the same values
    have hp' : Sorted p := ha.2 _ (mem_of_find?_eq_some hp)
    have hq' : Sorted q := hb.2 _ (mem_of_find?_eq_some hq)
    refine congrArg some (eq_of_find? hp' hq' fun key => ?_)
    simpa [get?, hp, hq] using hvals t key

/-! ## Merging -/

/-- The writes of merging `other` in touch only the traits of `other`. -/
theorem mem_traitIds_update_writes (other : TraitsData) (t : String) :
    t ∈ (Edit.update other).writes.map Write.traitId ↔ other.hasTrait t = true := by
  rw [hasTrait_iff, traitSet, Keyed.keys]
  simp only [Edit.writes, List.mem_map, List.mem_flatMap, List.mem_cons, Prod.exists]
  constructor
  · rintro ⟨w, ⟨t', props, htp, rfl | ⟨k, v, -, rfl⟩⟩, rfl⟩ <;> exact ⟨t', props, htp, rfl⟩
  · rintro ⟨t', props, htp, rfl⟩
    exact ⟨.trait t', ⟨t', props, htp, .inl rfl⟩, rfl⟩

/-- Merging keeps every trait of either side. -/
theorem hasTrait_update (a b : TraitsData) (t : String) :
    (a.update b).hasTrait t = true ↔ a.hasTrait t = true ∨ b.hasTrait t = true := by
  rw [show a.update b = _ from Edit.apply_eq_run a (.update b), hasTrait_run,
    mem_traitIds_update_writes]

theorem lastValue_append (ws ws' : List Write) (t key : String) :
    lastValue (ws ++ ws') t key = (lastValue ws' t key).or (lastValue ws t key) := by
  induction ws' using List.reverseRecOn with
  | nil => simp [lastValue]
  | append_singleton ws' w ih =>
    rw [← List.append_assoc, lastValue_append_singleton, ih, lastValue_append_singleton,
      valueAt_eq_or, valueAt_eq_or w t key (lastValue ws' t key), Option.or_assoc]

/-- Writes about other traits leave no value under `t`. -/
theorem lastValue_of_traitId_ne {ws : List Write} {t : String} (h : ∀ w ∈ ws, w.traitId ≠ t)
    (key : String) : lastValue ws t key = none := by
  induction ws using List.reverseRecOn with
  | nil => rfl
  | append_singleton ws w ih =>
    rw [lastValue_append_singleton, ih fun w' hw' => h w' (List.mem_append_left _ hw')]
    have hw : w.traitId ≠ t := h w (List.mem_append_right _ List.mem_cons_self)
    cases w with
    | trait => rfl
    | property t' key' v =>
      have ht' : t' ≠ t := hw
      simp [Write.valueAt, ht']

/-- Setting the properties of a map with each key once leaves each key's
own value. -/
theorem lastValue_properties {props : Settings} (hp : (Keyed.keys props).Nodup) (t key : String) :
    lastValue (props.map fun kv => Write.property t kv.1 kv.2) t key = find? key props := by
  induction props with
  | nil => rfl
  | cons kv props ih =>
    obtain ⟨k, v⟩ := kv
    simp only [Keyed.keys, List.map_cons, List.nodup_cons] at hp
    rw [List.map_cons, ← List.singleton_append, lastValue_append, ih hp.2, find?_cons]
    by_cases hk : k = key
    · subst hk
      have hnone : find? k props = none := by
        rw [← Option.not_isSome_iff_eq_none, ← mem_keys_iff_isSome]
        exact hp.1
      simp [hnone, lastValue, Write.valueAt]
    · simp [hk, lastValue, Write.valueAt]

/-- Merging canonical traits data in writes, last, each of its values. -/
theorem lastValue_update_writes {other : TraitsData} (ho : other.Canonical) (t key : String) :
    lastValue (Edit.update other).writes t key = other.get? t key := by
  obtain ⟨traits⟩ := other
  induction traits with
  | nil => rfl
  | cons tp traits ih =>
    obtain ⟨t', props⟩ := tp
    have hsorted : (t' :: Keyed.keys traits).Pairwise (· < ·) := ho.1
    obtain ⟨hlt, hrest⟩ := List.pairwise_cons.1 hsorted
    have ho' : Canonical ⟨traits⟩ := ⟨hrest, fun q hq => ho.2 q (List.mem_cons_of_mem _ hq)⟩
    have hwrites : (Edit.update ⟨(t', props) :: traits⟩).writes =
        (Write.trait t' :: props.map fun kv => Write.property t' kv.1 kv.2) ++
          (Edit.update ⟨traits⟩).writes := by
      simp [Edit.writes]
    rw [hwrites, lastValue_append, ih ho']
    by_cases ht : t' = t
    · subst ht
      -- `t'` is below every later trait, so no later write is about it
      have hnone : (⟨traits⟩ : TraitsData).get? t' key = none := by
        have : find? t' traits = none := by
          rw [← Option.not_isSome_iff_eq_none, ← mem_keys_iff_isSome]
          exact fun hm => lt_irrefl _ (hlt t' hm)
        simp [get?, this]
      have hblock : lastValue (Write.trait t' :: props.map fun kv => Write.property t' kv.1 kv.2) t' key =
          find? key props := by
        rw [← List.singleton_append, lastValue_append,
          lastValue_properties (ho.2 _ List.mem_cons_self).nodup]
        cases find? key props <;> rfl
      rw [hnone, hblock, Option.none_or]
      simp [get?, find?_cons]
    · have hblock : lastValue (Write.trait t' :: props.map fun kv => Write.property t' kv.1 kv.2) t key =
          none := by
        refine lastValue_of_traitId_ne (fun w hw => ?_) key
        simp only [List.mem_cons, List.mem_map] at hw
        rcases hw with rfl | ⟨_, _, rfl⟩ <;> exact ht
      simp [hblock, get?, find?_cons, ht]

/-- Merging in canonical traits data: its value wins where it has one. -/
theorem get?_update (a : TraitsData) {b : TraitsData} (hb : b.Canonical) (t key : String) :
    (a.update b).get? t key = (b.get? t key).or (a.get? t key) := by
  rw [show a.update b = _ from Edit.apply_eq_run a (.update b), get?_run, lastValue_update_writes hb]

@[simp] theorem update_empty (a : TraitsData) : a.update empty = a := rfl

theorem empty_update {a : TraitsData} (ha : a.Canonical) : empty.update a = a :=
  eq_of_get? (canonical_empty.update a) ha
    (fun t => Bool.eq_iff_iff.2 ((hasTrait_update _ _ t).trans (by simp [hasTrait, contains, empty, find?])))
    (fun t key => by rw [get?_update _ ha]; simp [get?, empty, find?])

theorem update_self {a : TraitsData} (ha : a.Canonical) : a.update a = a :=
  eq_of_get? (ha.update a) ha
    (fun t => Bool.eq_iff_iff.2 ((hasTrait_update a a t).trans or_self_iff))
    (fun t key => by rw [get?_update a ha, Option.or_self])

theorem update_assoc {a b c : TraitsData} (ha : a.Canonical) (hb : b.Canonical) (hc : c.Canonical) :
    (a.update b).update c = a.update (b.update c) :=
  eq_of_get? ((ha.update b).update c) (ha.update _)
    (fun t => Bool.eq_iff_iff.2 (by simp only [hasTrait_update, or_assoc]))
    (fun t key => by rw [get?_update _ hc, get?_update _ hb, get?_update _ (hb.update c),
      get?_update _ hc, Option.or_assoc])

theorem NaNFree.update {a b : TraitsData} (ha : a.Canonical) (hb : b.Canonical) (na : a.NaNFree)
    (nb : b.NaNFree) : (a.update b).NaNFree := by
  intro x hx
  obtain ⟨t, key, v, hv, hxv⟩ := exists_get?_of_mem_floats (ha.update b) hx
  rw [get?_update a hb] at hv
  cases hbv : b.get? t key with
  | some w =>
    rw [hbv, Option.some_or, Option.some.injEq] at hv
    exact nb.get? (hv ▸ hbv) x hxv
  | none =>
    rw [hbv, Option.none_or] at hv
    exact na.get? hv x hxv

/-! ## Filtering -/

/-- Filtering keeps exactly the traits of the set, with all their
properties. -/
theorem find?_filtered (d : TraitsData) (s : TraitSet) (t : String) :
    find? t (d.filtered s).traits = if t ∈ s then find? t d.traits else none := by
  rw [filtered, find?_filterKeys]
  simp only [List.contains_iff_mem]

theorem hasTrait_filtered (d : TraitsData) (s : TraitSet) (t : String) :
    (d.filtered s).hasTrait t = (d.hasTrait t && decide (t ∈ s)) := by
  by_cases h : t ∈ s <;> simp [hasTrait, contains, find?_filtered, h]

theorem get?_filtered (d : TraitsData) (s : TraitSet) (t key : String) :
    (d.filtered s).get? t key = if t ∈ s then d.get? t key else none := by
  by_cases h : t ∈ s <;> simp [get?, find?_filtered, h]

theorem filtered_filtered (d : TraitsData) (s₁ s₂ : TraitSet) :
    (d.filtered s₁).filtered s₂ = d.filtered (s₁ ∩ s₂) := by
  simp only [filtered, filterKeys, List.filter_filter, TraitsData.mk.injEq]
  congr 1
  funext tp
  rw [Bool.eq_iff_iff]
  simp only [Bool.and_eq_true, List.contains_iff_mem, List.mem_inter_iff]
  exact and_comm

theorem filtered_update {a b : TraitsData} (ha : a.Canonical) (hb : b.Canonical) (s : TraitSet) :
    (a.update b).filtered s = (a.filtered s).update (b.filtered s) :=
  eq_of_get? ((ha.update b).filtered s) ((ha.filtered s).update _)
    (fun t => by
      rw [hasTrait_filtered, Bool.eq_iff_iff, Bool.and_eq_true, hasTrait_update, hasTrait_update,
        hasTrait_filtered, hasTrait_filtered]
      simp only [Bool.and_eq_true, decide_eq_true_eq]
      tauto)
    (fun t key => by
      rw [get?_filtered, get?_update _ hb, get?_update _ (hb.filtered s), get?_filtered, get?_filtered]
      split <;> rfl)

theorem NaNFree.filtered {d : TraitsData} (hd : d.NaNFree) (s : TraitSet) : (d.filtered s).NaNFree :=
  fun x hx => hd x (by
    simp only [floats, TraitsData.filtered, filterKeys, List.mem_flatMap, List.mem_filter] at hx ⊢
    obtain ⟨tp, ⟨htp, -⟩, hx⟩ := hx
    exact ⟨tp, htp, hx⟩)

/-! ## The algebra -/

/-- Merging and filtering canonical traits data without NaN: a merge holds
the traits of both sides, with the merged-in value where it has one and
the other value elsewhere; merging is associative and idempotent, with no
traits as identity on both sides; filtering keeps exactly the traits of
the set with all their properties, filtering twice filters by the
intersection, and filtering a merge merges the filtered sides. Equality
is the equality of traits data, which compares values as values. -/
theorem traits_merge_filter_algebra {a b c : TraitsData} (ha : a.Canonical) (hb : b.Canonical)
    (hc : c.Canonical) (na : a.NaNFree) (nb : b.NaNFree) (nc : c.NaNFree) :
    (∀ t, (a.update b).hasTrait t = true ↔ a.hasTrait t = true ∨ b.hasTrait t = true) ∧
      (∀ t key, (a.update b).get? t key = (b.get? t key).or (a.get? t key)) ∧
      ((a.update b).update c == a.update (b.update c)) = true ∧
      (a.update a == a) = true ∧
      (empty.update a == a) = true ∧ (a.update empty == a) = true ∧
      (∀ s t, find? t (a.filtered s).traits = if t ∈ s then find? t a.traits else none) ∧
      (∀ s₁ s₂, ((a.filtered s₁).filtered s₂ == a.filtered (s₁ ∩ s₂)) = true) ∧
      (∀ s, ((a.update b).filtered s == (a.filtered s).update (b.filtered s)) = true) := by
  have nbc : (b.update c).NaNFree := nb.update hb hc nc
  refine ⟨hasTrait_update a b, get?_update a hb, ?_, ?_, ?_, ?_, find?_filtered a, fun s₁ s₂ => ?_,
    fun s => ?_⟩
  · rw [update_assoc ha hb hc]
    exact beq_self (ha.update _) (na.update ha (hb.update c) nbc)
  · rw [update_self ha]
    exact beq_self ha na
  · rw [empty_update ha]
    exact beq_self ha na
  · exact beq_self ha na
  · rw [filtered_filtered]
    exact beq_self (ha.filtered _) (na.filtered _)
  · rw [filtered_update ha hb]
    exact beq_self ((ha.filtered s).update _)
      ((na.filtered s).update (ha.filtered s) (hb.filtered s) (nb.filtered s))

/-- Merging `t.x = 2` over `t.x = 1`, next to a trait `u` without
properties: the merged-in value wins. -/
theorem merged_value_overwrites :
    ((⟨[("t", [("x", .int 1)])]⟩ : TraitsData).Canonical ∧ (⟨[("t", [("x", .int 2)])]⟩ : TraitsData).Canonical ∧
        (⟨[("u", [])]⟩ : TraitsData).Canonical ∧ (⟨[("t", [("x", .int 1)])]⟩ : TraitsData).NaNFree ∧
        (⟨[("t", [("x", .int 2)])]⟩ : TraitsData).NaNFree ∧ (⟨[("u", [])]⟩ : TraitsData).NaNFree) ∧
      ((⟨[("t", [("x", .int 1)])]⟩ : TraitsData).update (⟨[("t", [("x", .int 2)])]⟩ : TraitsData)).get? "t" "x" = some (.int 2) := by
  have ha : (⟨[("t", [("x", .int 1)])]⟩ : TraitsData).Canonical := by unfold Canonical Sorted; decide
  have hb : (⟨[("t", [("x", .int 2)])]⟩ : TraitsData).Canonical := by unfold Canonical Sorted; decide
  have hc : (⟨[("u", [])]⟩ : TraitsData).Canonical := by unfold Canonical Sorted; decide
  have na : (⟨[("t", [("x", .int 1)])]⟩ : TraitsData).NaNFree := by decide
  have nb : (⟨[("t", [("x", .int 2)])]⟩ : TraitsData).NaNFree := by decide
  have nc : (⟨[("u", [])]⟩ : TraitsData).NaNFree := by decide
  exact ⟨⟨ha, hb, hc, na, nb, nc⟩, ((traits_merge_filter_algebra ha hb hc na nb nc).2.1 "t" "x").trans rfl⟩

end TraitsData

end AssetBroker
