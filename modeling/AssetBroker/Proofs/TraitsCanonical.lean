import AssetBroker.Traits.Data
import AssetBroker.Proofs.HybridPrecedence
import AssetBroker.Proofs.LibraryHandles
import Mathlib

/-!
# Traits data is a canonical finite map

Traits data keeps its traits, and each trait its properties, as lists sorted
by key, each key once. Every operation keeps both levels sorted
(`Canonical`). On sorted lists the equality of traits data, which compares
the two lists entry by entry, holds exactly when both hold the same traits
and equal values under every trait and key. A run of edits (adding traits,
setting properties, merging other traits data in) leaves traits data that
depends only on the traits the run adds and the last value it writes under
each trait and key, whatever the order of its edits.

Values are compared as values, the way their equality is defined: a
binary64 NaN equals nothing, so traits data holding one equals no traits
data, itself included, and two writes of a NaN are not the same write.
-/

namespace AssetBroker

namespace Keyed

variable {α : Type}

/-- Keys strictly increasing, so each key once. -/
def Sorted (m : List (String × α)) : Prop := (keys m).Pairwise (· < ·)

/-- Two maps with equal keys in the same order, the values of each key
related by `r`. Traits data and settings compare this way. -/
def entrywise (r : α → α → Bool) (m₁ m₂ : List (String × α)) : Bool :=
  m₁.length == m₂.length && (m₁.zip m₂).all fun ((k₁, v₁), (k₂, v₂)) => k₁ == k₂ && r v₁ v₂

theorem Sorted.nodup {m : List (String × α)} (h : Sorted m) : (keys m).Nodup :=
  h.imp ne_of_lt

theorem mem_keys_iff_isSome {key : String} {m : List (String × α)} :
    key ∈ keys m ↔ (find? key m).isSome :=
  isSome_find?_iff.symm

theorem find?_cons (key k : String) (v : α) (m : List (String × α)) :
    find? key ((k, v) :: m) = if k = key then some v else find? key m := by
  simp [find?]

theorem find?_insert (key k : String) (v : α) (m : List (String × α)) :
    find? key (insert k v m) = if key = k then some v else find? key m := by
  by_cases h : key = k
  · subst h
    simp
  · simp [h, find?_insert_ne (Ne.symm h)]

/-- In a map with each key once, a key's value is the one paired with it. -/
theorem find?_eq_some_iff {key : String} {v : α} {m : List (String × α)} (h : (keys m).Nodup) :
    find? key m = some v ↔ (key, v) ∈ m := by
  induction m with
  | nil => simp [find?]
  | cons kv m ih =>
    obtain ⟨k, w⟩ := kv
    simp only [keys, List.map_cons, List.nodup_cons] at h
    obtain ⟨hk, hm⟩ := h
    rw [find?_cons, List.mem_cons, Prod.mk.injEq]
    by_cases hkey : k = key
    · subst hkey
      have hnot : (k, v) ∉ m := fun hm' => hk (List.mem_map_of_mem (f := (·.1)) hm')
      simp [hnot, eq_comm]
    · simp [hkey, Ne.symm hkey, ih hm]

theorem keys_eq_of_isSome {m₁ m₂ : List (String × α)} (h₁ : Sorted m₁) (h₂ : Sorted m₂)
    (h : ∀ key, (find? key m₁).isSome = (find? key m₂).isSome) : keys m₁ = keys m₂ := by
  have hperm : (keys m₁).Perm (keys m₂) := by
    rw [List.perm_ext_iff_of_nodup h₁.nodup h₂.nodup]
    intro key
    rw [mem_keys_iff_isSome, mem_keys_iff_isSome, h key]
  exact hperm.eq_of_pairwise (fun a b _ _ hab hba => absurd (lt_trans hab hba) (lt_irrefl a)) h₁ h₂

theorem entrywise_nil_left (r : α → α → Bool) (m : List (String × α)) :
    entrywise r [] m = true ↔ m = [] := by
  cases m <;> simp [entrywise]

theorem entrywise_cons (r : α → α → Bool) (k₁ k₂ : String) (v₁ v₂ : α)
    (m₁ m₂ : List (String × α)) :
    entrywise r ((k₁, v₁) :: m₁) ((k₂, v₂) :: m₂) = true ↔
      k₁ = k₂ ∧ r v₁ v₂ = true ∧ entrywise r m₁ m₂ = true := by
  simp [entrywise, and_assoc, and_left_comm]

/-- Entry by entry means: the same keys, and related values under each key.
-/
theorem entrywise_iff (r : α → α → Bool) {m₁ m₂ : List (String × α)} (h : (keys m₁).Nodup) :
    entrywise r m₁ m₂ = true ↔ keys m₁ = keys m₂ ∧
      ∀ key v₁ v₂, find? key m₁ = some v₁ → find? key m₂ = some v₂ → r v₁ v₂ = true := by
  induction m₁ generalizing m₂ with
  | nil =>
    rw [entrywise_nil_left]
    constructor
    · rintro rfl
      simp [find?]
    · rintro ⟨hkeys, -⟩
      exact List.map_eq_nil_iff.1 hkeys.symm
  | cons kv m₁ ih =>
    obtain ⟨k₁, v₁⟩ := kv
    simp only [keys, List.map_cons, List.nodup_cons] at h
    obtain ⟨hk₁, hm₁⟩ := h
    cases m₂ with
    | nil => simp [entrywise, keys]
    | cons kv₂ m₂ =>
      obtain ⟨k₂, v₂⟩ := kv₂
      rw [entrywise_cons, ih hm₁]
      simp only [keys, List.map_cons, List.cons.injEq]
      constructor
      · rintro ⟨rfl, hr, hkeys, hvals⟩
        refine ⟨⟨rfl, hkeys⟩, fun key w₁ w₂ hw₁ hw₂ => ?_⟩
        rw [find?_cons] at hw₁ hw₂
        by_cases hkey : k₁ = key
        · simp only [hkey, if_true, Option.some.injEq] at hw₁ hw₂
          exact hw₁ ▸ hw₂ ▸ hr
        · simp only [hkey, if_false] at hw₁ hw₂
          exact hvals key w₁ w₂ hw₁ hw₂
      · rintro ⟨⟨rfl, hkeys⟩, hvals⟩
        refine ⟨rfl, ?_, hkeys, fun key w₁ w₂ hw₁ hw₂ => ?_⟩
        · exact hvals k₁ v₁ v₂ (by simp [find?]) (by simp [find?])
        · -- `k₁` is not among the later keys, so `key` is another key
          have hkey : k₁ ≠ key := by
            rintro rfl
            exact hk₁ (mem_keys_iff_isSome.2 (by simp [hw₁]))
          exact hvals key w₁ w₂ (by simpa [find?_cons, hkey] using hw₁)
            (by simpa [find?_cons, hkey] using hw₂)

/-- A value set again under its own key in a sorted map changes nothing. -/
theorem insert_of_find? {key : String} {v : α} {m : List (String × α)} (h : Sorted m)
    (hf : find? key m = some v) : insert key v m = m := by
  induction m with
  | nil => simp [find?] at hf
  | cons kv m ih =>
    obtain ⟨k, w⟩ := kv
    have hm : (k :: keys m).Pairwise (· < ·) := h
    obtain ⟨hk, hrest⟩ := List.pairwise_cons.1 hm
    rw [find?_cons] at hf
    unfold insert
    by_cases hkey : k = key
    · subst hkey
      simp at hf
      simp [hf]
    · rw [if_neg hkey] at hf
      -- `key` sits further down, above `k`
      have hmem : key ∈ keys m := mem_keys_iff_isSome.2 (by simp [hf])
      have hlt : ¬ key < k := fun hlt => lt_asymm hlt (hk key hmem)
      simp [hlt, Ne.symm hkey, ih hrest hf]

end Keyed

namespace Settings

open Keyed

theorem beq_eq_entrywise (a b : Settings) : Settings.beq a b = entrywise PropertyValue.beq a b := by
  rw [Settings.beq, PropertyValue.beq]
  simp only [entrywise]
  congr 1
  have h : a.zip b = (a.attach.zip b).map (Prod.map Subtype.val id) := by
    rw [← List.zip_map_left, List.attach_map_subtype_val]
  rw [h, List.all_map]
  rfl

/-- Sorted settings are equal exactly when every key has equal values. -/
theorem beq_iff {a b : Settings} (ha : Sorted a) (hb : Sorted b) :
    Settings.beq a b = true ↔ ∀ key, (find? key a == find? key b) = true := by
  rw [beq_eq_entrywise, entrywise_iff _ ha.nodup]
  constructor
  · rintro ⟨hkeys, hvals⟩ key
    have hsome := congrArg (key ∈ ·) hkeys
    simp only [mem_keys_iff_isSome, eq_iff_iff] at hsome
    cases hva : find? key a <;> cases hvb : find? key b <;> simp_all
    exact hvals key _ _ hva hvb
  · intro h
    refine ⟨keys_eq_of_isSome ha hb fun key => ?_, fun key v₁ v₂ hv₁ hv₂ => ?_⟩
    · have hk := h key
      cases hva : find? key a <;> cases hvb : find? key b <;> simp_all
    · have hv : (v₁ == v₂) = true := by simpa [hv₁, hv₂] using h key
      exact hv

end Settings

namespace TraitsData

open Keyed

/-- Traits data in canonical form: the trait ids sorted, each once, and
so the property keys of each trait. -/
def Canonical (d : TraitsData) : Prop :=
  Sorted d.traits ∧ ∀ p ∈ d.traits, Sorted p.2

theorem beq_eq_entrywise (a b : TraitsData) : (a == b) = entrywise Settings.beq a.traits b.traits :=
  rfl

theorem hasTrait_iff (d : TraitsData) (t : String) : d.hasTrait t = true ↔ t ∈ d.traitSet := by
  simp [hasTrait, contains, traitSet, mem_keys_iff_isSome]

/-! ## Equality of canonical traits data -/

/-- Canonical traits data are equal exactly when they hold the same traits
and equal values under every trait and key. -/
theorem beq_iff_same_traits_and_values {a b : TraitsData} (ha : a.Canonical) (hb : b.Canonical) :
    (a == b) = true ↔ a.traitSet = b.traitSet ∧ ∀ t key, (a.get? t key == b.get? t key) = true := by
  rw [beq_eq_entrywise, entrywise_iff _ ha.1.nodup]
  -- at each trait present on both sides, its settings compare key by key
  have hsettings : ∀ t p q, find? t a.traits = some p → find? t b.traits = some q →
      (Settings.beq p q = true ↔ ∀ key, (find? key p == find? key q) = true) := by
    intro t p q hp hq
    exact Settings.beq_iff (ha.2 _ ((find?_eq_some_iff ha.1.nodup).1 hp))
      (hb.2 _ ((find?_eq_some_iff hb.1.nodup).1 hq))
  constructor
  · rintro ⟨hkeys, hvals⟩
    refine ⟨hkeys, fun t key => ?_⟩
    have hsome := congrArg (t ∈ ·) hkeys
    simp only [mem_keys_iff_isSome, eq_iff_iff] at hsome
    simp only [get?]
    cases hp : find? t a.traits <;> cases hq : find? t b.traits <;> simp_all
    · rename_i p q
      exact (hsettings t p q hp hq).1 (hvals t p q hp hq) key
  · rintro ⟨hkeys, hvals⟩
    refine ⟨hkeys, fun t p q hp hq => (hsettings t p q hp hq).2 fun key => ?_⟩
    simpa [get?, hp, hq] using hvals t key

/-! ## What each operation does -/

theorem traits_addTrait (d : TraitsData) (t : String) :
    (d.addTrait t).traits = insert t ((find? t d.traits).getD []) d.traits := rfl

theorem traits_set (d : TraitsData) (t key : String) (v : PropertyValue) :
    (d.set t key v).traits = insert t (insert key v ((find? t d.traits).getD [])) d.traits := rfl

theorem hasTrait_addTrait (d : TraitsData) (t t' : String) :
    (d.addTrait t).hasTrait t' = true ↔ t' = t ∨ d.hasTrait t' = true := by
  by_cases h : t' = t <;> simp [hasTrait, contains, traits_addTrait, find?_insert, h]

theorem hasTrait_set (d : TraitsData) (t key t' : String) (v : PropertyValue) :
    (d.set t key v).hasTrait t' = true ↔ t' = t ∨ d.hasTrait t' = true := by
  by_cases h : t' = t <;> simp [hasTrait, contains, traits_set, find?_insert, h]

/-- Adding a trait keeps every property, its own ones included. -/
theorem get?_addTrait (d : TraitsData) (t t' key : String) :
    (d.addTrait t).get? t' key = d.get? t' key := by
  by_cases h : t' = t
  · subst h
    cases hp : find? t' d.traits <;> simp [get?, traits_addTrait, hp, find?]
  · simp [get?, traits_addTrait, find?_insert, h]

theorem get?_set (d : TraitsData) (t key t' key' : String) (v : PropertyValue) :
    (d.set t key v).get? t' key' = if t' = t ∧ key' = key then some v else d.get? t' key' := by
  by_cases h : t' = t
  · subst h
    by_cases hk : key' = key
    · simp [get?, traits_set, hk]
    · cases hp : find? t' d.traits <;>
        simp [get?, traits_set, find?_insert, hk, hp, find?]
  · simp [get?, traits_set, find?_insert, h]

/-! ## Canonical form is kept -/

theorem canonical_empty : TraitsData.empty.Canonical :=
  ⟨List.Pairwise.nil, fun _ h => absurd h List.not_mem_nil⟩

/-- The properties found under a trait of canonical traits data are sorted. -/
theorem Canonical.sorted_getD {d : TraitsData} (h : d.Canonical) (t : String) :
    Sorted ((find? t d.traits).getD []) := by
  cases hp : find? t d.traits with
  | none => exact List.Pairwise.nil
  | some p => exact h.2 _ (mem_of_find?_eq_some hp)

/-- Setting a trait to sorted properties keeps traits data canonical. -/
theorem Canonical.insert {d : TraitsData} (h : d.Canonical) {t : String} {props : Settings}
    (hp : Sorted props) : Canonical ⟨Keyed.insert t props d.traits⟩ := by
  refine ⟨keys_insert_sorted h.1, fun q hq => ?_⟩
  rcases mem_insert hq with rfl | hq
  · exact hp
  · exact h.2 q hq

theorem Canonical.addTrait {d : TraitsData} (h : d.Canonical) (t : String) :
    (d.addTrait t).Canonical :=
  h.insert (h.sorted_getD t)

theorem Canonical.set {d : TraitsData} (h : d.Canonical) (t key : String) (v : PropertyValue) :
    (d.set t key v).Canonical :=
  h.insert (keys_insert_sorted (h.sorted_getD t))

theorem Canonical.filtered {d : TraitsData} (h : d.Canonical) (s : TraitSet) :
    (d.filtered s).Canonical := by
  refine ⟨h.1.sublist ((List.filter_sublist).map _), fun q hq => h.2 q ?_⟩
  exact List.mem_of_mem_filter hq

/-! ## Runs of writes

Every operation writes traits data one trait or one property at a time. A
run of such writes keeps traits data canonical, adds the traits it names,
and leaves under each trait and key the last value written there, or the
value there before. -/

/-- One write: a trait added, or a property set. -/
inductive Write where
  | trait (t : String)
  | property (t key : String) (v : PropertyValue)

namespace Write

def apply (d : TraitsData) : Write → TraitsData
  | trait t => d.addTrait t
  | property t key v => d.set t key v

/-- The trait the write is about; it is there afterwards. -/
def traitId : Write → String
  | trait t => t
  | property t _ _ => t

/-- The value last written under `t` and `key` once the write is made,
`prior` before it. -/
def valueAt (t key : String) (prior : Option PropertyValue) : Write → Option PropertyValue
  | trait _ => prior
  | property t' key' v => if t' = t ∧ key' = key then some v else prior

end Write

/-- The last value a run of writes sets under a trait and key. -/
def lastValue (ws : List Write) (t key : String) : Option PropertyValue :=
  ws.foldl (fun prior w => w.valueAt t key prior) none

theorem lastValue_append_singleton (ws : List Write) (w : Write) (t key : String) :
    lastValue (ws ++ [w]) t key = w.valueAt t key (lastValue ws t key) := by
  simp [lastValue]

theorem valueAt_eq_or (w : Write) (t key : String) (prior : Option PropertyValue) :
    w.valueAt t key prior = (w.valueAt t key none).or prior := by
  cases w with
  | trait => rfl
  | property t' key' v => by_cases h : t' = t ∧ key' = key <;> simp [Write.valueAt, h]

theorem Canonical.apply {d : TraitsData} (h : d.Canonical) (w : Write) : (w.apply d).Canonical := by
  cases w with
  | trait t => exact h.addTrait t
  | property t key v => exact h.set t key v

theorem hasTrait_apply (d : TraitsData) (w : Write) (t : String) :
    (w.apply d).hasTrait t = true ↔ t = w.traitId ∨ d.hasTrait t = true := by
  cases w with
  | trait t' => exact hasTrait_addTrait d t' t
  | property t' key v => exact hasTrait_set d t' key t v

theorem get?_apply (d : TraitsData) (w : Write) (t key : String) :
    (w.apply d).get? t key = (w.valueAt t key none).or (d.get? t key) := by
  cases w with
  | trait t' => simp [Write.apply, Write.valueAt, get?_addTrait]
  | property t' key' v =>
    by_cases h : t = t' ∧ key = key'
    · obtain ⟨rfl, rfl⟩ := h
      simp [Write.apply, Write.valueAt, get?_set]
    · have h' : ¬ (t' = t ∧ key' = key) := fun ⟨h₁, h₂⟩ => h ⟨h₁.symm, h₂.symm⟩
      simp [Write.apply, Write.valueAt, get?_set, h, h']

theorem Canonical.run {d : TraitsData} (h : d.Canonical) (ws : List Write) :
    (ws.foldl Write.apply d).Canonical := by
  induction ws generalizing d with
  | nil => exact h
  | cons w ws ih => exact ih (h.apply w)

theorem hasTrait_run (d : TraitsData) (ws : List Write) (t : String) :
    (ws.foldl Write.apply d).hasTrait t = true ↔ d.hasTrait t = true ∨ t ∈ ws.map Write.traitId := by
  induction ws using List.reverseRecOn with
  | nil => simp
  | append_singleton ws w ih =>
    rw [List.foldl_append, List.foldl_cons, List.foldl_nil, hasTrait_apply, ih]
    simp only [List.map_append, List.map_cons, List.map_nil, List.mem_append, List.mem_singleton]
    tauto

theorem get?_run (d : TraitsData) (ws : List Write) (t key : String) :
    (ws.foldl Write.apply d).get? t key = (lastValue ws t key).or (d.get? t key) := by
  induction ws using List.reverseRecOn with
  | nil => simp [lastValue]
  | append_singleton ws w ih =>
    rw [List.foldl_append, List.foldl_cons, List.foldl_nil, get?_apply, ih,
      lastValue_append_singleton, valueAt_eq_or w t key (lastValue ws t key), Option.or_assoc]

/-! ## Edits -/

/-- The operations that write traits data. -/
inductive Edit where
  | addTrait (t : String)
  | addTraits (ts : List String)
  | set (t key : String) (v : PropertyValue)
  | update (other : TraitsData)

namespace Edit

def apply (d : TraitsData) : Edit → TraitsData
  | addTrait t => d.addTrait t
  | addTraits ts => d.addTraits ts
  | set t key v => d.set t key v
  | update other => d.update other

/-- The writes an edit makes, in order: merging other traits data in adds
each of its traits, then sets each of that trait's properties. -/
def writes : Edit → List Write
  | addTrait t => [.trait t]
  | addTraits ts => ts.map .trait
  | set t key v => [.property t key v]
  | update other =>
    other.traits.flatMap fun (t, props) => .trait t :: props.map fun (key, v) => .property t key v

theorem apply_eq_run (d : TraitsData) (e : Edit) : e.apply d = e.writes.foldl Write.apply d := by
  cases e with
  | addTrait t => rfl
  | addTraits ts => simp [apply, writes, TraitsData.addTraits, List.foldl_map, Write.apply]
  | set t key v => rfl
  | update other =>
    simp [apply, writes, TraitsData.update, List.foldl_flatMap, List.foldl_map, Write.apply]

def added (es : List Edit) : List String := (es.flatMap writes).map Write.traitId

/-- The last value a run of edits writes under a trait and key. -/
def lastWritten (es : List Edit) (t key : String) : Option PropertyValue :=
  lastValue (es.flatMap writes) t key

end Edit

def edit (d : TraitsData) (es : List Edit) : TraitsData := es.foldl Edit.apply d

theorem edit_eq_run (d : TraitsData) (es : List Edit) :
    d.edit es = (es.flatMap Edit.writes).foldl Write.apply d := by
  rw [edit, List.foldl_flatMap]
  congr 1
  funext d' e
  exact Edit.apply_eq_run d' e

/-! ## Traits data the library builds is canonical -/

theorem Canonical.addTraits {d : TraitsData} (h : d.Canonical) (ts : List String) :
    (d.addTraits ts).Canonical := by
  rw [show d.addTraits ts = _ from Edit.apply_eq_run d (.addTraits ts)]
  exact h.run _

theorem canonical_withTraits (ts : List String) : (withTraits ts).Canonical :=
  canonical_empty.addTraits ts

theorem Canonical.update {d : TraitsData} (h : d.Canonical) (other : TraitsData) :
    (d.update other).Canonical := by
  rw [show d.update other = _ from Edit.apply_eq_run d (.update other)]
  exact h.run _

theorem Canonical.edit {d : TraitsData} (h : d.Canonical) (es : List Edit) : (d.edit es).Canonical := by
  rw [edit_eq_run]
  exact h.run _

theorem sorted_ofList (pairs : List (String × α)) : Sorted (Keyed.ofList pairs) :=
  (keys_foldl_insert pairs [] List.Pairwise.nil).1

/-- Every pair of a map built by inserting pairs was inserted. -/
theorem mem_foldl_insert {pairs m : List (String × α)} {p : String × α}
    (h : p ∈ pairs.foldl (fun m (k, v) => Keyed.insert k v m) m) : p ∈ m ∨ p ∈ pairs := by
  induction pairs generalizing m with
  | nil => exact .inl h
  | cons kv pairs ih =>
    rcases ih h with hm | hm
    · rcases mem_insert hm with rfl | hm
      · exact .inr List.mem_cons_self
      · exact .inl hm
    · exact .inr (List.mem_cons_of_mem _ hm)

theorem mem_of_mem_ofList {pairs : List (String × α)} {p : String × α} (h : p ∈ Keyed.ofList pairs) :
    p ∈ pairs :=
  (mem_foldl_insert h).resolve_left List.not_mem_nil

theorem Settings.sorted_of_ofJson? {j : Json} {s : Settings} (h : Settings.ofJson? j = .ok s) :
    Sorted s := by
  unfold Settings.ofJson? at h
  split at h
  · split at h
    · cases h
      exact sorted_ofList _
    · cases h
  · cases h

theorem canonical_of_ofJson? {j : Json} {d : TraitsData} (h : ofJson? j = .ok d) : d.Canonical := by
  unfold ofJson? at h
  split at h
  · simp only [Except.map] at h
    split at h
    · cases h
    · rename_i entries hread
      cases h
      refine ⟨sorted_ofList entries, fun q hq => ?_⟩
      -- each entry comes from one field, read as settings
      have hq' : (Except.ok q : Except String (String × Settings)) ∈ entries.map Except.ok :=
        List.mem_map_of_mem (mem_of_mem_ofList hq)
      rw [← World.map_eq_of_mapM_eq_ok hread, List.mem_map] at hq'
      obtain ⟨⟨t, props⟩, -, hfield⟩ := hq'
      simp only at hfield
      split at hfield
      · split at hfield
        · cases hfield
        · rename_i s hs
          cases hfield
          exact Settings.sorted_of_ofJson? hs
      · cases hfield
  · cases h

/-! ## Adding traits again -/

theorem addTrait_of_hasTrait {d : TraitsData} (hd : d.Canonical) {t : String}
    (h : d.hasTrait t = true) : d.addTrait t = d := by
  obtain ⟨p, hp⟩ := Option.isSome_iff_exists.1 h
  cases d with
  | mk traits =>
    show (⟨Keyed.insert t ((find? t traits).getD []) traits⟩ : TraitsData) = ⟨traits⟩
    rw [hp, Option.getD_some, insert_of_find? hd.1 hp]

theorem addTraits_of_hasTrait {d : TraitsData} (hd : d.Canonical) {ts : List String}
    (h : ∀ t ∈ ts, d.hasTrait t = true) : d.addTraits ts = d := by
  induction ts with
  | nil => rfl
  | cons t ts ih =>
    show ts.foldl TraitsData.addTrait (d.addTrait t) = d
    rw [addTrait_of_hasTrait hd (h t List.mem_cons_self)]
    exact ih fun t' ht' => h t' (List.mem_cons_of_mem _ ht')

theorem addTraits_addTraits {d : TraitsData} (hd : d.Canonical) (ts : List String) :
    (d.addTraits ts).addTraits ts = d.addTraits ts := by
  have hrun : d.addTraits ts = (ts.map Write.trait).foldl Write.apply d :=
    Edit.apply_eq_run d (.addTraits ts)
  refine addTraits_of_hasTrait (hd.addTraits ts) fun t ht => ?_
  rw [hrun, hasTrait_run]
  exact .inr (by simpa [Write.traitId] using ht)

theorem withTraits_addTraits (ts : List String) : (withTraits ts).addTraits ts = withTraits ts :=
  addTraits_addTraits canonical_empty ts

/-! ## Equal data, edited -/

/-- Runs of edits on equal canonical traits data give equal results when
they add the same traits and write the same last values. -/
theorem edit_beq_edit {a b : TraitsData} (ha : a.Canonical) (hb : b.Canonical)
    (hab : (a == b) = true) {es₁ es₂ : List Edit}
    (hadded : ∀ t, t ∈ Edit.added es₁ ↔ t ∈ Edit.added es₂)
    (hlast : ∀ t key, (Edit.lastWritten es₁ t key == Edit.lastWritten es₂ t key) = true) :
    (a.edit es₁ == b.edit es₂) = true := by
  obtain ⟨hset, hvals⟩ := (beq_iff_same_traits_and_values ha hb).1 hab
  rw [beq_iff_same_traits_and_values (ha.edit es₁) (hb.edit es₂), edit_eq_run, edit_eq_run]
  constructor
  · -- the traits there before, and those the runs add
    refine keys_eq_of_isSome (ha.run _).1 (hb.run _).1 fun t => ?_
    show (List.foldl Write.apply a (es₁.flatMap Edit.writes)).hasTrait t =
      (List.foldl Write.apply b (es₂.flatMap Edit.writes)).hasTrait t
    rw [Bool.eq_iff_iff, hasTrait_run, hasTrait_run, hasTrait_iff a, hasTrait_iff b, hset]
    exact or_congr Iff.rfl (hadded t)
  · -- under each trait and key, the last value written, or the value before
    intro t key
    rw [get?_run, get?_run]
    have hl := hlast t key
    simp only [Edit.lastWritten] at hl
    cases h₁ : lastValue (es₁.flatMap Edit.writes) t key with
    | none =>
      cases h₂ : lastValue (es₂.flatMap Edit.writes) t key with
      | none => simpa using hvals t key
      | some v₂ => simp [h₁, h₂] at hl
    | some v₁ =>
      cases h₂ : lastValue (es₂.flatMap Edit.writes) t key with
      | none => simp [h₁, h₂] at hl
      | some v₂ => simpa [h₁, h₂] using hl

/-- Traits data is a canonical finite map. Canonical traits data are equal
exactly when they hold the same traits and equal values under every trait
and key; and runs of edits on equal traits data give equal results as soon
as they add the same traits and leave the same last value under every trait
and key, whatever the order of their edits. -/
theorem equality_by_values_edits_by_last_writes {a b : TraitsData} (ha : a.Canonical)
    (hb : b.Canonical) :
    ((a == b) = true ↔ a.traitSet = b.traitSet ∧ ∀ t key, (a.get? t key == b.get? t key) = true) ∧
      ((a == b) = true → ∀ es₁ es₂ : List Edit,
        (∀ t, t ∈ Edit.added es₁ ↔ t ∈ Edit.added es₂) →
        (∀ t key, (Edit.lastWritten es₁ t key == Edit.lastWritten es₂ t key) = true) →
        (a.edit es₁ == b.edit es₂) = true) :=
  ⟨beq_iff_same_traits_and_values ha hb, fun hab _ _ hadded hlast =>
    edit_beq_edit ha hb hab hadded hlast⟩

/-- Setting a property and then adding a trait gives the data of adding the
trait and writing the property twice, the same value last. -/
theorem reordered_edits_agree :
    TraitsData.empty.Canonical ∧
      (TraitsData.empty.edit [.set "t" "k" (.int 1), .addTrait "u"] ==
        TraitsData.empty.edit [.addTrait "u", .set "t" "k" (.int 2), .set "t" "k" (.int 1)]) = true :=
  ⟨canonical_empty, (equality_by_values_edits_by_last_writes canonical_empty canonical_empty).2 rfl _ _
    (fun t => by simp [Edit.added, Edit.writes, Write.traitId, or_comm])
    (fun t key => by
      have hone : (PropertyValue.int 1 == PropertyValue.int 1) = true := by
        show PropertyValue.beq _ _ = true
        simp [PropertyValue.beq]
      by_cases h : "t" = t ∧ "k" = key <;>
        simp [Edit.lastWritten, lastValue, Edit.writes, Write.valueAt, h, hone])⟩

end TraitsData

end AssetBroker
