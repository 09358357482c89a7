import AssetBroker.Proofs.TraitsAlgebra

/-!
# Canonical traits data

Traits data is canonical when its trait ids are sorted and distinct, and so
are the property keys under each trait (`TraitsData.Canonical`). Every
traits data the library builds is: the empty data, the data read from JSON,
and whatever adding traits, setting properties, merging and filtering make
of canonical data. `CanonicalTraits` carries that proof with the data, so
the laws of traits data hold of its values as plain equations, with no side
condition left to discharge:

* two values are equal exactly when they hold the same traits and the same
  value under every trait and key;
* merging is a monoid with no traits as its unit, and every value is
  idempotent in it;
* filtering by a trait set is an endomorphism of that monoid, and filtering
  twice filters by the intersection.

Equality here is the equality of the data. The library's own comparison,
which compares floats as numbers, agrees with it on data without NaN.
-/

namespace AssetBroker

/-- Traits data in canonical form, with the proof that it is. -/
abbrev CanonicalTraits := { d : TraitsData // d.Canonical }

namespace CanonicalTraits

open TraitsData

/-! ## Building canonical traits data -/

def empty : CanonicalTraits := ⟨.empty, canonical_empty⟩

def withTraits (ts : List String) : CanonicalTraits := ⟨.withTraits ts, canonical_withTraits ts⟩

def addTrait (d : CanonicalTraits) (t : String) : CanonicalTraits := ⟨d.1.addTrait t, d.2.addTrait t⟩

def set (d : CanonicalTraits) (t key : String) (v : PropertyValue) : CanonicalTraits :=
  ⟨d.1.set t key v, d.2.set t key v⟩

def update (d other : CanonicalTraits) : CanonicalTraits := ⟨d.1.update other.1, d.2.update other.1⟩

def filtered (d : CanonicalTraits) (s : TraitSet) : CanonicalTraits := ⟨d.1.filtered s, d.2.filtered s⟩

/-- A run of edits; an edit may merge in any traits data, canonical or not. -/
def edit (d : CanonicalTraits) (es : List Edit) : CanonicalTraits := ⟨d.1.edit es, d.2.edit es⟩

/-- Traits data read from JSON, canonical as it is read. -/
def ofJson? (j : Json) : Except String CanonicalTraits :=
  match h : TraitsData.ofJson? j with
  | .ok d => .ok ⟨d, canonical_of_ofJson? h⟩
  | .error e => .error e

/-- The reader reads what the library's reader reads, and fails alike. -/
theorem val_ofJson? (j : Json) : (ofJson? j).map Subtype.val = TraitsData.ofJson? j := by
  unfold ofJson?
  split
  · next d h => exact h.symm
  · next e h => exact h.symm

/-! ## Equality -/

/-- **Extensionality.** Canonical traits data are equal exactly when they
hold the same traits and the same value under every trait and key. -/
theorem eq_iff {a b : CanonicalTraits} :
    a = b ↔ (∀ t, a.1.hasTrait t = b.1.hasTrait t) ∧ ∀ t key, a.1.get? t key = b.1.get? t key := by
  constructor
  · rintro rfl
    exact ⟨fun _ => rfl, fun _ _ => rfl⟩
  · rintro ⟨htraits, hvals⟩
    exact Subtype.ext (eq_of_get? a.2 b.2 htraits hvals)

/-- The library's comparison is by traits and by values, compared as
values. -/
theorem beq_iff (a b : CanonicalTraits) :
    (a.1 == b.1) = true ↔ a.1.traitSet = b.1.traitSet ∧ ∀ t key, (a.1.get? t key == b.1.get? t key) = true :=
  beq_iff_same_traits_and_values a.2 b.2

/-- Runs of edits on data the library compares equal give data it compares
equal as soon as they add the same traits and write the same last values. -/
theorem edit_beq_edit {a b : CanonicalTraits} (hab : (a.1 == b.1) = true) {es₁ es₂ : List Edit}
    (hadded : ∀ t, t ∈ Edit.added es₁ ↔ t ∈ Edit.added es₂)
    (hlast : ∀ t key, (Edit.lastWritten es₁ t key == Edit.lastWritten es₂ t key) = true) :
    ((a.edit es₁).1 == (b.edit es₂).1) = true :=
  TraitsData.edit_beq_edit a.2 b.2 hab hadded hlast

/-! ## The merge monoid -/

theorem get?_update (a b : CanonicalTraits) (t key : String) :
    (a.update b).1.get? t key = (b.1.get? t key).or (a.1.get? t key) :=
  TraitsData.get?_update a.1 b.2 t key

/-- Merging makes canonical traits data a monoid, with no traits as its
unit on both sides. -/
instance : Monoid CanonicalTraits where
  mul := update
  one := empty
  mul_assoc a b c := Subtype.ext (update_assoc a.2 b.2 c.2)
  one_mul a := Subtype.ext (empty_update a.2)
  mul_one a := Subtype.ext (update_empty a.1)

theorem mul_def (a b : CanonicalTraits) : a * b = a.update b := rfl

theorem one_def : (1 : CanonicalTraits) = empty := rfl

/-- Merging data into itself changes nothing. -/
theorem isIdempotentElem (a : CanonicalTraits) : IsIdempotentElem a :=
  Subtype.ext (update_self a.2)

/-- **Filtering is a monoid endomorphism.** Filtering no traits keeps none,
and filtering a merge merges the filtered sides. -/
def filterHom (s : TraitSet) : CanonicalTraits →* CanonicalTraits where
  toFun a := a.filtered s
  map_one' := rfl
  map_mul' a b := Subtype.ext (filtered_update a.2 b.2 s)

@[simp] theorem filterHom_apply (s : TraitSet) (a : CanonicalTraits) : filterHom s a = a.filtered s := rfl

/-- Filtering by one set and then another filters by their intersection. -/
theorem filterHom_comp (s₁ s₂ : TraitSet) : (filterHom s₂).comp (filterHom s₁) = filterHom (s₁ ∩ s₂) :=
  MonoidHom.ext fun a => Subtype.ext (filtered_filtered a.1 s₁ s₂)

end CanonicalTraits

end AssetBroker
