import AssetBroker.Property.Json

/-!
# Traits data

An entity is described by traits: named bundles of properties. Traits data
maps each trait id to its properties, both sorted by key. A trait may be
present with no properties at all, which differs from being absent.

Adding a trait keeps the properties it already has; setting a property adds
its trait; `update` copies every trait and property of another value over
this one; `filtered` keeps the traits of a set with all their properties.
-/

namespace AssetBroker

/-- A set of trait ids, sorted and without repeats. -/
abbrev TraitSet := List String

/-- Trait ids mapped to their properties. -/
structure TraitsData where
  traits : List (String × Settings)
  deriving Inhabited

namespace TraitsData

def empty : TraitsData := ⟨[]⟩

/-- Adds a trait, keeping the properties it may already have. -/
def addTrait (d : TraitsData) (t : String) : TraitsData :=
  ⟨Keyed.update t (fun old => old.getD []) d.traits⟩

def addTraits (d : TraitsData) (ts : List String) : TraitsData := ts.foldl addTrait d

def withTraits (ts : List String) : TraitsData := empty.addTraits ts

def traitSet (d : TraitsData) : TraitSet := Keyed.keys d.traits

def hasTrait (d : TraitsData) (t : String) : Bool := Keyed.contains t d.traits

/-- Sets one property, adding its trait if needed. -/
def set (d : TraitsData) (t key : String) (v : PropertyValue) : TraitsData :=
  ⟨Keyed.update t (fun old => Keyed.insert key v (old.getD [])) d.traits⟩

def get? (d : TraitsData) (t key : String) : Option PropertyValue :=
  (Keyed.find? t d.traits).bind (Keyed.find? key)

/-- The property keys of a trait, sorted; none when the trait is absent. -/
def keys (d : TraitsData) (t : String) : List String :=
  ((Keyed.find? t d.traits).map Keyed.keys).getD []

/-- Copies every trait and property of `other` over `d`. -/
def update (d other : TraitsData) : TraitsData :=
  other.traits.foldl
    (fun acc (t, props) => props.foldl (fun acc2 (k, v) => acc2.set t k v) (acc.addTrait t))
    d

/-- Keeps the traits that belong to `s`, with all their properties. -/
def filtered (d : TraitsData) (s : TraitSet) : TraitsData :=
  ⟨Keyed.filterKeys (fun t => s.contains t) d.traits⟩

def size (d : TraitsData) : Nat := d.traits.length

def isEmpty (d : TraitsData) : Bool := d.traits.isEmpty

/-- Equality of traits data, property values compared as values. -/
def beq (a b : TraitsData) : Bool :=
  a.traits.length == b.traits.length &&
    (a.traits.zip b.traits).all fun ((ta, pa), (tb, pb)) => ta == tb && Settings.beq pa pb

instance : BEq TraitsData := ⟨beq⟩

/-- The JSON object of trait ids to property objects. -/
def toJson (d : TraitsData) : Json := .obj (d.traits.map fun (t, props) => (t, Settings.toJson props))

/-- Reads traits data from a JSON object of objects. -/
def ofJson? (j : Json) : Except String TraitsData :=
  match j with
  | .obj fields =>
    let read := fields.mapM fun (t, props) =>
      match props with
      | .obj _ => (Settings.ofJson? props).map fun s => (t, s)
      | other => .error (Json.invalidType other "a map")
    read.map fun entries => ⟨Keyed.ofList entries⟩
  | other => .error (Json.invalidType other "a map")

end TraitsData

end AssetBroker
