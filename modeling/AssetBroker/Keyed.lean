/-!
# Maps keyed by text

A finite map from strings is kept as a list of pairs sorted by key, each key
once. The order is that of code points, which is also the byte order of the
UTF-8 encoding, so walking the list visits keys the way a sorted map does.
Because the form is canonical, two maps are equal exactly when they hold the
same keys with the same values.
-/

namespace AssetBroker

namespace Keyed

variable {α : Type}

/-- Sets `key` to `value`, replacing an earlier value and keeping the order. -/
def insert (key : String) (value : α) : List (String × α) → List (String × α)
  | [] => [(key, value)]
  | (k, v) :: rest =>
    if key < k then (key, value) :: (k, v) :: rest
    else if key == k then (key, value) :: rest
    else (k, v) :: insert key value rest

/-- The value stored under `key`. -/
def find? (key : String) : List (String × α) → Option α
  | [] => none
  | (k, v) :: rest => if k == key then some v else find? key rest

/-- Whether `key` has a value. -/
def contains (key : String) (m : List (String × α)) : Bool := (find? key m).isSome

/-- Sets `key` to `f` of its current value, if any. -/
def update (key : String) (f : Option α → α) (m : List (String × α)) : List (String × α) :=
  insert key (f (find? key m)) m

/-- The map holding the pairs of a list; a later pair wins over an earlier
one with the same key. -/
def ofList (pairs : List (String × α)) : List (String × α) :=
  pairs.foldl (fun m (k, v) => insert k v m) []

def keys (m : List (String × α)) : List String := m.map (·.1)

/-- Keeps the entries whose key satisfies `p`. -/
def filterKeys (p : String → Bool) (m : List (String × α)) : List (String × α) :=
  m.filter fun (k, _) => p k

end Keyed

/-- A set of strings, sorted and without repeats. -/
def sortedSet (xs : List String) : List String :=
  Keyed.keys (Keyed.ofList (xs.map fun x => (x, ())))

end AssetBroker
