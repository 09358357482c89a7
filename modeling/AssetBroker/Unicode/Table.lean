/-!
# Tables of code points

Unicode properties are kept as sorted tables. A set of code points is the
list of its boundaries `b₀ < b₁ < b₂ < …`: the set holds `[b₀, b₁)`,
`[b₂, b₃)` and so on, so a code point belongs to it exactly when an odd
number of boundaries are at most that code point. A property with values
is the list of the starts of its runs, each with the value that holds from
that start up to the next.

Tables are written as text: every number as six hexadecimal digits, and a
run's value as the two characters after its start.
-/

namespace AssetBroker

namespace Unicode

/-- The value of a hexadecimal digit; other characters count as zero. -/
def hexDigit (c : Char) : Nat :=
  if '0' ≤ c && c ≤ '9' then c.toNat - '0'.toNat
  else if 'A' ≤ c && c ≤ 'F' then c.toNat - 'A'.toNat + 10
  else if 'a' ≤ c && c ≤ 'f' then c.toNat - 'a'.toNat + 10
  else 0

def hexNumber (cs : List Char) : Nat := cs.foldl (fun n c => n * 16 + hexDigit c) 0

/-- Cuts a list into pieces of `n` elements, the last one possibly
shorter. -/
def pieces (n : Nat) (cs : List Char) : List (List Char) :=
  let rec go : Nat → List Char → List (List Char)
    | 0, _ => []
    | _, [] => []
    | fuel + 1, rest => rest.take n :: go fuel (rest.drop n)
  go cs.length cs

/-- The numbers of a table text written with six digits each. -/
def numbers (text : String) : Array Nat := ((pieces 6 text.toList).map hexNumber).toArray

/-- The starts and values of a table text of runs: six digits for the start,
then two characters for the value. -/
def runs (text : String) : Array Nat × Array String :=
  let entries := pieces 8 text.toList
  ((entries.map fun e => hexNumber (e.take 6)).toArray,
   (entries.map fun e => String.ofList (e.drop 6)).toArray)

/-- How many elements of the sorted `[lo, hi)` part of an array are at most
`x`, searched with `fuel` halvings. -/
def countAtMostFrom (a : Array Nat) (x : Nat) : Nat → Nat → Nat → Nat
  | 0, lo, _ => lo
  | fuel + 1, lo, hi =>
    if lo < hi then
      let mid := lo + (hi - lo) / 2
      if a.getD mid 0 ≤ x then countAtMostFrom a x fuel (mid + 1) hi
      else countAtMostFrom a x fuel lo mid
    else lo

/-- How many elements of a sorted array are at most `x`. -/
def countAtMost (a : Array Nat) (x : Nat) : Nat :=
  countAtMostFrom a x (Nat.log2 a.size + 2) 0 a.size

/-- Whether a code point belongs to the set with these boundaries. -/
def memberOf (bounds : Array Nat) (c : Char) : Bool :=
  countAtMost bounds c.toNat % 2 == 1

/-- The value of the run a code point falls in, or `fallback` before the
first run. -/
def valueOf (table : Array Nat × Array String) (fallback : String) (c : Char) : String :=
  match countAtMost table.1 c.toNat with
  | 0 => fallback
  | n + 1 => table.2.getD n fallback

end Unicode

end AssetBroker
