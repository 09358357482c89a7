/-!
# Similarity of names

Suggestions for a misspelt name use the Jaro-Winkler similarity of the two
character sequences, computed in double precision in the customary order of
operations, so that scores and their ties come out as the usual
implementation gives them.

Jaro: characters match when equal and no further apart than half the longer
length less one, each character of the second text matched at most once, the
first free one in order; transpositions are half the matched pairs that
differ when both sides are read in order. Winkler adds a tenth of the
remaining distance per character of common prefix, up to four, when the
Jaro score exceeds 0.7.
-/

namespace AssetBroker

namespace Text

/-- Matches the characters of `a` in `b` within `range`: the flags of `a`
and of `b` and the number of matches. -/
def jaroMatches (a b : List Char) (range : Nat) : List Bool × List Bool × Nat :=
  let bArr := b.toArray
  let step (state : List Bool × Array Bool × Nat) (ic : Nat × Char) : List Bool × Array Bool × Nat :=
    let (aFlags, bFlags, count) := state
    let (i, c) := ic
    let lo := i - range
    let hi := min b.length (i + range + 1)
    let candidates := (List.range hi).filter fun j => lo ≤ j
    match candidates.find? fun j => bArr[j]? == some c && bFlags[j]? == some false with
    | some j => (aFlags ++ [true], bFlags.set! j true, count + 1)
    | none => (aFlags ++ [false], bFlags, count)
  let (aFlags, bFlags, count) := (a.zipIdx.map fun (c, i) => (i, c)).foldl step
    ([], Array.replicate b.length false, 0)
  (aFlags, bFlags.toList, count)

def jaro (a b : List Char) : Float :=
  if a.isEmpty && b.isEmpty then 1.0
  else if a.isEmpty || b.isEmpty then 0.0
  else
    let range := max a.length b.length / 2 - 1
    let (aFlags, bFlags, m) := jaroMatches a b range
    if m == 0 then 0.0
    else
      let aMatched := (a.zip aFlags).filterMap fun (c, f) => if f then some c else none
      let bMatched := (b.zip bFlags).filterMap fun (c, f) => if f then some c else none
      let t := ((aMatched.zip bMatched).filter fun (x, y) => x != y).length / 2
      let mf := m.toFloat
      (mf / a.length.toFloat + mf / b.length.toFloat + (m - t).toFloat / mf) / 3.0

def jaroWinkler (a b : String) : Float :=
  let sim := jaro a.toList b.toList
  if sim > 0.7 then
    let common := ((a.toList.take 4).zip b.toList).takeWhile (fun (x, y) => x == y) |>.length
    sim + 0.1 * common.toFloat * (1.0 - sim)
  else sim

/-- The option most similar to `candidate`, if its similarity exceeds 0.75;
of equally similar options the last one. -/
def closestMatch (candidate : String) (options : List String) : Option String :=
  let scored := options.filterMap fun o =>
    let s := jaroWinkler candidate o
    if s > 0.75 then some (s, o) else none
  let best := scored.foldl
    (fun acc (s, o) => match acc with
      | none => some (s, o)
      | some (bs, bo) => if s ≥ bs then some (s, o) else some (bs, bo))
    none
  best.map (·.2)

end Text

end AssetBroker
