/-!
# Replacing text

`Text.replaceAll` replaces every occurrence of a pattern, scanning from the
left and resuming after each replaced occurrence, so occurrences never
overlap; `Text.replaceFirst` replaces the leftmost one only.
-/

namespace AssetBroker

namespace Text

/-- Replaces each non-overlapping occurrence of `pattern`, from the left. -/
def replaceAll (s pattern replacement : String) : String :=
  if pattern.isEmpty then s
  else
    let p := pattern.toList
    let r := replacement.toList
    let rec go (cs : List Char) (fuel : Nat) : List Char :=
      match fuel with
      | 0 => cs
      | fuel + 1 =>
        match cs with
        | [] => []
        | c :: rest => if cs.take p.length == p then r ++ go (cs.drop p.length) fuel else c :: go rest fuel
    String.ofList (go s.toList (s.length + 1))

/-- Replaces the first occurrence of `pattern`; an empty pattern is never
replaced. -/
def replaceFirst (pattern replacement : List Char) : List Char → List Char
  | [] => []
  | c :: rest =>
    if !pattern.isEmpty && (c :: rest).take pattern.length == pattern then
      replacement ++ (c :: rest).drop pattern.length
    else c :: replaceFirst pattern replacement rest

def containsText (s pattern : String) : Bool :=
  let p := pattern.toList
  let rec go (cs : List Char) : Bool :=
    match cs with
    | [] => p.isEmpty
    | _ :: rest => cs.take p.length == p || go rest
  go s.toList

end Text

end AssetBroker
