/-!
# File paths

Paths are texts with `/` between components. A path may start with the
root `/` or, when relative, with a `.` component; both belong to the start
of the path. Empty components and `.` components elsewhere are not
components at all, so `a//b/./c/` has the components `a`, `b`, `c`.

* `Path.parent?` drops the last component, keeping the rest as written but
  without trailing separators or `.` components; the root and the empty
  path have no parent.
* `Path.join` appends a relative path with one separator, and an absolute
  path replaces the base.
-/

namespace AssetBroker

namespace Path

/-- The number of leading characters that belong to the start of a path:
the root `/`, or a `.` component of a relative path. -/
def headLength (cs : List Char) : Nat :=
  match cs with
  | '/' :: _ => 1
  | ['.'] => 1
  | '.' :: '/' :: _ => 1
  | _ => 0

def isAbsolute (p : String) : Bool := p.startsWith "/"

/-- The scratch root, which stands for the text of an absolute directory. -/
def scratchRoot : String := "$ROOT"

/-- Whether a path is absolute: from `/`, or from the text of the scratch
root. A path that merely starts with that text, like `$ROOTa`, is absolute
too: it names a sibling of the scratch root, outside it. -/
def isRooted (p : String) : Bool :=
  p.startsWith "/" || p.startsWith scratchRoot

/-- The last component text of `cs` after its start, and whether a
separator stands before it. -/
def lastPiece (head : Nat) (cs : List Char) : List Char × Bool :=
  let body := cs.drop head
  let piece := (body.reverse.takeWhile (· != '/')).reverse
  (piece, piece.length < body.length)

/-- Drops trailing separators and `.` components, at most `fuel` of them,
never touching the start of the path. -/
def trimEndFuel (head : Nat) : Nat → List Char → List Char
  | 0, cs => cs
  | n + 1, cs =>
    if cs.length ≤ head then cs
    else
      let (piece, hasSep) := lastPiece head cs
      if piece.isEmpty || piece == ['.'] then
        trimEndFuel head n (cs.take (cs.length - piece.length - (if hasSep then 1 else 0)))
      else cs

/-- The path without trailing separators and `.` components. -/
def trimEnd (cs : List Char) : List Char := trimEndFuel (headLength cs) (cs.length + 1) cs

/-- The path without its last component, if it has one. -/
def parent? (p : String) : Option String :=
  let cs := p.toList
  let head := headLength cs
  let t := trimEnd cs
  if t.length > head then
    let (piece, hasSep) := lastPiece head t
    let rest := t.take (t.length - piece.length - (if hasSep then 1 else 0))
    some (String.ofList (trimEndFuel head (rest.length + 1) rest))
  else if head == 1 && cs.head? == some '.' then some ""
  else none

/-- The last component if it is a name (not `.` or `..`). -/
def fileName? (p : String) : Option String :=
  let cs := p.toList
  let head := headLength cs
  let t := trimEnd cs
  if t.length > head then
    let (piece, _) := lastPiece head t
    if piece == ['.', '.'] then none else some (String.ofList piece)
  else none

/-- The extension of the file name: the text after its last dot, unless
that dot starts the name. -/
def extension? (p : String) : Option String :=
  match fileName? p with
  | none => none
  | some name =>
    if name == ".." then none
    else
      let cs := name.toList
      let after := (cs.reverse.takeWhile (· != '.')).reverse
      if after.length == cs.length then none
      else if after.length + 1 == cs.length then none
      else some (String.ofList after)

/-- The file name without its extension. -/
def fileStem? (p : String) : Option String :=
  (fileName? p).map fun name =>
    match extension? p with
    | some ext => String.ofList (name.toList.take (name.length - ext.length - 1))
    | none => name

/-- Appends `p` to `base` with one separator, unless the base is empty or
already ends in one. -/
def append (base p : String) : String :=
  if base.isEmpty || base.endsWith "/" then base ++ p else base ++ "/" ++ p

/-- Appends `p` to `base`: an absolute `p` replaces the base, and one
separator is added when the base does not end in one. -/
def join (base p : String) : String :=
  if isRooted p then p else append base p

/-- Appends `p` to `base` where no scratch root exists: only a path from
`/` replaces the base, and the text of the scratch root is an ordinary
name. -/
def joinPlain (base p : String) : String :=
  if isAbsolute p then p else append base p

/-- Inserts a name among names sorted in order. -/
def insertName (a : String) : List String → List String
  | [] => [a]
  | b :: rest => if a ≤ b then a :: b :: rest else b :: insertName a rest

/-- Names sorted in order, each put in its place in turn. -/
def sortNames (names : List String) : List String := names.foldr insertName []

end Path

end AssetBroker
