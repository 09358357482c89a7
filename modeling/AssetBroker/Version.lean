import AssetBroker.Text.Debug

/-!
# Semantic versions

A version is `MAJOR.MINOR.PATCH`, optionally followed by `-pre.release`
identifiers and `+build.metadata` identifiers. Numbers are written without
leading zeros and fit in 64 bits; identifiers are ASCII letters, digits and
hyphens, separated by dots, none empty, and a numeric pre-release
identifier has no leading zero.

Versions are ordered by their numbers, then by pre-release (a release
after all of its pre-releases; identifiers compared one by one, numeric
ones by value and below alphanumeric ones), then by build metadata (empty
first; numeric identifiers by value, then by the length of their text).
-/

namespace AssetBroker

/-- A parsed semantic version. -/
structure Version where
  major : Nat
  minor : Nat
  patch : Nat
  pre : String
  build : String
  deriving DecidableEq, Inhabited

namespace Version

/-- The part of a version being read, as error messages name it. -/
inductive Part where
  | major | minor | patch | pre | build
  deriving DecidableEq

def Part.name : Part → String
  | .major => "major version number"
  | .minor => "minor version number"
  | .patch => "patch version number"
  | .pre => "pre-release identifier"
  | .build => "build metadata"

/-- Why a text is not a version. -/
inductive ParseError where
  | empty
  | unexpectedEnd (part : Part)
  | leadingZero (part : Part)
  | overflow (part : Part)
  | emptySegment (part : Part)
  | unexpectedChar (part : Part) (c : Char)
  | unexpectedCharAfter (part : Part) (c : Char)

def ParseError.message : ParseError → String
  | .empty => "empty string, expected a semver version"
  | .unexpectedEnd p => "unexpected end of input while parsing " ++ p.name
  | .leadingZero p => "invalid leading zero in " ++ p.name
  | .overflow p => "value of " ++ p.name ++ " exceeds u64::MAX"
  | .emptySegment p => "empty identifier segment in " ++ p.name
  | .unexpectedChar p c => "unexpected character " ++ debugChar c ++ " while parsing " ++ p.name
  | .unexpectedCharAfter p c => "unexpected character " ++ debugChar c ++ " after " ++ p.name

def isDigit (c : Char) : Bool := '0' ≤ c && c ≤ '9'

/-- Reads a number without leading zeros that fits in 64 bits. -/
def number (part : Part) (cs : List Char) : Except ParseError (Nat × List Char) :=
  let digits := cs.takeWhile isDigit
  let rest := cs.dropWhile isDigit
  match digits with
  | [] =>
    match cs with
    | c :: _ => .error (.unexpectedChar part c)
    | [] => .error (.unexpectedEnd part)
  | '0' :: _ :: _ => .error (.leadingZero part)
  | _ =>
    let value := digits.foldl (fun n c => n * 10 + (c.toNat - '0'.toNat)) 0
    if value > 0xFFFFFFFFFFFFFFFF then .error (.overflow part) else .ok (value, rest)

def dot (part : Part) : List Char → Except ParseError (List Char)
  | '.' :: rest => .ok rest
  | c :: _ => .error (.unexpectedCharAfter part c)
  | [] => .error (.unexpectedEnd part)

def isIdentChar (c : Char) : Bool :=
  ('A' ≤ c && c ≤ 'Z') || ('a' ≤ c && c ≤ 'z') || c == '-' || isDigit c

/-- Checks one dot-separated segment of identifiers. -/
def checkSegment (part : Part) (seg : List Char) : Except ParseError Unit :=
  if seg.isEmpty then .error (.emptySegment part)
  else if part == .pre && seg.length > 1 && seg.all isDigit && seg.head? == some '0' then
    .error (.leadingZero part)
  else .ok ()

/-- Reads dot-separated identifiers up to the first other character. -/
def identifiers (part : Part) (cs : List Char) : Except ParseError (String × List Char) := do
  let body := cs.takeWhile fun c => isIdentChar c || c == '.'
  let rest := cs.dropWhile fun c => isIdentChar c || c == '.'
  let segments := ((String.ofList body).splitOn ".").map String.toList
  if body.isEmpty then return ("", rest)
  segments.forM (checkSegment part)
  return (String.ofList body, rest)

def parse (text : String) : Except ParseError Version := do
  if text.isEmpty then throw .empty
  let cs := text.toList
  let (major, cs) ← number .major cs
  let cs ← dot .major cs
  let (minor, cs) ← number .minor cs
  let cs ← dot .minor cs
  let (patch, cs) ← number .patch cs
  let (pre, cs, part) ← match cs with
    | '-' :: more => do
      let (p, r) ← identifiers .pre more
      if p.isEmpty then throw (.emptySegment .pre)
      pure (p, r, Part.pre)
    | _ => pure ("", cs, Part.patch)
  let (build, cs, part) ← match cs with
    | '+' :: more => do
      let (b, r) ← identifiers .build more
      if b.isEmpty then throw (.emptySegment .build)
      pure (b, r, Part.build)
    | _ => pure ("", cs, part)
  match cs with
  | c :: _ => throw (.unexpectedCharAfter part c)
  | [] => pure ⟨major, minor, patch, pre, build⟩

/-- Compares two numeric identifiers by value, then by text length. -/
def compareNumeric (a b : String) : Ordering :=
  let strip (s : String) := (s.toList.dropWhile (· == '0'))
  let sa := strip a
  let sb := strip b
  (compare sa.length sb.length).then ((compare (String.ofList sa) (String.ofList sb)).then
    (compare a.length b.length))

/-- Compares dot-separated identifiers one by one: numeric ones with
`numeric`, numeric below alphanumeric, alphanumeric ones as text; a longer
list is greater when the shorter one is its start. -/
def compareIdentifiers (numeric : String → String → Ordering) : List String → List String → Ordering
  | [], [] => .eq
  | [], _ :: _ => .lt
  | _ :: _, [] => .gt
  | a :: as, b :: bs =>
    let an := a.all isDigit
    let bn := b.all isDigit
    if an && !bn then .lt
    else if !an && bn then .gt
    else
      let here := if an then numeric a b else compare a b
      if here != .eq then here else compareIdentifiers numeric as bs

/-- Compares pre-release texts: an empty one (a release) is the greatest. -/
def comparePre (a b : String) : Ordering :=
  match a.isEmpty, b.isEmpty with
  | true, true => .eq
  | true, false => .gt
  | false, true => .lt
  | false, false =>
    compareIdentifiers (fun x y => (compare x.length y.length).then (compare x y))
      (a.splitOn ".") (b.splitOn ".")

def compareBuild (a b : String) : Ordering :=
  compareIdentifiers compareNumeric (a.splitOn ".") (b.splitOn ".")

def order (a b : Version) : Ordering :=
  (compare a.major b.major).then ((compare a.minor b.minor).then ((compare a.patch b.patch).then
    ((comparePre a.pre b.pre).then (compareBuild a.build b.build))))

/-- Whether `a` comes before `b`. -/
def lt (a b : Version) : Bool := order a b == .lt

end Version

end AssetBroker
