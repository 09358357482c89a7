import AssetBroker.Toml.Value

/-!
# Scanning text with committed and tentative failures

The TOML reader is written as small scanners over the unread text. A
scanner either succeeds with a value and the text after it, or fails at a
byte offset. A failure is tentative while an alternative may still be tried
(the caller goes back to where it started), and committed once the reader
knows what it is reading: a committed failure is the document's error.

A failure gathers notes on its way out: what was being read (`invalid
string`) and what would have been accepted (`expected "]"`). Its message
shows the innermost label, then every expectation, then the cause.

Loops stop on the length of the unread text: an iteration that reads
nothing ends the loop.
-/

namespace AssetBroker

namespace Toml

/-- The unread part of the source and its byte offset. -/
structure Cursor where
  rest : List Char
  offset : Nat

/-- A remark that a failing scanner attaches to its failure. -/
inductive Note where
  /-- What was being read. -/
  | label (what : String)
  /-- What would have been accepted here. -/
  | expected (what : String)

/-- Why reading stopped: notes from the innermost scanner outwards, and an
underlying cause. -/
structure Trouble where
  notes : List Note
  cause : Option String

/-- A trouble with no notes and no cause. -/
def Trouble.bare : Trouble := ⟨[], none⟩

def Trouble.because (cause : String) : Trouble := ⟨[], some cause⟩

/-- The text of a trouble: `invalid <label>` for the innermost label, then
`expected a, b` for all expectations, then the cause, one per line. -/
def Trouble.message (t : Trouble) : String :=
  let label := t.notes.findSome? fun | .label w => some w | _ => none
  let expected := t.notes.filterMap fun | .expected w => some w | _ => none
  let lines := (label.map ("invalid " ++ ·)).toList
    ++ (if expected.isEmpty then [] else ["expected " ++ ", ".intercalate expected])
    ++ t.cause.toList
  "\n".intercalate lines

/-- A failed scan: where it stopped, why, and whether it was committed. -/
structure Failure where
  offset : Nat
  trouble : Trouble
  committed : Bool

/-- A scanner: reads from a cursor, or fails. -/
abbrev Scan (α : Type) := StateT Cursor (Except Failure) α

/-- Advances a cursor past one character `ch`, leaving `rest`. -/
def Cursor.skip (c : Cursor) (ch : Char) (rest : List Char) : Cursor :=
  ⟨rest, c.offset + ch.utf8Size⟩

namespace Scan

/-- Fails tentatively here. -/
def failWith (t : Trouble) : Scan α := fun c => .error ⟨c.offset, t, false⟩

/-- Fails tentatively here with no notes. -/
def miss : Scan α := failWith Trouble.bare

def peek : Scan (Option Char) := fun c => .ok (c.rest.head?, c)

/-- The next `n` characters, without reading them. -/
def peekMany (n : Nat) : Scan (List Char) := fun c => .ok (c.rest.take n, c)

def offset : Scan Nat := fun c => .ok (c.offset, c)

/-- Reads one character; fails at the end. -/
def any : Scan Char := fun c =>
  match c.rest with
  | [] => .error ⟨c.offset, Trouble.bare, false⟩
  | ch :: r => .ok (ch, Cursor.skip c ch r)

/-- Reads one character that satisfies `p`. -/
def satisfy (p : Char → Bool) : Scan Char := fun c =>
  match c.rest with
  | ch :: r => if p ch then .ok (ch, Cursor.skip c ch r) else .error ⟨c.offset, Trouble.bare, false⟩
  | [] => .error ⟨c.offset, Trouble.bare, false⟩

def char (ch : Char) : Scan Unit := do
  let _ ← satisfy (· == ch)

def startsWith (cs word : List Char) : Bool := cs.take word.length == word

/-- Reads a given word; fails where it starts if the text differs. -/
def word (w : String) : Scan Unit := fun c =>
  if startsWith c.rest w.toList then
    .ok ((), ⟨c.rest.drop w.length, c.offset + w.utf8ByteSize⟩)
  else .error ⟨c.offset, Trouble.bare, false⟩

/-- Bytes of a list of characters in UTF-8. -/
def byteCount (cs : List Char) : Nat := cs.foldl (fun n ch => n + ch.utf8Size) 0

/-- Reads the longest run of characters that satisfy `p`. -/
def takeWhile (p : Char → Bool) : Scan String := fun c =>
  let (run, rest) := c.rest.span p
  .ok (String.ofList run, ⟨rest, c.offset + byteCount run⟩)

/-- Reads a non-empty run of characters that satisfy `p`. -/
def takeWhile1 (p : Char → Bool) : Scan String := fun c =>
  let (run, rest) := c.rest.span p
  if run.isEmpty then .error ⟨c.offset, Trouble.bare, false⟩
  else .ok (String.ofList run, ⟨rest, c.offset + byteCount run⟩)

/-- Reads exactly `n` characters that satisfy `p`, failing where they start
otherwise. -/
def takeExactly (n : Nat) (p : Char → Bool) : Scan String := fun c =>
  let run := (c.rest.take n).takeWhile p
  if run.length == n then .ok (String.ofList run, ⟨c.rest.drop n, c.offset + byteCount run⟩)
  else .error ⟨c.offset, Trouble.bare, false⟩

def atEnd : Scan Bool := fun c => .ok (c.rest.isEmpty, c)

/-- Commits a scanner: its failures can no longer be passed over. -/
def commit (p : Scan α) : Scan α := fun c =>
  match p c with
  | .error f => .error { f with committed := true }
  | ok => ok

def note (n : Note) (p : Scan α) : Scan α := fun c =>
  match p c with
  | .error f => .error { f with trouble := { f.trouble with notes := f.trouble.notes ++ [n] } }
  | ok => ok

/-- Labels the failures of a scanner with what it reads. -/
def labelled (what : String) (p : Scan α) : Scan α := note (.label what) p

/-- Adds expectations, in order, to the failures of a scanner. -/
def expecting (whats : List String) (p : Scan α) : Scan α :=
  whats.foldl (fun q w => note (.expected w) q) p

/-- Tries a scanner; a tentative failure gives `none` and reads nothing. -/
def attempt (p : Scan α) : Scan (Option α) := fun c =>
  match p c with
  | .ok (a, c2) => .ok (some a, c2)
  | .error f => if f.committed then .error f else .ok (none, c)

/-- Tries scanners in order from the same place; when all fail
tentatively, the last failure stands. -/
def firstOf : List (Scan α) → Scan α
  | [] => miss
  | [p] => p
  | p :: ps => fun c =>
    match p c with
    | .error f => if f.committed then .error f else firstOf ps c
    | ok => ok

/-- Reads with `p` and checks the result with `f`; when `f` refuses, the
scan fails where `p` started, with the refusal as its cause. -/
def refine (p : Scan α) (f : α → Except String β) : Scan β := fun c =>
  match p c with
  | .ok (a, c2) =>
    match f a with
    | .ok b => .ok (b, c2)
    | .error cause => .error ⟨c.offset, Trouble.because cause, false⟩
  | .error e => .error e

/-- Reads with `p` and keeps the result only if `ok` holds of it; otherwise
fails where `p` started. -/
def verify (p : Scan α) (ok : α → Bool) : Scan α := fun c =>
  match p c with
  | .ok (a, c2) => if ok a then .ok (a, c2) else .error ⟨c.offset, Trouble.bare, false⟩
  | .error e => .error e

/-- Reads with `p` and also gives the span it read. -/
def spanned (p : Scan α) : Scan (α × Span) := fun c =>
  match p c with
  | .ok (a, c2) => .ok ((a, ⟨c.offset, c2.offset⟩), c2)
  | .error e => .error e

/-- Reads with `p` and gives the text it read. -/
def recognize (p : Scan α) : Scan String := fun c =>
  match p c with
  | .ok (_, c2) => .ok (String.ofList (c.rest.take (c.rest.length - c2.rest.length)), c2)
  | .error e => .error e

/-- Repeats `p` at most `fuel` times while it succeeds and reads something. -/
def manyFuel (p : Scan α) : Nat → List α → Scan (List α)
  | 0, acc => fun c => .ok (acc.reverse, c)
  | n + 1, acc => fun c =>
    match p c with
    | .ok (a, c2) =>
      if c2.offset == c.offset then .ok ((a :: acc).reverse, c2)
      else manyFuel p n (a :: acc) c2
    | .error f => if f.committed then .error f else .ok (acc.reverse, c)

/-- Repeats `p` while it succeeds; a tentative failure ends the loop where
that attempt started. Each round reads at least one character, so the
length of the unread text bounds the rounds. -/
def many (p : Scan α) : Scan (List α) := fun c => manyFuel p (c.rest.length + 1) [] c

/-- After a first item, reads `sep` then `p` while both succeed. -/
def sepTailFuel (p : Scan α) (sep : Scan Unit) : Nat → List α → Scan (List α)
  | 0, acc => fun c => .ok (acc.reverse, c)
  | n + 1, acc => fun c =>
    match sep c with
    | .error f => if f.committed then .error f else .ok (acc.reverse, c)
    | .ok (_, c2) =>
      match p c2 with
      | .error f => if f.committed then .error f else .ok (acc.reverse, c)
      | .ok (a, c3) =>
        if c3.offset == c.offset then .ok ((a :: acc).reverse, c3)
        else sepTailFuel p sep n (a :: acc) c3

/-- One or more items read by `p`, separated by `sep`. -/
def sepBy1 (p : Scan α) (sep : Scan Unit) : Scan (List α) := fun c =>
  match p c with
  | .error e => .error e
  | .ok (a, c2) => sepTailFuel p sep (c2.rest.length + 1) [a] c2

/-- Zero or more items read by `p`, separated by `sep`. -/
def sepBy (p : Scan α) (sep : Scan Unit) : Scan (List α) := fun c =>
  match p c with
  | .error f => if f.committed then .error f else .ok ([], c)
  | .ok (a, c2) => sepTailFuel p sep (c2.rest.length + 1) [a] c2

end Scan

end Toml

end AssetBroker
