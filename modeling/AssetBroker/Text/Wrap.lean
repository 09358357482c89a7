import AssetBroker.Text.LineBreak
import AssetBroker.Text.Blank

/-!
# Column widths and filling paragraphs

A character takes the columns a terminal gives it (`Unicode.columns`). A
terminal escape sequence takes none: an escape character and the one after
it, and when that is `[` everything up to a final character between `@` and
`~`, or when it is `]` everything up to a bell or an escape and backslash.

Filling wraps each line of a text to a width, first fit. A line is cut into
words at the places where the Unicode line breaking algorithm allows a
break, except after a hyphen; each word keeps the spaces after it. A word is
cut again after each hyphen between two letters or digits, and a word wider
than a later line is cut into pieces that fit one. Words then go on the
current line while they fit and start a new line otherwise; a word that
starts a line stays there even when it does not fit.

The first line of the whole text is prefixed by one indent and every later
line by another. Every line of the text is wrapped as if its first line had
the first indent, and when that indent is not empty an empty word opens it,
so that a first word too wide for the first line moves to the next. Spaces
at the end of a line are dropped.
-/

namespace AssetBroker

namespace Text

/-! ## Escape sequences and widths -/

/-- The rest after a control sequence: up to and including its final
character, between `@` and `~`. -/
def afterControlSequence : List Char → List Char
  | [] => []
  | c :: rest => if 0x40 ≤ c.toNat && c.toNat ≤ 0x7E then rest else afterControlSequence rest

/-- The rest after an operating system command: up to and including a bell,
or a backslash right after an escape. -/
def afterCommand (last : Char) : List Char → List Char
  | [] => []
  | c :: rest =>
    if c == '\x07' || (c == '\\' && last == '\x1b') then rest else afterCommand c rest

def afterEscape : List Char → List Char
  | '[' :: rest => afterControlSequence rest
  | ']' :: rest => afterCommand ']' rest
  | _ :: rest => rest
  | [] => []

theorem afterControlSequence_length_le (cs : List Char) :
    (afterControlSequence cs).length ≤ cs.length := by
  induction cs with
  | nil => simp [afterControlSequence]
  | cons c rest ih =>
    simp only [afterControlSequence]
    split
    · simp
    · simp
      omega

theorem afterCommand_length_le (last : Char) (cs : List Char) :
    (afterCommand last cs).length ≤ cs.length := by
  induction cs generalizing last with
  | nil => simp [afterCommand]
  | cons c rest ih =>
    simp only [afterCommand]
    split <;> simp
    have := ih c
    omega

theorem afterEscape_length_le (cs : List Char) : (afterEscape cs).length ≤ cs.length := by
  unfold afterEscape
  split
  · have := afterControlSequence_length_le ‹List Char›
    simp
    omega
  · have := afterCommand_length_le ']' ‹List Char›
    simp
    omega
  · simp
  · simp

/-- A piece of a line: an escape sequence, which takes no columns, or a
character shown on its own. -/
inductive Piece where
  | escape (cs : List Char)
  | glyph (c : Char)
  deriving Inhabited

def Piece.chars : Piece → List Char
  | .escape cs => cs
  | .glyph c => [c]

def Piece.columns : Piece → Nat
  | .escape _ => 0
  | .glyph c => Unicode.columns c

/-- Cuts a line into its escape sequences and shown characters. -/
def pieces (cs : List Char) : List Piece :=
  match cs with
  | [] => []
  | '\x1b' :: rest =>
    let after := afterEscape rest
    .escape ('\x1b' :: rest.take (rest.length - after.length)) :: pieces after
  | c :: rest => .glyph c :: pieces rest
termination_by cs.length
decreasing_by
  all_goals simp only [List.length_cons]
  · have := afterEscape_length_le rest
    omega
  · omega

def width (cs : List Char) : Nat := ((pieces cs).map Piece.columns).foldr (· + ·) 0

/-! ## Words -/

/-- A word of a line: its characters, the columns they take, the spaces
after it, and what the line shows after the word when it ends there. -/
structure Word where
  text : List Char
  columns : Nat
  spaces : Nat
  penalty : List Char
  deriving Inhabited

/-- A word from a part of a line: the spaces at its end are its spaces. -/
def Word.ofPart (part : List Char) : Word :=
  let text := (part.reverse.dropWhile (· == ' ')).reverse
  ⟨text, width text, part.length - text.length, []⟩

/-- The characters a line shows of a word followed by its spaces. -/
def Word.spelled (w : Word) : List Char := w.text ++ List.replicate w.spaces ' '

/-- Where in a line each piece starts: its byte offset, and its offset in
the line without escape sequences. -/
def pieceOffsets (ps : List Piece) : List (Nat × Nat) :=
  let rec go (byte shown : Nat) : List Piece → List (Nat × Nat)
    | [] => []
    | p :: rest =>
      let size := byteLength p.chars
      let seen := match p with
        | .escape _ => 0
        | .glyph c => c.utf8Size
      (byte, shown) :: go (byte + size) (shown + seen) rest
  go 0 0 ps

def shownChars (ps : List Piece) : List Char :=
  ps.flatMap fun
    | .escape _ => []
    | .glyph c => [c]

/-- The byte offsets of a line where its words start after the first: the
break opportunities of its shown characters, except those after a hyphen
and the last, each moved to the first piece at that place. -/
def wordStarts (cs : List Char) : List Nat :=
  let ps := pieces cs
  let shown := shownChars ps
  let kept := (breakOffsets shown).filter fun offset =>
    (takeBytes offset shown).getLast? != some '-'
  let offsets := pieceOffsets ps
  kept.dropLast.filterMap fun offset => (offsets.find? (·.2 == offset)).map (·.1)

/-- Cuts a text that starts at byte offset `base` at byte offsets, in
increasing order. -/
def cutAt (base : Nat) (cs : List Char) : List Nat → List (List Char)
  | [] => [cs]
  | offset :: rest => takeBytes (offset - base) cs :: cutAt offset (dropBytes (offset - base) cs) rest

/-- The words of a line, as the line breaking algorithm separates them. -/
def words (cs : List Char) : List Word :=
  if cs.isEmpty then []
  else (cutAt 0 cs (wordStarts cs)).map Word.ofPart

/-- Cuts a word after each hyphen that has a letter or digit on both sides;
the last piece keeps the word's spaces and what ends its line. -/
def splitHyphens (w : Word) : List Word :=
  let rec go (piece : List Char) (prev : Option Char) : List Char → List (List Char)
    | [] => [piece]
    | c :: rest =>
      if c == '-' && prev.any Unicode.isAlphanumeric && rest.head?.any Unicode.isAlphanumeric then
        (piece ++ [c]) :: go [] (some c) rest
      else go (piece ++ [c]) (some c) rest
  match (go [] none w.text).reverse with
  | [] => [w]
  | last :: before =>
    (before.reverse.map fun p => ⟨p, width p, 0, if p.getLast? == some '-' then [] else ['-']⟩) ++
      [⟨last, width last, w.spaces, w.penalty⟩]

/-- Cuts a word wider than `limit` into pieces that fit; an escape sequence
stays with the piece before it. -/
def breakApart (limit : Nat) (w : Word) : List Word :=
  let rec go (piece : List Char) (used : Nat) : List Piece → List Word
    | [] => if piece.isEmpty then [] else [⟨piece, used, w.spaces, w.penalty⟩]
    | .escape cs :: rest => go (piece ++ cs) used rest
    | .glyph c :: rest =>
      let cw := Unicode.columns c
      if used > 0 && used + cw > limit then ⟨piece, used, 0, []⟩ :: go [c] cw rest
      else go (piece ++ [c]) (used + cw) rest
  if w.columns > limit then go [] 0 (pieces w.text) else [w]

/-! ## Lines -/

/-- Groups words into lines, first fit: `firstLimit` columns for the first
line and `limit` for the others. A word goes on the current line when it
fits there together with what ends a line after it. -/
def firstFit (firstLimit limit : Nat) (ws : List Word) : List (List Word) :=
  let step (acc : List (List Word) × List Word × Nat) (w : Word) :
      List (List Word) × List Word × Nat :=
    let (done, current, used) := acc
    let available := if done.isEmpty then firstLimit else limit
    if used + w.columns + width w.penalty > available && !current.isEmpty then
      (done ++ [current], [w], w.columns + w.spaces)
    else (done, current ++ [w], used + w.columns + w.spaces)
  let (done, current, _) := ws.foldl step ([], [], 0)
  done ++ [current]

/-- The text of a line of words: the spaces after the last word are dropped
and what ends the line after it is added. -/
def lineText (ws : List Word) : List Char :=
  match ws.reverse with
  | [] => []
  | last :: before => (before.reverse.flatMap Word.spelled) ++ last.text ++ last.penalty

/-- Wraps one line of a text; `first` tells whether it opens the text. -/
def wrapLine (total : Nat) (firstIndent laterIndent : String) (first : Bool) (line : List Char) :
    List String :=
  let indent := if first then firstIndent else laterIndent
  if byteLength line < total && indent.isEmpty then
    [String.ofList (line.reverse.dropWhile (· == ' ')).reverse]
  else
    let firstLimit := total - width firstIndent.toList
    let limit := total - width laterIndent.toList
    let cut := ((words line).flatMap splitHyphens).flatMap (breakApart limit)
    let opened := if firstIndent.isEmpty then cut else ⟨[], 0, 0, []⟩ :: cut
    (firstFit firstLimit limit opened).zipIdx.map fun (ws, i) =>
      if ws.isEmpty then ""
      else (if first && i == 0 then firstIndent else laterIndent) ++ String.ofList (lineText ws)

/-- Fills a text to `total` columns: the first line after `first`, every
later line after `later`. -/
def fill (text : String) (total : Nat) (first later : String) : String :=
  if text.utf8ByteSize < total && !text.contains '\n' && first.isEmpty then
    String.ofList (text.toList.reverse.dropWhile (· == ' ')).reverse
  else
    let lines := (text.splitOn "\n").zipIdx.flatMap fun (line, i) =>
      wrapLine total first later (i == 0) line.toList
    "\n".intercalate lines

end Text

end AssetBroker
