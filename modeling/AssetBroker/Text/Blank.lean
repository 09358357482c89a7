/-!
# Blank characters

The characters of the Unicode `White_Space` property: the ASCII blanks
(tab, line feed, vertical tab, form feed, carriage return, space), next line
`U+0085`, no-break space `U+00A0`, ogham space mark `U+1680`, the spaces
`U+2000` to `U+200A`, line and paragraph separators `U+2028` and `U+2029`,
narrow no-break space `U+202F`, medium mathematical space `U+205F` and
ideographic space `U+3000`. Trimming text removes these.
-/

namespace AssetBroker

namespace Text

/-- Whether a character has the `White_Space` property. -/
def isBlank (c : Char) : Bool :=
  let n := c.toNat
  (9 ≤ n && n ≤ 13) || n == 32 || n == 0x85 || n == 0xA0 || n == 0x1680 ||
    (0x2000 ≤ n && n ≤ 0x200A) || n == 0x2028 || n == 0x2029 || n == 0x202F || n == 0x205F ||
    n == 0x3000

/-- Every ASCII blank of the standard library is blank here too. -/
theorem isBlank_of_isWhitespace (c : Char) (h : c.isWhitespace = true) : isBlank c = true := by
  simp only [Char.isWhitespace, Bool.or_eq_true, decide_eq_true_eq] at h
  simp only [isBlank]
  rcases h with ((h | h) | h) | h <;> subst h <;> decide

def trimStart (cs : List Char) : List Char := cs.dropWhile isBlank

/-- Drops leading and trailing blanks. -/
def trim (cs : List Char) : List Char := (trimStart cs.reverse).reverse |> trimStart

def isBlankText (s : String) : Bool := s.toList.all isBlank

/-- The number of bytes of the UTF-8 encoding of some characters. -/
def byteLength (cs : List Char) : Nat := cs.foldl (fun n c => n + c.utf8Size) 0

/-- The characters of a text after the first `n` bytes; `n` must fall on a
character boundary. -/
def dropBytes (n : Nat) : List Char → List Char
  | [] => []
  | c :: rest => if n = 0 then c :: rest else dropBytes (n - c.utf8Size) rest

/-- The characters of the first `n` bytes of a text. -/
def takeBytes (n : Nat) : List Char → List Char
  | [] => []
  | c :: rest => if n < c.utf8Size then [] else c :: takeBytes (n - c.utf8Size) rest

def startsWith (s p : List Char) : Bool := s.take p.length == p

/-- Splits text after each line feed, keeping it; a final piece without line
feed is kept when not empty. -/
def splitLinesInclusive (cs : List Char) : List (List Char) :=
  let (lines, current) := cs.foldl
    (fun (acc, cur) c => if c == '\n' then (acc ++ [cur ++ [c]], []) else (acc, cur ++ [c]))
    ([], [])
  if current.isEmpty then lines else lines ++ [current]

end Text

end AssetBroker
