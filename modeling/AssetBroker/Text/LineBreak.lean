import AssetBroker.Unicode.Properties

/-!
# Where a line may break

The Unicode line breaking algorithm gives every character a class and then
decides, pair by pair, whether a line may break between two characters. The
rules are tried in order and the first that applies decides:

* nothing breaks at the start of the text, and the end always breaks;
* a hard line break (a line feed, a carriage return not before a line feed,
  a next line or a line separator) always breaks after it, and nothing
  breaks before one or before a space;
* after a zero width space, possibly followed by spaces, the line breaks;
* nothing breaks after a zero width joiner, and a combining mark or joiner
  belongs to the character before it (or counts as a letter when it follows
  a space, a hard break or the start);
* word joiners, no-break spaces, closing punctuation, opening punctuation
  (even followed by spaces), quotation marks, hyphens and non-starters glue
  to their neighbours as the rules LB11 to LB22 say;
* letters, digits and the punctuation of numbers stay together, as do the
  syllables of Korean, pairs of regional indicators and an emoji with its
  modifier;
* after spaces, and everywhere else, the line may break.

Classes the text cannot decide without more context resolve to a default:
an ambiguous, unknown or surrogate character and one of a complex script
count as letters, and a conditional Japanese starter counts as a
non-starter.

The decision needs only a little of what came before, kept in a
`BreakState`: the class that the next character meets, the class before a
run of spaces, whether a hyphen follows a Hebrew letter, the parity of a run
of regional indicators and whether the last character was a joiner.
-/

namespace AssetBroker

namespace Text

/-- The line breaking classes, named by their two-letter codes. -/
inductive BreakClass where
  | BK | CR | LF | NL | SP | ZW | ZWJ | CM | WJ | GL
  | BA | BB | B2 | HY | CB | CL | CP | EX | IN | NS
  | OP | QU | IS | NU | PO | PR | SY | AL | HL | ID
  | EB | EM | H2 | H3 | JL | JV | JT | RI
  deriving DecidableEq, Repr, Inhabited

namespace BreakClass

/-- The class of a character, with the default resolution of the classes
that need more context. -/
def ofChar (c : Char) : BreakClass :=
  match Unicode.lineBreakName c with
  | "BK" => BK | "CR" => CR | "LF" => LF | "NL" => NL | "SP" => SP
  | "ZW" => ZW | "ZJ" => ZWJ | "CM" => CM | "WJ" => WJ | "GL" => BreakClass.GL
  | "BA" => BA | "BB" => BB | "B2" => B2 | "HY" => HY | "CB" => CB
  | "CL" => CL | "CP" => CP | "EX" => EX | "IN" => IN | "NS" => NS
  | "CJ" => NS | "OP" => OP | "QU" => QU | "IS" => IS | "NU" => NU
  | "PO" => PO | "PR" => PR | "SY" => SY | "HL" => HL | "ID" => ID
  | "EB" => EB | "EM" => EM | "H2" => H2 | "H3" => H3 | "JL" => JL
  | "JV" => JV | "JT" => JT | "RI" => RI
  | _ => AL

/-- Whether a class attaches to the character before it. -/
def isMark (c : BreakClass) : Bool := c == CM || c == ZWJ

/-- Whether a combining mark may attach to a character of this class. -/
def carriesMarks (c : BreakClass) : Bool :=
  !(c == BK || c == CR || c == LF || c == NL || c == SP || c == ZW)

/-- Whether a class is a letter for the rules on letters and numbers. -/
def isLetter (c : BreakClass) : Bool := c == AL || c == HL

/-- Whether a class is a Korean syllable or jamo. -/
def isKorean (c : BreakClass) : Bool := c == JL || c == JV || c == JT || c == H2 || c == H3

/-- Whether a class is an ideograph or an emoji base or modifier. -/
def isIdeographic (c : BreakClass) : Bool := c == ID || c == EB || c == EM

/-- The pairs that the rules on numbers, Korean, letters and emoji keep
together (LB23 to LB30b, without the regional indicators). -/
def joins (a b : BreakClass) : Bool :=
  (a.isLetter && b == NU) || (a == NU && b.isLetter) ||
  (a == PR && b.isIdeographic) || (a.isIdeographic && b == PO) ||
  ((a == PR || a == PO) && b.isLetter) || (a.isLetter && (b == PR || b == PO)) ||
  ((a == CL || a == CP || a == NU) && (b == PO || b == PR)) ||
  ((a == PO || a == PR) && (b == OP || b == NU)) ||
  ((a == HY || a == IS || a == NU || a == SY) && b == NU) ||
  (a == JL && (b == JL || b == JV || b == H2 || b == H3)) ||
  ((a == JV || a == H2) && (b == JV || b == JT)) ||
  ((a == JT || a == H3) && b == JT) ||
  (a.isKorean && b == PO) || (a == PR && b.isKorean) ||
  (a.isLetter && b.isLetter) ||
  (a == IS && b.isLetter) ||
  ((a.isLetter || a == NU) && b == OP) || (a == CP && (b.isLetter || b == NU)) ||
  (a == EB && b == EM)

end BreakClass

/-- What the decision at the next position needs to know of the text
before it. -/
structure BreakState where
  /-- The class the next character meets: of the last character, or of the
  character its combining marks attach to; none at the start of the text. -/
  last : Option BreakClass := none
  /-- When the last characters are spaces, the class before them. -/
  beforeSpaces : Option BreakClass := none
  /-- Whether the last character is a hyphen after a Hebrew letter. -/
  hebrewHyphen : Bool := false
  /-- Whether the last character ends a run of an odd number of regional
  indicators. -/
  oddRegional : Bool := false
  /-- Whether the last character is a zero width joiner. -/
  afterJoiner : Bool := false
  deriving Inhabited

namespace BreakState

/-- Whether the last class is one of `cs`, possibly followed by spaces. -/
def endsWith (s : BreakState) (prev : BreakClass) (cs : List BreakClass) : Bool :=
  cs.contains prev || (prev == .SP && s.beforeSpaces.any cs.contains)

/-- Whether the line may break between a character of class `prev` and one
of class `c`, by the rules LB4 to LB31 (with marks already resolved). -/
def breaksBetween (s : BreakState) (prev c : BreakClass) : Bool :=
  if prev == .BK then true
  else if prev == .CR then c != .LF
  else if prev == .LF || prev == .NL then true
  else if c == .BK || c == .CR || c == .LF || c == .NL then false
  else if c == .SP || c == .ZW then false
  else if s.endsWith prev [.ZW] then true
  else if c == .WJ || prev == .WJ then false
  else if prev == .GL then false
  else if c == .GL && !(prev == .SP || prev == .BA || prev == .HY) then false
  else if c == .CL || c == .CP || c == .EX || c == .IS || c == .SY then false
  else if s.endsWith prev [.OP] then false
  else if c == .OP && s.endsWith prev [.QU] then false
  else if c == .NS && s.endsWith prev [.CL, .CP] then false
  else if c == .B2 && s.endsWith prev [.B2] then false
  else if prev == .SP then true
  else if c == .QU || prev == .QU then false
  else if c == .CB || prev == .CB then true
  else if c == .BA || c == .HY || c == .NS || prev == .BB then false
  else if s.hebrewHyphen then false
  else if prev == .SY && c == .HL then false
  else if c == .IN then false
  else if prev == .RI && c == .RI && s.oddRegional then false
  else !BreakClass.joins prev c

/-- The state after a character of class `c` that does not attach to the
one before; `joiner` tells whether the character is a joiner. -/
def push (s : BreakState) (c : BreakClass) (joiner : Bool) : BreakState :=
  { last := some c
    beforeSpaces := if c == .SP then (if s.last == some .SP then s.beforeSpaces else s.last) else none
    hebrewHyphen := (c == .HY || c == .BA) && s.last == some .HL
    oddRegional := c == .RI && !(s.last == some .RI && s.oddRegional)
    afterJoiner := joiner }

/-- Reads one character of class `raw`: whether the line may break before
it, and the state after it. -/
def step (s : BreakState) (raw : BreakClass) : Bool × BreakState :=
  let joiner := raw == .ZWJ
  let alone := if raw.isMark then .AL else raw
  match s.last with
  | none => (false, s.push alone joiner)
  | some prev =>
    if raw.isMark && prev.carriesMarks then (false, { s with afterJoiner := joiner })
    else (!s.afterJoiner && s.breaksBetween prev alone, s.push alone joiner)

end BreakState

/-- The byte offsets at which a line of text may break, in increasing order;
the end of a nonempty text is one of them. -/
def breakOffsets (cs : List Char) : List Nat :=
  let rec go (s : BreakState) (offset : Nat) : List Char → List Nat
    | [] => if s.last.isNone then [] else [offset]
    | c :: rest =>
      let (allowed, s') := s.step (BreakClass.ofChar c)
      if allowed then offset :: go s' (offset + c.utf8Size) rest
      else go s' (offset + c.utf8Size) rest
  go {} 0 cs

end Text

end AssetBroker
