import AssetBroker.Toml.Scan
import AssetBroker.Binary64.Read

/-!
# TOML lexemes

The pieces of a TOML document below the level of tables: blanks, comments,
line ends, keys, the four forms of strings, integers in four bases,
floating-point numbers and date-times.

Each scanner fails the way the document's error report needs: where it
stopped, with the label of what it was reading and what it expected. A
scanner commits (see `Scan.commit`) as soon as the text can no longer be
anything else, such as after the opening quote of a string or the `0x` of
a hexadecimal integer.
-/

namespace AssetBroker

namespace Toml

open Scan

/-- A blank within a line: space or tab. -/
def isBlankChar (c : Char) : Bool := c == ' ' || c == '\t'

/-- A character outside ASCII. -/
def isWide (c : Char) : Bool := c.toNat ≥ 0x80

def isCommentChar (c : Char) : Bool :=
  c == '\t' || (0x20 ≤ c.toNat && c.toNat ≤ 0x7E) || isWide c

/-- A character of a bare key: ASCII letters, digits, `_` and `-`. -/
def isBareKeyChar (c : Char) : Bool :=
  (c.toNat < 0x80 && c.isAlphanum) || c == '_' || c == '-'

/-- A character that stands for itself in a basic string. -/
def isBasicChar (c : Char) : Bool :=
  isBlankChar c || c.toNat == 0x21 || (0x23 ≤ c.toNat && c.toNat ≤ 0x5B) ||
    (0x5D ≤ c.toNat && c.toNat ≤ 0x7E) || isWide c

/-- A character allowed in a literal string. -/
def isLiteralChar (c : Char) : Bool :=
  c == '\t' || (0x20 ≤ c.toNat && c.toNat ≤ 0x26) || (0x28 ≤ c.toNat && c.toNat ≤ 0x7E) || isWide c

def isDecDigit (c : Char) : Bool := '0' ≤ c && c ≤ '9'

def isHexDigit (c : Char) : Bool :=
  isDecDigit c || ('a' ≤ c && c ≤ 'f') || ('A' ≤ c && c ≤ 'F')

def hexDigitValue (c : Char) : Nat :=
  if isDecDigit c then c.toNat - '0'.toNat
  else if 'a' ≤ c && c ≤ 'f' then c.toNat - 'a'.toNat + 10
  else c.toNat - 'A'.toNat + 10

def digitsIn (base : Nat) (s : String) : Nat :=
  s.toList.foldl (fun n c => n * base + hexDigitValue c) 0

def isScalar (n : Nat) : Bool := n < 0xD800 || (0xE000 ≤ n && n ≤ 0x10FFFF)

def blanks : Scan Unit := do
  let _ ← takeWhile isBlankChar

/-- A line break: `\n` or `\r\n`. -/
def newline : Scan Unit :=
  firstOf [char '\n', do char '\r'; char '\n']

/-- A comment, from `#` to the end of the line, line break excluded. -/
def comment : Scan Unit := do
  char '#'
  let _ ← takeWhile isCommentChar

/-- The end of a line: a line break or the end of the text. -/
def lineEnd : Scan Unit :=
  firstOf [newline, fun c => if c.rest.isEmpty then .ok ((), c) else .error ⟨c.offset, Trouble.bare, false⟩]

/-- What may follow a value or header on its line: blanks, a comment, and
the end of the line. -/
def lineTrailing : Scan Unit := do
  blanks
  let _ ← attempt comment
  lineEnd

/-- Blanks, comments and line breaks between the items of an array. -/
def gapFuel : Nat → Scan Unit
  | 0 => pure ()
  | n + 1 => do
    blanks
    match ← peek with
    | some '#' => do comment; newline; gapFuel n
    | some '\n' | some '\r' => do newline; gapFuel n
    | _ => pure ()

/-- Blanks, comments and line breaks, as many as there are. -/
def gap : Scan Unit := fun c => gapFuel (c.rest.length + 1) c

/-! ## Strings -/

/-- Exactly `n` hexadecimal digits naming a Unicode scalar value. -/
def hexEscape (n : Nat) : Scan Char :=
  refine (verify (fun c =>
      let run := (c.rest.take n).takeWhile isHexDigit
      .ok (String.ofList run, ⟨c.rest.drop run.length, c.offset + run.length⟩)) (·.length == n))
    fun s =>
      let v := digitsIn 16 s
      if isScalar v then .ok (Char.ofNat v) else .error "value is out of range"

/-- The character after a backslash in a basic string. -/
def escapeChar : Scan Char := do
  match ← any with
  | 'b' => pure '\x08'
  | 'f' => pure '\x0c'
  | 'n' => pure '\n'
  | 'r' => pure '\r'
  | 't' => pure '\t'
  | '\\' => pure '\\'
  | '"' => pure '"'
  | 'u' => labelled "unicode 4-digit hex code" (commit (hexEscape 4))
  | 'U' => labelled "unicode 8-digit hex code" (commit (hexEscape 8))
  | _ =>
    expecting ["`b`", "`f`", "`n`", "`r`", "`t`", "`u`", "`U`", "`\\`", "`\"`"]
      (labelled "escape sequence" (commit miss))

def escaped : Scan String := do
  char '\\'
  let c ← escapeChar
  pure (String.singleton c)

/-- A piece of a basic string: a run of plain characters or one escape. -/
def basicPiece : Scan String := firstOf [takeWhile1 isBasicChar, escaped]

/-- A string in double quotes, on one line. -/
def basicString : Scan String := do
  char '"'
  let pieces ← many basicPiece
  labelled "basic string" (commit (char '"'))
  pure (String.join pieces)

/-- A string in single quotes, taken as written. -/
def literalString : Scan String := do
  char '\''
  let s ← takeWhile isLiteralChar
  labelled "literal string" (commit (char '\''))
  pure s

/-- A backslash at the end of a line in a multi-line basic string: it and
all blanks and line breaks after it are dropped. -/
def lineContinuation : Scan String := do
  char '\\'
  blanks
  newline
  let _ ← many (firstOf [newline, do let _ ← takeWhile1 isBlankChar])
  let _ ← many (do char '\\'; blanks; newline; let _ ← many (firstOf [newline, do let _ ← takeWhile1 isBlankChar]))
  pure ""

/-- A piece of a multi-line basic string other than quotes. -/
def multiBasicPiece : Scan String :=
  firstOf [takeWhile1 isBasicChar, lineContinuation, escaped, do newline; pure "\n"]

/-- The length of the run of `q` characters that starts `cs`. -/
def runLength (q : Char) (cs : List Char) : Nat := (cs.takeWhile (· == q)).length

/-- The body of a multi-line string up to its closing delimiter. A run of
one or two quote characters followed by more text belongs to the body; a
run of three or more closes it, and up to two quotes before the closing
three still belong to the body. -/
def multiBodyFuel (q : Char) (piece : Scan String) : Nat → List String → Scan String
  | 0, acc => fun c => .ok (String.join acc.reverse, c)
  | n + 1, acc => fun c =>
    match piece c with
    | .ok (s, c2) => multiBodyFuel q piece n (s :: acc) c2
    | .error f =>
      if f.committed then .error f
      else
        let run := runLength q c.rest
        let done := String.join acc.reverse
        if run == 0 then .ok (done, c)
        else if run ≥ 3 then
          let extra := min (run - 3) 2
          .ok (done ++ String.ofList (List.replicate extra q), ⟨c.rest.drop extra, c.offset + extra⟩)
        else if (c.rest.drop run).isEmpty then .ok (done, c)
        else
          let quotes := String.ofList (List.replicate run q)
          let after : Cursor := ⟨c.rest.drop run, c.offset + run⟩
          match piece after with
          | .ok (s, c3) => multiBodyFuel q piece n (s :: quotes :: acc) c3
          | .error f2 => if f2.committed then .error f2 else .ok (done, after)

/-- A multi-line string in triple double quotes, with escapes. A line
break right after the opening quotes is dropped. -/
def multiBasicString : Scan String :=
  labelled "multiline basic string" do
    word "\"\"\""
    let _ ← attempt newline
    let body ← commit (fun c => multiBodyFuel '"' multiBasicPiece (c.rest.length + 1) [] c)
    commit (word "\"\"\"")
    pure body

/-- A piece of a multi-line literal string other than quotes, as written. -/
def multiLiteralPiece : Scan String :=
  firstOf [recognize (satisfy fun c => c != '\'' && isLiteralChar c),
    recognize newline]

/-- A multi-line string in triple single quotes, taken as written. -/
def multiLiteralString : Scan String :=
  labelled "multiline literal string" do
    word "'''"
    let _ ← attempt newline
    let body ← commit (fun c => multiBodyFuel '\'' multiLiteralPiece (c.rest.length + 1) [] c)
    commit (word "'''")
    pure body

/-- A string value in any of its four forms. -/
def stringValue : Scan String :=
  firstOf [multiBasicString, basicString, multiLiteralString, literalString]

/-! ## Keys -/

/-- One key: bare, or quoted in either form. -/
def simpleKey : Scan Key := do
  let (name, span) ← spanned do
    match ← peek with
    | some '"' => basicString
    | some '\'' => literalString
    | _ => takeWhile1 isBareKeyChar
  pure ⟨name, span⟩

/-- A dotted key: one or more keys joined by dots, blanks allowed around
each. -/
def dottedKey : Scan (List Key) :=
  labelled "key" (sepBy1 (do blanks; let k ← simpleKey; blanks; pure k) (char '.'))

/-! ## Numbers -/

/-- A digit of a class, or an underscore that must be followed by one. -/
def digitOrJoin (p : Char → Bool) : Scan Unit :=
  firstOf [do let _ ← satisfy p,
    do char '_'; let _ ← expecting ["digit"] (commit (satisfy p))]

/-- A decimal integer with an optional sign and no leading zero. -/
def decimalInteger : Scan String :=
  labelled "integer" (recognize do
    let _ ← attempt (satisfy fun c => c == '+' || c == '-')
    firstOf [
      do let _ ← satisfy (fun c => '1' ≤ c && c ≤ '9'); let _ ← many (digitOrJoin isDecDigit),
      do let _ ← satisfy isDecDigit])

/-- Digits where leading zeros are allowed. -/
def zeroPrefixable : Scan Unit := do
  let _ ← satisfy isDecDigit
  let _ ← many (digitOrJoin isDecDigit)

def fraction : Scan Unit := do
  char '.'
  expecting ["digit"] (commit zeroPrefixable)

def exponentPart : Scan Unit := do
  let _ ← satisfy fun c => c == 'e' || c == 'E'
  let _ ← attempt (satisfy fun c => c == '+' || c == '-')
  commit zeroPrefixable

/-- The text of a finite float: an integer part, then an exponent or a
fraction with an optional exponent. -/
def floatText : Scan String :=
  recognize do
    let _ ← decimalInteger
    firstOf [exponentPart, do fraction; let _ ← attempt exponentPart]

/-- The text without underscores. -/
def dropJoins (s : String) : String := String.ofList (s.toList.filter (· != '_'))

/-- `inf` or `nan` with an optional sign. -/
def specialFloat : Scan Binary64 := do
  let sign ← attempt (satisfy fun c => c == '+' || c == '-')
  let x ← firstOf [do word "inf"; pure Binary64.infinity, do word "nan"; pure Binary64.nan]
  pure (if sign == some '-' then x.neg else x)

/-- A floating-point number. Text that rounds to positive infinity is
refused, at the start of the number. -/
def floatValue : Scan Binary64 :=
  labelled "floating-point number" (firstOf [
    fun c =>
      match floatText c with
      | .ok (text, c2) =>
        match Binary64.readText? (dropJoins text) with
        | some x => if x == Binary64.infinity then .error ⟨c.offset, Trouble.bare, true⟩ else .ok (x, c2)
        | none => .error ⟨c.offset, Trouble.bare, true⟩
      | .error e => .error e,
    specialFloat])

/-- Digits of a base after its prefix, underscores allowed between them. -/
def prefixedDigits (pfx : String) (p : Char → Bool) (what : String) : Scan String :=
  labelled what do
    word pfx
    commit (recognize do
      let _ ← satisfy p
      let _ ← many (digitOrJoin p))

/-- The range of the integer type. -/
def fitsInteger (n : Int) : Bool := -0x8000000000000000 ≤ n && n < 0x8000000000000000

/-- Reads an integer in a base, refusing one too large for the integer
type. -/
def unsignedIn (base : Nat) (s : String) : Except String Int :=
  let n := digitsIn base (dropJoins s)
  if n < 0x8000000000000000 then .ok n else .error "number too large to fit in target type"

/-- Reads a signed decimal integer, refusing one outside the integer type. -/
def signedDecimal (s : String) : Except String Int :=
  let t := dropJoins s
  let (negative, digits) := match t.toList with
    | '-' :: ds => (true, ds)
    | '+' :: ds => (false, ds)
    | ds => (false, ds)
  let magnitude : Int := digitsIn 10 (String.ofList digits)
  let n := if negative then -magnitude else magnitude
  if fitsInteger n then .ok n
  else if negative then .error "number too small to fit in target type"
  else .error "number too large to fit in target type"

/-- An integer: hexadecimal, octal or binary after `0x`, `0o`, `0b`, or
decimal with a sign. -/
def integerValue : Scan Int := do
  match ← peekMany 2 with
  | ['0', 'x'] => commit (refine (prefixedDigits "0x" isHexDigit "hexadecimal integer") (unsignedIn 16))
  | ['0', 'o'] => commit (refine (prefixedDigits "0o" (fun c => '0' ≤ c && c ≤ '7') "octal integer") (unsignedIn 8))
  | ['0', 'b'] => commit (refine (prefixedDigits "0b" (fun c => c == '0' || c == '1') "binary integer") (unsignedIn 2))
  | _ => fun c =>
    match decimalInteger c with
    | .ok (text, c2) =>
      match signedDecimal text with
      | .ok n => .ok (n, c2)
      | .error cause => .error ⟨c.offset, Trouble.because cause, true⟩
    | .error e => .error e

/-! ## Date-times -/

/-- Exactly `n` decimal digits as a number. -/
def fixedDigits (n : Nat) : Scan Nat := do
  let s ← takeExactly n isDecDigit
  pure (digitsIn 10 s)

/-- Two digits within a range. -/
def boundedPair (lo hi : Nat) : Scan Nat :=
  refine (fixedDigits 2) fun v => if lo ≤ v && v ≤ hi then .ok v else .error "value is out of range"

def isLeapYear (y : Nat) : Bool := y % 4 == 0 && (y % 100 != 0 || y % 400 == 0)

def daysInMonth (y m : Nat) : Nat :=
  if m == 2 then (if isLeapYear y then 29 else 28)
  else if m == 4 || m == 6 || m == 9 || m == 11 then 30 else 31

/-- A number written with at least `width` digits. -/
def padded (width n : Nat) : String :=
  let s := toString n
  String.ofList (List.replicate (width - s.length) '0') ++ s

/-- A calendar date `YYYY-MM-DD`. -/
def fullDate : Scan String := do
  let y ← fixedDigits 4
  char '-'
  let m ← commit (boundedPair 1 12)
  commit (char '-')
  let d ← commit (fun c =>
    match boundedPair 1 31 c with
    | .ok (d, c2) =>
      if d ≤ daysInMonth y m then .ok (d, c2)
      else .error ⟨c.offset, Trouble.because "value is out of range", true⟩
    | .error e => .error e)
  pure (padded 4 y ++ "-" ++ padded 2 m ++ "-" ++ padded 2 d)

/-- Fractional seconds as nanoseconds: digits past the ninth are dropped. -/
def secondFraction : Scan Nat := do
  char '.'
  let s ← takeWhile1 isDecDigit
  let kept := s.toList.take 9
  pure (digitsIn 10 (String.ofList kept) * Nat.pow 10 (9 - kept.length))

/-- The text of nanoseconds after the seconds: none when zero, otherwise a
point and the digits without trailing zeros. -/
def nanosText (ns : Nat) : String :=
  if ns == 0 then ""
  else
    let digits := (padded 9 ns).toList
    "." ++ String.ofList (digits.reverse.dropWhile (· == '0')).reverse

/-- A time of day `HH:MM:SS` with optional fractional seconds. -/
def partialTime : Scan String := do
  let h ← boundedPair 0 23
  char ':'
  commit do
    let m ← boundedPair 0 59
    char ':'
    let s ← boundedPair 0 60
    let ns ← attempt secondFraction
    pure (padded 2 h ++ ":" ++ padded 2 m ++ ":" ++ padded 2 s ++ nanosText (ns.getD 0))

/-- A time offset: `Z` or a signed `HH:MM`. -/
def timeOffset : Scan String :=
  labelled "time offset" (firstOf [
    do let _ ← satisfy (fun c => c == 'Z' || c == 'z'); pure "Z",
    do
      let sign ← satisfy (fun c => c == '+' || c == '-')
      let (h, m) ← commit (do
        let h ← boundedPair 0 23
        char ':'
        let m ← boundedPair 0 59
        pure (h, m))
      let total := h * 60 + m
      let shown := if sign == '-' && total != 0 then "-" else "+"
      pure (shown ++ padded 2 (total / 60) ++ ":" ++ padded 2 (total % 60))])

/-- A date-time, a local date, or a local time, as its canonical text. -/
def dateTimeValue : Scan String :=
  labelled "date-time" (firstOf [
    do
      let date ← fullDate
      let time ← attempt do
        let _ ← satisfy fun c => c == 'T' || c == 't' || c == ' '
        let t ← partialTime
        let o ← attempt timeOffset
        pure (t ++ o.getD "")
      pure (match time with | some t => date ++ "T" ++ t | none => date),
    partialTime])

end Toml

end AssetBroker
