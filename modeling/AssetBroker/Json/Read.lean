import AssetBroker.Json.Basic
import AssetBroker.Binary64.Read
import AssetBroker.Binary64.Arith

/-!
# Reading JSON text

A recursive-descent reader over the characters of the text. Each call
consumes at least one character before it recurses, so the length of the
text bounds the depth and serves as fuel.

A failure names what was expected and where, as `<what> at line L column C`,
counting columns from one at the first character of a line.
-/

namespace AssetBroker

namespace Json

/-- A reading failure: the message and how many characters were left unread. -/
structure ReadError where
  message : String
  remaining : Nat

/-- A reader of a prefix of the text. -/
abbrev Reader (α : Type) := List Char → Except ReadError (α × List Char)

def failAt {α : Type} (message : String) (rest : List Char) : Except ReadError α :=
  .error ⟨message, rest.length⟩

/-- Skips blanks: space, tab, line feed and carriage return. -/
def skipBlank (cs : List Char) : List Char :=
  cs.dropWhile fun c => c == ' ' || c == '\t' || c == '\n' || c == '\r'

def hexValue? (c : Char) : Option Nat :=
  if '0' ≤ c && c ≤ '9' then some (c.toNat - '0'.toNat)
  else if 'a' ≤ c && c ≤ 'f' then some (c.toNat - 'a'.toNat + 10)
  else if 'A' ≤ c && c ≤ 'F' then some (c.toNat - 'A'.toNat + 10)
  else none

/-- Four hexadecimal digits. The four characters are read before they are
checked, so a bad digit is reported at the fourth; fewer than four left is
the end of the text. -/
def readHex4 (cs : List Char) : Except ReadError (Nat × List Char) :=
  match cs with
  | a :: b :: c :: d :: rest =>
    match hexValue? a, hexValue? b, hexValue? c, hexValue? d with
    | some w, some x, some y, some z => .ok (((w * 16 + x) * 16 + y) * 16 + z, rest)
    | _, _, _, _ => failAt "invalid escape" (d :: rest)
  | _ => failAt "EOF while parsing a string" []

/-- The character of a short escape such as `\n`. -/
def shortEscape? (e : Char) : Option Char :=
  match e with
  | '"' => some '"' | '\\' => some '\\' | '/' => some '/'
  | 'b' => some (Char.ofNat 8) | 'f' => some (Char.ofNat 12)
  | 'n' => some '\n' | 'r' => some '\r' | 't' => some '\t'
  | _ => none

def isLeadingSurrogate (n : Nat) : Bool := 0xD800 ≤ n && n < 0xDC00

def isTrailingSurrogate (n : Nat) : Bool := 0xDC00 ≤ n && n < 0xE000

/-- What follows the escape `\u` of a leading surrogate `hi`, found in
`rest`: a second escape `\u` of a trailing surrogate makes one character
with it. Anything else is refused where the reader gives up: at the
character that stands where the second escape should be, or after the
four digits of a second escape that is no trailing surrogate. -/
def pairedSurrogate (hi : Nat) (rest : List Char) : Except ReadError (Char × List Char) :=
  match rest with
  | [] => failAt "EOF while parsing a string" []
  | ['\\'] => failAt "EOF while parsing a string" []
  | '\\' :: 'u' :: more =>
    match readHex4 more with
    | .error err => .error err
    | .ok (lo, rest3) =>
      if isTrailingSurrogate lo then
        .ok (Char.ofNat (0x10000 + (hi - 0xD800) * 0x400 + (lo - 0xDC00)), rest3)
      else failAt "lone leading surrogate in hex escape" (more.drop 3)
  | '\\' :: other => failAt "unexpected end of hex escape" other
  | other => failAt "unexpected end of hex escape" other

/-- The characters of a string body up to its closing quote, which is
consumed. Escapes are decoded, and a surrogate pair makes one character;
a surrogate that is not part of a pair is refused. -/
def readStringBody (acc : List Char) : List Char → Nat → Except ReadError (String × List Char)
  | _, 0 => failAt "EOF while parsing a string" []
  | [], _ => failAt "EOF while parsing a string" []
  | c :: rest, fuel + 1 =>
    if c == '"' then .ok (String.ofList acc.reverse, rest)
    else if c == '\\' then
      match rest with
      | [] => failAt "EOF while parsing a string" []
      | e :: rest' =>
        match shortEscape? e with
        | some ch => readStringBody (ch :: acc) rest' fuel
        | none =>
          if e != 'u' then failAt "invalid escape" (e :: rest')
          else
            match readHex4 rest' with
            | .error err => .error err
            | .ok (hi, rest2) =>
              if isTrailingSurrogate hi then failAt "lone leading surrogate in hex escape" (rest'.drop 3)
              else if isLeadingSurrogate hi then
                match pairedSurrogate hi rest2 with
                | .error err => .error err
                | .ok (ch, rest3) => readStringBody (ch :: acc) rest3 fuel
              else readStringBody (Char.ofNat hi :: acc) rest2 fuel
    else if c.toNat < 0x20 then
      failAt "control character (\\u0000-\\u001F) found while parsing a string" (c :: rest)
    else readStringBody (c :: acc) rest fuel

/-- The largest value of the 64-bit digit accumulator. -/
def accumulatorMax : Nat := 0xFFFFFFFFFFFFFFFF

/-- Whether appending digit `d` to the accumulator `acc` would leave its range. -/
def overflows (acc d : Nat) : Bool :=
  acc ≥ accumulatorMax / 10 && (acc > accumulatorMax / 10 || d > accumulatorMax % 10)

/-- Appends decimal digits to the accumulator while they fit. Returns the
accumulator and how many digits it took; the first digit that does not fit
and all after it are left. -/
def accumulate (acc : Nat) : List Char → Nat × Nat
  | [] => (acc, 0)
  | c :: rest =>
    let d := c.toNat - '0'.toNat
    if overflows acc d then (acc, 0)
    else
      let (a, n) := accumulate (acc * 10 + d) rest
      (a, n + 1)

/-- `significand * 10^exponent` by one rounded multiplication or division by
the binary64 nearest to a power of ten, as the streaming reader computes it;
a power beyond `10^308` is applied in steps of `10^308`. A product that
overflows is refused. -/
def scaleByPowerOfTen (negative : Bool) (significand : Nat) (exponent : Int) :
    Except String Binary64 :=
  let rec go (f : Binary64) (e : Int) : Nat → Except String Binary64
    | 0 => .ok f
    | fuel + 1 =>
      if e.natAbs ≤ 308 then
        if e ≥ 0 then
          let g := f.mul (Binary64.powTen e.toNat)
          if g.isInfinite then .error "number out of range" else .ok g
        else .ok (f.div (Binary64.powTen e.natAbs))
      else if f.isZero then .ok f
      else if e ≥ 0 then .error "number out of range"
      else go (f.div (Binary64.powTen 308)) (e + 308) fuel
  match go (Binary64.ofRatio false significand 1) exponent 4 with
  | .ok f => .ok (if negative then f.neg else f)
  | .error e => .error e

/-- The largest exponent the reader's 32-bit exponent holds. -/
def exponentMax : Nat := 0x7FFFFFFF

/-- A binary64 scaled from the digits, as a number ending at `rest`, or the
failure of the scaling there. -/
def scaledNumber (r : Except String Binary64) (rest : List Char) : Except ReadError (Json × List Char) :=
  match r with
  | .ok x => .ok (.float x, rest)
  | .error m => failAt m rest

/-- A literal integer: unsigned when positive, signed when negative and
representable, a binary64 otherwise (this includes `-0`). -/
def integerOrFloat (negative : Bool) (sig : Nat) (rest : List Char) :
    Except ReadError (Json × List Char) :=
  if !negative then .ok (.int sig, rest)
  else if sig != 0 && sig ≤ 0x8000000000000000 then .ok (.int (-(sig : Int)), rest)
  else .ok (.float (Binary64.ofRatio true sig 1), rest)

/-- The exponent of a number, after its `e` or `E`: an optional sign and at
least one digit, applied to the significand `sig` and the decimal exponent
`exp10` gathered before it. An exponent beyond the reader's 32-bit range
gives a zero, or is refused when it would enlarge a non-zero value. -/
def readExponent (negative : Bool) (sig : Nat) (exp10 : Int) (r : List Char) :
    Except ReadError (Json × List Char) :=
  let (expNegative, r2) := match r with
    | '+' :: r3 => (false, r3)
    | '-' :: r3 => (true, r3)
    | r3 => (false, r3)
  let expDigits := r2.takeWhile Char.isDigit
  let rest := r2.dropWhile Char.isDigit
  if expDigits.isEmpty then
    if r2.isEmpty then failAt "EOF while parsing a value" [] else failAt "invalid number" r2
  else
    let expValue := Binary64.digitsValue expDigits
    if expValue > exponentMax then
      if sig != 0 && !expNegative then failAt "number out of range" rest
      else .ok (.float (if negative then Binary64.negZero else Binary64.zero), rest)
    else
      let total : Int := if expNegative then exp10 - expValue else exp10 + expValue
      scaledNumber (scaleByPowerOfTen negative sig total) rest

/-- What ends a number after its digits and fraction: an exponent, or
nothing more. When `scaled` (a fraction was given, or the integer digits
overflowed the accumulator) the value is `sig * 10^exp10`; otherwise the
integer digits `sigWhole` are a literal integer. -/
def numberEnd (negative : Bool) (sig : Nat) (exp10 : Int) (scaled : Bool) (sigWhole : Nat) :
    List Char → Except ReadError (Json × List Char)
  | e :: r =>
    if e == 'e' || e == 'E' then readExponent negative sig exp10 r
    else if scaled then scaledNumber (scaleByPowerOfTen negative sig exp10) (e :: r)
    else integerOrFloat negative sigWhole (e :: r)
  | [] =>
    if scaled then scaledNumber (scaleByPowerOfTen negative sig exp10) []
    else integerOrFloat negative sigWhole []

/-- A number after its sign. The leading digits are gathered while they fit
64 bits, later integer digits only scale the value and later fraction digits
are dropped; the value is then scaled by `scaleByPowerOfTen`. -/
def readUnsigned (negative : Bool) (body : List Char) : Except ReadError (Json × List Char) :=
  let whole := body.takeWhile Char.isDigit
  let afterWhole := body.dropWhile Char.isDigit
  if whole.isEmpty then
    if body.isEmpty then failAt "EOF while parsing a value" [] else failAt "invalid number" body
  else if whole.length > 1 && whole.head? == some '0' then failAt "invalid number" (body.drop 1)
  else
    let (sigWhole, takenWhole) := accumulate 0 whole
    let expWhole : Int := (whole.length - takenWhole : Nat)
    match afterWhole with
    | '.' :: r =>
      let frac := r.takeWhile Char.isDigit
      let afterFrac := r.dropWhile Char.isDigit
      if frac.isEmpty then
        if afterFrac.isEmpty then failAt "EOF while parsing a value" [] else failAt "invalid number" afterFrac
      else
        let (sigFrac, takenFrac) := accumulate sigWhole frac
        numberEnd negative sigFrac (expWhole - takenFrac) true sigWhole afterFrac
    | r => numberEnd negative sigWhole expWhole (takenWhole < whole.length) sigWhole r

/-- A number, read the way the common streaming reader does. An integer
without fraction or exponent that fits 64 bits (unsigned, or signed when
negative) stays an integer; `-0` and wider integers become binary64. -/
def readNumber (cs : List Char) : Except ReadError (Json × List Char) :=
  match cs with
  | '-' :: body => readUnsigned true body
  | body => readUnsigned false body

/-- The rest of a keyword whose first letter was read: refused at the first
character that differs, or as the end of a value when the text ends. -/
def expectWord : List Char → List Char → Except ReadError (Unit × List Char)
  | [], rest => .ok ((), rest)
  | _ :: _, [] => failAt "EOF while parsing a value" []
  | w :: ws, c :: rest => if c == w then expectWord ws rest else failAt "expected ident" (c :: rest)

/-- How many arrays and objects may nest: the hundred and twenty-eighth
is refused, at its opening bracket. -/
def depthLimit : Nat := 128

mutual

/-- One value, after optional blanks, with `depth` more levels of nesting
allowed. -/
def readValue : List Char → Nat → Nat → Except ReadError (Json × List Char)
  | _, 0, _ => failAt "recursion limit exceeded" []
  | cs, fuel + 1, depth =>
    match skipBlank cs with
    | [] => failAt "EOF while parsing a value" []
    | c :: rest =>
      if c == '{' || c == '[' then
        if depth ≤ 1 then failAt "recursion limit exceeded" (c :: rest)
        else if c == '{' then readFields [] rest fuel (depth - 1)
        else readItems [] rest fuel (depth - 1)
      else if c == '"' then
        match readStringBody [] rest (rest.length + 1) with
        | .ok (s, r) => .ok (.str s, r)
        | .error e => .error e
      else if c == 't' then (expectWord ['r', 'u', 'e'] rest).map fun (_, r) => (.bool true, r)
      else if c == 'f' then (expectWord ['a', 'l', 's', 'e'] rest).map fun (_, r) => (.bool false, r)
      else if c == 'n' then (expectWord ['u', 'l', 'l'] rest).map fun (_, r) => (.null, r)
      else if c == '-' || c.isDigit then readNumber (c :: rest)
      else failAt "expected value" (c :: rest)

/-- The items of an array after its `[`, up to and including `]`. -/
def readItems (acc : List Json) : List Char → Nat → Nat → Except ReadError (Json × List Char)
  | _, 0, _ => failAt "recursion limit exceeded" []
  | cs, fuel + 1, depth =>
    match skipBlank cs with
    | ']' :: rest =>
      if acc.isEmpty then .ok (.arr [], rest) else failAt "trailing comma" rest
    | cs' =>
      match readValue cs' fuel depth with
      | .error e => .error e
      | .ok (v, rest) =>
        match skipBlank rest with
        | ',' :: rest' => readItems (v :: acc) rest' fuel depth
        | ']' :: rest' => .ok (.arr (v :: acc).reverse, rest')
        | [] => failAt "EOF while parsing a list" []
        | other => failAt "expected `,` or `]`" other

/-- The fields of an object after its `{`, up to and including `}`. -/
def readFields (acc : List (String × Json)) : List Char → Nat → Nat → Except ReadError (Json × List Char)
  | _, 0, _ => failAt "recursion limit exceeded" []
  | cs, fuel + 1, depth =>
    match skipBlank cs with
    | '}' :: rest =>
      if acc.isEmpty then .ok (.obj [], rest) else failAt "trailing comma" rest
    | '"' :: rest =>
      match readStringBody [] rest (rest.length + 1) with
      | .error e => .error e
      | .ok (key, rest') =>
        match skipBlank rest' with
        | ':' :: rest2 =>
          match readValue rest2 fuel depth with
          | .error e => .error e
          | .ok (v, rest3) =>
            match skipBlank rest3 with
            | ',' :: more => readFields ((key, v) :: acc) more fuel depth
            | '}' :: more => .ok (.obj ((key, v) :: acc).reverse, more)
            | [] => failAt "EOF while parsing an object" []
            | other => failAt "expected `,` or `\x7d`" other
        | [] => failAt "EOF while parsing an object" []
        | other => failAt "expected `:`" other
    | [] => failAt "EOF while parsing an object" []
    | other => failAt "key must be a string" other

end

/-! ## Skipping a value

A value that is read only to be passed over is checked for its syntax
alone: escapes need four hexadecimal digits after `\u` but may name any
code unit, numbers may be of any size, and nesting is not limited. Some
refusals are placed differently from reading: a control character in a
string is reported at the character before it. -/

/-- Skips a string body up to and including its closing quote. -/
def skipStringBody : List Char → Nat → Except ReadError (List Char)
  | _, 0 => failAt "EOF while parsing a string" []
  | [], _ => failAt "EOF while parsing a string" []
  | c :: rest, fuel + 1 =>
    if c == '"' then .ok rest
    else if c == '\\' then
      match rest with
      | [] => failAt "EOF while parsing a string" []
      | e :: rest' =>
        if (shortEscape? e).isSome then skipStringBody rest' fuel
        else if e == 'u' then
          match readHex4 rest' with
          | .error err => .error err
          | .ok (_, rest2) => skipStringBody rest2 fuel
        else failAt "invalid escape" (e :: rest')
    else if c.toNat < 0x20 then
      .error ⟨"control character (\\u0000-\\u001F) found while parsing a string", rest.length + 2⟩
    else skipStringBody rest fuel

/-- Skips the digits of a number after its optional minus sign: one `0` or
a run of digits not starting with `0`, then an optional fraction and
exponent, each needing a digit. -/
def skipNumberBody (cs : List Char) : Except ReadError (List Char) :=
  let afterInteger : Except ReadError (List Char) :=
    match cs with
    | '0' :: rest =>
      match rest with
      | d :: _ => if d.isDigit then failAt "invalid number" rest else .ok rest
      | [] => .ok []
    | d :: rest => if d.isDigit then .ok (rest.dropWhile Char.isDigit) else failAt "invalid number" (d :: rest)
    | [] => failAt "invalid number" []
  let exponent (cs : List Char) : Except ReadError (List Char) :=
    let afterSign := match cs with
      | '+' :: r => r
      | '-' :: r => r
      | r => r
    match afterSign with
    | d :: rest => if d.isDigit then .ok (rest.dropWhile Char.isDigit) else failAt "invalid number" (d :: rest)
    | [] => failAt "invalid number" []
  match afterInteger with
  | .error e => .error e
  | .ok rest =>
    match rest with
    | '.' :: frac =>
      match frac with
      | d :: more =>
        if d.isDigit then
          match more.dropWhile Char.isDigit with
          | e :: r => if e == 'e' || e == 'E' then exponent r else .ok (e :: r)
          | [] => .ok []
        else failAt "invalid number" frac
      | [] => failAt "invalid number" []
    | e :: r => if e == 'e' || e == 'E' then exponent r else .ok (e :: r)
    | [] => .ok []

mutual

/-- Skips one value after optional blanks. -/
def skipValue : List Char → Nat → Except ReadError (List Char)
  | _, 0 => failAt "EOF while parsing a value" []
  | cs, fuel + 1 =>
    match skipBlank cs with
    | [] => failAt "EOF while parsing a value" []
    | c :: rest =>
      if c == '{' then skipFields true rest fuel
      else if c == '[' then skipItems true rest fuel
      else if c == '"' then skipStringBody rest (rest.length + 1)
      else if c == 't' then (expectWord ['r', 'u', 'e'] rest).map (·.2)
      else if c == 'f' then (expectWord ['a', 'l', 's', 'e'] rest).map (·.2)
      else if c == 'n' then (expectWord ['u', 'l', 'l'] rest).map (·.2)
      else if c == '-' then skipNumberBody rest
      else if c.isDigit then skipNumberBody (c :: rest)
      else failAt "expected value" (c :: rest)

/-- Skips the items of an array after its `[` or after a comma, up to and
including `]`; `first` tells whether no item has been read. -/
def skipItems (first : Bool) : List Char → Nat → Except ReadError (List Char)
  | _, 0 => failAt "EOF while parsing a list" []
  | cs, fuel + 1 =>
    match skipBlank cs with
    | [] => failAt "EOF while parsing a list" []
    | ']' :: rest => if first then .ok rest else failAt "expected value" (']' :: rest)
    | cs' =>
      match skipValue cs' fuel with
      | .error e => .error e
      | .ok rest =>
        match skipBlank rest with
        | ',' :: rest' => skipItems false rest' fuel
        | ']' :: rest' => .ok rest'
        | [] => failAt "EOF while parsing a list" []
        | other => failAt "expected `,` or `]`" other

/-- Skips the fields of an object after its `{` or after a comma, up to and
including `}`; `first` tells whether no field has been read. -/
def skipFields (first : Bool) : List Char → Nat → Except ReadError (List Char)
  | _, 0 => failAt "EOF while parsing an object" []
  | cs, fuel + 1 =>
    match skipBlank cs with
    | [] => failAt "EOF while parsing an object" []
    | '}' :: rest => if first then .ok rest else failAt "key must be a string" ('}' :: rest)
    | '"' :: rest =>
      match skipStringBody rest (rest.length + 1) with
      | .error e => .error e
      | .ok rest' =>
        match skipBlank rest' with
        | ':' :: rest2 =>
          match skipValue rest2 fuel with
          | .error e => .error e
          | .ok rest3 =>
            match skipBlank rest3 with
            | ',' :: more => skipFields false more fuel
            | '}' :: more => .ok more
            | [] => failAt "EOF while parsing an object" []
            | other => failAt "expected `,` or `\x7d`" other
        | [] => failAt "EOF while parsing an object" []
        | other => failAt "expected `:`" other
    | other => failAt "key must be a string" other

end

/-- Line and column (both from one) of the character at `index`. -/
def position (cs : List Char) (index : Nat) : Nat × Nat :=
  (cs.take index).foldl (fun (line, col) c => if c == '\n' then (line + 1, 0) else (line, col + 1)) (1, 0)

/-- Reads a whole text as one JSON value; blanks may follow it. -/
def parse (text : String) : Except String Json :=
  let cs := text.toList
  let located (e : ReadError) : String :=
    let index := cs.length - e.remaining
    let (line, col) := position cs (if e.remaining == 0 then cs.length else index + 1)
    let what := e.message
    s!"{what} at line {line} column {col}"
  match readValue cs (cs.length + 2) depthLimit with
  | .error e => .error (located e)
  | .ok (v, rest) =>
    match skipBlank rest with
    | [] => .ok v
    | other => .error (located ⟨"trailing characters", other.length⟩)

end Json

end AssetBroker
