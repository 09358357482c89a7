import AssetBroker.Json.Read
import AssetBroker.Binary64.Text
import AssetBroker.Text.Blank
import AssetBroker.Text.Debug

/-!
# Catalog state tokens

The in-memory catalog persists a state as the JSON object
`{"id":<n>,"parent":<m>|null}`. Reading a token accepts what the common
typed JSON reader accepts for a record of an unsigned 64-bit `id` and an
optional `parent`: an object whose other keys are skipped (a missing
`parent` is none, a repeated key is refused), or an array of exactly the two
values. A refused token is reported as `<what> at line L column C`, with the
column counted in bytes, at the place that reader reports it: for a syntax
error usually one past the offending character, for a value of the wrong
kind just after that value, and for a missing or repeated field after the
text the record was read up to.
-/

namespace AssetBroker

namespace Token

def write (id : UInt64) (parent : Option UInt64) : String :=
  "\x7b\"id\":" ++ toString id ++ ",\"parent\":" ++
    (match parent with
      | some p => toString p
      | none => "null") ++ "\x7d"

/-- A refusal: its message and the byte offset it is reported at. -/
structure Fault where
  message : String
  offset : Nat

/-- The text still to read and the number of bytes read. -/
structure Cursor where
  rest : List Char
  consumed : Nat

/-- A reader of a prefix of the token. -/
abbrev Reader (α : Type) := StateT Cursor (Except Fault) α

def failHere {α : Type} (message : String) : Reader α := do
  throw ⟨message, (← get).consumed⟩

/-- Fails one byte past the current position, unless the text has ended. -/
def failAhead {α : Type} (message : String) : Reader α := do
  let c ← get
  throw ⟨message, if c.rest.isEmpty then c.consumed else c.consumed + 1⟩

def peek? : Reader (Option Char) := return (← get).rest.head?

def eat : Reader Unit :=
  modify fun c => match c.rest with
    | [] => c
    | ch :: r => ⟨r, c.consumed + ch.utf8Size⟩

/-- Skips blanks: space, tab, line feed and carriage return. -/
def skipBlank : Reader Unit :=
  modify fun c =>
    let blank := c.rest.takeWhile fun ch => ch == ' ' || ch == '\t' || ch == '\n' || ch == '\r'
    ⟨c.rest.drop blank.length, c.consumed + blank.length⟩

/-- Runs a reader of the plain JSON reader on the text that is left. Its
failures are reported just past the character it names. -/
def plain {α : Type} (r : Json.Reader α) : Reader α := do
  let c ← get
  match r c.rest with
  | .ok (v, rest) =>
    set (⟨rest, c.consumed + (Text.byteLength c.rest - Text.byteLength rest)⟩ : Cursor)
    return v
  | .error e =>
    let read := c.rest.take (c.rest.length - e.remaining)
    let named := (c.rest.drop read.length).head?.map Char.utf8Size
    throw ⟨e.message, c.consumed + Text.byteLength read + (if e.remaining == 0 then 0 else named.getD 0)⟩

/-- Consumes the rest of a keyword whose first letter was read. -/
def keyword (word : List Char) : Reader Unit := do
  for expected in word do
    match ← peek? with
    | none => failHere "EOF while parsing a value"
    | some ch =>
      eat
      if ch != expected then failHere "expected ident"

def number : Reader Json := plain Json.readNumber

def stringBody : Reader String := plain fun cs => Json.readStringBody [] cs (cs.length + 1)

/-- How a value of the wrong kind is described. -/
def numberText : Json → String
  | .int n => "integer `" ++ toString n ++ "`"
  | .float x => "floating point `" ++ x.jsonText ++ "`"
  | _ => "value"

/-- Refuses the value that starts here, which is not of the kind `expected`. -/
def wrongKind {α : Type} (expected : String) : Reader α := do
  let refuse (what : String) : Reader α := failHere ("invalid type: " ++ what ++ ", expected " ++ expected)
  match ← peek? with
  | some 'n' => eat; keyword ['u', 'l', 'l']; refuse "null"
  | some 't' => eat; keyword ['r', 'u', 'e']; refuse "boolean `true`"
  | some 'f' => eat; keyword ['a', 'l', 's', 'e']; refuse "boolean `false`"
  | some '"' => eat; let s ← stringBody; refuse ("string " ++ debugQuote s)
  | some '[' => refuse "sequence"
  | some '{' => refuse "map"
  | some c =>
    if c == '-' || c.isDigit then refuse (numberText (← number))
    else failAhead "expected value"
  | none => failAhead "expected value"

/-- An unsigned 64-bit number. -/
def unsigned : Reader UInt64 := do
  skipBlank
  match ← peek? with
  | none => failAhead "EOF while parsing a value"
  | some c =>
    if c == '-' || c.isDigit then
      match ← number with
      | .int n =>
        if 0 ≤ n then return n.toNat.toUInt64
        else failHere ("invalid value: integer `" ++ toString n ++ "`, expected u64")
      | other => failHere ("invalid type: " ++ numberText other ++ ", expected u64")
    else wrongKind "u64"

/-- An optional unsigned 64-bit number: `null` or a number. -/
def optionalUnsigned : Reader (Option UInt64) := do
  skipBlank
  match ← peek? with
  | some 'n' => eat; keyword ['u', 'l', 'l']; return none
  | _ => return some (← unsigned)

def skipValue : Reader Unit :=
  plain fun cs => (Json.skipValue cs (cs.length + 2)).map fun rest => ((), rest)

/-- The expected form, as the typed reader names it. -/
def expected : String := "struct MockState"

/-- Fails, after consuming a closing `}` if one follows, with a message
that carries no place of its own. -/
def failClosing {α : Type} (closing : Char) (message : String) : Reader α := do
  skipBlank
  if (← peek?) == some closing then eat
  failHere message

/-- The fields of an object after its `{`, up to its `}`; `first` tells
whether no field has been read yet. -/
def fields (id : Option UInt64) (parent : Option (Option UInt64)) (first : Bool) :
    Nat → Reader (UInt64 × Option UInt64)
  | 0 => failHere "recursion limit exceeded"
  | fuel + 1 => do
    skipBlank
    let start ← peek?
    let key? ← match start with
      | some '}' => pure none
      | some ',' =>
        if first then failAhead "key must be a string"
        else
          eat
          skipBlank
          pure (some ())
      | some _ => if first then pure (some ()) else failAhead "expected `,` or `\x7d`"
      | none => failAhead "EOF while parsing an object"
    match key? with
    | none =>
      eat
      match id with
      | some n => return (n, parent.getD none)
      | none => failHere "missing field `id`"
    | some () =>
      match ← peek? with
      | some '"' =>
        eat
        let key ← stringBody
        if (key == "id" && id.isSome) || (key == "parent" && parent.isSome) then
          failClosing '}' ("duplicate field `" ++ key ++ "`")
        skipBlank
        match ← peek? with
        | some ':' => eat
        | none => failAhead "EOF while parsing an object"
        | some _ => failAhead "expected `:`"
        if key == "id" then fields (some (← unsigned)) parent false fuel
        else if key == "parent" then fields id (some (← optionalUnsigned)) false fuel
        else
          skipValue
          fields id parent false fuel
      | some '}' => failAhead "trailing comma"
      | some _ => failAhead "key must be a string"
      | none => failAhead "EOF while parsing a value"

/-- The two elements of an array after its `[`, up to its `]`. -/
def elements : Reader (UInt64 × Option UInt64) := do
  let lengthFault (n : Nat) : String :=
    "invalid length " ++ toString n ++ ", expected " ++ expected ++ " with 2 elements"
  skipBlank
  match ← peek? with
  | some ']' => failClosing ']' (lengthFault 0)
  | none => failAhead "EOF while parsing a list"
  | some _ => pure ()
  let id ← unsigned
  skipBlank
  match ← peek? with
  | some ']' => failClosing ']' (lengthFault 1)
  | some ',' => eat
  | none => failAhead "EOF while parsing a list"
  | some _ => failAhead "expected `,` or `]`"
  skipBlank
  match ← peek? with
  | some ']' => failAhead "trailing comma"
  | none => failAhead "EOF while parsing a value"
  | some _ => pure ()
  let parent ← optionalUnsigned
  skipBlank
  match ← peek? with
  | some ']' => eat
  | some ',' =>
    eat
    skipBlank
    if (← peek?) == some ']' then failAhead "trailing comma" else failAhead "trailing characters"
  | none => failAhead "EOF while parsing a list"
  | some _ => failAhead "trailing characters"
  return (id, parent)

/-- A whole token. -/
def record : Reader (UInt64 × Option UInt64) := do
  skipBlank
  let state ← match ← peek? with
    | none => failAhead "EOF while parsing a value"
    | some '{' =>
      eat
      fields none none true ((← get).rest.length + 1)
    | some '[' =>
      eat
      elements
    | some _ => wrongKind expected
  skipBlank
  if (← peek?).isSome then failAhead "trailing characters"
  return state

/-- Line and column (in bytes, from zero at a line's start) of a byte offset. -/
def place (text : String) (offset : Nat) : Nat × Nat :=
  let before := (text.toUTF8.toList.take offset)
  before.foldl (fun (line, col) (b : UInt8) => if b == 10 then (line + 1, 0) else (line, col + 1)) (1, 0)

/-- Reads a token: the state's number and its parent's, or why it is refused. -/
def read (text : String) : Except String (UInt64 × Option UInt64) :=
  match record.run ⟨text.toList, 0⟩ with
  | .ok (v, _) => .ok v
  | .error f =>
    let (line, col) := place text f.offset
    .error (f.message ++ " at line " ++ toString line ++ " column " ++ toString col)

end Token

end AssetBroker
