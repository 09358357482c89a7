import AssetBroker.Config.Tree
import AssetBroker.Binary64.Read
import AssetBroker.Text.Blank
import AssetBroker.Unicode.Table

/-!
# Values of environment variables

An environment variable holds text, but a setting may need a flag or a
list. Its text is read leniently:

* `true` and `false` are flags;
* `[a, b]` is a list and `{k = v, ...}` a table of such values;
* `"text"` is a string with backslash escapes, and `'c'` the string of
  one character;
* any other run of characters up to `,`, brackets or braces, trimmed, is a
  number when it reads as one (a decimal point makes it a float; otherwise
  an unsigned or a signed integer) and a string when not.

Blanks around values are skipped. If the text is not one whole value, it is
taken as a string just as it is.
-/

namespace AssetBroker

namespace Config

/-- An ASCII blank as the lenient reader skips it. -/
def isAsciiBlank (c : Char) : Bool :=
  c == ' ' || c == '\t' || c == '\n' || c == '\r' || c == '\x0c'

/-- A character that ends a bare value. -/
def isSeparator (c : Char) : Bool := c == ',' || c == '{' || c == '}' || c == '[' || c == ']'

/-- A character of a bare table key. -/
def isKeyChar (c : Char) : Bool := (c.toNat < 0x80 && c.isAlphanum) || c == '_' || c == '-'

/-- Reads a run of decimal digits with an optional leading sign as an
integer, if it is one. -/
def integerText? (allowMinus : Bool) (s : String) : Option Int :=
  let cs := s.toList
  let (negative, digits) := match cs with
    | '+' :: ds => (false, ds)
    | '-' :: ds => (allowMinus, if allowMinus then ds else cs)
    | ds => (false, ds)
  if digits.isEmpty || !digits.all Char.isDigit then none
  else
    let n := digits.foldl (fun acc c => acc * 10 + (c.toNat - '0'.toNat)) 0
    if negative then (if n ≤ 0x8000000000000000 then some (-(n : Int)) else none)
    else if allowMinus then (if n < 0x8000000000000000 then some n else none)
    else if n ≤ 0xFFFFFFFFFFFFFFFF then some n else none

def bareValue (word : String) : Tree :=
  let l := Layer.environment
  let floatValue := if word.contains '.' then Binary64.readText? word else none
  match floatValue with
  | some x => .float x l
  | none =>
    match integerText? false word with
    | some n => .unsigned n.toNat l
    | none =>
      match integerText? true word with
      | some n => .signed n l
      | none => .str word l

/-- A character a quoted string may hold as it is: the tab, and every
character from the space up except delete. -/
def isStringChar (c : Char) : Bool := c == '\t' || (c.toNat ≥ 0x20 && c.toNat != 0x7F)

def isAsciiHex (c : Char) : Bool :=
  ('0' ≤ c && c ≤ '9') || ('a' ≤ c && c ≤ 'f') || ('A' ≤ c && c ≤ 'F')

/-- The character named by the first `n` characters, when they are
hexadecimal digits and name a Unicode scalar value. -/
def hexChar? (n : Nat) (cs : List Char) : Option Char :=
  let digits := cs.take n
  if digits.length == n && digits.all isAsciiHex then
    let v := digits.foldl (fun acc c => acc * 16 + Unicode.hexDigit c) 0
    if v < 0xD800 || (0xE000 ≤ v && v ≤ 0x10FFFF) then some (Char.ofNat v) else none
  else none

/-- Undoes the escapes of a quoted string's body: `\"`, `\\`, `\b`, `\f`,
`\n`, `\r`, `\t`, and `\u` or `\U` with four or eight hexadecimal digits.
Any other escape, an escape naming no character, and a character a string
may not hold make the body unreadable. -/
def unescape? : Nat → List Char → Option (List Char)
  | 0, _ => some []
  | _, [] => some []
  | fuel + 1, '\\' :: e :: rest =>
    let simple := match e with
      | '"' => some '"' | '\\' => some '\\' | 'b' => some (Char.ofNat 8)
      | 'f' => some (Char.ofNat 12) | 'n' => some '\n' | 'r' => some '\r' | 't' => some '\t'
      | _ => none
    match simple with
    | some c => (unescape? fuel rest).map (c :: ·)
    | none =>
      let width := if e == 'u' then 4 else if e == 'U' then 8 else 0
      if width == 0 then none
      else do
        let c ← hexChar? width rest
        let tail ← unescape? fuel (rest.drop width)
        pure (c :: tail)
  | _, ['\\'] => none
  | fuel + 1, c :: rest => if isStringChar c then (unescape? fuel rest).map (c :: ·) else none

/-- The body of a quoted string up to its closing quote, and the rest. A
backslash keeps the character after it in the body. -/
def quotedBody : List Char → List Char → Option (List Char × List Char)
  | acc, '\\' :: c :: rest => quotedBody (c :: '\\' :: acc) rest
  | acc, '"' :: rest => some (acc.reverse, rest)
  | acc, c :: rest => quotedBody (c :: acc) rest
  | _, [] => none

def skipBlanks (cs : List Char) : List Char := cs.dropWhile isAsciiBlank

mutual

/-- Reads one value and the blanks around it, with `fuel` bounding nesting
and list length. -/
def envValue : Nat → List Char → Option (Tree × List Char)
  | 0, _ => none
  | n + 1, cs =>
    let cs := skipBlanks cs
    let done (t : Tree) (rest : List Char) : Option (Tree × List Char) := some (t, skipBlanks rest)
    if cs.take 4 == ['t', 'r', 'u', 'e'] then done (.bool true .environment) (cs.drop 4)
    else if cs.take 5 == ['f', 'a', 'l', 's', 'e'] then done (.bool false .environment) (cs.drop 5)
    else
      match cs with
      | '[' :: rest => do
        let (items, after) ← envItems n [] rest
        done (.array items .environment) after
      | '{' :: rest => do
        let (entries, after) ← envEntries n [] rest
        done (.dict (Tree.sortedEntries entries) .environment) after
      | '"' :: rest => do
        let (body, after) ← quotedBody [] rest
        let text ← unescape? (body.length + 1) body
        done (.str (String.ofList text) .environment) after
      | '\'' :: c :: '\'' :: rest => done (.str (String.singleton c) .environment) rest
      | '\'' :: _ => none
      | _ =>
        let word := cs.takeWhile (fun c => !isSeparator c)
        let rest := cs.dropWhile (fun c => !isSeparator c)
        done (bareValue (String.ofList (Text.trim word))) rest

/-- Reads list items after `[` up to the closing `]`. The closing bracket
counts only where an item could start, so `[ ]` holds one empty item. -/
def envItems : Nat → List Tree → List Char → Option (List Tree × List Char)
  | 0, _, _ => none
  | n + 1, acc, cs =>
    match cs with
    | ']' :: rest => some (acc.reverse, rest)
    | _ => do
      let (item, after) ← envValue n cs
      match after with
      | ',' :: rest => envItems n (item :: acc) rest
      | ']' :: rest => some ((item :: acc).reverse, rest)
      | _ => none

/-- Reads table entries `key = value` after `{` up to the closing `}`. Keys
are bare: ASCII letters, digits, `_` and `-`. -/
def envEntries : Nat → List (String × Tree) → List Char → Option (List (String × Tree) × List Char)
  | 0, _, _ => none
  | n + 1, acc, cs =>
    match cs with
    | '}' :: rest => some (acc.reverse, rest)
    | _ =>
      let start := skipBlanks cs
      let key := start.takeWhile isKeyChar
      if key.isEmpty then none
      else
        match skipBlanks (start.drop key.length) with
        | '=' :: rest => do
          let (v, after) ← envValue n rest
          match after with
          | ',' :: more => envEntries n ((String.ofList key, v) :: acc) more
          | '}' :: more => some (((String.ofList key, v) :: acc).reverse, more)
          | _ => none
        | _ => none

end

def parseEnvValue (text : String) : Tree :=
  let cs := text.toList
  match envValue (cs.length + 2) cs with
  | some (t, []) => t
  | _ => .str text .environment

end Config

end AssetBroker
