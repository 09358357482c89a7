import AssetBroker.Toml.Lexeme
import AssetBroker.Toml.Document

/-!
# Reading a TOML document

`Toml.parse` reads a whole document into its root table, or reports the
first error with the span it points at. Values nest through arrays and
inline tables up to `nestingLimit` levels; the document is read line by
line, each line a comment, a table header, a key-value pair or blank.
-/

namespace AssetBroker

namespace Toml

open Scan

/-- Why a document could not be read or used: the message, and the span
it points at when there is one. -/
structure ReadError where
  message : String
  span : Option Span
  deriving Inhabited

/-- How deeply arrays and inline tables may nest: the eightieth container
inside a value is refused. -/
def nestingLimit : Nat := 80

/-- The keys before the last one, and the last one. -/
def splitLast (keys : List Key) : List Key × Key :=
  (keys.dropLast, keys.getLast?.getD default)

/-- Marks a failure as one of reading a string: what the reader expects
when a value starts with a character no value starts with. -/
def asString (p : Scan α) : Scan α := expecting ["`\"`", "`'`"] (labelled "string" p)

/-- A key-value pair inside braces. -/
def inlinePair (item : Scan Value) : Scan (List Key × Key × Value) := do
  let keys ← dottedKey
  commit do
    expecting ["`.`", "`=`"] (char '=')
    blanks
    let v ← item
    blanks
    let (pre, leaf) := splitLast keys
    pure (pre, leaf, v)

/-- An array: values separated by commas, with blanks, comments and line
breaks around them and an optional comma after the last. -/
def arrayOf (item : Scan Value) : Scan (List Value) := do
  char '['
  let items ← commit do
    let found ← attempt do
      let vs ← sepBy1 (do gap; let v ← item; gap; pure v) (char ',')
      let _ ← attempt (char ',')
      pure vs
    gap
    pure (found.getD [])
  expecting ["`]`"] (labelled "array" (commit (char ']')))
  pure items

/-- An inline table: key-value pairs separated by commas within braces, on
one line. -/
def inlineTableOf (item : Scan Value) : Scan Entries := do
  char '{'
  let entries ← commit (refine
    (do let ps ← sepBy (inlinePair item) (char ','); blanks; pure ps)
    (fun ps => (inlineEntries ps).mapError Clash.message))
  expecting ["`\x7d`"] (labelled "inline table" (commit (char '}')))
  pure entries

/-- A scanner that fails, committed, when values nest too deeply. -/
def tooDeep (opening : Char) : Scan α := do
  char opening
  commit (failWith (Trouble.because "recursion limit exceeded"))

/-- A value, chosen by its first character, with arrays and inline tables
nesting at most `depth` levels. -/
def valueAt : Nat → Scan Value
  | 0 => failWith (Trouble.because "recursion limit exceeded")
  | d + 1 => fun c =>
    let body : Scan (Span → Value) :=
      match c.rest.head? with
      | some '"' | some '\'' => do let s ← stringValue; pure (.string s)
      | some '[' =>
        if d == 0 then tooDeep '['
        else do let vs ← arrayOf (valueAt d); pure (.array vs)
      | some '{' =>
        if d == 0 then tooDeep '{'
        else do
          let es ← inlineTableOf (valueAt d)
          pure fun sp => .inline es TableForm.explicit (some sp)
      | some '_' => expecting ["leading digit"] (do let n ← integerValue; pure (.integer n))
      | some '.' => expecting ["leading digit"] (do let x ← floatValue; pure (.float x))
      | some 't' => asString (do word "true"; pure (.boolean true))
      | some 'f' => asString (do word "false"; pure (.boolean false))
      | some 'i' => asString (do word "inf"; pure (.float Binary64.infinity))
      | some 'n' => asString (do word "nan"; pure (.float Binary64.nan))
      | some ch =>
        if ch == '+' || ch == '-' || isDecDigit ch then
          firstOf [do let t ← dateTimeValue; pure (.datetime t),
            do let x ← floatValue; pure (.float x),
            do let n ← integerValue; pure (.integer n)]
        else asString miss
      | none => miss
    match spanned body c with
    | .ok ((mk, sp), c2) => .ok (mk sp, c2)
    | .error e => .error e

def keyValueLine (a : Assembly) : Scan Assembly :=
  refine (do
    let keys ← dottedKey
    commit do
      expecting ["`.`", "`=`"] (char '=')
      blanks
      let v ← valueAt nestingLimit
      expecting ["newline", "`#`"] lineTrailing
      pure (keys, v))
    (fun (keys, v) =>
      let (pre, leaf) := splitLast keys
      (a.setKey pre leaf v).mapError Clash.message)

/-- A `[header]` line. -/
def tableHeader (a : Assembly) : Scan Assembly :=
  refine (do
    let (keys, span) ← spanned do
      char '['
      let keys ← commit dottedKey
      expecting ["`.`", "`]`"] (commit (char ']'))
      pure keys
    expecting ["newline", "`#`"] (commit lineTrailing)
    pure (keys, span))
    (fun (keys, span) => (a.openTable keys span).mapError Clash.message)

/-- A `[[header]]` line. -/
def arrayTableHeader (a : Assembly) : Scan Assembly :=
  refine (do
    let (keys, span) ← spanned do
      word "[["
      let keys ← commit dottedKey
      expecting ["`.`", "`]]`"] (commit (word "]]"))
      pure keys
    expecting ["newline", "`#`"] (commit lineTrailing)
    pure (keys, span))
    (fun (keys, span) => (a.openArrayTable keys span).mapError Clash.message)

/-- A header line of either kind. -/
def header (a : Assembly) : Scan Assembly :=
  labelled "table header" fun c =>
    match c.rest.take 2 with
    | ['[', '['] => arrayTableHeader a c
    | [_, _] => tableHeader a c
    | _ => miss c

/-- The lines of a document, each followed by blanks. A line that does not
read ends the loop where it starts. -/
def linesFuel : Nat → Assembly → Scan Assembly
  | 0, a => pure a
  | n + 1, a => fun c =>
    match c.rest.head? with
    | none => .ok (a, c)
    | some ch =>
      let line : Scan Assembly :=
        if ch == '#' then commit (do comment; lineEnd; pure a)
        else if ch == '[' then commit (header a)
        else if ch == '\n' || ch == '\r' then (do newline; pure a)
        else commit (keyValueLine a)
      match (do let a2 ← line; blanks; pure a2) c with
      | .ok (a2, c2) => linesFuel n a2 c2
      | .error f => if f.committed then .error f else .ok (a, c)

/-- A whole document, after an optional byte order mark. -/
def document : Scan Assembly := do
  let _ ← attempt (char '\uFEFF')
  blanks
  let a ← fun c => linesFuel (c.rest.length + 1) Assembly.start c
  if ← atEnd then pure a else miss

/-- Reads a TOML document into its root table. An error in the text points
at the character where reading stopped (at the end, at nothing); a clash
found when the last table is put in place points nowhere. -/
def parse (text : String) : Except ReadError Value :=
  match document ⟨text.toList, 0⟩ with
  | .ok (a, _) => a.toValue.mapError fun clash => ⟨clash.message, none⟩
  | .error f =>
    let stop := if f.offset ≥ text.utf8ByteSize then f.offset else f.offset + 1
    .error ⟨f.trouble.message, some ⟨f.offset, stop⟩⟩

end Toml

end AssetBroker
