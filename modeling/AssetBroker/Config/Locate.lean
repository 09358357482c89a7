import AssetBroker.Text.Blank

/-!
# Finding a setting in configuration text

To point an error at the text that caused it, the configuration keeps the
text of each file it read, lowest precedence first, and looks settings up
line by line:

* a line whose first non-blank character is `[` opens a table, named by the
  text up to the first `]` with brackets and blanks trimmed from both ends;
* a key is found at the start of a line (after blanks) inside its table,
  when the rest of the line begins, after blanks, with `=`;
* a value of a key is its `n`-th double-quoted occurrence (counting from
  zero, occurrences not overlapping) in the statement that starts at the key
  and runs to the next line feed followed by `[`.

Offsets and lengths count bytes of the UTF-8 text. The file of highest
precedence that has the setting answers.
-/

namespace AssetBroker

/-- A byte range in a text. -/
structure Span where
  offset : Nat
  len : Nat
  deriving DecidableEq, Repr, Inhabited

/-- The text files a configuration was read from, lowest precedence first. -/
structure SourceSet where
  files : List (String × String)
  deriving Inhabited

namespace SourceSet

/-- The name of the table a header line opens. -/
def headerName (afterBracket : List Char) : List Char :=
  let inside := afterBracket.takeWhile (· != ']')
  let isTrim (c : Char) := c == '[' || Text.isBlank c
  ((inside.dropWhile isTrim).reverse.dropWhile isTrim).reverse

/-- One line of the search for a key, after the table name, the byte offset
and the key's offset found so far: a header line names the table that
follows, and a line of table `wanted` that starts with `key` and then `=`
gives the key's offset. Nothing changes once an offset is found. -/
def keyLineStep (wanted key : List Char) (state : List Char × Nat × Option Nat)
    (line : List Char) : List Char × Nat × Option Nat :=
  let (table, offset, found) := state
  match found with
  | some _ => state
  | none =>
    let trimmed := Text.trimStart line
    let indent := Text.byteLength line - Text.byteLength trimmed
    let next := offset + Text.byteLength line
    match trimmed with
    | '[' :: header => (headerName header, next, none)
    | _ =>
      if table == wanted && Text.startsWith trimmed key &&
          Text.startsWith (Text.trimStart (trimmed.drop key.length)) ['=']
      then (table, next, some (offset + indent))
      else (table, next, none)

/-- The byte offset of `key` at the start of a line of table `table`. -/
def keyOffset (content : List Char) (wanted key : List Char) : Option Nat :=
  ((Text.splitLinesInclusive content).foldl (keyLineStep wanted key) ([], 0, none)).2.2

/-- The length in bytes of the statement at the start of `text`: up to the
first line feed followed by `[`, or the whole text. -/
def statementLength (text : List Char) : Nat :=
  let rec go (cs : List Char) (acc : Nat) : Nat :=
    match cs with
    | [] => acc
    | '\n' :: '[' :: _ => acc
    | c :: rest => go rest (acc + c.utf8Size)
  go text 0

/-- Byte offsets of the non-overlapping occurrences of `pattern` in `text`. -/
def occurrences (text pattern : List Char) : List Nat :=
  let rec go (cs : List Char) (offset : Nat) (fuel : Nat) : List Nat :=
    match fuel with
    | 0 => []
    | fuel + 1 =>
      match cs with
      | [] => []
      | c :: rest =>
        if !pattern.isEmpty && Text.startsWith cs pattern then
          offset :: go (cs.drop pattern.length) (offset + Text.byteLength pattern) fuel
        else go rest (offset + c.utf8Size) fuel
  go text 0 (text.length + 1)

/-- The highest-precedence file, among those `file` admits, where `find`
succeeds: the span found and the file's name. -/
def locate (s : SourceSet) (file : Option String) (find : List Char → Option Span) :
    Option (Span × String) :=
  s.files.reverse.findSome? fun (name, content) =>
    if file.all (· == name) then (find content.toList).map fun span => (span, name) else none

/-- The span of `key`, set in table `table`, in a text. -/
def keySpan (table key : String) (content : List Char) : Option Span :=
  (keyOffset content table.toList key.toList).map fun offset => ⟨offset, key.utf8ByteSize⟩

def locateKey (s : SourceSet) (file : Option String) (table key : String) : Option (Span × String) :=
  s.locate file (keySpan table key)

/-- The span of the `nth` occurrence of `quoted` in the value of `key`, set
in table `table`, in a text. -/
def valueSpan (table key : String) (quoted : List Char) (nth : Nat) (content : List Char) :
    Option Span :=
  match keyOffset content table.toList key.toList with
  | none => none
  | some start =>
    let rest := Text.dropBytes start content
    let statement := Text.takeBytes (statementLength rest) rest
    (occurrences statement quoted)[nth]?.map fun offset => ⟨start + offset, Text.byteLength quoted⟩

/-- Where the `nth` double-quoted occurrence of `value` stands in the value
of `key` in table `table`. -/
def locateValue (s : SourceSet) (table key value : String) (nth : Nat) : Option (Span × String) :=
  s.locate none (valueSpan table key (('"' :: value.toList) ++ ['"']) nth)

end SourceSet

end AssetBroker
