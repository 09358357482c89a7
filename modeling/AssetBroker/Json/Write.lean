import AssetBroker.Json.Basic
import AssetBroker.Binary64.Text

/-!
# Writing JSON text

Two layouts of one value: `Json.compact`, with no blank at all, and
`Json.pretty`, with one field or item per line indented by two spaces and
`": "` after a key. Empty arrays and objects are written `[]` and `{}` in both.

A string escapes the quote, the backslash and the control characters below
`U+0020`: the usual short escapes where one exists, `\u00XX` with lower-case
hexadecimal digits otherwise. Every other character is written as it is.
Integers are written exactly; other numbers in the JSON decimal layout.
-/

namespace AssetBroker

namespace Json

/-- A lower-case hexadecimal digit. -/
def hexDigit (n : Nat) : Char :=
  if n < 10 then Char.ofNat ('0'.toNat + n) else Char.ofNat ('a'.toNat + n - 10)

/-- The escaped form of one character inside a string. -/
def escapeChar (c : Char) : List Char :=
  if c == '"' then ['\\', '"']
  else if c == '\\' then ['\\', '\\']
  else if c == '\n' then ['\\', 'n']
  else if c == '\r' then ['\\', 'r']
  else if c == '\t' then ['\\', 't']
  else if c.toNat == 8 then ['\\', 'b']
  else if c.toNat == 12 then ['\\', 'f']
  else if c.toNat < 0x20 then ['\\', 'u', '0', '0', hexDigit (c.toNat / 16), hexDigit (c.toNat % 16)]
  else [c]

/-- A string in double quotes, escaped. -/
def quote (s : String) : String :=
  String.ofList ('"' :: (s.toList.flatMap escapeChar ++ ['"']))

def scalarText : Json → String
  | null => "null"
  | bool b => if b then "true" else "false"
  | int n => toString n
  | float x => x.jsonText
  | str s => quote s
  | arr _ => "[]"
  | obj _ => "\x7b\x7d"

def compact : Json → String
  | arr items => "[" ++ ",".intercalate (items.attach.map fun ⟨j, _⟩ => compact j) ++ "]"
  | obj fields =>
    "\x7b" ++ ",".intercalate (fields.attach.map fun ⟨(k, j), _⟩ => quote k ++ ":" ++ compact j) ++ "\x7d"
  | j => scalarText j
decreasing_by
  all_goals simp_wf
  · exact sizeOf_lt_of_mem_items (by assumption)
  · exact sizeOf_lt_of_mem_fields (by assumption)

/-- Two spaces per level. -/
def indent (level : Nat) : String := String.ofList (List.replicate (2 * level) ' ')

/-- The text with one item per line; `level` is the depth of the value. -/
def prettyAt (level : Nat) : Json → String
  | arr [] => "[]"
  | obj [] => "\x7b\x7d"
  | arr items =>
    let inner := items.attach.map fun ⟨j, _⟩ => indent (level + 1) ++ prettyAt (level + 1) j
    "[\n" ++ ",\n".intercalate inner ++ "\n" ++ indent level ++ "]"
  | obj fields =>
    let inner := fields.attach.map fun ⟨(k, j), _⟩ =>
      indent (level + 1) ++ quote k ++ ": " ++ prettyAt (level + 1) j
    "\x7b\n" ++ ",\n".intercalate inner ++ "\n" ++ indent level ++ "\x7d"
  | j => scalarText j
termination_by j => sizeOf j
decreasing_by
  all_goals simp_wf
  · exact sizeOf_lt_of_mem_items (by assumption)
  · exact sizeOf_lt_of_mem_fields (by assumption)

/-- The text with one item per line, indented by two spaces. -/
def pretty (j : Json) : String := prettyAt 0 j

end Json

end AssetBroker
