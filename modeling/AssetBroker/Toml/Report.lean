import AssetBroker.Toml.Read

/-!
# Reporting an error in a TOML document

An error that points into the document is shown with its line: a heading
with the line and column (both from one), the line itself behind a gutter
with its number, and carets under the span, cut at the end of the line and
never fewer than one. An error that points nowhere is its message alone.

Columns count characters, except where the error points into the middle of
a character, where the bytes before it are counted instead.
-/

namespace AssetBroker

namespace Toml

def bytesOf (text : String) : List UInt8 := text.toUTF8.toList

/-- The line and column, both from zero, of a byte offset. An offset at or
past the end stands after the last byte. -/
def position (text : String) (index : Nat) : Nat × Nat :=
  let bytes := bytesOf text
  if bytes.isEmpty then (0, index)
  else
    let safe := min index (bytes.length - 1)
    let beyond := index - safe
    let before := bytes.take safe
    let lineStart := match (before.reverse.findIdx? (· == 10)) with
      | some back => safe - back
      | none => 0
    let line := (bytes.take lineStart).count 10
    let slice := ByteArray.mk ((bytes.drop lineStart).take (safe + 1 - lineStart)).toArray
    let column := match String.fromUTF8? slice with
      | some s => s.length - 1 + beyond
      | none => safe - lineStart + beyond
    (line, column)

def spaces (n : Nat) : String := String.ofList (List.replicate n ' ')

/-- The text of an error in a document: the line it points at with carets
under its span, then the message. -/
def ReadError.render (e : ReadError) (text : String) : String :=
  match e.span with
  | none => e.message ++ "\n"
  | some span =>
    let (line, column) := position text span.start
    let lineNumber := toString (line + 1)
    let gutter := lineNumber.length
    let content := (text.splitOn "\n").getD line ""
    let width := min (span.stop - span.start) (content.utf8ByteSize - column)
    "TOML parse error at line " ++ lineNumber ++ ", column " ++ toString (column + 1) ++ "\n" ++
      spaces (gutter + 1) ++ "|\n" ++
      lineNumber ++ " | " ++ content ++ "\n" ++
      spaces (gutter + 1) ++ "|" ++ spaces (column + 1) ++
      String.ofList (List.replicate (max width 1) '^') ++ "\n" ++
      e.message ++ "\n"

end Toml

end AssetBroker
