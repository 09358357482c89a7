import AssetBroker.Config.Diagnostic
import AssetBroker.Text.Wrap
import AssetBroker.Text.Blank

/-!
# Reports of configuration errors

A report shows an error to a person, in plain text 200 columns wide:

```text
assetio::config::unknown_key

  x unknown key `serach_paths` in [plugins]
   ,-[/etc/assetio.toml:2:1]
 1 | [plugins]
 2 | serach_paths = 3
   : ^^^^^^|^^^^^
   :       `-- not a recognized key
 3 | [logging]
   `----
  help: did you mean `search_paths`? ...
```

The code, a blank line, the message after ` x ` (later lines after ` | `),
then, when the error points into a file, that file's lines around the spot
(one before and one after), and last the help. The spot's line and column
(counted in bytes, from one) name where it starts; it is underlined with `^`
and its label hangs from the middle of the underline. Line numbers are
right-aligned to the widest shown. Tabs in shown lines are expanded to
stops every four columns.

Windows of text are counted in bytes: a window runs from the start of the
`before`-th line above the spot to the end of the `after`-th line below it,
a line break being a line feed, a carriage return, or both together.
-/

namespace AssetBroker

namespace Config

/-- The window of a text around a span: its byte range, the line it starts
on (from zero) and, for a window with no lines before the span, the column
where the span starts. -/
structure Window where
  start : Nat
  stop : Nat
  line : Nat
  column : Nat
  deriving Repr, Inhabited

/-- The state of a window's scan. -/
structure WindowScan where
  offset : Nat := 0
  startLine : Nat := 0
  startColumn : Nat := 0
  /-- The starts of the lines kept before the span. -/
  starts : List Nat := []
  lineStart : Nat := 0
  endLines : Nat := 0
  postSpan : Bool := false
  gotNewline : Bool := false
  deriving Inhabited

namespace WindowScan

/-- The end of the span less one: the last byte it covers. -/
def lastByte (span : Span) : Nat := span.offset + span.len - 1

/-- The scan of one byte; `done` when the window is complete. The byte is a
line break when `lineBreak`, and `extra` more bytes belong to it. -/
def step (span : Span) (before after : Nat) (s : WindowScan) (lineBreak : Bool) (extra : Nat) :
    WindowScan × Bool :=
  let s := { s with offset := s.offset + extra }
  let broken : WindowScan × Bool :=
    if !lineBreak then
      (if s.offset < span.offset then { s with startColumn := s.startColumn + 1 } else s, false)
    else if s.offset < span.offset then
      let starts := s.starts ++ [s.lineStart]
      let s := if starts.length > before then
          { s with startColumn := 0, startLine := s.startLine + 1, starts := starts.tail }
        else { s with startColumn := 0, starts }
      ({ s with lineStart := s.offset + 1 }, false)
    else if s.offset ≥ span.offset + (span.len - 1) && s.postSpan then
      let s := if s.gotNewline then { s with startColumn := 0, endLines := s.endLines + 1 }
        else { s with startColumn := 0, gotNewline := true }
      if s.endLines ≥ after then ({ s with offset := s.offset + 1 }, true)
      else ({ s with lineStart := s.offset + 1 }, false)
    else ({ s with lineStart := s.offset + 1 }, false)
  match broken with
  | (s, true) => (s, true)
  | (s, false) =>
    if s.offset ≥ lastByte span then
      let s := { s with postSpan := true }
      if s.endLines ≥ after then ({ s with offset := s.offset + 1 }, true)
      else ({ s with offset := s.offset + 1 }, false)
    else ({ s with offset := s.offset + 1 }, false)

/-- Scans bytes until the window is complete or the text ends. -/
def run (span : Span) (before after : Nat) : WindowScan → List UInt8 → WindowScan
  | s, [] => s
  | s, 13 :: 10 :: rest =>
    match s.step span before after true 1 with
    | (s, true) => s
    | (s, false) => run span before after s rest
  | s, b :: rest =>
    match s.step span before after (b == 10 || b == 13) 0 with
    | (s, true) => s
    | (s, false) => run span before after s rest

end WindowScan

/-- The window of `before` lines above and `after` lines below a span, if
the span lies within the text. -/
def window? (text : String) (span : Span) (before after : Nat) : Option Window :=
  let s := WindowScan.run span before after {} text.toUTF8.toList
  if s.offset ≥ WindowScan.lastByte span then
    some { start := s.starts.head?.getD (if before == 0 then span.offset else 0), stop := s.offset,
           line := s.startLine, column := if before == 0 then s.startColumn else 0 }
  else none

/-- A line shown in a report: its number (from one), byte offset, length in
bytes with its line break, and characters without the break. -/
structure ShownLine where
  number : Nat
  offset : Nat
  length : Nat
  text : List Char
  deriving Repr, Inhabited

/-- Splits a window's text into lines, numbering from the line after
`line`. -/
def shownLines (line offset : Nat) (cs : List Char) : List ShownLine :=
  let rec go (line column offset lineOffset : Nat) (current : List Char) : List Char → List ShownLine
    | [] => []
    | '\r' :: '\n' :: rest =>
      let offset := offset + 2
      let line := line + 1
      ⟨line, lineOffset, offset - lineOffset, current⟩ :: go line 0 offset offset [] rest
    | c :: rest =>
      let offset := offset + c.utf8Size
      let (line, column, current, atEnd) :=
        if c == '\n' then (line + 1, 0, current, rest.isEmpty)
        else if c == '\r' then (line, column + 1, current ++ [c], rest.isEmpty)
        else (line, column + 1, current ++ [c], false)
      let line := if rest.isEmpty && !atEnd then line + 1 else line
      if column == 0 || rest.isEmpty then
        ⟨line, lineOffset, offset - lineOffset, current⟩ :: go line column offset offset [] rest
      else go line column offset lineOffset current rest
  go line 0 offset offset [] cs

/-- The columns of each character of a shown line, with tab stops every
four columns; from an escape character up to the next `m` nothing takes a
column. -/
def columnsOf (cs : List Char) : List Nat :=
  let step (acc : List Nat × Nat × Bool) (c : Char) : List Nat × Nat × Bool :=
    let (ws, column, escaped) := acc
    let (w, escaped) :=
      if escaped then (0, c != 'm')
      else if c == '\t' then (4 - column % 4, false)
      else if c == '\x1b' then (0, true)
      else (Unicode.snippetColumns c, false)
    (ws ++ [w], column + w, escaped)
  (cs.foldl step ([], 0, false)).1

def expandTabs (cs : List Char) : String :=
  String.join ((cs.zip (columnsOf cs)).map fun (c, w) =>
    if c == '\t' then String.ofList (List.replicate w ' ') else String.singleton c)

/-- The column where a byte offset of a line falls; past the end of the
text it is one past the last column. -/
def ShownLine.column (l : ShownLine) (offset : Nat) : Nat :=
  let index := offset - l.offset
  let taken := Text.takeBytes index l.text
  let w := (columnsOf l.text).take taken.length |>.foldl (· + ·) 0
  if index > Text.byteLength l.text then w + 1 else w

def ShownLine.touches (l : ShownLine) (span : Span) : Bool :=
  let len := max span.len 1
  (span.offset ≥ l.offset && span.offset < l.offset + l.length) ||
    (span.offset < l.offset && span.offset + len > l.offset + l.length) ||
    (span.offset + len > l.offset && span.offset + len ≤ l.offset + l.length)

def ShownLine.holds (l : ShownLine) (span : Span) : Bool :=
  span.offset ≥ l.offset && span.offset + span.len ≤ l.offset + l.length

def blanks (n : Nat) : String := String.ofList (List.replicate n ' ')

/-- The underline of a span on a line and the label hanging from it. -/
def underline (l : ShownLine) (span : Span) (label : Option String) (margin : String) : String :=
  let start := l.column span.offset
  let stop := if span.len == 0 then start + 1 else max (l.column (span.offset + span.len)) (start + 1)
  let middle := (start + stop) / 2
  let mark := if span.len == 0 then "^" else if label.isSome then "|" else "^"
  let marks := blanks start ++ String.ofList (List.replicate (middle - start) '^') ++ mark ++
    String.ofList (List.replicate (stop - middle - 1) '^')
  margin ++ marks ++ "\n" ++
    match label with
    | some text => margin ++ blanks middle ++ "`-- " ++ text ++ "\n"
    | none => ""

/-- The lines of a file around a span, framed and underlined. -/
def snippet (name text : String) (span : Span) (label : Option String) : Option String := do
  let context ← window? text span 1 1
  let spot ← window? text span 0 0
  let chars := Text.takeBytes (context.stop - context.start) (Text.dropBytes context.start text.toList)
  let lines := shownLines context.line context.start chars
  let digits := (toString ((lines.getLast?.map (·.number)).getD 0)).length
  let margin := " " ++ blanks digits ++ " : "
  let body := String.join (lines.map fun l =>
    let number := toString l.number
    " " ++ blanks (digits - number.length) ++ number ++ " | " ++ expandTabs l.text ++ "\n" ++
      if l.touches span && l.holds span then underline l span label margin else "")
  return blanks (digits + 2) ++ ",-[" ++ name ++ ":" ++ toString (spot.line + 1) ++ ":" ++
    toString (spot.column + 1) ++ "]\n" ++ body ++ blanks (digits + 2) ++ "`----\n"

/-- The width reports are laid out for, less the two columns kept free. -/
def reportWidth : Nat := 198

/-- The report of one error; `sources` holds the texts it may point into. -/
def ConfigError.report (sources : SourceSet) (e : ConfigError) : String :=
  let shown := match e.location with
    | some (span, name) =>
      match sources.files.reverse.find? (·.1 == name) with
      | some (_, text) => (snippet name text span e.label).getD ""
      | none => ""
    | none => ""
  let help := match e.help with
    | some h => Text.fill h reportWidth "  help: " "        " ++ "\n"
    | none => ""
  e.code ++ "\n\n" ++ Text.fill e.message reportWidth "  x " "  | " ++ "\n" ++ shown ++ help

/-- The reports of several errors, one after another. -/
def reportAll (sources : SourceSet) (errors : List ConfigError) : String :=
  String.join (errors.map (ConfigError.report sources))

end Config

end AssetBroker
