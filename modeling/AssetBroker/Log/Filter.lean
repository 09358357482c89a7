import AssetBroker.Log
import AssetBroker.Binary64.Read
import AssetBroker.Unicode.Properties
import AssetBroker.Text.Blank

/-!
# Which events a console shows

A filter is a list of directives, written comma-separated. A directive is a
level alone, or a selector with an optional `=level`:

* `target`: events whose target starts with it;
* `target[span]`, `[span]`: events inside a span of that name;
* `target[{field, field=value}]`, `[span{field}]`: events or spans with
  those fields.

Levels are named in any case (`trace`, `debug`, `info`, `warn`, `error`,
`off`) or numbered from `0` (off) to `5` (trace); a selector without a level
lets every level through, and so does `target=`.

A directive is read left to right with a small state machine. The first
character must be `[` (a span part without target) or a letter, digit,
`_`, `:` or `-` (a target, or a level alone); after that the target runs up
to `[` or `=`, so it may hold any other character, blanks included. A span
part ends at `]`, with its fields in braces separated by commas; after it,
only `=level` may follow. Blanks around the directive are skipped while
reading but kept in what is read, so ` warn` is a target, not a level.

A field is a name, optionally `=value`. A value is a boolean, a number, or
a pattern; a pattern that is not a valid regular expression makes the
directive unreadable.

Events have no spans here, so only directives without a span name and
without field values decide about them. Of those, the one that concerns an
event (its target starts the event's target and the event has all its
field names) and is most specific (longest target, then most field names)
decides: the event is shown when the directive lets its level through. An
event no directive concerns is not shown. Of two directives with the same
target and field names the later counts.

A text with a directive that does not read is not a filter at all: the
console then falls back to the configured level.
-/

namespace AssetBroker

namespace Log

/-- A condition on a field: its name, and whether it also asks for a value. -/
structure FieldCondition where
  name : String
  hasValue : Bool
  deriving DecidableEq, Repr, Inhabited

/-- One directive: the target prefix it concerns (every target when none),
the span it asks for, its field conditions, and the most verbose level it
shows (nothing when none). -/
structure Directive where
  target : Option String
  span : Option String
  fields : List FieldCondition
  level : Option Level
  deriving DecidableEq, Repr, Inhabited

/-- A console filter. -/
structure Filter where
  directives : List Directive
  deriving Repr, Inhabited

/-- Reads an unsigned decimal number with an optional leading `+`. -/
def unsignedText? (s : String) : Option Nat :=
  let digits := match s.toList with
    | '+' :: ds => ds
    | ds => ds
  if !digits.isEmpty && digits.all Char.isDigit then
    some (digits.foldl (fun acc c => acc * 10 + (c.toNat - '0'.toNat)) 0)
  else none

/-- Reads a level filter: a number from 0 to 5, a level name in any case,
`off`, or the empty text (errors only); `some none` stands for off. -/
def levelFilter? (s : String) : Option (Option Level) :=
  match unsignedText? s with
  | some 0 => some none
  | some 1 => some (some .error)
  | some 2 => some (some .warn)
  | some 3 => some (some .info)
  | some 4 => some (some .debug)
  | some 5 => some (some .trace)
  | _ =>
    if s.isEmpty then some (some .error)
    else
      match s.toLower with
      | "off" => some none
      | "error" => some (some .error)
      | "warn" => some (some .warn)
      | "info" => some (some .info)
      | "debug" => some (some .debug)
      | "trace" => some (some .trace)
      | _ => none

/-! ## Patterns

A field value that is neither a boolean nor a number is a regular
expression. The check below refuses what the expression syntax refuses
most often: a group or class left open, a `)` with no group, a repetition
with nothing to repeat, a counted repetition that is not `{n}`, `{n,}` or
`{n,m}`, an unknown escape and a trailing backslash. -/

/-- The characters an escape may name: any ASCII character that is not a
letter or digit, and the letters of the escape classes. -/
def isEscapable (c : Char) : Bool :=
  (c.toNat < 128 && !c.isAlphanum) || "aftnrvAzbBdDsSwWxuUpP".toList.contains c

/-- The rest after a counted repetition whose `{` was read: digits,
optionally a comma and more digits, then `}`. -/
def afterRepetitionCount? (cs : List Char) : Option (List Char) :=
  let first := cs.takeWhile Char.isDigit
  let rest := cs.dropWhile Char.isDigit
  if first.isEmpty then none
  else
    match rest with
    | '}' :: after => some after
    | ',' :: more =>
      match more.dropWhile Char.isDigit with
      | '}' :: after => some after
      | _ => none
    | _ => none

/-- The rest after a bracketed class whose `[` was read, up to and
including its `]`. A `]` right at the start (after an optional `^`) belongs
to the class, and an escape takes the character after it. -/
def afterClass? (cs : List Char) : Option (List Char) :=
  let body := match cs with
    | '^' :: r => r
    | r => r
  let rec go : List Char → Option (List Char)
    | [] => none
    | ']' :: rest => some rest
    | '\\' :: _ :: rest => go rest
    | _ :: rest => go rest
  match body with
  | ']' :: r => go r
  | r => go r

/-- Checks a pattern from its current position: `open` groups are open, and
`operand` tells whether a repetition has something to repeat. -/
def patternFrom (openGroups : Nat) (operand : Bool) : Nat → List Char → Bool
  | 0, _ => false
  | _, [] => openGroups == 0
  | fuel + 1, c :: rest =>
    if c == '\\' then
      match rest with
      | e :: more => isEscapable e && patternFrom openGroups true fuel more
      | [] => false
    else if c == '(' then patternFrom (openGroups + 1) false fuel rest
    else if c == ')' then openGroups > 0 && patternFrom (openGroups - 1) true fuel rest
    else if c == '|' then patternFrom openGroups false fuel rest
    else if c == '*' || c == '+' || c == '?' then
      operand && patternFrom openGroups true fuel (match rest with
        | '?' :: more => more
        | more => more)
    else if c == '{' then
      operand && match afterRepetitionCount? rest with
        | some after => patternFrom openGroups true fuel after
        | none => false
    else if c == '[' then
      match afterClass? rest with
      | some after => patternFrom openGroups true fuel after
      | none => false
    else patternFrom openGroups true fuel rest

/-- Whether a text is a regular expression the pattern syntax accepts. -/
def isPattern (s : String) : Bool :=
  patternFrom 0 false (s.length + 1) s.toList

/-- Whether a field value reads: a boolean, a number, or a pattern. -/
def fieldValueReads (s : String) : Bool :=
  s == "true" || s == "false" || (unsignedText? s).isSome ||
    (match s.toList with
      | '-' :: ds => !ds.isEmpty && ds.all Char.isDigit
      | _ => false) ||
    (Binary64.readText? s).isSome || isPattern s

/-- Reads a field condition `name` or `name=value`: the value is what stands
between the first and any second `=`. -/
def FieldCondition.parse? (s : String) : Option FieldCondition :=
  match s.splitOn "=" with
  | [] => none
  | [name] => some ⟨name, false⟩
  | name :: value :: _ => if fieldValueReads value then some ⟨name, true⟩ else none

/-! ## Reading a directive -/

/-- Where the reading of a directive stands, with byte offsets into the
directive's text where a part started. -/
inductive ReadState where
  | start
  | levelOrTarget (start : Nat)
  | inSpan (start : Nat)
  | inField (start : Nat)
  | afterFields
  | afterSpan
  | inLevel (start : Nat)
  | complete
  deriving DecidableEq, Repr, Inhabited

/-- The text between two byte offsets, if both fall between characters. -/
def slice? (text : String) (lo hi : Nat) : Option String :=
  let cs := text.toList
  let before := Text.takeBytes lo cs
  if Text.byteLength before != lo then none
  else
    let rest := cs.drop before.length
    let part := Text.takeBytes (hi - lo) rest
    if Text.byteLength part != hi - lo then none else some (String.ofList part)

/-- The text from a byte offset to the end, if it falls between
characters. -/
def sliceFrom? (text : String) (lo : Nat) : Option String :=
  slice? text lo text.utf8ByteSize

/-- A directive under construction. -/
structure Draft where
  target : Option String := none
  span : Option String := none
  fields : List FieldCondition := []
  level : Option Level := some .trace
  deriving Inhabited

/-- Resolves a part that is a level or a target: a level alone when it reads
as one, otherwise a target that lets every level through. -/
def Draft.levelOrTarget (d : Draft) (part : String) : Draft :=
  match levelFilter? part with
  | some level => { d with level, target := none }
  | none => { d with level := some .trace, target := some part }

/-- Sets the level of a draft from its text: every level when empty. -/
def Draft.withLevel? (d : Draft) (part : String) : Option Draft :=
  if part.isEmpty then some { d with level := some .trace }
  else (levelFilter? part).map fun level => { d with level }

/-- One step of reading a directive `text` at byte offset `i` of its
trimmed form, character `c`. -/
def readStep (text : String) (d : Draft) (st : ReadState) (i : Nat) (c : Char) :
    Option (Draft × ReadState) :=
  match st, c with
  | .start, '[' => some (d, .inSpan (i + 1))
  | .start, ch =>
    if ch == '-' || ch == ':' || ch == '_' || Unicode.isAlphanumeric ch then some (d, .levelOrTarget i)
    else none
  | .levelOrTarget s, '=' => do
    let t ← slice? text s i
    some ({ d with target := some t }, .inLevel (i + 1))
  | .levelOrTarget s, '[' => do
    let t ← slice? text s i
    some ({ d with target := some t }, .inSpan (i + 1))
  | .levelOrTarget s, ',' => do
    let part ← sliceFrom? text s
    some (d.levelOrTarget part, .complete)
  | .levelOrTarget s, _ => some (d, .levelOrTarget s)
  | .afterSpan, '=' => some (d, .inLevel (i + 1))
  | .inSpan s, ']' => do
    let name ← slice? text s i
    some ({ d with span := some name }, .afterSpan)
  | .inSpan s, '\x7b' => do
    let name ← slice? text s i
    some ({ d with span := if name.isEmpty then none else some name }, .inField (i + 1))
  | .inSpan s, _ => some (d, .inSpan s)
  | .inField s, '\x7d' => do
    let part ← slice? text s i
    if part.isEmpty then none
    else
      let f ← FieldCondition.parse? part
      some ({ d with fields := d.fields ++ [f] }, .afterFields)
  | .inField s, ',' => do
    let part ← slice? text s i
    if part.isEmpty then none
    else
      let f ← FieldCondition.parse? part
      some ({ d with fields := d.fields ++ [f] }, .inField (i + 1))
  | .inField s, _ => some (d, .inField s)
  | .afterFields, ']' => some (d, .afterSpan)
  | .inLevel s, ',' => do
    let part ← slice? text s i
    let d ← d.withLevel? part
    some (d, .complete)
  | .inLevel s, _ => some (d, .inLevel s)
  | _, _ => none

/-- Runs the reading steps over the characters of the trimmed text, with
their byte offsets. -/
def readSteps (text : String) : Draft → ReadState → Nat → List Char → Option (Draft × ReadState)
  | d, st, _, [] => some (d, st)
  | d, st, i, c :: rest => do
    let (d, st) ← readStep text d st i c
    readSteps text d st (i + c.utf8Size) rest

/-- Reads one directive, or none when it does not read. -/
def Directive.parse? (text : String) : Option Directive := do
  let trimmed := Text.trim text.toList
  let (d, st) ← readSteps text {} ReadState.start 0 trimmed
  let d ← match st with
    | .levelOrTarget s => (sliceFrom? text s).map (Draft.levelOrTarget d)
    | .inLevel s => do
      let part ← sliceFrom? text s
      d.withLevel? part
    | .afterSpan | .complete => some d
    | _ => none
  some ⟨d.target, d.span, d.fields, d.level⟩

/-- Reads a filter from its text; none when some directive does not read.
An empty text is a filter that shows nothing. -/
def Filter.parse? (text : String) : Option Filter :=
  let parts := (text.splitOn ",").filter (!·.isEmpty)
  (parts.mapM Directive.parse?).map Filter.mk

/-- A filter showing every target up to a level. -/
def Filter.atLevel (level : Level) : Filter := ⟨[⟨none, none, [], some level⟩]⟩

/-! ## Deciding -/

/-- Whether a directive can decide about events: it names no span and asks
no field for a value. -/
def Directive.decidesEvents (d : Directive) : Bool :=
  d.span.isNone && d.fields.all (!·.hasValue)

/-- The field names a directive asks an event to have. -/
def Directive.fieldNames (d : Directive) : List String := d.fields.map (·.name)

/-- Whether a directive concerns an event with this target and these field
names. -/
def Directive.covers (d : Directive) (target : String) (names : List String) : Bool :=
  (match d.target with
    | some t => target.startsWith t
    | none => true) &&
    d.fieldNames.all names.contains

/-- Whether `a` is more specific than `b`: a longer target (none is
shortest), then more field names, then the greater target and field names. -/
def Directive.moreSpecific (a b : Directive) : Bool :=
  let reach (d : Directive) : Nat := (d.target.map (·.utf8ByteSize + 1)).getD 0
  if reach a != reach b then reach a > reach b
  else if a.fields.length != b.fields.length then a.fields.length > b.fields.length
  else if a.target != b.target then
    match a.target, b.target with
    | some x, some y => decide (y < x)
    | some _, none => true
    | _, _ => false
  else decide (b.fieldNames < a.fieldNames)

def Directive.sameSelector (a b : Directive) : Bool :=
  a.target == b.target && a.fieldNames == b.fieldNames

/-- The directive that decides for an event: among those that can decide
and concern it, the most specific; of the same selector, the later. -/
def Filter.decider? (f : Filter) (target : String) (names : List String) : Option Directive :=
  (f.directives.filter fun d => d.decidesEvents && d.covers target names).foldl
    (fun acc d => match acc with
      | some best =>
        if d.sameSelector best || d.moreSpecific best then some d else some best
      | none => some d) none

/-- The field names of an event: its message and its fields. -/
def eventFieldNames (e : Event) : List String := "message" :: e.fields.map (·.1)

def Filter.shows (f : Filter) (e : Event) : Bool :=
  match f.decider? e.component.target (eventFieldNames e) with
  | some d => match d.level with
    | some l => l.admits e.level
    | none => false
  | none => false

end Log

end AssetBroker
