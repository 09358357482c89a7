import AssetBroker.Toml.Value

/-!
# Assembling a TOML document

Key-value lines and table headers arrive in the order they are written.
The table a header opens is filled on its own and put in its place when the
next header comes (or the text ends); the root table is the first one
filled.

A path of keys walks down from a table, making implicit tables where none
exist and entering the last table of an array of tables. The rules that
keep a table from being defined twice:

* a key may be set once in its table;
* a header may open a table that only a path implied, but not one that was
  opened before or made by dotted keys;
* a dotted key may not reach into a table opened by a header, nor into a
  value that is not a table;
* `[[name]]` extends an array of tables, and nothing else of that name.
-/

namespace AssetBroker

namespace Toml

/-- Why a document's keys or tables clash. -/
inductive Clash where
  /-- A key set twice; the table is named by its path when known. -/
  | duplicateKey (key : String) (table : Option (List String))
  /-- A dotted key runs through a value that is not a table. -/
  | extendsValue (path : List String) (actual : String)
  deriving Inhabited

def Clash.message : Clash → String
  | .duplicateKey key none => "duplicate key `" ++ key ++ "`"
  | .duplicateKey key (some []) => "duplicate key `" ++ key ++ "` in document root"
  | .duplicateKey key (some path) =>
    "duplicate key `" ++ key ++ "` in table `" ++ ".".intercalate path ++ "`"
  | .extendsValue path actual =>
    "dotted key `" ++ ".".intercalate path ++ "` attempted to extend non-table type (" ++ actual ++ ")"

/-- The clash of a header whose last key is taken. -/
def Clash.header (path : List Key) : Clash :=
  match path.getLast? with
  | some k => .duplicateKey k.name (some (path.dropLast.map (·.name)))
  | none => .duplicateKey "" (some [])

/-- Walks `path` down from a table of the document and changes the table
reached with `f`, which also gives a result. Missing tables are made
implicit (and dotted when `dotted`); an array of tables is entered at its
last table. `walked` is the part of the path already behind. -/
def descend (dotted : Bool) (f : Entries → TableForm → Except Clash (Entries × β))
    (walked : List String) : Entries → TableForm → List Key → Except Clash (Entries × β)
  | es, form, [] => f es form
  | es, _, k :: ks =>
    let here := walked ++ [k.name]
    match es.find? k.name with
    | none => do
      let (sub, r) ← descend dotted f here [] ⟨true, dotted⟩ ks
      pure (es ++ [(k, .table sub ⟨true, dotted⟩ none)], r)
    | some (.table sub form sp) =>
      if dotted && !form.implicit then .error (.duplicateKey k.name none)
      else do
        let (sub2, r) ← descend dotted f here sub form ks
        pure (es.replace k.name (.table sub2 form sp), r)
    | some (.tables items) =>
      match items.getLast? with
      | some (.table sub form sp) => do
        let (sub2, r) ← descend dotted f here sub form ks
        pure (es.replace k.name (.tables (items.dropLast ++ [.table sub2 form sp])), r)
      | _ => .error (.duplicateKey k.name none)
    | some other => .error (.extendsValue here other.typeName)

/-- Walks a dotted path down an inline table, making implicit dotted inline
tables where none exist, and changes the table reached with `f`. -/
def descendInline (f : Entries → TableForm → Except Clash Entries)
    (walked : List String) : Entries → TableForm → List Key → Except Clash Entries
  | es, form, [] => f es form
  | es, _, k :: ks =>
    let here := walked ++ [k.name]
    match es.find? k.name with
    | none => do
      let sub ← descendInline f here [] ⟨true, true⟩ ks
      pure (es ++ [(k, .inline sub ⟨true, true⟩ none)])
    | some (.inline sub form sp) =>
      if !form.implicit then .error (.duplicateKey k.name none)
      else do
        let sub2 ← descendInline f here sub form ks
        pure (es.replace k.name (.inline sub2 form sp))
    | some other => .error (.extendsValue here other.typeName)

/-- The entries of an inline table from its key-value pairs, each a dotted
prefix, a last key and a value. A key may be set once. -/
def inlineEntries (pairs : List (List Key × Key × Value)) : Except Clash Entries :=
  pairs.foldlM (fun es (prefixKeys, leaf, v) =>
    descendInline (fun sub form =>
        if form.dotted == prefixKeys.isEmpty then .error (.duplicateKey leaf.name none)
        else if sub.contains leaf.name then .error (.duplicateKey leaf.name none)
        else .ok (sub ++ [(leaf, v)]))
      [] es TableForm.explicit prefixKeys) []

/-- A document being read: the tables finished so far, and the table being
filled with the header path that opened it. -/
structure Assembly where
  root : Entries
  rootSpan : Option Span
  current : Entries
  currentSpan : Option Span
  path : List Key
  isArray : Bool

namespace Assembly

/-- Nothing read yet: the root table is being filled. -/
def start : Assembly := ⟨[], none, [], some ⟨0, 0⟩, [], false⟩

/-- Sets a key in the table being filled. `prefixKeys` are the dotted keys
before the last one. The table's span grows to the end of the value. -/
def setKey (a : Assembly) (prefixKeys : List Key) (leaf : Key) (v : Value) : Except Clash Assembly := do
  let span := match a.currentSpan, v.span? with
    | some s, some vs => some ⟨s.start, vs.stop⟩
    | s, _ => s
  let (entries, _) ← descend true (fun es form =>
      if form.dotted == prefixKeys.isEmpty then .error (.duplicateKey leaf.name none)
      else if es.contains leaf.name then
        .error (.duplicateKey leaf.name (some (a.path.map (·.name))))
      else .ok (es ++ [(leaf, v)], ()))
    [] a.current TableForm.explicit prefixKeys
  pure { a with current := entries, currentSpan := span }

/-- Puts the table being filled in its place and starts an empty one. -/
def finish (a : Assembly) : Except Clash Assembly := do
  let table : Value := .table a.current TableForm.explicit a.currentSpan
  let cleared : Assembly := { a with current := [], currentSpan := none, path := [], isArray := false }
  match a.path.getLast? with
  | none => pure { cleared with root := a.current, rootSpan := a.currentSpan }
  | some last =>
    let (root, _) ← descend false (fun es _ =>
        match es.find? last.name with
        | none =>
          .ok (es ++ [(last, if a.isArray then .tables [table] else table)], ())
        | some (.tables items) =>
          if a.isArray then .ok (es.replace last.name (.tables (items ++ [table])), ())
          else .error (Clash.header a.path)
        | some (.table _ form _) =>
          if !a.isArray && form.implicit then .ok (es.replace last.name table, ())
          else .error (Clash.header a.path)
        | some _ => .error (Clash.header a.path))
      [] a.root TableForm.explicit a.path.dropLast
    pure { cleared with root := root }

/-- Opens the table of a `[header]` at `span`. A table that a path only
implied is taken over with its keys. -/
def openTable (a : Assembly) (path : List Key) (span : Span) : Except Clash Assembly := do
  let a ← a.finish
  match path.getLast? with
  | none => pure a
  | some last =>
    let (root, taken) ← descend false (fun es _ =>
        match es.find? last.name with
        | none => .ok (es, [])
        | some (.table sub form _) =>
          if form.implicit && !form.dotted then .ok (es.erase last.name, sub)
          else .error (Clash.header path)
        | some _ => .error (Clash.header path))
      [] a.root TableForm.explicit path.dropLast
    pure { a with root := root, current := taken, currentSpan := some span, path := path, isArray := false }

/-- Opens a new table of the array named by a `[[header]]` at `span`. -/
def openArrayTable (a : Assembly) (path : List Key) (span : Span) : Except Clash Assembly := do
  let a ← a.finish
  match path.getLast? with
  | none => pure a
  | some last =>
    let (root, _) ← descend false (fun es _ =>
        match es.find? last.name with
        | none => .ok (es ++ [(last, .tables [])], ())
        | some (.tables _) => .ok (es, ())
        | some _ => .error (Clash.header path))
      [] a.root TableForm.explicit path.dropLast
    pure { a with root := root, current := [], currentSpan := some span, path := path, isArray := true }

/-- The finished document as its root table. -/
def toValue (a : Assembly) : Except Clash Value := do
  let a ← a.finish
  pure (.table a.root TableForm.explicit a.rootSpan)

end Assembly

end Toml

end AssetBroker
