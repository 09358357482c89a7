import AssetBroker.CommandLine.Grammar

/-!
# Usage lines and help texts

A usage line names the command and then what it takes. Written for help it
shows `[OPTIONS]` when the command has an optional named parameter other
than the help and version flags, then its required named parameters, then
its positional parameters, then `<COMMAND>` when a verb must follow.
Written for a message about arguments already given, it leaves out the
`[OPTIONS]` tag and shows, after the required named parameters, the named
parameters that were given.

A help text is the command's purpose, its usage line, and then sections for
verbs, positional parameters and named parameters. Each row of a section is
indented by two spaces and its description starts two spaces after the
widest entry of its section; a named parameter without a short name is
indented four more, where `-h, ` would stand.
-/

namespace AssetBroker

namespace CommandLine

def spaces (n : Nat) : String := String.ofList (List.replicate n ' ')

def firstOccurrences (items : List String) : List String :=
  items.foldl (fun acc x => if acc.contains x then acc else acc ++ [x]) []

namespace Command

/-- Whether help usage shows `[OPTIONS]`. -/
def needsOptionsTag (c : Command) : Bool :=
  c.named.any fun p => p.action != .help && p.action != .version && !p.required

def positionalUsage (c : Command) : String :=
  String.join ((c.params.filter Param.isPositional).map fun p => " " ++ p.display)

/-- The usage line of help texts; `verbs` tells whether a verb must follow. -/
def helpUsage (c : Command) (verbs : Bool) : String :=
  c.path ++ (if c.needsOptionsTag then " [OPTIONS]" else "") ++
    String.join ((c.named.filter (·.required)).map fun p => " " ++ p.display) ++
    c.positionalUsage ++ (if verbs then " <COMMAND>" else "")

/-- The usage line of a message about the parameters `used` (by id) that
were given; the help usage when none were. -/
def usage (c : Command) (verbs : Bool) (used : List String) : String :=
  if used.isEmpty then c.helpUsage verbs
  else
    let ids := firstOccurrences ((c.named.filter (·.required)).map (·.id) ++ used)
    let shown := ids.filterMap fun id => (c.named.find? (·.id == id)).map (·.display)
    c.path ++ String.join (shown.map (" " ++ ·)) ++ c.positionalUsage ++ (if verbs then " <COMMAND>" else "")

/-- The rows of a section: each entry, the spaces after it, and its
description. -/
def rows (entries : List (String × Nat × String)) : String :=
  "\n".intercalate (entries.map fun (shown, pad, about) => "  " ++ shown ++ spaces pad ++ about)

/-- The width that aligns a section: that of its widest entry, at least two. -/
def widest (widths : List Nat) : Nat := widths.foldl max 2

/-- The rows of named parameters. Descriptions start two spaces after the
widest display among the parameters with a long name or a value; a row
without a long name is shifted by the four columns of `, --`. -/
def namedRows (ps : List Param) : String :=
  let longest := widest ((ps.filter fun p => p.takesValue || p.long.isSome || p.short.isNone).map
    (·.display.length))
  rows (ps.map fun p =>
    let shortPart := match p.short with
      | some s => "-" ++ String.singleton s
      | none => if p.long.isSome then "    " else ""
    let longPart := match p.long with
      | some l => (if p.short.isSome then ", " else "") ++ "--" ++ l
      | none => ""
    (shortPart ++ longPart ++ p.suffix, longest + (if p.long.isSome then 2 else 6) - p.display.length, p.help))

/-- The rows of entries aligned two spaces after the widest. -/
def plainRows (entries : List (String × String)) : String :=
  let longest := widest (entries.map (·.1.length))
  rows (entries.map fun (shown, about) => (shown, longest + 2 - shown.length, about))

/-- The help text of a command; `verbs` are the verbs it offers. -/
def helpText (c : Command) (verbs : List Command) : String :=
  let commands := if verbs.isEmpty then [] else
    ["Commands:\n" ++ plainRows (verbs.map fun v => (v.name, v.about))]
  let positional := c.params.filter Param.isPositional
  let arguments := if positional.isEmpty then [] else
    ["Arguments:\n" ++ plainRows (positional.map fun p => (p.display, p.help))]
  let options := if c.named.isEmpty then [] else
    ["Options:\n" ++ namedRows c.named]
  c.about ++ "\n\nUsage: " ++ c.helpUsage (!verbs.isEmpty) ++ "\n\n" ++
    "\n\n".intercalate (commands ++ arguments ++ options) ++ "\n"

end Command

namespace Tool

def helpText (t : Tool) : String := t.root.helpText t.verbs

def versionText (t : Tool) : String := t.root.name ++ " " ++ t.version ++ "\n"

end Tool

end CommandLine

end AssetBroker
