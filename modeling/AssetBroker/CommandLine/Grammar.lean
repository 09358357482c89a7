/-!
# The grammar of the command line

The tool takes one verb and then the verb's own arguments. A command's
parameters are switches (`--json`), options that take one value each time
they are given (`--trait <ID>`), and positional values collected in order
(`<REFERENCES>...`). Every verb has `-h`/`--help`; the tool itself also has
`-V`/`--version`. The `help` verb prints the help of the verbs it names and
has neither flag.

A parameter is shown in two ways: its *display* (`--trait <ID>`,
`<REFERENCES>...`), used in messages and usage lines, and its row in a help
listing, which also shows a short name when there is one (`-h, --help`).
-/

namespace AssetBroker

namespace CommandLine

/-- What giving a named parameter does. -/
inductive Action where
  /-- Turns a switch on; giving it twice is an error. -/
  | setTrue
  /-- Takes one value each time it is given. -/
  | append
  /-- Prints help. -/
  | help
  /-- Prints the version. -/
  | version
  deriving DecidableEq, Repr, Inhabited

/-- A parameter of a command: named when it has a long or a short name,
positional otherwise. -/
structure Param where
  id : String
  long : Option String := none
  short : Option Char := none
  /-- The placeholder of its values; a positional parameter always has one. -/
  value : String := ""
  action : Action := .append
  required : Bool := false
  help : String
  deriving Repr, Inhabited

namespace Param

def isPositional (p : Param) : Bool := p.long.isNone && p.short.isNone

def takesValue (p : Param) : Bool := p.action == .append

/-- What follows the name: the placeholder of an option's value, or the
repeated placeholder of a positional parameter, in angle brackets when it
is required and square brackets otherwise. -/
def suffix (p : Param) : String :=
  if p.isPositional then
    (if p.required then "<" ++ p.value ++ ">" else "[" ++ p.value ++ "]") ++ "..."
  else if p.takesValue then " <" ++ p.value ++ ">"
  else ""

/-- The parameter as messages and usage lines show it. -/
def display (p : Param) : String :=
  let name := match p.long, p.short with
    | some l, _ => "--" ++ l
    | none, some s => "-" ++ String.singleton s
    | none, none => ""
  name ++ p.suffix

/-- The help flag every verb has. -/
def helpFlag : Param := { id := "help", long := some "help", short := some 'h', action := .help, help := "Print help" }

def versionFlag : Param :=
  { id := "version", long := some "version", short := some 'V', action := .version, help := "Print version" }

end Param

/-- A command: the words that start it, what it is for and its parameters. -/
structure Command where
  /-- The words that start the command, as usage lines show them. -/
  path : String
  /-- The word that selects the command. -/
  name : String
  about : String
  params : List Param
  deriving Repr, Inhabited

namespace Command

def findLong (c : Command) (name : String) : Option Param := c.params.find? (·.long == some name)

def findShort (c : Command) (ch : Char) : Option Param := c.params.find? (·.short == some ch)

def positional? (c : Command) : Option Param := c.params.find? Param.isPositional

def named (c : Command) : List Param := c.params.filter (!·.isPositional)

/-- The long names, in the order of the parameters. -/
def longs (c : Command) : List String := c.params.filterMap (·.long)

def hasHelpFlag (c : Command) : Bool := c.params.any (·.action == .help)

end Command

/-- The tool: its own command, its version and its verbs. -/
structure Tool where
  root : Command
  version : String
  verbs : List Command
  deriving Repr, Inhabited

namespace Tool

def verb? (t : Tool) (word : String) : Option Command := t.verbs.find? (·.name == word)

def verbNames (t : Tool) : List String := t.verbs.map (·.name)

end Tool

/-- The `json` switch of the listing verbs. -/
def jsonSwitch : Param := { id := "json", long := some "json", action := .setTrue, help := "Output as JSON" }

def programName : String := "assetio"

def helpVerb : Command :=
  { path := programName ++ " help", name := "help",
    about := "Print this message or the help of the given subcommand(s)",
    params := [{ id := "subcommand", value := "COMMAND", help := "Print help for the subcommand(s)" }] }

def tool : Tool where
  root :=
    { path := programName, name := programName, about := "Command-line front end for AssetIO manager plugins",
      params := [Param.helpFlag, Param.versionFlag] }
  version := "0.1.0"
  verbs := [
    { path := programName ++ " plugins", name := "plugins",
      about := "List discovered plugins for each configured source", params := [jsonSwitch, Param.helpFlag] },
    { path := programName ++ " managers", name := "managers",
      about := "List the managers available to this host", params := [jsonSwitch, Param.helpFlag] },
    { path := programName ++ " resolve", name := "resolve",
      about := "Resolve traits for entity references with the default manager",
      params := [{ id := "references", value := "REFERENCES", required := true, help := "Entity references to resolve" },
        { id := "traits", long := some "trait", value := "ID", required := true,
          help := "Trait to resolve. Repeat for several traits" },
        Param.helpFlag] },
    { path := programName ++ " exists", name := "exists",
      about := "Check whether entities exist in the default manager",
      params := [{ id := "references", value := "REFERENCES", required := true, help := "Entity references to check" },
        Param.helpFlag] },
    helpVerb]

end CommandLine

end AssetBroker
