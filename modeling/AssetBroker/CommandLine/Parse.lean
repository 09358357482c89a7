import AssetBroker.CommandLine.Help
import AssetBroker.Text.Similarity
import AssetBroker.Text.Debug

/-!
# Reading the command line

The arguments are read left to right. Before a verb only the tool's flags
may stand; the first word that names a verb hands the rest to that verb.
`help` instead walks the words after it as verb names and prints the help
of the last one. Within a verb:

* `--` makes every later argument a positional value;
* `--name` and `--name=value` are long parameters, `-abc` a cluster of
  short ones, read one letter at a time;
* any other argument is the value of an option still waiting for one, or
  else a positional value.

Help and version flags answer at once, when they are read. An option that
waits for a value when anything other than a value comes is an error, as
is one still waiting at the end. Once all is read, required parameters that
were not given are reported together, named ones first.

An unknown word where a verb must stand is compared with the verb names,
and an unknown long name with the command's long names; names whose Jaro
similarity exceeds 0.7 are suggested, most similar last. Every refusal ends
with the usage line of the command that refused and a pointer to its help.
-/

namespace AssetBroker

namespace CommandLine

/-- What a command asks the tool to do. -/
inductive Request where
  /-- List the plugins of each configured source. -/
  | plugins (json : Bool)
  /-- List the managers the host can make. -/
  | managers (json : Bool)
  /-- Resolve traits for references with the default manager. -/
  | resolve (references traits : List String)
  /-- Tell which references name entities of the default manager. -/
  | existence (references : List String)
  deriving DecidableEq, Repr, Inhabited

namespace Request

def debug : Request → String
  | plugins json => "Plugins \x7b json: " ++ toString json ++ " \x7d"
  | managers json => "Managers \x7b json: " ++ toString json ++ " \x7d"
  | resolve refs traits => "Resolve \x7b references: " ++ debugList refs ++ ", traits: " ++ debugList traits ++ " \x7d"
  | existence refs => "Exists \x7b references: " ++ debugList refs ++ " \x7d"

end Request

/-- Why the arguments were refused, and what the refusal shows besides. -/
structure Refusal where
  message : String
  /-- Similar names that exist: what they name, and the names. -/
  similar : Option (String × List String) := none
  tips : List String := []
  usage : Option String := none
  /-- The flag that prints help, named in the closing line. -/
  helpFlag : Option String := some "--help"
  deriving Repr, Inhabited

namespace Refusal

def similarLine (kind : String) (names : List String) : String :=
  let quoted := ", ".intercalate (names.map fun n => "'" ++ n ++ "'")
  if names.length == 1 then "  tip: a similar " ++ kind ++ " exists: " ++ quoted
  else "  tip: some similar " ++ kind ++ "s exist: " ++ quoted

def text (r : Refusal) : String :=
  let similar := match r.similar with
    | some (kind, names) => "\n\n" ++ similarLine kind names
    | none => ""
  let tips := if r.tips.isEmpty then "" else
    (if r.similar.isNone then "\n" else "") ++ String.join (r.tips.map ("\n  tip: " ++ ·))
  let usage := match r.usage with
    | some u => "\n\nUsage: " ++ u
    | none => ""
  let closing := match r.helpFlag with
    | some flag => "\n\nFor more information, try '" ++ flag ++ "'.\n"
    | none => "\n"
  "error: " ++ r.message ++ similar ++ tips ++ usage ++ closing

end Refusal

/-- How reading the command line ends when it does not yield a request. -/
inductive Stop where
  /-- Help asked for. -/
  | help (text : String)
  /-- The version asked for. -/
  | version (text : String)
  /-- No verb given: the help, shown as an error. -/
  | bareHelp (text : String)
  | refused (r : Refusal)
  deriving Repr, Inhabited

/-- The names among `options` similar enough to `name` to suggest, least
similar first; of equally similar names the earlier first. -/
def similarNames (name : String) (options : List String) : List String :=
  let scored := options.filterMap fun o =>
    let s := Text.jaro name.toList o.toList
    if s > 0.7 then some (s, o) else none
  (scored.mergeSort fun a b => decide (a.1 ≤ b.1)).map (·.2)

/-- What a verb has read so far. -/
structure Reading where
  /-- Switches turned on, by id. -/
  switches : List String := []
  /-- Option values, by option id, in the order given. -/
  values : List (String × String) := []
  positional : List String := []
  /-- Parameters given, by id, in the order first given. -/
  given : List String := []
  /-- The option waiting for its value. -/
  waiting : Option Param := none
  /-- Whether `--` was read. -/
  trailing : Bool := false
  deriving Inhabited

namespace Reading

def mark (r : Reading) (id : String) : Reading :=
  if r.given.contains id then r else { r with given := r.given ++ [id] }

def valuesOf (r : Reading) (id : String) : List String := (r.values.filter (·.1 == id)).map (·.2)

end Reading

namespace Command

def missingValue (p : Param) : Refusal :=
  { message := "a value is required for '" ++ p.display ++ "' but none was supplied" }

/-- Fails when an option still waits for its value. -/
def settle (r : Reading) : Except Stop Reading :=
  match r.waiting with
  | some p => .error (.refused (missingValue p))
  | none => .ok r

/-- The refusal of an argument the command does not know, with the help
usage. -/
def unknownArgument (c : Command) (verbs : Bool) (arg : String) (tips : List String := []) : Refusal :=
  { message := "unexpected argument '" ++ arg ++ "' found", tips, usage := some (c.helpUsage verbs),
    helpFlag := if c.hasHelpFlag then some "--help" else if verbs then some "help" else none }

/-- The refusal of a value attached to a parameter that takes none. -/
def unneededValue (c : Command) (verbs : Bool) (r : Reading) (p : Param) (value : String) : Refusal :=
  let used := (r.given.filter fun id => !(c.named.any fun q => q.id == id && q.required)) ++ [p.id]
  { message := "unexpected value '" ++ value ++ "' for '" ++ p.display ++ "' found; no more were expected",
    usage := some (c.usage verbs used) }

/-- Applies a named parameter given without an attached value. -/
def applyFlag (c : Command) (verbs : Bool) (help : String) (version : Option String) (r : Reading) (p : Param) :
    Except Stop Reading := do
  match p.action with
  | .help =>
    let _ ← settle r
    .error (.help help)
  | .version =>
    let _ ← settle r
    .error (.version (version.getD ""))
  | .setTrue =>
    let r ← settle r
    if r.switches.contains p.id then
      .error (.refused
        { message := "the argument '" ++ p.display ++ "' cannot be used multiple times",
          usage := some (c.helpUsage verbs) })
    else .ok ({ r with switches := r.switches ++ [p.id] }.mark p.id)
  | .append =>
    let r ← settle r
    .ok ({ r with waiting := some p }.mark p.id)

def applyValue (r : Reading) (p : Param) (value : String) : Reading :=
  { r with values := r.values ++ [(p.id, value)], waiting := none }.mark p.id

def readShorts (c : Command) (verbs : Bool) (help : String) (version : Option String) (r : Reading) :
    List Char → Except Stop Reading
  | [] => .ok r
  | ch :: rest =>
    match c.findShort ch with
    | none =>
      let tips := if !r.trailing && c.positional?.isSome then
        ["to pass '-" ++ String.singleton ch ++ "' as a value, use '-- -" ++ String.singleton ch ++ "'"] else []
      .error (.refused (c.unknownArgument verbs ("-" ++ String.singleton ch) tips))
    | some p =>
      if p.takesValue then
        let attached := String.ofList rest
        let attached := if attached.startsWith "=" then attached.drop 1 |>.toString else attached
        if attached.isEmpty then c.applyFlag verbs help version r p
        else do
          let r ← settle r
          .ok (applyValue r p attached)
      else do
        let r ← c.applyFlag verbs help version r p
        c.readShorts verbs help version r rest

end Command

/-- The long parameter and attached value of an argument `--name[=value]`. -/
def splitLong (body : String) : String × Option String :=
  match body.splitOn "=" with
  | [name] => (name, none)
  | name :: rest => (name, some ("=".intercalate rest))
  | [] => (body, none)

def readVerb (t : Tool) (c : Command) (r : Reading) : List String → Except Stop Reading
  | [] => .ok r
  | arg :: rest =>
    let help := c.helpText []
    let positional (r : Reading) : Except Stop Reading :=
      match c.positional? with
      | some p => do
        let r ← Command.settle r
        readVerb t c ({ r with positional := r.positional ++ [arg] }.mark p.id) rest
      | none => .error (.refused (c.unknownArgument false arg))
    if r.trailing then positional r
    else if arg == "--" then readVerb t c { r with trailing := true } rest
    else if arg.startsWith "--" then
      let (name, attached) := splitLong (arg.drop 2).toString
      match c.findLong name with
      | none =>
        let similar := (similarNames name c.longs).getLast?
        let used := match similar.bind fun l => c.findLong l with
          | some p => (r.given ++ [p.id])
          | none => r.given
        let tips := if similar.isNone && !r.trailing && c.positional?.isSome then
          ["to pass '--" ++ name ++ "' as a value, use '-- --" ++ name ++ "'"] else []
        .error (.refused
          { message := "unexpected argument '--" ++ name ++ "' found",
            similar := similar.map fun s => ("argument", ["--" ++ s]), tips,
            usage := some (c.usage false used) })
      | some p =>
        match attached with
        | none => do
          let r ← Command.applyFlag c false help none r p
          readVerb t c r rest
        | some value =>
          if p.takesValue then do
            let r ← Command.settle r
            readVerb t c (Command.applyValue r p value) rest
          else .error (.refused (c.unneededValue false r p value))
    else if arg.startsWith "-" && arg != "-" then do
      let r ← Command.readShorts c false help none r ((arg.drop 1).toString.toList)
      readVerb t c r rest
    else
      match r.waiting with
      | some p => readVerb t c (Command.applyValue r p arg) rest
      | none => positional r

/-- Checks what a verb read: an option still waiting, then the required
parameters not given. -/
def checkVerb (c : Command) (r : Reading) : Except Stop Reading := do
  let r ← Command.settle r
  let missing := c.params.filter fun p => p.required && !r.given.contains p.id
  let missingNamed := missing.filter (!·.isPositional)
  let missingPositional := missing.filter Param.isPositional
  if missing.isEmpty then .ok r
  else
    .error (.refused
      { message := "the following required arguments were not provided:" ++
          String.join ((missingNamed ++ missingPositional).map fun p => "\n  " ++ p.display),
        usage := some (c.usage false (r.given ++ missing.map (·.id))) })

/-- The help the `help` verb prints for the verb names that follow it. -/
def helpFor (t : Tool) : Command → Bool → List String → Stop
  | c, verbs, [] => .help (c.helpText (if verbs then t.verbs else []))
  | c, verbs, name :: rest =>
    match (if verbs then t.verb? name else none) with
    | some v => helpFor t v false rest
    | none =>
      .refused
        { message := "unrecognized subcommand '" ++ name ++ "'", usage := some (c.helpUsage verbs),
          helpFlag := if c.hasHelpFlag then some "--help" else if verbs then some "help" else none }

/-- The request a verb's reading makes. -/
def requestOf (name : String) (r : Reading) : Request :=
  match name with
  | "plugins" => .plugins (r.switches.contains "json")
  | "managers" => .managers (r.switches.contains "json")
  | "resolve" => .resolve r.positional (r.valuesOf "traits")
  | _ => .existence r.positional

/-- Reads the arguments before a verb. -/
def readTool (t : Tool) (trailing : Bool) : List String → Except Stop Request
  | [] => .error (.bareHelp t.helpText)
  | arg :: rest =>
    let c := t.root
    let unknownWord : Stop :=
      if trailing && (t.verb? arg).isSome then
        .refused
          { message := "unexpected argument '" ++ arg ++ "' found",
            tips := ["subcommand '" ++ arg ++ "' exists; to use it, remove the '--' before it"],
            usage := some (c.helpUsage true) }
      else
        match similarNames arg t.verbNames with
        | [] => .refused { message := "unrecognized subcommand '" ++ arg ++ "'", usage := some (c.helpUsage true) }
        | names =>
          .refused
            { message := "unrecognized subcommand '" ++ arg ++ "'",
              similar := some ("subcommand", names), usage := some (c.helpUsage true) }
    if trailing then .error unknownWord
    else
      match t.verb? arg with
      | some v =>
        if v.name == "help" then .error (helpFor t c true rest)
        else do
          let r ← readVerb t v {} rest
          let r ← checkVerb v r
          .ok (requestOf v.name r)
      | none =>
        if arg == "--" then readTool t true rest
        else if arg.startsWith "--" then
          let (name, attached) := splitLong (arg.drop 2).toString
          match c.findLong name, attached with
          | some p, none => match Command.applyFlag c true t.helpText (some t.versionText) {} p with
            | .error stop => .error stop
            | .ok _ => readTool t false rest
          | some p, some value => .error (.refused (c.unneededValue true {} p value))
          | none, _ =>
            let similar := (similarNames name c.longs).getLast?
            let elsewhere := if similar.isSome then none else
              (t.verbs.filterMap fun v =>
                match (similarNames name v.longs).getLast?, rest.idxOf? v.name with
                | some l, some at_ => some (at_, v.name ++ " --" ++ l)
                | _, _ => none).foldl
                (fun acc (at_, s) => match acc with
                  | some (best, _) => if at_ < best then some (at_, s) else acc
                  | none => some (at_, s)) none
            .error (.refused
              { message := "unexpected argument '--" ++ name ++ "' found",
                similar := similar.map fun s => ("argument", ["--" ++ s]),
                tips := (elsewhere.map fun (_, s) => ["'" ++ s ++ "' exists"]).getD [],
                usage := some (c.usage true ((similar.bind c.findLong).map (·.id) |>.toList)) })
        else if arg.startsWith "-" && arg != "-" then
          match Command.readShorts c true t.helpText (some t.versionText) {} ((arg.drop 1).toString.toList) with
          | .error stop => .error stop
          | .ok _ => readTool t false rest
        else .error unknownWord

/-- Reads a command line (without the program name). -/
def Tool.read (t : Tool) (args : List String) : Except Stop Request := readTool t false args

end CommandLine

end AssetBroker
