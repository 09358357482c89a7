import AssetBroker.CommandLine.Parse
import AssetBroker.Config.Load
import AssetBroker.Config.Report
import AssetBroker.Log.Console
import AssetBroker.Plugin.Listing
import AssetBroker.Query

/-!
# The command-line program

What the tool does with its arguments, its files and its variables:

1. It reads the command line; help and the version go to standard output
   with status 0, a refusal to standard error with status 2.
2. It loads and checks the configuration; on errors their reports go to
   standard error with status 1.
3. It sets up its console: the filter is `RUST_LOG` when that reads as a
   filter, else the configured level. Events from here on are written to
   standard error as they happen, starting with the command it runs.
4. It runs the command. `plugins` lists each configured source with a
   factory of its own; `managers` lists what a factory over all sources can
   make; `resolve` and `exists` ask the default manager, named by the file
   in `ASSETIO_DEFAULT_CONFIG` or else by `[manager]`. The factory is let go
   once the manager is made, the manager when the command is done.
5. A failed element was reported on its own line; any other failure is
   reported as `assetio: <error>`. The status is the error's exit code.
-/

namespace AssetBroker

namespace CommandLine

/-- What the tool is started with. -/
structure Invocation where
  args : List String
  fs : FileSystem
  env : Environment
  /-- The working directory, if the tool can see it. -/
  cwd : Option String
  /-- The time stamp of console lines. -/
  stamp : String
  deriving Inhabited

/-- What the tool printed, and its exit status. -/
structure Outcome where
  status : Nat
  out : String
  err : String
  deriving Repr, Inhabited

/-- What a command printed: its output, the lines reporting failed
elements with the number of events logged before them, and how it ended. -/
structure Performed where
  out : String := ""
  failures : List String := []
  failuresAfter : Option Nat := none
  result : Except BrokerError Unit := .ok ()

def noDefaultManager : BrokerError :=
  .config ("no default manager configured: add a [manager] section to assetio.toml or set " ++
    Config.defaultConfigVar)

/-- The name under which the running command keeps its manager. -/
def managerKey : String := "default"

open World in
/-- Creates and starts the default manager and keeps it; the factory built
for it is let go either way. -/
def defaultManager (s : Config.Surroundings) (config : Config.BrokerConfig) :
    Op (Except BrokerError ManagerBench) := do
  let start := (← get).children.size
  match ← fromConfig config.plugins with
  | .error e =>
    dropSourcesFrom start
    return .error e
  | .ok top =>
    let made ← match Config.managerFromEnv s with
      | some (.error errors) => pure (.error (.config ("; ".intercalate (errors.map (·.message)))))
      | some (.ok (m, event)) => do
        logAll [event]
        managerFromConfig top m.identifier m.settings
      | none =>
        match config.manager with
        | some m => managerFromConfig top m.identifier m.settings
        | none => pure (.error noDefaultManager)
    match made with
    | .error e =>
      dropSourcesFrom start
      return .error e
    | .ok (b, made) =>
      modify fun w => { w with kept := Keyed.insert managerKey (.bench b made.binary made.provider) w.kept }
      dropSourcesFrom start
      return .ok b

open World in
/-- Asks the default manager a query, then lets the manager go. -/
def query (s : Config.Surroundings) (config : Config.BrokerConfig) (ask : Act Printed) : Op Performed := do
  match ← defaultManager s config with
  | .error e => return { result := .error e }
  | .ok b =>
    let (p, b) ← onBench b ask
    let mark := (← get).trail.size
    modify fun w => { w with kept := w.kept.filter (·.1 != managerKey) }
    let _ ← onBench b Session.finish
    collect
    return { out := p.out, failures := p.err, failuresAfter := some mark, result := p.result }

open World in
def perform (s : Config.Surroundings) (config : Config.BrokerConfig) : Request → Op Performed
  | .plugins json => do
    let (out, result) ← listPlugins config.plugins json
    return { out, result }
  | .managers json => do
    let start := (← get).children.size
    match ← fromConfig config.plugins with
    | .error e =>
      dropSourcesFrom start
      return { result := .error e }
    | .ok top =>
      let (out, result) ← listManagers top json
      dropSourcesFrom start
      return { out, result }
  | .resolve refs traits => query s config (Query.resolution refs (sortedSet traits))
  | .existence refs => query s config (Query.existence refs)

/-- The console filter: `RUST_LOG` when it reads as one, else the
configured level. -/
def consoleFilter (env : Environment) (level : String) : Log.Filter :=
  let configured := (Log.Filter.parse? level).getD ⟨[]⟩
  match env.get? "RUST_LOG" with
  | some text => (Log.Filter.parse? text).getD configured
  | none => configured

def exitStatus (e : BrokerError) : Nat := if e.exitCode ≤ 255 then e.exitCode else 1

/-- The world a run starts from: the invocation's files and variables, the
command line as host, no entry points. -/
def startWorld (inv : Invocation) : World :=
  { fs := inv.fs, env := inv.env, host := Host.commandLine, entryPoints := [] }

/-- Runs a request with a checked configuration. -/
def runRequest (inv : Invocation) (s : Config.Surroundings) (config : Config.BrokerConfig) (r : Request) :
    Outcome :=
  let filter := consoleFilter inv.env config.logging.level
  let opening : Event := ⟨.debug, .commandLine, "running command", [Event.shown "command" r.debug]⟩
  let shown (events : List Event) : String := filter.render inv.stamp events
  match (perform s config r).run (startWorld inv) with
  | (.error message, w) =>
    ⟨101, "", shown (opening :: w.trail.toList) ++ "\nthread 'main' panicked:\n" ++ message ++ "\n"⟩
  | (.ok p, w) =>
    let events := w.trail.toList
    let (before, after) := events.splitAt (p.failuresAfter.getD events.length)
    let closing := match p.result with
      | .ok () => ""
      | .error (.batchElement ..) => ""
      | .error e => "assetio: " ++ e.display ++ "\n"
    let status := match p.result with
      | .ok () => 0
      | .error e => exitStatus e
    ⟨status, p.out, shown (opening :: before) ++ String.join (p.failures.map (· ++ "\n")) ++ shown after ++ closing⟩

def run (inv : Invocation) : Outcome :=
  match tool.read inv.args with
  | .error (.help text) => ⟨0, text, ""⟩
  | .error (.version text) => ⟨0, text, ""⟩
  | .error (.bareHelp text) => ⟨2, "", text⟩
  | .error (.refused r) => ⟨2, "", r.text⟩
  | .ok r =>
    let s : Config.Surroundings := ⟨inv.fs, inv.cwd, inv.env⟩
    match Config.loadAndValidate s with
    | .error errors => ⟨1, "", Config.reportAll (Config.readSources s (Config.standardFiles s.env)) errors⟩
    | .ok config => runRequest inv s config r

end CommandLine

end AssetBroker
