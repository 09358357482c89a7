import AssetBroker.CommandLine.Program
import AssetBroker.Script.Scenario

/-!
# Running the command line

A command-line scenario gives the arguments, the files, the variables and
the working directory under the scratch root (the root itself by default).
The tool sees `HOME` at the scratch root, its configuration home under
`xdg`, colours turned off, and then the scenario's variables. Console time
stamps are written as `<time>`. The answer is the exit status and what the
tool wrote to each stream.
-/

namespace AssetBroker

namespace Script

def readInvocation (req : Json) : Read CommandLine.Invocation := do
  let args ← needStrs req "args"
  let fs ← requestFiles req FileSystem.empty
  let cwd := Path.normalize (match ← optional req "cwd" asStr with
    | some dir => scenarioPath dir
    | none => Path.scratchRoot)
  let base : Environment :=
    [("HOME", Path.scratchRoot), ("XDG_CONFIG_HOME", scenarioPath "xdg"), ("NO_COLOR", "1")]
  let env ← requestEnv req base
  return { args, fs := fs.makeDirs cwd, env, cwd := some cwd, stamp := "<time>" }

def cliScript (req : Json) : Read Json := do
  let o := CommandLine.run (← readInvocation req)
  return .obj [("status", .int o.status), ("stdout", .str o.out), ("stderr", .str o.err)]

end Script

end AssetBroker
