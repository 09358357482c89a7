import AssetBroker.CommandLine.Program
import AssetBroker.CommandLine.Snapshot
import AssetBroker.Log.Stamp
import Std.Time

/-!
# The command-line tool

Takes a snapshot of its surroundings (see `CommandLine.Snapshot`), runs the
tool over it, writes what the tool printed to the two streams and exits
with the tool's status.
-/

namespace AssetBroker

namespace CommandLine

/-- Adds the variables among `names` that are set. -/
def readVariables (names : List String) (env : Environment) : IO Environment :=
  names.foldlM (fun acc name => do
    match ← IO.getEnv name with
    | some value => return acc.set name value
    | none => return acc) env

/-- The text of a file's bytes: as read when they are UTF-8, otherwise a
text of as many bytes. -/
def textOfBytes (bytes : ByteArray) : String :=
  (String.fromUTF8? bytes).getD (String.ofList (List.replicate bytes.size '?'))

/-- Adds the files among `paths` that can be read. -/
def readFiles (paths : List String) (fs : FileSystem) : IO FileSystem :=
  paths.foldlM (fun acc (path : String) => do
    try
      let bytes ← IO.FS.readBinFile path
      return acc.writeFile path (textOfBytes bytes)
    catch _ => return acc) fs

def currentInvocation (args : List String) : IO Invocation := do
  let cwd := Path.normalize ((← IO.getEnv "PWD").getD "/")
  let first ← readVariables consultedVariables []
  let fs ← readFiles (namedFiles first cwd) FileSystem.empty
  let env ← match Config.loadStandard ⟨fs, some cwd, first⟩ with
    | .ok c => readVariables (configuredVariables c.plugins) first
    | .error _ => pure first
  let now ← Std.Time.Timestamp.now
  let stamp := Log.stampOfNanos now.toNanosecondsSinceUnixEpoch.val.toNat
  return { args, fs := fs.makeDirs cwd, env, cwd := some cwd, stamp }

end CommandLine

end AssetBroker

def main (args : List String) : IO UInt32 := do
  let o := AssetBroker.CommandLine.run (← AssetBroker.CommandLine.currentInvocation args)
  IO.print o.out
  IO.eprint o.err
  return o.status.toUInt32
