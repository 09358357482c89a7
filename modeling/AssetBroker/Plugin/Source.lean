import AssetBroker.Plugin.Provider
import AssetBroker.Plugin.Registry
import AssetBroker.Plugin.SearchPaths
import AssetBroker.Manager.Bench

/-!
# Plugin sources

A source produces managers by identifier. Most sources own a loader: a way
of discovering providers on search paths and a registry of what it found,
scanned once on first use and again after a reset. Loaders discover
native binaries, packages (manifests, then the entry points of a group
compiled into the program) or providers listed by path. A fixed source
lists its providers itself and has no loader.

A loader's source scans through a gate (`ScanState`): a query scans only
when nothing was scanned since the last reset, and never from inside the
running scan itself.

The compiled-in entry points are a fixed table of groups, names and
provider slots; a group's entry points are taken in name order.

What callers keep between requests is a `Keepsake`: a provider, a manager
implementation, a manager on its bench, or a handle on a loaded binary.
-/

namespace AssetBroker

/-- How a loader discovers providers. -/
inductive Discovery where
  /-- Shared libraries with the `so` extension. -/
  | native
  /-- Package manifests, then, if enabled, the entry points of `group`;
  a non-empty value of `disableVar` other than `0` disables them. -/
  | package (entryPoints : Bool) (group : String) (disableVar : String)
  /-- Providers listed by search path. -/
  | listed (paths : List (String × List Nat))
  deriving Inhabited

namespace Discovery

/-- The name of the mechanism in diagnostics. -/
def kind : Discovery → String
  | native => "native"
  | package .. => "package"
  | listed _ => "mock"

end Discovery

/-- A discovery mechanism with the registry of what it found. -/
structure Loader where
  discovery : Discovery
  /-- The table its binaries are loaded in. -/
  shelf : Shelf := .system
  registry : Registry Nat := .empty
  /-- The manifest of each plugin registered from a package. -/
  manifests : List (String × Manifest) := []
  /-- How many scans were started. -/
  scans : Nat := 0
  deriving Inhabited

/-- Where the scan of a source stands. The program runs on one thread, so
a scan or a reset in progress is always that thread's own. -/
inductive ScanState where
  /-- Nothing scanned since the start or the last reset: the next query
  scans. -/
  | idle
  /-- The scan is running; a query made from inside it does not scan. -/
  | scanning
  /-- A reset is clearing the loader. -/
  | resetting
  /-- A scan finished since the last reset. -/
  | done
  deriving DecidableEq, Repr, Inhabited

namespace ScanState

/-- The gate at rest after a source has scanned since its last reset, or
not. -/
def ofScanned (scanned : Bool) : ScanState := if scanned then .done else .idle

instance : Coe Bool ScanState := ⟨ofScanned⟩

end ScanState

/-- A source of managers. -/
inductive Child where
  /-- A loader over search paths, scanned through a gate. -/
  | lazy (loader : Loader) (searchPaths : SearchPaths) (gate : ScanState)
  /-- Providers listed in order, by number. -/
  | fixed (providers : List Nat)
  deriving Inhabited

/-- How the top factory uses the sources, by number. -/
inductive Composition where
  /-- Every identifier of the sources, the first source that has one
  making it. -/
  | hybrid (children : List Nat)
  /-- One source alone. -/
  | single (child : Nat)
  deriving Inhabited

/-- An entry point compiled into the program. -/
structure EntryPoint where
  group : String
  name : String
  /-- The provider slot its function calls. -/
  slot : Nat
  deriving Inhabited

namespace EntryPoint

/-- The group scanned when none is configured. -/
def defaultGroup : String := "assetio.manager_plugin"

def compiled : List EntryPoint :=
  [⟨"oracle.ep", "e0", 0⟩, ⟨"oracle.ep", "e1", 1⟩, ⟨"oracle.ep", "e2", 2⟩, ⟨"oracle.ep", "e3", 3⟩,
   ⟨"oracle.ep", "b_second", 4⟩, ⟨"oracle.ep", "a_first", 5⟩,
   ⟨defaultGroup, "oracle_default", 6⟩, ⟨"oracle.ep2", "x", 7⟩]

/-- The entry points of a group among some, in name order. -/
def ofGroup (entries : List EntryPoint) (group : String) : List EntryPoint :=
  (entries.filter (·.group == group)).mergeSort fun a b => decide (a.name ≤ b.name)

def origin (e : EntryPoint) : Origin := .entryPoint e.group e.name

end EntryPoint

/-- Something a caller keeps by name. -/
inductive Keepsake where
  /-- A provider, by number. -/
  | provider (number : Nat)
  /-- A manager implementation no host drives. -/
  | implementation (made : Made)
  /-- A manager driven by the host, with the binary its code lives in and
  the provider that made it. -/
  | bench (bench : ManagerBench) (binary : Option BinaryRef) (provider : Nat)
  /-- A handle on a loaded binary. -/
  | handle (ref : BinaryRef)
  deriving Inhabited

end AssetBroker
