import AssetBroker.Plugin.Source
import AssetBroker.Host
import AssetBroker.Environment

/-!
# The plugin world

Everything plugin discovery works on: the files and variables it sees, the
stand-in opener, the tables of loaded binaries, every provider made so far
(by number), the sources and the factory over them, what callers keep by
name, and the events logged.

A loaded binary stays loaded while something holds it. Nothing counts the
holders as they come and go: `World.holders` derives the count from the
world itself. A binary is held once by each distinct provider whose code it
is and that a registry or a caller still holds, once by each manager
implementation a caller keeps, by whatever a kept bench holds
(`ManagerBench.binaryHolds`), and once by each kept handle. `World.collect`
unloads every loaded binary with no holder left, in path order; each
operation calls it at the points where the program lets go of something.

An operation on the world is `Op`: it changes the world, and a panic that
escapes plugin code ends it with the panic's message, keeping what it
changed before.
-/

namespace AssetBroker

/-- A table of loaded binaries, by canonical path. -/
structure Table where
  loaded : List (String × Binary) := []
  deriving Inhabited

namespace Table

/-- The binary loaded from a canonical path. -/
def binary? (t : Table) (path : String) : Option Binary := Keyed.find? path t.loaded

/-- The canonical paths of the loaded binaries, sorted. -/
def paths (t : Table) : List String := (t.loaded.map (·.1)).mergeSort fun a b => decide (a ≤ b)

end Table

/-- The stand-in opener: what opening each registered file does, and how
often each file was opened and unloaded. -/
structure StandIns where
  behaviours : List (String × Behaviour) := []
  opens : List (String × Nat) := []
  unloads : List (String × Nat) := []
  deriving Inhabited

namespace StandIns

def bump (counts : List (String × Nat)) (path : String) : List (String × Nat) :=
  Keyed.insert path ((Keyed.find? path counts).getD 0 + 1) counts

def openCount (s : StandIns) (path : String) : Nat := (Keyed.find? path s.opens).getD 0

def unloadCount (s : StandIns) (path : String) : Nat := (Keyed.find? path s.unloads).getD 0

end StandIns

/-- The state of plugin discovery. -/
structure World where
  fs : FileSystem
  env : Environment
  standIns : StandIns := {}
  /-- The scenario's tables, by number. -/
  tables : List Table := []
  /-- The process-wide table. -/
  system : Table := {}
  /-- Every provider made so far, by number. -/
  providers : Array Provider := #[]
  /-- The entry points the program offers. -/
  entryPoints : List EntryPoint := EntryPoint.compiled
  /-- The provider function of each entry point slot. -/
  entrySlots : List (Nat × Recipe) := []
  children : Array Child := #[]
  /-- The top factory, if it could be built. -/
  top : Option Composition := none
  host : Host := Host.testing
  kept : List (String × Keepsake) := []
  trail : Trail := #[]
  deriving Inhabited

/-- An operation on the world; a panic ends it with its message. -/
abbrev Op (α : Type) := ExceptT String (StateM World) α

namespace World

def log (level : Level) (component : Component) (message : String)
    (fields : List (String × FieldValue)) : Op Unit :=
  modify fun w => { w with trail := w.trail.push ⟨level, component, message, fields⟩ }

/-- Logs events made elsewhere. -/
def logAll (events : List Event) : Op Unit :=
  modify fun w => { w with trail := w.trail ++ events.toArray }

def provider (w : World) (n : Nat) : Provider := w.providers.getD n default

/-- Adds a provider; its number. -/
def addProvider (p : Provider) : Op Nat := do
  let w ← get
  set { w with providers := w.providers.push p }
  return w.providers.size

def setProvider (n : Nat) (p : Provider) : Op Unit :=
  modify fun w => { w with providers := w.providers.set! n p }

def entryRecipe (w : World) (slot : Nat) : Recipe :=
  ((w.entrySlots.find? (·.1 == slot)).map (·.2)).getD (Recipe.unset slot)

def table (w : World) : Shelf → Table
  | .scratch i => w.tables.getD i {}
  | .system => w.system

def setTable (shelf : Shelf) (t : Table) : Op Unit :=
  modify fun w => match shelf with
    | .scratch i => { w with tables := w.tables.set i t }
    | .system => { w with system := t }

def child (w : World) (i : Nat) : Child := w.children.getD i (.fixed [])

def setChild (i : Nat) (c : Child) : Op Unit :=
  modify fun w => { w with children := w.children.set! i c }

/-! ## Holders of loaded binaries -/

/-- The providers held by a registry, a fixed source or a caller. -/
def heldProviders (w : World) : List Nat :=
  (w.children.toList.flatMap fun c => match c with
    | .lazy l _ _ => l.registry.entries.map (·.2.provider)
    | .fixed ps => ps) ++
  w.kept.filterMap fun (_, k) => match k with
    | .provider n => some n
    | _ => none

/-- How many holds a kept thing has on a loaded binary. -/
def Keepsake.holds (r : BinaryRef) : Keepsake → Nat
  | .provider _ => 0
  | .implementation m => if m.binary == some r then 1 else 0
  | .bench b binary _ => if binary == some r then b.binaryHolds else 0
  | .handle h => if h == r then 1 else 0

/-- How many things hold a loaded binary. -/
def holders (w : World) (r : BinaryRef) : Nat :=
  ((w.heldProviders.eraseDups.filter fun n => (w.provider n).binary == some r).length) +
    (w.kept.map fun (_, k) => Keepsake.holds r k).foldr (· + ·) 0

/-- The loaded binaries of a table that nothing holds. -/
def unheld (w : World) (shelf : Shelf) : List String :=
  ((w.table shelf).loaded.filter fun (p, _) => w.holders ⟨shelf, p⟩ == 0).map (·.1)

/-- Unloads the unheld binaries of one table, counting the unloads of
stand-ins; their paths. -/
def collectShelf (shelf : Shelf) : Op (List String) := do
  let w ← get
  let gone := w.unheld shelf
  if gone.isEmpty then return []
  setTable shelf { loaded := (w.table shelf).loaded.filter fun (p, _) => !gone.contains p }
  match shelf with
  | .scratch _ =>
    modify fun w => { w with standIns := { w.standIns with unloads := gone.foldl StandIns.bump w.standIns.unloads } }
  | .system => pure ()
  return gone

/-- Unloads every loaded binary that nothing holds, logging each in path
order. -/
def collect : Op Unit := do
  let w ← get
  let shelves := (List.range w.tables.length).map Shelf.scratch ++ [Shelf.system]
  let mut gone : List String := []
  for shelf in shelves do
    gone := gone ++ (← collectShelf shelf)
  for path in Path.sortNames gone do
    log .debug .library "unloading native plugin binary" [Event.shown "path" path]

end World

end AssetBroker
