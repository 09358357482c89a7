import AssetBroker.Plugin.Library

/-!
# Scanning search paths

A loader walks its search paths left to right. A path that is not a
directory, or a directory already walked in this scan under any path that
leads to it, is passed over; a directory's entries are taken sorted by
name.

A native loader loads each regular file with the `so` extension. A package
loader takes each directory holding `plugin.toml`, and each `*.toml` file,
as a package manifest; once its paths are done it registers the entry
points of its group, unless they are disabled. A listing loader registers
the providers listed for each path.

A source scans through its gate (`gatedScan`), which runs the scan once
until the next reset (`gatedReset`), whatever the scan itself asks of the
source.

Registration asks the provider its identifier. The first provider of an
identifier is kept; later ones are let go, as are providers that panic or
name themselves with the empty text. A unit that fails to load or register
is logged and passed over: only a listing loader lets a panic escape, and
the scan then ends with it.
-/

namespace AssetBroker

namespace World

def loader? (w : World) (i : Nat) : Option Loader :=
  match w.child i with
  | .lazy l _ _ => some l
  | .fixed _ => none

def updateLoader (i : Nat) (f : Loader → Loader) : Op Unit := do
  match (← get).child i with
  | .lazy l paths scanned => setChild i (.lazy (f l) paths scanned)
  | .fixed _ => pure ()

/-- The entries of a search directory, sorted by name, with the directory
marked as walked; none when it is not a directory or was walked before. -/
def directoryEntries (dir : String) (visited : List String) (kind : String) :
    Op (Option (List String) × List String) := do
  let w ← get
  if !w.fs.isDir "/" dir then
    log .debug .loader "skipping search path: not a directory" [Event.text "loader" kind, Event.shown "path" dir]
    return (none, visited)
  let canonical := (w.fs.canonicalize "/" dir).toOption.getD dir
  if visited.contains canonical then
    log .debug .loader "skipping search path: already scanned"
      [Event.text "loader" kind, Event.shown "path" dir, Event.shown "canonical" canonical]
    return (none, visited)
  return (some ((w.fs.children canonical).map (Path.join canonical)), visited ++ [canonical])

/-- Registers a provider with a loader under the identifier it gives: the
identifier when it is the first of that name, none when it is not. -/
def registerProvider (i : Nat) (n : Nat) (origin : Origin) : Op (Except PluginError (Option String)) := do
  match ← identify n with
  | .error message =>
    collect
    return .error (.panicked origin.display message)
  | .ok identifier =>
    if identifier.isEmpty then
      collect
      return .error (.emptyIdentifier origin.display)
    match (← get).loader? i with
    | none => return .ok none
    | some l =>
      let (registry, rejected, events) := l.registry.register identifier n origin
      updateLoader i fun l => { l with registry }
      logAll events
      collect
      return .ok (if rejected.isSome then none else some identifier)

def isNativeCandidate (w : World) (path : String) : Bool :=
  w.fs.isFile "/" path && Path.extension? path == some "so"

def scanNativeEntry (i : Nat) (shelf : Shelf) (path : String) : Op Unit := do
  let kind := "native"
  if !(← get).isNativeCandidate path then
    log .debug .native "skipping: not a .so file" [Event.text "loader" kind, Event.shown "path" path]
    return
  match ← loadBinary shelf path none with
  | .error e =>
    log .warn .native "failed to load plugin"
      [Event.text "loader" kind, Event.shown "path" path, Event.shown "error" e.display]
  | .ok n =>
    match ← registerProvider i n ((← get).binaryOrigin n) with
    | .error e =>
      log .warn .native "failed to register plugin"
        [Event.text "loader" kind, Event.shown "path" path, Event.shown "error" e.display]
    | .ok _ => pure ()

/-- The manifest of a search path entry, if it is a package. -/
def manifestPath? (w : World) (entry : String) : Option String :=
  if w.fs.isDir "/" entry then
    let manifest := Path.join entry Manifest.fileName
    if w.fs.isFile "/" manifest then some manifest else none
  else if Path.extension? entry == some "toml" && w.fs.isFile "/" entry then some entry
  else none

def scanPackageEntry (i : Nat) (shelf : Shelf) (entry : String) : Op Unit := do
  let kind := "package"
  let w ← get
  match w.manifestPath? entry with
  | none => log .debug .package "skipping: not a package" [Event.text "loader" kind, Event.shown "path" entry]
  | some found =>
    let manifestPath := (w.fs.canonicalize "/" found).toOption.getD found
    match ← loadPackage shelf manifestPath with
    | .error e =>
      log .warn .package "failed to load plugin package"
        [Event.text "loader" kind, Event.shown "path" manifestPath, Event.shown "error" e.display]
    | .ok (manifest, n) =>
      match ← registerProvider i n (.package manifestPath) with
      | .ok (some identifier) =>
        updateLoader i fun l => { l with manifests := Keyed.insert identifier manifest l.manifests }
      | .ok none => pure ()
      | .error e =>
        log .warn .package "failed to register plugin package"
          [Event.text "loader" kind, Event.shown "path" manifestPath, Event.shown "error" e.display]

/-- Whether a disable variable turns entry points off: set to anything but
the empty text and `0`. -/
def disabledBy (env : Environment) (name : String) : Bool :=
  match env.get? name with
  | some value => !value.isEmpty && value != "0"
  | none => false

/-- Whether a package loader registers entry points now. -/
def entryPointsEnabled (w : World) : Discovery → Bool
  | .package wanted _ disableVar => wanted && !disabledBy w.env disableVar
  | _ => false

def scanEntryPoint (i : Nat) (e : EntryPoint) : Op Unit := do
  let origin := e.origin
  let failed (err : PluginError) : Op Unit :=
    log .warn .package "failed to load entry point plugin"
      [Event.text "loader" "package", Event.shown "origin" origin.display, Event.shown "error" err.display]
  match (← get).entryRecipe e.slot with
  | .explode message => failed (.panicked origin.display message)
  | .make maker =>
    let n ← addProvider { maker }
    match ← registerProvider i n origin with
    | .error err => failed err
    | .ok _ => pure ()

def scanEntryPoints (i : Nat) (group : String) : Op Unit := do
  let kind := "package"
  let w ← get
  let enabled := match w.loader? i with
    | some l => w.entryPointsEnabled l.discovery
    | none => false
  if !enabled then
    log .debug .package "entry point plugins disabled" [Event.text "loader" kind, Event.shown "group" group]
    return
  log .debug .package "searching for entry point plugins" [Event.text "loader" kind, Event.shown "group" group]
  for e in EntryPoint.ofGroup w.entryPoints group do
    scanEntryPoint i e

/-- Whether two paths name the same place, component by component. -/
def samePath (a b : String) : Bool :=
  let parts (p : String) := (Path.pieces p).filter (· != ".")
  a.startsWith "/" == b.startsWith "/" && parts a == parts b

/-- Registers the providers listed for each path; a panic while asking an
identifier ends the scan. -/
def scanListed (i : Nat) (listed : List (String × List Nat)) (paths : List String) : Op Unit := do
  updateLoader i fun l => { l with scans := l.scans + 1 }
  for path in paths do
    let providers := ((listed.find? fun (p, _) => samePath p path).map (·.2)).getD []
    for n in providers do
      match ← identify n with
      | .error message => throw message
      | .ok identifier =>
        match (← get).loader? i with
        | none => pure ()
        | some l =>
          let (registry, _, events) := l.registry.register identifier n (.label path)
          updateLoader i fun l => { l with registry }
          logAll events

def scanPaths (i : Nat) (l : Loader) (paths : List String) : Op Unit := do
  match l.discovery with
  | .listed listed => scanListed i listed paths
  | .native | .package .. =>
    let kind := l.discovery.kind
    let mut visited : List String := []
    for dir in paths do
      let (searching, component) := match l.discovery with
        | .native => ("searching for native plugins", Component.native)
        | _ => ("searching for plugin packages", Component.package)
      log .debug component searching [Event.text "loader" kind, Event.shown "path" dir]
      let (entries, seen) ← directoryEntries dir visited kind
      visited := seen
      for entry in entries.getD [] do
        match l.discovery with
        | .native => scanNativeEntry i l.shelf entry
        | _ => scanPackageEntry i l.shelf entry
    match l.discovery with
    | .package _ group _ => scanEntryPoints i group
    | _ => pure ()

/-! ## The scan gate -/

/-- The scan gate of a source; none for a fixed source. -/
def gate? (w : World) (i : Nat) : Option ScanState :=
  match w.child i with
  | .lazy _ _ g => some g
  | .fixed _ => none

def setGate (i : Nat) (g : ScanState) : Op Unit := do
  match (← get).child i with
  | .lazy l searchPaths _ => setChild i (.lazy l searchPaths g)
  | .fixed _ => pure ()

/-- Runs a scan through a source's gate: only when nothing was scanned
since the last reset, and not from inside the running scan. The gate is
done when the scan returns, and idle again when it panics, the panic going
on. A query from inside a reset of the same source would wait for that
reset forever; it ends as a panic here. -/
def gatedScan (i : Nat) (scan : Op Unit) : Op Unit := do
  match (← get).gate? i with
  | some .idle =>
    setGate i .scanning
    tryCatch scan fun message => do
      setGate i .idle
      throw message
    setGate i .done
  | some .resetting => throw "a query waits for the reset it was made from"
  | _ => pure ()

/-- Clears a source's loader through its gate. From inside the running scan
it clears at once, and the scan still leaves the gate done when it returns;
otherwise the gate is held while clearing and left idle, so the next query
scans again. A reset from inside a reset would wait forever; it ends as a
panic here. -/
def gatedReset (i : Nat) (clear : Op Unit) : Op Unit := do
  match (← get).gate? i with
  | some .scanning => clear
  | some .resetting => throw "a reset waits for the reset it was made from"
  | some _ =>
    setGate i .resetting
    tryCatch clear fun message => do
      setGate i .idle
      throw message
    setGate i .idle
  | none => pure ()

/-- A source's scan: its search paths resolved now, then walked by its
loader. -/
def scanSource (i : Nat) : Op Unit := do
  match (← get).child i with
  | .lazy l searchPaths _ =>
    let (paths, events) := searchPaths.resolve (← get).env
    logAll events
    log .debug .pluginFactory "scanning for plugins"
      [Event.text "loader" l.discovery.kind, Event.shown "paths" (debugList paths)]
    scanPaths i l paths
  | .fixed _ => pure ()

/-- Scans a source unless it has scanned since its last reset. -/
def ensureScanned (i : Nat) : Op Unit := gatedScan i (scanSource i)

/-- Forgets what a source's loader found, letting go of the binaries
nothing else holds. -/
def clearSource (i : Nat) : Op Unit := do
  match (← get).child i with
  | .lazy l searchPaths g =>
    setChild i (.lazy { l with registry := .empty, manifests := [] } searchPaths g)
    collect
  | .fixed _ => pure ()

/-- Forgets what a source's loader found; the next query scans again. -/
def resetSource (i : Nat) : Op Unit := gatedReset i (clearSource i)

end World

end AssetBroker
