import AssetBroker.Script.PluginSetup
import AssetBroker.Script.Manifest
import AssetBroker.Plugin.Listing

/-!
# The discovery script

Runs the steps of a discovery scenario on its world, answering each in
order: questions to the top factory, to one source, to the tables of
loaded binaries, and sessions on the managers kept by name. A step that
panics answers the panic and keeps what it changed before.

At the end what the steps kept is let go by name, then the sources; the
events of the whole scenario are the log, each run of consecutive unload
events sorted by path.
-/

namespace AssetBroker

namespace Script

/-- The answer of a factory step when the factory could not be built. -/
def noFactory : Json := refusal "NoFactory" "setup failed"

def madeJson (c : Catalog) : Json := .obj [("identifier", .str c.identifier), ("display_name", .str c.displayName)]

def originOpt (o : Option Origin) : Json := Json.opt originJson o

/-- The answer of the identifier a provider gives, or of its panic. -/
def identityJson (r : Except String String) : Json :=
  match r with
  | .ok identifier => .str identifier
  | .error _ => .obj [("error", .str "Panic")]

def handleDebug (path : String) (holders : Nat) : String :=
  "LibraryHandle \x7b path: " ++ debugQuote path ++ ", ref_count: " ++ toString holders ++ " \x7d"

def tableDebug (t : Table) : String := "LibraryManager \x7b loaded: " ++ debugList t.paths ++ ", .. \x7d"

def factoryDebug (h : Host) : String := "ManagerFactory \x7b host: " ++ h.sessionText ++ ", .. \x7d"

namespace Plugins

open World

/-- Keeps something under the name in `as`, or lets it go. -/
def keepOrDrop (name : Option String) (k : Keepsake) : Op Unit := do
  match name with
  | some n => modify fun w => { w with kept := Keyed.insert n k w.kept }
  | none => pure ()
  collect

/-- Lets go of one kept thing: a bench closes its pagers and handles. -/
def release (k : Keepsake) : Op Unit := do
  match k with
  | .bench b _ _ => let _ ← onBench b Session.finish
  | _ => pure ()

/-- Removes what is kept under a name and lets go of it. -/
def releaseNamed (name : String) : Op Unit := do
  match Keyed.find? name (← get).kept with
  | some k =>
    modify fun w => { w with kept := w.kept.filter (·.1 != name) }
    release k
    collect
  | none => pure ()

/-- A new bench kept under a name, or let go. -/
def keepBench (name : Option String) (b : ManagerBench) (made : Made) : Op Json := do
  let answer := Json.obj [("identifier", .str b.session.backend.identifier),
    ("display_name", .str b.session.backend.displayName)]
  match name with
  | some n =>
    let old := Keyed.find? n (← get).kept
    modify fun w => { w with kept := Keyed.insert n (.bench b made.binary made.provider) w.kept }
    if let some k := old then release k
    collect
  | none => dropBench b
  return answer

/-- The answer of a step that made a manager for the host. -/
def benchAnswer (name : Option String) (r : Except BrokerError (ManagerBench × Made)) : Op Json := do
  match r with
  | .ok (b, made) => keepBench name b made
  | .error e => return brokerJson e

/-- Creates and starts the manager a default manager file names. -/
def fromManagerFile (top : Composition) (r : Except (List Config.ConfigError) (Config.ManagerConfig × Event)) :
    Op (Except BrokerError (ManagerBench × Made)) := do
  match r with
  | .error errors => return .error (.config ("; ".intercalate (errors.map (·.message))))
  | .ok (m, event) =>
    logAll [event]
    managerFromConfig top m.identifier m.settings

/-- The surroundings configuration loading sees. -/
def surroundings (w : World) : Config.Surroundings := { fs := w.fs, cwd := some Path.scratchRoot, env := w.env }

/-- A session step on a bench: its answer and the bench it leaves, or the
refusal of a step it cannot read and the bench as it was. -/
def stepOrRefuse (b : ManagerBench) (step : Json) : Json × ManagerBench :=
  match managerStep false b step with
  | .ok (answer, b') => (answer, b')
  | .error refusal => (refusal, b)

/-- Runs a session's steps one by one on the bench kept under a name. -/
def sessionSteps (name : String) (steps : List Json) : Op Json := do
  match Keyed.find? name (← get).kept with
  | some (.bench b binary n) =>
    let mut b := b
    let mut answers := #[]
    b := { b with session := { b.session with backend := b.session.backend.withNextState ((← get).provider n).nextState } }
    for step in steps do
      let (answer, b') := stepOrRefuse b step
      modify fun w => { w with trail := w.trail ++ b'.session.trail }
      b := { b' with session := { b'.session with trail := #[] } }
      answers := answers.push (maskAnswer answer)
      modify fun w => { w with kept := Keyed.insert name (.bench b binary n) w.kept }
      collect
    let p := (← get).provider n
    setProvider n { p with nextState := b.session.backend.nextState?.getD p.nextState }
    return .arr answers.toList
  | _ => return badInput ("no manager session '" ++ name ++ "'")

/-- The source a step names, by its `child` field. -/
def childArg (step : Json) : Read Nat := (optional step "child" asNat).map (·.getD 0)

/-- The loader of a source, or the answer refusing a step on a fixed
source. -/
def loaderOf (w : World) (i : Nat) : Except Json Loader :=
  match w.loader? i with
  | some l => .ok l
  | none => .error (badInput "a static source has no loader")

/-- A path of a step, under the scratch root unless absolute. -/
def pathArg (step : Json) : Read String := do return scenarioPath (← needStr step "path")

def handleNamed (w : World) (name : String) : Option BinaryRef :=
  match Keyed.find? name w.kept with
  | some (.handle r) => some r
  | _ => none

/-- Opens the binary at a path in a table and keeps the handle under a name,
or drops it at once; the canonical path and how many hold the binary with
the new handle. -/
def openHandle (shelf : Shelf) (path : String) (keepAs : Option String) :
    Op (Except PluginError (String × Nat)) := do
  match ← openBinary shelf path with
  | .error e => return .error e
  | .ok ref =>
    let held := (← get).holders ref + 1
    keepOrDrop keepAs (.handle ref)
    return .ok (ref.path, held)

/-- Closes the handle kept under a name; whether there was one. -/
def closeHandle (name : String) : Op Bool := do
  match handleNamed (← get) name with
  | some _ =>
    releaseNamed name
    return true
  | none => return false

/-- Loads the native binary at a path and keeps its provider under a name,
or lets it go; the identifier the provider gives and the binary's path. -/
def loadNative (shelf : Shelf) (path : String) (keepAs : Option String) : Op Json := do
  match ← loadBinary shelf path none with
  | .error e => return pluginErrorJson e
  | .ok n =>
    let answer := identityJson (← identify n)
    let library := (((← get).provider n).binary.map (·.path)).getD ""
    keepOrDrop keepAs (.provider n)
    return .obj [("identifier", answer), ("library", .str library)]

/-- Keeps the provider a source registered under an identifier under a
name, or lets it go; the identifier the provider gives. -/
def keepProvider (i : Nat) (identifier : String) (keepAs : Option String) : Op Json := do
  match loaderOf (← get) i with
  | .error refusal => return refusal
  | .ok l =>
    match l.registry.plugin identifier with
    | .error e => return brokerJson e
    | .ok n =>
      let answer := identityJson (← identify n)
      keepOrDrop keepAs (.provider n)
      return .obj [("identifier", answer)]

/-- Makes a manager implementation with the provider kept under a name, and
keeps it under another name or lets it go. -/
def createFrom (name : String) (keepAs : Option String) : Op Json := do
  match Keyed.find? name (← get).kept with
  | some (.provider n) =>
    match ← makeWith n with
    | .ok made =>
      keepOrDrop keepAs (.implementation made)
      return madeJson made.catalog
    | .error e => return brokerJson e
  | _ => return badInput ("no provider '" ++ name ++ "'")

/-- Makes a manager implementation with the top factory, and keeps it under
a name or lets it go. -/
def instantiateAs (top : Composition) (identifier : String) (keepAs : Option String) : Op Json := do
  match ← instantiate top identifier with
  | .ok made =>
    keepOrDrop keepAs (.implementation made)
    return madeJson made.catalog
  | .error e => return brokerJson e

/-- Makes a manager for the host with the top factory, and keeps its bench
under a name or lets it go. -/
def createManagerAs (top : Composition) (identifier : String) (keepAs : Option String) : Op Json := do
  match ← createManager top identifier with
  | .ok made => keepBench keepAs (← benchFor made) made
  | .error e => return brokerJson e

def libraryJson (w : World) (shelf : Shelf) (path : String) : Json :=
  let canonical := canonicalOr w.fs path
  let loaded := ((w.table shelf).binary? canonical).isSome
  let holders := if loaded then w.holders ⟨shelf, canonical⟩ else 0
  match shelf with
  | .system => .obj [("ref_count", .int holders), ("is_loaded", .bool (holders > 0))]
  | .scratch _ =>
    .obj [("open_count", .int (w.standIns.openCount canonical)), ("unload_count", .int (w.standIns.unloadCount canonical)),
      ("ref_count", .int holders), ("is_loaded", .bool (holders > 0))]

/-- The answer of a declaration a binary may export. -/
def declarationJson (debug : Bool) (d : Option Declaration) : Json :=
  match d with
  | none => .null
  | some d =>
    .obj ([("abi_version", .int d.abi), ("core_version", .str d.core), ("compatible", .bool d.compatible)] ++
      if debug then [("debug", .str d.debug)] else [])

def detailsJson (ds : List Detail) : Json :=
  .obj (ds.map fun d => (d.identifier, .obj [("identifier", .str d.identifier),
    ("display_name", .str d.displayName), ("info", taggedMap d.info)]))

/-- The answer of a listing the command line printed. -/
def printedAnswer (out : String) (r : Except BrokerError Unit) : Json :=
  .obj [("out", .str out), ("result", match r with | .ok () => .null | .error e => brokerJson e)]

/-- A step that needs the top factory. -/
def withTop (top : Option Composition) (k : Composition → Op Json) : Op Json :=
  match top with
  | some t => k t
  | none => return noFactory

/-- The work of one step, once its fields are read. -/
def stepOp (config : Option Config.PluginsConfig) (top : Option Composition) (step : Json) : Read (Op Json) := do
  let op ← needStr step "do"
  let keepAs ← optional step "as" asStr
  match op with
  | "identifiers" =>
    return withTop top fun t => do
      match ← identifiers t with
      | .ok ids => return Json.strList ids
      | .error e => return brokerJson e
  | "origin" =>
    let id ← needStr step "id"
    return withTop top fun t => do return originOpt (← origin t id)
  | "available_managers" =>
    return withTop top fun t => do
      match ← availableManagers t with
      | .ok details => return detailsJson details
      | .error e => return brokerJson e
  | "instantiate" =>
    let id ← needStr step "id"
    return withTop top fun t => instantiateAs t id keepAs
  | "create_manager" =>
    let id ← needStr step "id"
    return withTop top fun t => createManagerAs t id keepAs
  | "manager_from_config" =>
    let id ← needStr step "identifier"
    let settings ← (optional step "settings" readSettings).map (·.getD [])
    return withTop top fun t => do benchAnswer keepAs (← managerFromConfig t id settings)
  | "default_manager_for_interface" =>
    let file ← needStr step "file"
    return withTop top fun t => do
      let loaded := Config.loadManagerFile (surroundings (← get)) (scenarioPath file) none
      benchAnswer keepAs (← fromManagerFile t loaded)
  | "default_manager_from_env" =>
    return withTop top fun t => do
      match Config.managerFromEnv (surroundings (← get)) with
      | none => return .obj [("none", .bool true)]
      | some loaded => benchAnswer keepAs (← fromManagerFile t loaded)
  | "release" =>
    let name ← needStr step "name"
    return do
      releaseNamed name
      return done
  | "session" =>
    let name ← needStr step "manager"
    let steps ← asList (← need step "steps")
    return sessionSteps name steps
  | "child_identifiers" =>
    let i ← childArg step
    return do return Json.strList (← childIdentifiers i)
  | "child_instantiate" =>
    let i ← childArg step
    let id ← needStr step "id"
    return do
      match ← childInstantiate i id with
      | .ok made =>
        collect
        return madeJson made.catalog
      | .error e => return brokerJson e
  | "child_origin" =>
    let i ← childArg step
    let id ← needStr step "id"
    return do return originOpt (← childOrigin i id)
  | "loader_identifiers" =>
    let i ← childArg step
    return do
      match loaderOf (← get) i with
      | .ok l => return Json.strList l.registry.identifiers
      | .error refusal => return refusal
  | "reset" =>
    let i ← childArg step
    return do
      resetSource i
      return done
  | "scan_count" =>
    let i ← childArg step
    return do
      match (← get).loader? i with
      | some ⟨.listed _, _, _, _, scans⟩ => return .int scans
      | _ => return badInput "scan_count is for mock sources"
  | "manifest" =>
    let i ← childArg step
    let id ← needStr step "id"
    return do
      match (← get).loader? i with
      | some l =>
        match l.discovery with
        | .package .. =>
          ensureScanned i
          let l := ((← get).loader? i).getD l
          return Json.opt manifestJson (Keyed.find? id l.manifests)
        | _ => return badInput "manifest is for package sources"
      | none => return badInput "manifest is for package sources"
  | "entry_points_enabled" =>
    let i ← childArg step
    return do
      let w ← get
      match w.loader? i with
      | some l =>
        match l.discovery with
        | .package .. => return .bool (w.entryPointsEnabled l.discovery)
        | _ => return badInput "entry_points_enabled is for package sources"
      | none => return badInput "entry_points_enabled is for package sources"
  | "provider" =>
    let i ← childArg step
    let id ← needStr step "id"
    return keepProvider i id keepAs
  | "create_from" =>
    let name ← needStr step "provider"
    return createFrom name keepAs
  | "load_native" =>
    let path ← pathArg step
    let shelf ← readShelf step
    return loadNative shelf path keepAs
  | "load_package" =>
    let path ← pathArg step
    let shelf ← readShelf step
    return do
      match ← loadPackage shelf path with
      | .error e => return pluginErrorJson e
      | .ok (m, n) =>
        let answer := identityJson (← identify n)
        let library := (((← get).provider n).binary.map (·.path)).getD ""
        keepOrDrop keepAs (.provider n)
        return .obj [("manifest", manifestJson m), ("identifier", answer), ("library", .str library)]
  | "library" =>
    let path ← pathArg step
    let shelf ← readShelf step
    return do return libraryJson (← get) shelf path
  | "loaded_paths" =>
    let shelf ← readShelf step
    return do return Json.strList ((← get).table shelf).paths
  | "library_debug" =>
    let shelf ← readShelf step
    return do return .str (tableDebug ((← get).table shelf))
  | "lib_open" =>
    let path ← pathArg step
    let shelf ← readShelf step
    let debug ← boolOr step "debug" false
    return do
      match ← openHandle shelf path keepAs with
      | .error e => return pluginErrorJson e
      | .ok (canonical, held) =>
        return .obj ([("path", .str canonical), ("ref_count", .int held)] ++
          if debug then [("debug", .str (handleDebug canonical held))] else [])
  | "handle_declaration" =>
    let name ← needStr step "name"
    let symbol ← needStr step "symbol"
    let debug ← boolOr step "debug" false
    return do
      let w ← get
      match handleNamed w name with
      | some r => return declarationJson debug (((w.table r.shelf).binary? r.path).bind (·.declaration? symbol))
      | none => return badInput "no such library handle"
  | "handle_close" =>
    let name ← needStr step "name"
    return do
      if ← closeHandle name then return done
      return badInput "no such library handle"
  | "set_env" =>
    let name ← needStr step "name"
    let value ← optional step "value" asStr
    return do
      modify fun w => { w with env := match value with
        | some v => w.env.set name v
        | none => w.env.unset name }
      return done
  | "search_paths" =>
    let i ← childArg step
    return do
      match (← get).child i with
      | .lazy _ searchPaths _ => return .str searchPaths.debug
      | .fixed _ => return badInput "a static source has no search paths"
  | "entry_point_group" =>
    let i ← childArg step
    return do
      match (← get).loader? i with
      | some ⟨.package _ group _, _, _, _, _⟩ => return .str group
      | _ => return badInput "entry_point_group is for package sources"
  | "hybrid_children" =>
    return do
      match top with
      | some (.hybrid children) => return .arr (← children.mapM fun i => do return Json.strList (← childIdentifiers i))
      | _ => return badInput "no hybrid factory"
  | "loader_defaults" =>
    return do
      return .obj [("native_uses_global", .bool true), ("native_kind", .str "native"),
        ("package_kind", .str "package"), ("package_group", .str EntryPoint.defaultGroup),
        ("package_entry_points", .bool true)]
  | "factory_debug" =>
    return withTop top fun _ => do
      let h := (← get).host
      return .obj [("debug", .str (factoryDebug h)), ("host", .str h.identifier)]
  | "entry_point_new" =>
    let group ← needStr step "group"
    let name ← needStr step "name"
    let slot ← needNat step "slot"
    if slot ≥ 16 then .error (badInput "entry point slot out of range")
    return do
      match (← get).entryRecipe slot with
      | .explode message => throw message
      | .make maker =>
        let n ← addProvider { maker }
        let answer := identityJson (← identify n)
        return .obj [("group", .str group), ("name", .str name), ("identifier", answer)]
  | "cli_plugins" =>
    let json ← boolOr step "json" false
    match config with
    | none => .error (badInput "cli_plugins needs a configured factory")
    | some c => return do
      let (out, r) ← listPlugins c json
      return printedAnswer out r
  | "cli_managers" =>
    let json ← boolOr step "json" false
    return withTop top fun t => do
      let (out, r) ← listManagers t json
      return printedAnswer out r
  | other => .error (badInput ("unknown step '" ++ other ++ "'"))

/-- Runs one step; a panic answers as such. -/
def runStep (config : Option Config.PluginsConfig) (top : Option Composition) (w : World) (step : Json) :
    Json × World :=
  match stepOp config top step with
  | .error refusal => (refusal, w)
  | .ok op =>
    match (op.run).run w with
    | (.ok answer, w) => (answer, w)
    | (.error message, w) => (crashed message, w)

/-- Lets go of everything at the end: what was kept, by name, then the
sources. -/
def teardown : Op Unit := do
  let names := (Keyed.keys (← get).kept).mergeSort fun a b => decide (a ≤ b)
  for name in names do
    releaseNamed name
  modify fun w => { w with children := #[], top := none }
  collect

def isUnload (e : Event) : Bool := e.message == "unloading native plugin binary"

def eventPath (e : Event) : String := ((e.fields.find? (·.1 == "path")).map (·.2.raw)).getD ""

def sortUnloadRuns (events : List Event) : List Event :=
  let groups := events.splitBy fun a b => isUnload a && isUnload b
  groups.flatMap fun g =>
    if g.all isUnload then g.mergeSort fun a b => decide (eventPath a ≤ eventPath b) else g

end Plugins

def pluginsScript (req : Json) : Read (Json × Trail) := do
  let w ← readWorld req
  let steps ← asList (← need req "steps")
  let compose ← strOr req "compose" "hybrid"
  let (setup, config, w) ← match compose with
    | "hybrid" =>
      if w.children.isEmpty then
        pure (brokerJson (.invalidInput "HybridFactory requires at least one child factory"), none, w)
      else pure (done, none, { w with top := some (.hybrid (List.range w.children.size)) })
    | "single" => pure (done, none, { w with top := some (.single 0) })
    | "config" =>
      match ← readPluginsConfig req with
      | .error stop => return (.obj [("setup", stop)], #[])
      | .ok c =>
        match (World.fromConfig c |>.run).run w with
        | (.ok (.ok top), w) => pure (done, some c, { w with top := some top })
        | (.ok (.error e), w) => pure (brokerJson e, some c, w)
        | (.error message, w) => pure (crashed message, some c, w)
    | other => .error (badInput ("unknown composition '" ++ other ++ "'"))
  let top := w.top
  let (answers, w) := steps.foldl (fun (acc, w) step =>
    let (answer, w) := Plugins.runStep config top w step
    (acc.push answer, w)) (#[], w)
  let w := match (Plugins.teardown.run).run w with
    | (_, w) => w
  let answer := Json.obj [("setup", setup), ("steps", .arr answers.toList)]
  return (answer, (Plugins.sortUnloadRuns w.trail.toList).toArray)

end Script

end AssetBroker
