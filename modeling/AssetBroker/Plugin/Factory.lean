import AssetBroker.Plugin.Scan
import AssetBroker.Config.Model

/-!
# Factories of managers

A source answers three questions: which identifiers it offers, where the
plugin of an identifier came from, and a new manager implementation for an
identifier. A loader's source scans first, then answers from its registry;
a fixed source asks its providers in order and has no origins.

Any factory answering these questions composes with others: a hybrid
composition offers the sorted union of their identifiers and lets the first
factory offering an identifier make it, asking none after it. The top
factory is the hybrid composition of some sources, or one source alone.

On top of that the host's factory lists the managers it can make (each
one made once to read its name and information; those that fail are
logged and left out), makes managers for the host, and makes and starts
the manager a configuration names. A manager that fails to start is let go
before the failure is reported.

A configuration builds its own sources: one per configured source name, in
order, all searching the configured paths (or the variable named for them)
and loading into the system table.
-/

namespace AssetBroker

/-- What is asked of a factory of manager implementations: the identifiers
it offers, a new implementation for one of them, and where the plugin of
one came from. Each question is an operation on the world; the first two
may fail. -/
structure ImplementationFactory where
  identifiers : Op (Except BrokerError (List String))
  instantiate : String → Op (Except BrokerError Made)
  origin : String → Op (Option Origin)

namespace ImplementationFactory

/-- The identifiers of some factories, asked in order and joined; the error
of the first that fails, asking none after it. -/
def gather : List ImplementationFactory → Op (Except BrokerError (List String))
  | [] => return .ok []
  | f :: fs => do
    match ← f.identifiers with
    | .error e => return .error e
    | .ok ids =>
      match ← gather fs with
      | .error e => return .error e
      | .ok rest => return .ok (ids ++ rest)

/-- The first of some factories that offers an identifier, asking them in
order and none after it; the error of one that fails before. -/
def owner : List ImplementationFactory → String → Op (Except BrokerError (Option ImplementationFactory))
  | [], _ => return .ok none
  | f :: fs, identifier => do
    match ← f.identifiers with
    | .error e => return .error e
    | .ok ids => if ids.contains identifier then return .ok (some f) else owner fs identifier

/-- Factories composed so that the first one offering an identifier makes
it and tells where it came from; the identifiers are the sorted union of
theirs. A factory failing while the owner is looked for fails the
instantiation and leaves no origin. -/
def hybrid (fs : List ImplementationFactory) : ImplementationFactory where
  identifiers := do
    match ← gather fs with
    | .error e => return .error e
    | .ok all => return .ok (sortedSet all)
  instantiate identifier := do
    match ← owner fs identifier with
    | .error e => return .error e
    | .ok (some f) => f.instantiate identifier
    | .ok none => return .error (BrokerError.pluginNotFound identifier)
  origin identifier := do
    match ← owner fs identifier with
    | .ok (some f) => f.origin identifier
    | _ => return none

end ImplementationFactory

namespace World

def makeWith (n : Nat) : Op (Except BrokerError Made) := do
  let p := (← get).provider n
  return p.make.map fun c => ⟨c, p.binary, n⟩

/-- Asks a provider its identifier; a panic ends the operation. -/
def identifyOrPanic (n : Nat) : Op String := do
  match ← identify n with
  | .ok identifier => return identifier
  | .error message => throw message

/-- The identifiers a source offers, in its order. -/
def childIdentifiers (i : Nat) : Op (List String) := do
  match (← get).child i with
  | .lazy .. =>
    ensureScanned i
    return (((← get).loader? i).map (·.registry.identifiers)).getD []
  | .fixed providers => providers.mapM identifyOrPanic

def childInstantiate (i : Nat) (identifier : String) : Op (Except BrokerError Made) := do
  match (← get).child i with
  | .lazy .. =>
    ensureScanned i
    match (← get).loader? i with
    | none => return .error (BrokerError.pluginNotFound identifier)
    | some l =>
      match l.registry.plugin identifier with
      | .error e => return .error e
      | .ok n =>
        log .debug .pluginFactory "instantiating manager"
          [Event.text "loader" l.discovery.kind, Event.text "identifier" identifier]
        makeWith n
  | .fixed providers =>
    for n in providers do
      if (← identifyOrPanic n) == identifier then return ← makeWith n
    return .error (BrokerError.pluginNotFound identifier)

def childOrigin (i : Nat) (identifier : String) : Op (Option Origin) := do
  match (← get).child i with
  | .lazy .. =>
    ensureScanned i
    return ((← get).loader? i).bind (·.registry.origin? identifier)
  | .fixed _ => return none

/-- A source asked as a factory. Asking its identifiers never fails. -/
def sourceFactory (i : Nat) : ImplementationFactory where
  identifiers := do return .ok (← childIdentifiers i)
  instantiate := childInstantiate i
  origin := childOrigin i

def factory : Composition → ImplementationFactory
  | .hybrid children => .hybrid (children.map sourceFactory)
  | .single i => sourceFactory i

def identifiers (top : Composition) : Op (Except BrokerError (List String)) := (factory top).identifiers

def instantiate (top : Composition) (identifier : String) : Op (Except BrokerError Made) :=
  (factory top).instantiate identifier

/-- Where the top factory's plugin of an identifier came from. -/
def origin (top : Composition) (identifier : String) : Op (Option Origin) := (factory top).origin identifier

/-- What the host's factory reports of a manager it can make. -/
structure Detail where
  identifier : String
  displayName : String
  info : Settings
  deriving Inhabited

/-- The managers the top factory can make, by identifier; those that fail
to be made are logged and left out. -/
def availableManagers (top : Composition) : Op (Except BrokerError (List Detail)) := do
  let ids ← match ← identifiers top with
    | .ok ids => pure ids
    | .error e => return .error e
  let mut details : List Detail := []
  for identifier in ids do
    match ← instantiate top identifier with
    | .ok made =>
      let c := made.catalog
      details := details.filter (·.identifier != identifier) ++
        [{ identifier, displayName := c.displayName, info := Catalog.info }]
    | .error e =>
      log .warn .hostFactory "skipping manager that failed to instantiate"
        [Event.shown "identifier" identifier, Event.shown "error" e.display]
  collect
  return .ok (details.mergeSort fun a b => decide (a.identifier ≤ b.identifier))

def originDebug : Option Origin → String
  | some o => "Some(" ++ o.debug ++ ")"
  | none => "None"

/-- A manager implementation from the top factory, made for the host. -/
def createManager (top : Composition) (identifier : String) : Op (Except BrokerError Made) := do
  match ← instantiate top identifier with
  | .error e => return .error e
  | .ok made =>
    let o ← origin top identifier
    log .debug .hostFactory "created manager" [Event.shown "identifier" identifier, Event.shown "origin" (originDebug o)]
    return .ok made

/-- Runs a session step on a bench, moving the events it logged to the
world. -/
def onBench {α : Type} (b : ManagerBench) (a : Act α) : Op (α × ManagerBench) := do
  let (x, b) := b.act a
  modify fun w => { w with trail := w.trail ++ b.session.trail }
  return (x, { b with session := { b.session with trail := #[] } })

/-- A bench for a manager implementation, served to the world's host. -/
def benchFor (made : Made) : Op ManagerBench := do
  let session := Session.start (.catalog made.catalog) (← get).host
  return ManagerBench.start { session with anchor := made.binary.isSome }

/-- Lets go of a bench that nobody keeps. -/
def dropBench (b : ManagerBench) : Op Unit := do
  let _ ← onBench b Session.finish
  collect

/-- Creates the manager an identifier names and starts it with settings;
the bench and the implementation. -/
def managerFromConfig (top : Composition) (identifier : String) (settings : Settings) :
    Op (Except BrokerError (ManagerBench × Made)) := do
  match ← createManager top identifier with
  | .error e => return .error e
  | .ok made =>
    let (r, b) ← onBench (← benchFor made) (Session.configure settings)
    match r with
    | .ok () => return .ok (b, made)
    | .error e =>
      dropBench b
      return .error e

/-- Where the sources a configuration builds search: its paths, or the
variable it names when it lists none. -/
def configuredPaths (config : Config.PluginsConfig) : SearchPaths :=
  if config.searchPaths.isEmpty then .envVar config.searchPathVar else .explicit config.searchPaths

/-- The source a configuration builds for a source name, not yet scanned;
none for a name it does not know. -/
def configuredChild (config : Config.PluginsConfig) (source : String) : Option Child :=
  if source == "native" then some (.lazy { discovery := .native } (configuredPaths config) .idle)
  else if source == "package" then
    let discovery := Discovery.package config.entryPoints config.entryPointGroup config.entryPointsDisableVar
    some (.lazy { discovery } (configuredPaths config) .idle)
  else none

/-- The source a configuration builds for a source name, or the error
naming it when it is unknown. -/
def buildSource (config : Config.PluginsConfig) (source : String) : Except BrokerError Child :=
  match configuredChild config source with
  | some c => .ok c
  | none => .error (.config ("unknown plugin source '" ++ source ++ "'"))

/-- The sources a configuration names, in order; the error of the first
name it does not know. -/
def configuredChildren (config : Config.PluginsConfig) : Except BrokerError (List Child) :=
  config.sources.mapM (buildSource config)

/-- Builds the sources a configuration names, in order; the hybrid
composition over them. -/
def fromConfig (config : Config.PluginsConfig) : Op (Except BrokerError Composition) := do
  match configuredChildren config with
  | .error e => return .error e
  | .ok made =>
    log .debug .hostFactory "configured plugin sources"
      [Event.shown "sources" (debugList config.sources), Event.shown "search_paths" (configuredPaths config).debug]
    if made.isEmpty then return .error (.invalidInput "HybridFactory requires at least one child factory")
    let start := (← get).children.size
    modify fun w => { w with children := w.children ++ made.toArray }
    return .ok (.hybrid (List.range' start made.length))

/-- Lets go of the sources from a number on. -/
def dropSourcesFrom (start : Nat) : Op Unit := do
  modify fun w => { w with children := w.children.extract 0 start }
  collect

end World

end AssetBroker
