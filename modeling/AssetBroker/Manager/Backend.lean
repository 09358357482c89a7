import AssetBroker.Host
import AssetBroker.Batch.Relay
import AssetBroker.Manager.Catalog
import AssetBroker.Manager.Scripted
import AssetBroker.Manager.Bare

/-!
# Manager implementations

The managers a host can drive, and what each of their methods does. Every
manager names itself, reports its capabilities, starts with settings,
answers policy queries, recognises its references and lists the traits of
entities. Other methods have neutral defaults (no information, no settings,
terms unchanged, closing does nothing), or, for stateful and most batch
methods, fail as not implemented; the paged methods default to an empty
pager per element.

A batch method reports into a sink and leaves a `Reply`: the sink, the
manager as it is afterwards, and whether the call failed as a whole.
-/

namespace AssetBroker

/-- A manager implementation. -/
inductive Backend where
  | catalog (c : Catalog)
  | scripted (s : Scripted)
  | bare (b : Bare)
  deriving Inhabited

/-- What a batch method leaves behind. -/
structure Reply (α : Type) where
  run : SinkRun α
  backend : Backend
  result : Except BrokerError Unit

namespace Backend

def identifier : Backend → String
  | catalog c => c.identifier
  | scripted s => s.identifier
  | bare b => b.identifier

def displayName : Backend → String
  | catalog c => c.displayName
  | scripted s => s.displayName
  | bare b => b.displayName

/-- The number of the next state a catalog hands out. -/
def nextState? : Backend → Option UInt64
  | catalog c => some c.nextState
  | _ => none

/-- Sets the number of the next state a catalog hands out. -/
def withNextState (b : Backend) (n : UInt64) : Backend :=
  match b with
  | catalog c => catalog { c with nextState := n }
  | other => other

/-- What the manager says about itself. -/
def info : Backend → Settings
  | catalog _ => Catalog.info
  | scripted s => s.info
  | bare _ => []

def settings : Backend → Except BrokerError Settings
  | catalog c => .ok c.settings
  | _ => .ok []

def hasCapability (b : Backend) (cap : Capability) : Bool :=
  match b with
  | catalog c => c.capabilities.contains cap
  | scripted s => s.capabilities.contains cap
  | bare m => m.capabilities.contains cap

def start (b : Backend) (settings : Settings) : Except BrokerError Backend :=
  match b with
  | catalog c => (c.start settings).map catalog
  | scripted s =>
    match s.startError with
    | some m => .error (.manager m)
    | none => .ok b
  | bare _ => .ok b

/-- Drops cached data; nothing to do for these managers. -/
def flushCaches (_ : Backend) : Except BrokerError Unit := .ok ()

def updateTerminology (b : Backend) (terms : List (String × String)) :
    Except BrokerError (List (String × String)) :=
  match b with
  | catalog _ => .ok (Catalog.updateTerminology terms)
  | _ => .ok terms

def close : Backend → Backend × Closed
  | catalog c => (catalog { c with closes := c.closes + 1 }, .done)
  | scripted s =>
    let s := { s with closes := s.closes + 1 }
    if s.closePanics then (scripted s, .panicked "scripted manager panicked while closing")
    else
      match s.closeError with
      | some m => (scripted s, .failed (.manager m))
      | none => (scripted s, .done)
  | bare m => (bare (if m.countsCloses then { m with closes := m.closes + 1 } else m), .done)

/-- Closes a pager the manager made, counting the close. -/
def closePager (b : Backend) (p : PageSource) : Backend × Closed :=
  match p with
  | .empty => (b, .done)
  | .pages _ _ closing =>
    let b := match b with
      | catalog c => catalog { c with pagerCloses := c.pagerCloses + 1 }
      | scripted s => scripted { s with pagerCloses := s.pagerCloses + 1 }
      | other => other
    (b, closing.outcome)

def managementPolicy (b : Backend) (sets : List TraitSet) (access : PolicyAccess) :
    Except BrokerError (List TraitsData) :=
  match b with
  | catalog _ => .ok (sets.map (Catalog.policy access))
  | scripted s => s.managementPolicy sets
  | bare _ => .ok (sets.map fun _ => .empty)

def isEntityReferenceString (b : Backend) (candidate : String) : Bool :=
  match b with
  | catalog _ => candidate.startsWith Catalog.referencePrefix
  | scripted s => candidate.startsWith s.referencePrefix
  | bare m => candidate.startsWith m.referencePrefix

/-- The refusal of a method the manager leaves out. -/
def unimplemented (b : Backend) (method : String) : BrokerError :=
  BrokerError.unimplemented b.identifier method

def createState (b : Backend) : Except BrokerError (StateContent × Backend) :=
  match b with
  | catalog c => let (st, c) := c.newState none; .ok (st, catalog c)
  | bare m => if m.makesStates then .ok (.hidden, b) else .error (b.unimplemented "create_state")
  | _ => .error (b.unimplemented "create_state")

def createChildState (b : Backend) (parent : StateContent) : Except BrokerError (StateContent × Backend) :=
  match b with
  | catalog c => (c.childState parent).map fun (st, c) => (st, catalog c)
  | _ => .error (b.unimplemented "create_child_state")

def persistenceToken (b : Backend) (state : StateContent) : Except BrokerError String :=
  match b with
  | catalog _ => Catalog.tokenOf state
  | _ => .error (b.unimplemented "persistence_token_for_state")

def stateFromToken (b : Backend) (token : String) : Except BrokerError StateContent :=
  match b with
  | catalog _ => Catalog.stateOfToken token
  | _ => .error (b.unimplemented "state_from_persistence_token")

/-- A reply that leaves the manager as it was. -/
def keep {α : Type} (b : Backend) (run : SinkRun α) : Reply α := ⟨run, b, .ok ()⟩

def played {α : Type} (b : Backend) : SinkRun α × Except BrokerError Unit → Reply α
  | (run, result) => ⟨run, b, result⟩

def refuse {α : Type} (b : Backend) (method : String) (run : SinkRun α) : Reply α :=
  ⟨run, b, .error (b.unimplemented method)⟩

def entityExists (b : Backend) (refs : List String) (run : SinkRun Bool) : Reply Bool :=
  match b with
  | catalog c => b.keep (c.entityExists refs run)
  | scripted s => b.played (s.play "entity_exists" Scripted.readFlag run)
  | bare _ => b.refuse "entity_exists" run

def entityTraits (b : Backend) (refs : List String) (run : SinkRun TraitSet) : Reply TraitSet :=
  match b with
  | catalog c => b.keep (c.entityTraits refs run)
  | scripted s => b.played (s.play "entity_traits" Scripted.readTraitSet run)
  | bare _ => b.keep ((List.range refs.length).foldl (fun r i => r.success i []) run)

def resolve (b : Backend) (refs : List String) (traits : TraitSet) (run : SinkRun TraitsData) :
    Reply TraitsData :=
  match b with
  | catalog c => b.keep (c.resolve refs traits run)
  | scripted s => b.played (s.play "resolve" Scripted.readData run)
  | bare _ => b.refuse "resolve" run

def defaultEntityReference (b : Backend) (sets : List TraitSet) (run : SinkRun (Option String)) :
    Reply (Option String) :=
  match b with
  | catalog c => b.keep (c.defaultEntityReference sets run)
  | scripted s => b.played (s.play "default_entity_reference" Scripted.readOptionalText run)
  | bare _ => b.refuse "default_entity_reference" run

def getWithRelationship (b : Backend) (refs : List String) (relationship : TraitsData)
    (result : TraitSet) (run : SinkRun (List String)) : Reply (List String) :=
  match b with
  | catalog c => b.keep (c.getWithRelationship refs relationship result run)
  | scripted s => b.played (s.play "get_with_relationship" Scripted.readTexts run)
  | bare _ => b.refuse "get_with_relationship" run

def getWithRelationships (b : Backend) (r : String) (relationships : List TraitsData)
    (result : TraitSet) (run : SinkRun (List String)) : Reply (List String) :=
  match b with
  | catalog c => b.keep (c.getWithRelationships r relationships result run)
  | scripted s => b.played (s.play "get_with_relationships" Scripted.readTexts run)
  | bare _ => b.refuse "get_with_relationships" run

/-- An empty pager for each of `len` elements. -/
def emptyPagers (len : Nat) (run : SinkRun PageSource) : SinkRun PageSource :=
  (List.range len).foldl (fun r i => r.success i .empty) run

def getWithRelationshipPaged (b : Backend) (refs : List String) (relationship : TraitsData)
    (result : TraitSet) (pageSize : Nat) (run : SinkRun PageSource) : Reply PageSource :=
  match b with
  | catalog c => b.keep (c.getWithRelationshipPaged refs relationship result pageSize run)
  | scripted s => b.played (s.playPaged "get_with_relationship_paged" refs.length run)
  | bare _ => b.keep (emptyPagers refs.length run)

def getWithRelationshipsPaged (b : Backend) (r : String) (relationships : List TraitsData)
    (result : TraitSet) (pageSize : Nat) (run : SinkRun PageSource) : Reply PageSource :=
  match b with
  | catalog c => b.keep (c.getWithRelationshipsPaged r relationships result pageSize run)
  | scripted s => b.played (s.playPaged "get_with_relationships_paged" relationships.length run)
  | bare _ => b.keep (emptyPagers relationships.length run)

/-- A paged method as a manager whose code lives in a loaded binary serves
it. The binding puts a relay for `len` elements in front of the caller's sink
(`Relay.bind`) and the manager it wraps reports into the relay's own sink,
which logs to the caller's log. What that sink took, in the order it took
it, is what fired the relay's callbacks: run through the relay, each outcome
is passed on to the caller's sink (`Relay.report`). A pager is passed on as it
is, the binary being kept loaded by the session's anchor. -/
def bindPagers (len : Nat) (call : SinkRun PageSource → Reply PageSource) (outer : SinkRun PageSource) :
    Reply PageSource :=
  let relay := Relay.bind len outer
  let reply := call relay.own
  let passed := reply.run.delivered.foldl (fun r d => r.report id d.index d.outcome)
    { relay with outer := { outer with trail := reply.run.trail } }
  { reply with run := passed.outer }

def preflight (b : Backend) (refs : List String) (hints : List TraitsData) (run : SinkRun String) :
    Reply String :=
  match b with
  | catalog _ => b.keep (Catalog.preflight refs hints run)
  | scripted s => b.played (s.play "preflight" Scripted.readText run)
  | bare _ => b.refuse "preflight" run

def register (b : Backend) (refs : List String) (datas : List TraitsData) (access : PublishingAccess)
    (run : SinkRun String) : Reply String :=
  match b with
  | catalog c => let (run, c) := c.register refs datas access run; ⟨run, catalog c, .ok ()⟩
  | scripted s => b.played (s.play "register" Scripted.readText run)
  | bare _ => b.refuse "register" run

end Backend

end AssetBroker
