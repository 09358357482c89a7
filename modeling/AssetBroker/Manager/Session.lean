import AssetBroker.Manager.Backend
import AssetBroker.Manager.Calls

/-!
# Driving a manager

A session is a manager as its host drives it: the implementation, the host
it serves, and who holds it. The caller holds handles on the manager and
the pagers of its paged queries, by name; each of them keeps the manager
open, and when the last one goes the manager is closed, once.

The session checks every call before the manager sees it. A batch query
needs its capability (`CapabilityUnsupported` otherwise, with a warning);
a paged query needs a page size above zero, and publishing needs as many
hints or data as references (`InputValidation`). Only then does the
manager report into a fresh sink, which is finished unless the call failed
as a whole. Contexts get a state only from a stateful manager, and a token
is read back only by one.

A pager handed to the caller keeps the manager's pager until its first
close, whose result is returned; after that its queries fail and closing
again does nothing. Dropping a pager that is still open closes it, and a
failure or panic of that close is logged, never returned.
-/

namespace AssetBroker

/-- A pager held by the caller. -/
structure HostPager where
  /-- The manager's pager, until the pager is closed. -/
  source : Option PageSource
  deriving Inhabited

def HostPager.text (p : HostPager) : String :=
  "EntityReferencePager \x7b closed: " ++ (if p.source.isNone then "true" else "false") ++ ", .. \x7d"

/-- A manager driven by its host. -/
structure Session where
  backend : Backend
  host : Host
  /-- Handles the caller holds on the manager. -/
  handles : Nat := 1
  /-- Pagers the caller holds, by name. -/
  pagers : List (String × HostPager) := []
  /-- Whether the manager has been closed. -/
  closed : Bool := false
  /-- The serial number of the next state. -/
  nextSerial : Nat := 1
  /-- Whether the manager's states are anchored to the binary its code
  lives in. -/
  anchor : Bool := false
  trail : Trail := #[]
  deriving Inhabited

abbrev Act (α : Type) := StateM Session α

/-- What a batch call delivered, and whether it failed as a whole. -/
abbrev Ran (α : Type) := List (Delivery α) × Except BrokerError Unit

namespace Ran

/-- A call in the shape for all of `len` elements: its failure as a whole,
or its deliveries gathered under the policy. -/
def all {α : Type} (p : Policy) (len : Nat) (ran : Ran α) : Except BrokerError (Gathered α) :=
  ran.2 >>= fun () => gatherAll p len ran.1

/-- A call in the shape for one element: its failure as a whole, or its
deliveries gathered under the policy. -/
def one {α : Type} (p : Policy) (ran : Ran α) : Except BrokerError (Single α) :=
  ran.2 >>= fun () => gatherOne p ran.1

end Ran

namespace Session

/-- A session with one handle on a manager. -/
def start (backend : Backend) (host : Host) : Session := { backend, host }

def log (level : Level) (component : Component) (message : String)
    (fields : List (String × FieldValue)) : Act Unit :=
  modify fun s => { s with trail := s.trail.push ⟨level, component, message, fields⟩ }

def identifier : Act String := return (← get).backend.identifier

/-- How many things hold the manager open. -/
def holders (s : Session) : Nat := s.handles + s.pagers.length

/-- Closes the manager once nothing holds it; failures are logged. -/
def settle : Act Unit := do
  let s ← get
  if s.closed || s.holders != 0 then return
  let id := s.backend.identifier
  log .debug .hostManager "closing manager" [Event.shown "manager" id]
  let (b, ending) := s.backend.close
  modify fun s => { s with backend := b, closed := true }
  match ending with
  | .done => pure ()
  | .failed e =>
    log .error .hostManager "failed to close manager" [Event.shown "manager" id, Event.shown "error" e.display]
  | .panicked _ => log .error .hostManager "manager panicked while closing" [Event.shown "manager" id]

/-! ## Handles -/

/-- Takes one more handle; answers how many there are. -/
def cloneHandle : Act Nat := do
  modify fun s => { s with handles := s.handles + 1 }
  return (← get).handles

def dropHandle : Act Unit := do
  modify fun s => { s with handles := s.handles - 1 }
  settle

/-! ## Pagers -/

/-- Closes a manager's pager whose holder is going away, logging a failure. -/
def closeQuietly (src : PageSource) : Act Unit := do
  let (b, ending) := (← get).backend.closePager src
  modify fun s => { s with backend := b }
  let id := b.identifier
  match ending with
  | .done => pure ()
  | .failed e =>
    log .error .hostPager "failed to close entity reference pager"
      [Event.shown "manager" id, Event.shown "error" e.display]
  | .panicked m =>
    log .error .hostPager "entity reference pager panicked while closing"
      [Event.shown "manager" id, Event.shown "panic" m]

/-- Lets go of a pager that was never handed over. -/
def discardPager (src : PageSource) : Act Unit := closeQuietly src

def pager? (name : String) : Act (Option HostPager) := return Keyed.find? name (← get).pagers

/-- Hands a new pager to the caller under a name; a pager held under that
name before is dropped. -/
def keepPager (name : String) (src : PageSource) : Act Unit := do
  let old ← pager? name
  modify fun s => { s with pagers := Keyed.insert name ⟨some src⟩ s.pagers }
  match old with
  | some ⟨some previous⟩ => closeQuietly previous
  | _ => pure ()

/-- Drops the pager held under a name: closes it if it is open, then lets
go of the manager. -/
def dropPager (name : String) : Act Unit := do
  let held ← pager? name
  modify fun s => { s with pagers := s.pagers.filter (·.1 != name) }
  match held with
  | some ⟨some src⟩ => closeQuietly src
  | _ => pure ()
  settle

def closedPager : BrokerError := .invalidInput "pager has been closed"

/-- The open manager's pager behind a held pager. -/
def openSource (p : HostPager) : Except BrokerError PageSource :=
  match p.source with
  | some src => .ok src
  | none => .error closedPager

/-- Closes a held pager; later closes do nothing. -/
def closePager (name : String) : Act Closed := do
  match ← pager? name with
  | some ⟨some src⟩ =>
    modify fun s => { s with pagers := Keyed.insert name ⟨none⟩ s.pagers }
    let (b, ending) := (← get).backend.closePager src
    modify fun s => { s with backend := b }
    return ending
  | _ => return .done

def advancePager (name : String) (p : HostPager) : Act (Except BrokerError Unit) := do
  match openSource p with
  | .ok src =>
    modify fun s => { s with pagers := Keyed.insert name ⟨some src.next⟩ s.pagers }
    return .ok ()
  | .error e => return .error e

/-- Drops every pager, by name, then every handle. -/
def finish : Act Unit := do
  for (name, _) in (← get).pagers do
    dropPager name
  modify fun s => { s with handles := 0 }
  settle

/-! ## Identity and settings -/

def text (s : Session) : String :=
  "Manager \x7b identifier: " ++ debugQuote s.backend.identifier ++ ", host: " ++ s.host.sessionText ++ " \x7d"

/-- Starts the manager with settings, then checks that it has every
required capability. -/
def configure (settings : Settings) : Act (Except BrokerError Unit) := do
  let id ← identifier
  log .debug .hostManager "initializing manager" [Event.shown "manager" id]
  match (← get).backend.start settings with
  | .error e => return .error e
  | .ok b =>
    modify fun s => { s with backend := b }
    let missing := (Capability.required.filter fun c => !b.hasCapability c).map (·.name)
    if missing.isEmpty then return .ok ()
    log .warn .hostManager "manager lacks required capabilities"
      [Event.shown "manager" id, Event.shown "missing" ("[" ++ ", ".intercalate (missing.map debugQuote) ++ "]")]
    return .error (.config ("manager '" ++ id ++ "' does not support required capabilities: " ++
      ", ".intercalate missing))

/-- The manager's words for some terms, if it has its own. -/
def updateTerminology (terms : List (String × String)) : Act (Except BrokerError (List (String × String))) := do
  let b := (← get).backend
  if b.hasCapability .customTerminology then return b.updateTerminology terms
  return .ok terms

/-- The policy of each trait set; the manager must answer one per set. -/
def managementPolicy (sets : List TraitSet) (access : PolicyAccess) :
    Act (Except BrokerError (List TraitsData)) := do
  let b := (← get).backend
  match b.managementPolicy sets access with
  | .error e => return .error e
  | .ok policies =>
    if policies.length == sets.length then return .ok policies
    return .error (.manager ("manager '" ++ b.identifier ++ "' returned " ++ toString policies.length ++
      " policies for " ++ toString sets.length ++ " trait sets"))

/-- A candidate as a reference, if the manager recognises it. -/
def createEntityReference (candidate : String) : Act (Except BrokerError String) := do
  let b := (← get).backend
  if b.isEntityReferenceString candidate then return .ok candidate
  return .error (.invalidInput ("'" ++ candidate ++ "' is not a valid entity reference for manager '" ++
    b.identifier ++ "'"))

/-! ## Contexts -/

/-- Hands out a state under a fresh serial number. -/
def wrapState (content : StateContent) : Act ManagerState := do
  let s ← get
  set { s with nextSerial := s.nextSerial + 1 }
  return { serial := s.nextSerial, content, anchored := s.anchor }

/-- A fresh context, with a new state if the manager is stateful. -/
def createContext : Act (Except BrokerError Context) := do
  let b := (← get).backend
  if !b.hasCapability .stateful then return .ok {}
  match b.createState with
  | .error e => return .error e
  | .ok (content, b) =>
    modify fun s => { s with backend := b }
    return .ok { state := some (← wrapState content) }

/-- A copy of a context, whose state, if it has one and the manager is
stateful, is a new child of the parent's state. -/
def createChildContext (parent : Context) : Act (Except BrokerError Context) := do
  let b := (← get).backend
  match parent.state with
  | some st =>
    if !b.hasCapability .stateful then return .ok parent
    match b.createChildState st.content with
    | .error e => return .error e
    | .ok (content, b) =>
      modify fun s => { s with backend := b }
      return .ok { parent with state := some (← wrapState content) }
  | none => return .ok parent

/-- The token of a context's state; empty without state or without a
stateful manager. -/
def persistenceToken (c : Context) : Act (Except BrokerError String) := do
  let b := (← get).backend
  match c.state with
  | some st => if b.hasCapability .stateful then return b.persistenceToken st.content else return .ok ""
  | none => return .ok ""

/-- Checks a capability, warning when the manager lacks it. -/
def require (cap : Capability) : Act (Except BrokerError Unit) := do
  let b := (← get).backend
  if b.hasCapability cap then return .ok ()
  log .warn .hostManager "manager does not support capability"
    [Event.shown "manager" b.identifier, Event.shown "capability" cap.name]
  return .error (.capabilityUnsupported b.identifier cap)

/-- The context a token stands for; the empty token stands for a context
without state. -/
def contextFromToken (token : String) : Act (Except BrokerError Context) := do
  if token.isEmpty then return .ok {}
  match ← require .stateful with
  | .error e => return .error e
  | .ok () =>
    match (← get).backend.stateFromToken token with
    | .error e => return .error e
    | .ok content => return .ok { state := some (← wrapState content) }

/-! ## Batch queries -/

/-- Runs a batch method into a fresh sink of `len` elements, finishing the
sink unless the method failed as a whole. -/
def runSink {α : Type} (len : Nat) (stop : Bool) (call : Backend → SinkRun α → Reply α) : Act (Ran α) := do
  let s ← get
  let reply := call s.backend (SinkRun.fresh len stop)
  let run := match reply.result with
    | .ok () => reply.run.finish
    | .error _ => reply.run
  set { s with backend := reply.backend, trail := s.trail ++ run.trail }
  return (run.delivered, reply.result)

/-- Runs a batch method once its capability and checks pass. -/
def gated {α : Type} (cap : Capability) (check : Except BrokerError Unit) (len : Nat) (stop : Bool)
    (call : Backend → SinkRun α → Reply α) : Act (Ran α) := do
  match ← require cap with
  | .error e => return ([], .error e)
  | .ok () =>
    match check with
    | .error e => return ([], .error e)
    | .ok () => runSink len stop call

def pageSizeCheck (pageSize : Nat) : Except BrokerError Unit :=
  if pageSize == 0 then .error (.invalidInput "page size must be greater than zero") else .ok ()

/-- The check that a publishing call has one item per reference. -/
def lengthCheck (operation what : String) (refs len : Nat) : Except BrokerError Unit :=
  if refs == len then .ok ()
  else .error (.invalidInput (operation ++ ": " ++ toString len ++ " " ++ what ++ " given for " ++
    toString refs ++ " entity references"))

def entityExists (refs : List String) (stop : Bool) : Act (Ran Bool) :=
  gated .existenceQueries (.ok ()) refs.length stop fun b => b.entityExists refs

def entityTraits (refs : List String) (stop : Bool) : Act (Ran TraitSet) :=
  gated .entityTraitIntrospection (.ok ()) refs.length stop fun b => b.entityTraits refs

def resolve (refs : List String) (traits : TraitSet) (stop : Bool) : Act (Ran TraitsData) :=
  gated .resolution (.ok ()) refs.length stop fun b => b.resolve refs traits

def defaultEntityReference (sets : List TraitSet) (stop : Bool) : Act (Ran (Option String)) :=
  gated .defaultEntityReferences (.ok ()) sets.length stop fun b => b.defaultEntityReference sets

def getWithRelationship (refs : List String) (relationship : TraitsData) (result : TraitSet)
    (stop : Bool) : Act (Ran (List String)) :=
  gated .relationshipQueries (.ok ()) refs.length stop fun b =>
    b.getWithRelationship refs relationship result

def getWithRelationships (r : String) (relationships : List TraitsData) (result : TraitSet)
    (stop : Bool) : Act (Ran (List String)) :=
  gated .relationshipQueries (.ok ()) relationships.length stop fun b =>
    b.getWithRelationships r relationships result

def getWithRelationshipPaged (refs : List String) (relationship : TraitsData) (result : TraitSet)
    (pageSize : Nat) (stop : Bool) : Act (Ran PageSource) :=
  gated .relationshipQueries (pageSizeCheck pageSize) refs.length stop fun b =>
    b.getWithRelationshipPaged refs relationship result pageSize

def getWithRelationshipsPaged (r : String) (relationships : List TraitsData) (result : TraitSet)
    (pageSize : Nat) (stop : Bool) : Act (Ran PageSource) :=
  gated .relationshipQueries (pageSizeCheck pageSize) relationships.length stop fun b =>
    b.getWithRelationshipsPaged r relationships result pageSize

/-- `getWithRelationshipPaged` of a manager whose code lives in a loaded
binary, its pagers passed on through the binding's relay. -/
def boundGetWithRelationshipPaged (refs : List String) (relationship : TraitsData) (result : TraitSet)
    (pageSize : Nat) (stop : Bool) : Act (Ran PageSource) :=
  gated .relationshipQueries (pageSizeCheck pageSize) refs.length stop fun b =>
    Backend.bindPagers refs.length (b.getWithRelationshipPaged refs relationship result pageSize)

/-- `getWithRelationshipsPaged` of a manager whose code lives in a loaded
binary, its pagers passed on through the binding's relay. -/
def boundGetWithRelationshipsPaged (r : String) (relationships : List TraitsData) (result : TraitSet)
    (pageSize : Nat) (stop : Bool) : Act (Ran PageSource) :=
  gated .relationshipQueries (pageSizeCheck pageSize) relationships.length stop fun b =>
    Backend.bindPagers relationships.length (b.getWithRelationshipsPaged r relationships result pageSize)

def preflight (refs : List String) (hints : List TraitsData) (stop : Bool) : Act (Ran String) :=
  gated .publishing (lengthCheck "preflight" "traits hints" refs.length hints.length) refs.length stop
    fun b => b.preflight refs hints

def register (refs : List String) (datas : List TraitsData) (access : PublishingAccess) (stop : Bool) :
    Act (Ran String) :=
  gated .publishing (lengthCheck "register" "traits datas" refs.length datas.length) refs.length stop
    fun b => b.register refs datas access

end Session

end AssetBroker
