import AssetBroker.Script.Batch
import AssetBroker.Query
import AssetBroker.Manager.Bench

/-!
# Driving a manager

Builds a manager from a request (the in-memory catalog, a scripted
manager, or a bare one), opens a session with a host, and runs steps
against it: batch queries in their call shapes, contexts, pagers, handles
and the two query commands. Contexts and pagers are kept by name between
steps. At the end every pager is dropped, by name, then every handle, and
the answer reports the manager's counters.

References that related creation makes end in 32 hexadecimal digits; in
answers those digits read `<uuid>`.
-/

namespace AssetBroker

namespace Script

/-! ## Building the manager -/

/-- Reads a capability list: `all`, `minimal`, or names. -/
def readCapabilities (j : Json) : Read (List Capability) :=
  match j with
  | .str "all" => .ok Capability.all
  | .str "minimal" => .ok Capability.required
  | .arr items => items.mapM fun item => do
    let name ← asStr item
    match Capability.ofName? name with
    | some c => .ok c
    | none => .error (badName "capability" name)
  | _ => .error (badInput "capabilities must be all, minimal or a list")

def readCatalog (spec : Json) : Read Catalog := do
  let base : Catalog := {}
  let capabilities ← (optional spec "capabilities" readCapabilities).map (·.getD base.capabilities)
  let c : Catalog := { base with
    identifier := ← strOr spec "identifier" base.identifier,
    displayName := ← strOr spec "display_name" base.displayName,
    capabilities,
    refusesPagerClose := ← boolOr spec "failing_pager_close" false }
  let entities ← (optional spec "entities" asFields).map (·.getD [])
  let c ← entities.foldlM (fun c (name, data) => do return c.withEntity name (← readTraits data)) c
  let relations ← (optional spec "relations" asList).map (·.getD [])
  let c ← relations.foldlM (fun c rel => do
    match ← asStrs rel with
    | [source, kind, target] => return c.withRelation source kind target
    | _ => .error (badInput "a relation is [from, kind, to]")) c
  let silent ← (optional spec "silent" asStrs).map (·.getD [])
  return silent.foldl Catalog.withSilent c

def readCue (j : Json) : Read Cue := do
  if (j.field? "fail").isSome then return .fail (← needStr j "fail")
  if (j.field? "poll").isSome then return .poll
  let index ← needNat j "index"
  match j.field? "ok" with
  | some v => return .report index (.ok v)
  | none => return .report index (.error (← readElementError (← need j "err")))

def readScripted (spec : Json) : Read Scripted := do
  let base : Scripted := {}
  let methods ← (optional spec "script" asFields).map (·.getD [])
  let script ← methods.mapM fun (method, cues) => do
    return (method, ← (← asList cues).mapM readCue)
  let policies ← optional spec "policies" fun j => do (← asList j).mapM readTraits
  let info ← (optional spec "info" readSettings).map (·.getD [])
  return { base with
    identifier := ← strOr spec "identifier" base.identifier,
    displayName := ← strOr spec "display_name" base.displayName,
    capabilities := ← (optional spec "capabilities" readCapabilities).map (·.getD base.capabilities),
    referencePrefix := ← strOr spec "prefix" base.referencePrefix,
    script := Keyed.ofList script,
    policies,
    policyError := ← optional spec "policy_error" asStr,
    startError := ← optional spec "initialize_error" asStr,
    closeError := ← optional spec "close_error" asStr,
    closePanics := ← boolOr spec "close_panic" false,
    info }

/-- Reads a bare manager; `counted` tells whether it counts its closes. -/
def readBare (spec : Json) (counted : Bool) : Read Bare := do
  let base : Bare := {}
  return { base with
    identifier := ← strOr spec "identifier" base.identifier,
    displayName := ← strOr spec "display_name" base.displayName,
    referencePrefix := ← strOr spec "prefix" base.referencePrefix,
    capabilities := ← (optional spec "capabilities" readCapabilities).map (·.getD base.capabilities),
    countsCloses := counted,
    makesStates := ← boolOr spec "stateful" false }

def optionalTraitsJson (d : Option TraitsData) : Json := Json.opt traitsJson d

/-- What a fresh copy of the catalog says about some entities. -/
def probeJson (c : Catalog) (names : List String) : Json :=
  .obj [("initialized", .bool false),
    ("entities", .obj (Keyed.ofList (names.map fun n => (n, optionalTraitsJson (c.entity? n)))))]

/-- Reads the manager a request describes, and the probe answer it asks for. -/
def readBackend (spec : Json) : Read (Backend × List (String × Json)) := do
  match ← strOr spec "kind" "mock" with
  | "mock" =>
    let c ← readCatalog spec
    let probe ← optional spec "probe" asStrs
    return (.catalog c, match probe with
      | some names => [("probe", probeJson c names)]
      | none => [])
  | "scripted" => return (.scripted (← readScripted spec), [])
  | "bare" => return (.bare (← readBare spec true), [])
  | "minimal" => return (.bare (← readBare spec false), [])
  | other => .error (badInput ("unknown manager kind '" ++ other ++ "'"))

def readHost (req : Json) : Read Host := do
  match ← strOr req "host" "mock" with
  | "mock" | "mock_session" => return Host.testing
  | "cli" => return Host.commandLine
  | "plain" => return Host.plain
  | other => .error (badInput ("unknown host '" ++ other ++ "'"))

/-! ## Answers -/

def countersJson : Backend → Json
  | .catalog c => .obj [("closes", .int c.closes), ("pager_closes", .int c.pagerCloses),
      ("published", .arr (c.published.map fun i => .int (Int.ofNat i)))]
  | .scripted s => .obj [("closes", .int s.closes), ("pager_closes", .int s.pagerCloses)]
  | .bare b => .obj [("closes", .int b.closes)]

/-- The counters of a manager the script can see into, or `null` for one
it only reaches through its interface. -/
def countersView (counted : Bool) (b : Backend) : Json := if counted then countersJson b else .null

def contextJson (c : Context) : Json :=
  let state := match c.state with
    | some st =>
      match st.content with
      | .catalog id parent =>
        .obj [("id", .int id.toNat), ("parent", Json.opt (fun p => .int p.toNat) parent)]
      | .hidden => .str "opaque"
    | none => .null
  .obj [("access", .str c.access.name), ("state", state),
    ("anchored", Json.opt (fun (st : ManagerState) => .bool st.anchored) c.state),
    ("locale", traitsJson c.locale)]

def pagerJson (name : String) : Json := .obj [("pager", .str name)]

/-- Writes each run of 32 hexadecimal digits that follows a `/` and ends
the text or precedes a `/` as `<uuid>`. -/
def maskCreated (s : String) : String :=
  String.ofList (go s.toList (s.length + 1))
where
  isHex (c : Char) : Bool := ('0' ≤ c && c ≤ '9') || ('a' ≤ c && c ≤ 'f')
  go (cs : List Char) : Nat → List Char
    | 0 => cs
    | fuel + 1 =>
      match cs with
      | [] => []
      | '/' :: rest =>
        let digits := rest.take 32
        let after := rest.drop 32
        if digits.length == 32 && digits.all isHex && (after.isEmpty || after.head? == some '/') then
          '/' :: "<uuid>".toList ++ go after fuel
        else '/' :: go rest fuel
      | c :: rest => c :: go rest fuel

/-- Masks created references in every text of an answer, keys included. -/
def maskAnswer : Json → Json
  | .str s => .str (maskCreated s)
  | .arr items => .arr (items.attach.map fun ⟨j, _⟩ => maskAnswer j)
  | .obj fields => .obj (fields.attach.map fun ⟨(k, j), _⟩ => (maskCreated k, maskAnswer j))
  | j => j
decreasing_by
  all_goals simp_wf
  · exact Json.sizeOf_lt_of_mem_items (by assumption)
  · exact Json.sizeOf_lt_of_mem_fields (by assumption)

/-! ## Steps -/

/-- The answer of a step that needs a handle when none is left. -/
def noManager : Json := .obj [("error", .str "NoManager")]

/-- Refuses a step when no handle is left. -/
def needManager (b : ManagerBench) : Read Unit :=
  if b.session.handles == 0 then .error noManager else .ok ()

/-- The context named by a field, or the blank context when it is absent. -/
def contextArg (b : ManagerBench) (step : Json) (key : String) : Read Context := do
  match ← optional step key asStr with
  | none => return {}
  | some name =>
    match Keyed.find? name b.contexts with
    | some c => return c
    | none => .error (badInput "no such context")

/-- Reads a name among the display names of an enumeration. -/
def readNamed {α : Type} (what : String) (all : List α) (name : α → String) (text : String) : Read α :=
  match all.find? (name · == text) with
  | some a => .ok a
  | none => .error (badName what text)

/-- Reads an access field among the names of an enumeration. -/
def accessArg {α : Type} (step : Json) (what : String) (all : List α) (name : α → String)
    (default : α) : Read α := do
  match ← optional step "access" asStr with
  | some text => readNamed what all name text
  | none => return default

def readShape (step : Json) : Read Shape := do
  match ← strOr step "shape" "all" with
  | "raw" => return .raw
  | "one" => return .one
  | "all" => return .all
  | other => .error (badInput ("unknown shape '" ++ other ++ "'"))

def readPolicy (step : Json) : Read Policy := do
  match ← strOr step "policy" "variant" with
  | "variant" => return .variant
  | "exception" => return .exception
  | other => .error (badInput ("unknown policy '" ++ other ++ "'"))

def shapedJson {α : Type} (shape : Shape) (policy : Policy) (len : Nat) (encode : α → Json)
    (ran : Ran α) : Json :=
  let (ds, result) := ran
  match shape with
  | .raw =>
    let events := Json.arr (ds.map (deliveryJson encode))
    match result with
    | .ok () => .obj [("events", events)]
    | .error e => (brokerJson e).withFields [("events", events)]
  | .one =>
    match Ran.one policy (ds, result) with
    | .error e => brokerJson e
    | .ok (.outcome o) => .obj [("outcome", outcomeJson encode o)]
    | .ok (.value v) => .obj [("value", encode v)]
  | .all =>
    match Ran.all policy len (ds, result) with
    | .error e => brokerJson e
    | .ok (.outcomes os) => .obj [("outcomes", .arr (os.map (outcomeJson encode)))]
    | .ok (.values vs) => .obj [("values", .arr (vs.map encode))]

/-- Runs a batch call whose values are plain data. -/
def plainBatch {α : Type} (shape : Shape) (policy : Policy) (len : Nat) (encode : α → Json)
    (call : Bool → Act (Ran α)) : Act Json := do
  let stop := if shape == .raw then false else policy.stopsOnError
  return shapedJson shape policy len encode (← call stop)

/-- Drops pagers that were made but not handed over. -/
def discardAll (srcs : List PageSource) : Act Unit := do
  for src in srcs do Session.discardPager src

/-- Runs a paged call, keeping each pager handed over under `name` (for
one element) or `name` followed by its index. -/
def pagedBatch (shape : Shape) (policy : Policy) (len : Nat) (name : String)
    (call : Bool → Act (Ran PageSource)) : Act Json := do
  match shape with
  | .raw =>
    let (ds, result) ← call false
    let mut events := #[]
    for d in ds do
      match d.outcome with
      | .ok src =>
        let n := name ++ toString d.index
        Session.keepPager n src
        events := events.push (deliveryJson pagerJson ⟨d.index, .ok n⟩)
      | .error e => events := events.push (deliveryJson pagerJson ⟨d.index, .error e⟩)
    match result with
    | .ok () => return .obj [("events", .arr events.toList)]
    | .error e => return (brokerJson e).withFields [("events", .arr events.toList)]
  | .one =>
    let (ds, result) ← call policy.stopsOnError
    match Ran.one policy (ds, result) with
    | .error e =>
      discardAll (Delivery.deliveredValues 1 ds)
      return brokerJson e
    | .ok (.outcome (.ok src)) =>
      Session.keepPager name src
      return .obj [("outcome", outcomeJson pagerJson (.ok name))]
    | .ok (.outcome (.error e)) => return .obj [("outcome", outcomeJson pagerJson (.error e))]
    | .ok (.value src) =>
      Session.keepPager name src
      return .obj [("value", pagerJson name)]
  | .all =>
    let (ds, result) ← call policy.stopsOnError
    match Ran.all policy len (ds, result) with
    | .error e =>
      discardAll (Delivery.deliveredValues len ds)
      return brokerJson e
    | .ok (.outcomes os) =>
      let mut answers := #[]
      for (o, i) in os.zipIdx do
        match o with
        | .ok src =>
          Session.keepPager (name ++ toString i) src
          answers := answers.push (outcomeJson pagerJson (.ok (name ++ toString i)))
        | .error e => answers := answers.push (outcomeJson pagerJson (.error e))
      return .obj [("outcomes", .arr answers.toList)]
    | .ok (.values vs) =>
      let mut answers := #[]
      for (src, i) in vs.zipIdx do
        Session.keepPager (name ++ toString i) src
        answers := answers.push (pagerJson (name ++ toString i))
      return .obj [("values", .arr answers.toList)]

/-- The references of a step: `ref` for one element, `refs` otherwise. -/
def refsArg (step : Json) (shape : Shape) : Read (List String) := do
  if shape == .one then return [← needStr step "ref"] else needStrs step "refs"

/-- A trait set field, empty when absent. -/
def traitSetArg (step : Json) (key : String) : Read TraitSet :=
  (optional step key asStrs).map fun ts => sortedSet (ts.getD [])

/-- A traits data field, empty when absent. -/
def traitsArg (step : Json) (key : String) : Read TraitsData := do
  match step.given? key with
  | some j => readTraits j
  | none => return .empty

def traitsList (j : Json) : Read (List TraitsData) := do (← asList j).mapM readTraits

def shapeUnavailable (shape : String) (op : String) : Json :=
  badInput ("shape '" ++ shape ++ "' not available for '" ++ op ++ "'")

def pagerArg (b : ManagerBench) (step : Json) : Read (String × HostPager) := do
  let name ← needStr step "pager"
  match Keyed.find? name b.session.pagers with
  | some p => return (name, p)
  | none => .error (badInput ("no pager '" ++ name ++ "'"))

def unitJson (r : Except BrokerError Unit) : Json :=
  match r with
  | .ok () => done
  | .error e => brokerJson e

def resultJson {α : Type} (encode : α → Json) (r : Except BrokerError α) : Json :=
  match r with
  | .ok v => encode v
  | .error e => brokerJson e

def printedJson (p : Printed) : Json :=
  .obj [("out", .str p.out), ("result", match p.result with
    | .ok () => .null
    | .error e => brokerJson e)]

def batchStep (b : ManagerBench) (step : Json) (op : String) : Read (Json × ManagerBench) := do
  let shape ← readShape step
  let policy ← readPolicy step
  let plain {α : Type} (len : Nat) (encode : α → Json) (call : Bool → Act (Ran α)) :
      Read (Json × ManagerBench) := do
    needManager b
    return b.act (plainBatch shape policy len encode call)
  let paged (len : Nat) (call : Bool → Act (Ran PageSource)) : Read (Json × ManagerBench) := do
    let name ← strOr step "as" "p"
    needManager b
    return b.act (pagedBatch shape policy len name call)
  match op with
  | "entity_exists" =>
    let refs ← refsArg step shape
    plain refs.length Json.bool (Session.entityExists refs)
  | "entity_traits" =>
    let _ ← accessArg step "entity traits access" EntityTraitsAccess.all EntityTraitsAccess.name .read
    let refs ← refsArg step shape
    plain refs.length Json.strList (Session.entityTraits refs)
  | "resolve" =>
    let _ ← accessArg step "resolve access" ResolveAccess.all ResolveAccess.name .read
    let refs ← refsArg step shape
    let traits ← traitSetArg step "traits"
    plain refs.length traitsJson (Session.resolve refs traits)
  | "default_entity_reference" =>
    let _ ← accessArg step "default entity access" DefaultEntityAccess.all DefaultEntityAccess.name .read
    let sets ← if shape == .one then pure [← traitSetArg step "trait_set"]
      else (← asList (← need step "trait_sets")).mapM fun j => do return sortedSet (← asStrs j)
    plain sets.length (Json.opt Json.str) (Session.defaultEntityReference sets)
  | "get_with_relationship" =>
    let _ ← accessArg step "relations access" RelationsAccess.all RelationsAccess.name .read
    let refs ← refsArg step shape
    let relationship ← traitsArg step "relationship"
    let result ← traitSetArg step "result_traits"
    plain refs.length Json.strList (Session.getWithRelationship refs relationship result)
  | "get_with_relationships" =>
    if shape == .one then .error (shapeUnavailable "one" op)
    let _ ← accessArg step "relations access" RelationsAccess.all RelationsAccess.name .read
    let r ← needStr step "ref"
    let relationships ← traitsList (← need step "relationships")
    let result ← traitSetArg step "result_traits"
    plain relationships.length Json.strList (Session.getWithRelationships r relationships result)
  | "get_with_relationship_paged" =>
    if shape == .all then .error (shapeUnavailable "all" op)
    let _ ← accessArg step "relations access" RelationsAccess.all RelationsAccess.name .read
    let refs ← refsArg step shape
    let relationship ← traitsArg step "relationship"
    let result ← traitSetArg step "result_traits"
    let pageSize ← (optional step "page_size" asNat).map (·.getD 10)
    paged refs.length (if b.session.anchor then Session.boundGetWithRelationshipPaged refs relationship result pageSize
      else Session.getWithRelationshipPaged refs relationship result pageSize)
  | "get_with_relationships_paged" =>
    if shape == .one then .error (shapeUnavailable "one" op)
    let _ ← accessArg step "relations access" RelationsAccess.all RelationsAccess.name .read
    let r ← needStr step "ref"
    let relationships ← traitsList (← need step "relationships")
    let result ← traitSetArg step "result_traits"
    let pageSize ← (optional step "page_size" asNat).map (·.getD 10)
    paged relationships.length (if b.session.anchor
      then Session.boundGetWithRelationshipsPaged r relationships result pageSize
      else Session.getWithRelationshipsPaged r relationships result pageSize)
  | "preflight" =>
    let _ ← accessArg step "publishing access" PublishingAccess.all PublishingAccess.name .write
    let refs ← refsArg step shape
    let hints ← if shape == .one then pure [← traitsArg step "hint"] else traitsList (← need step "hints")
    plain refs.length Json.str (Session.preflight refs hints)
  | "register" =>
    let access ← accessArg step "publishing access" PublishingAccess.all PublishingAccess.name .write
    let refs ← refsArg step shape
    let datas ← if shape == .one then pure [← traitsArg step "data"] else traitsList (← need step "datas")
    plain refs.length Json.str (Session.register refs datas access)
  | other => .error (badInput ("unknown step '" ++ other ++ "'"))

def pagerStep (counted : Bool) (b : ManagerBench) (step : Json) (op : String) :
    Read (Json × ManagerBench) := do
  let (name, p) ← pagerArg b step
  let query {α : Type} (encode : α → Json) (f : PageSource → α) : Json :=
    resultJson encode ((Session.openSource p).map f)
  match op with
  | "pager_debug" => return (.str p.text, b)
  | "pager_is_closed" => return (.bool p.source.isNone, b)
  | "pager_has_next" => return (query Json.bool PageSource.hasNext, b)
  | "pager_get" => return (query Json.strList PageSource.get, b)
  | "pager_next" =>
    let (r, b) := b.act (Session.advancePager name p)
    return (unitJson r, b)
  | "pager_close" =>
    let (ending, b) := b.act (Session.closePager name)
    match ending with
    | .done => return (done, b)
    | .failed e => return (brokerJson e, b)
    | .panicked m => return (crashed m, b)
  | "pager_drop" =>
    let ((), b) := b.act (Session.dropPager name)
    return (countersView counted b.session.backend, b)
  | other => .error (badInput ("unknown step '" ++ other ++ "'"))

/-- One step of a manager script; `counted` tells whether the script can
read the manager's counters. -/
def managerStep (counted : Bool) (b : ManagerBench) (step : Json) : Read (Json × ManagerBench) := do
  let s := b.session
  let op ← needStr step "do"
  match op with
  | "identifier" => needManager b; return (.str s.backend.identifier, b)
  | "display_name" => needManager b; return (.str s.backend.displayName, b)
  | "info" => needManager b; return (taggedMap s.backend.info, b)
  | "settings" => needManager b; return (resultJson taggedMap s.backend.settings, b)
  | "initialize" =>
    let settings ← (optional step "settings" readSettings).map (·.getD [])
    needManager b
    let (r, b) := b.act (Session.configure settings)
    return (unitJson r, b)
  | "flush_caches" => needManager b; return (unitJson s.backend.flushCaches, b)
  | "update_terminology" =>
    let fields ← (optional step "terms" asFields).map (·.getD [])
    let terms ← fields.mapM fun (k, v) => do return (k, ← asStr v)
    needManager b
    let (r, b) := b.act (Session.updateTerminology (Keyed.ofList terms))
    return (resultJson (fun ts => .obj (ts.map fun (k, v) => (k, .str v))) r, b)
  | "has_capability" =>
    let name ← needStr step "capability"
    let cap ← readNamed "capability" Capability.all Capability.name name
    needManager b
    return (.bool (s.backend.hasCapability cap), b)
  | "management_policy" =>
    let access ← accessArg step "policy access" PolicyAccess.all PolicyAccess.name .read
    let sets ← (← asList (← need step "trait_sets")).mapM fun j => do return sortedSet (← asStrs j)
    needManager b
    let (r, b) := b.act (Session.managementPolicy sets access)
    return (resultJson (fun ps => .arr (ps.map traitsJson)) r, b)
  | "create_context" =>
    let name ← optional step "as" asStr
    needManager b
    let (r, b) := b.act Session.createContext
    match r with
    | .ok c => return (contextJson c, b.keepContext name c)
    | .error e => return (brokerJson e, b)
  | "create_child_context" =>
    let parent ← contextArg b step "parent"
    let name ← optional step "as" asStr
    needManager b
    let (r, b) := b.act (Session.createChildContext parent)
    match r with
    | .ok c => return (contextJson c, b.keepContext name c)
    | .error e => return (brokerJson e, b)
  | "persistence_token" =>
    let c ← contextArg b step "ctx"
    needManager b
    let (r, b) := b.act (Session.persistenceToken c)
    return (resultJson Json.str r, b)
  | "context_from_token" =>
    let token ← strOr step "token" ""
    let name ← optional step "as" asStr
    needManager b
    let (r, b) := b.act (Session.contextFromToken token)
    match r with
    | .ok c => return (contextJson c, b.keepContext name c)
    | .error e => return (brokerJson e, b)
  | "context" => return (contextJson (← contextArg b step "ctx"), b)
  | "set_access" =>
    let name ← needStr step "ctx"
    let c ← contextArg b step "ctx"
    let access ← readNamed "access" Access.all Access.name (← needStr step "access")
    let c := { c with access }
    return (contextJson c, b.keepContext (some name) c)
  | "set_locale" =>
    let name ← needStr step "ctx"
    let c ← contextArg b step "ctx"
    let c := { c with locale := ← traitsArg step "locale" }
    return (contextJson c, b.keepContext (some name) c)
  | "same_state" =>
    let c ← contextArg b step "ctx"
    let other ← match ← optional step "other" asStr with
      | some name =>
        match Keyed.find? name b.contexts with
        | some o => pure o
        | none => .error (badInput "no such context")
      | none => .error (badInput "missing field 'other'")
    match c.state, other.state with
    | some x, some y => return (.bool (x.same y), b)
    | _, _ => return (.null, b)
  | "is_entity_reference_string" =>
    let candidate ← needStr step "candidate"
    needManager b
    return (.bool (s.backend.isEntityReferenceString candidate), b)
  | "create_entity_reference" =>
    let candidate ← needStr step "candidate"
    needManager b
    let (r, b) := b.act (Session.createEntityReference candidate)
    return (resultJson Json.str r, b)
  | "create_entity_reference_if_valid" =>
    let candidate ← needStr step "candidate"
    needManager b
    return (if s.backend.isEntityReferenceString candidate then .str candidate else .null, b)
  | "clone_manager" =>
    needManager b
    let (n, b) := b.act Session.cloneHandle
    return (.int n, b)
  | "handles" => return (.int s.handles, b)
  | "drop_manager" =>
    let handle ← (optional step "handle" asNat).map (·.getD 0)
    if handle ≥ s.handles then .error noManager
    let ((), b) := b.act Session.dropHandle
    return (countersView counted b.session.backend, b)
  | "counters" => return (countersView counted s.backend, b)
  | "pagers" => return (Json.strList (Keyed.keys s.pagers), b)
  | "debug" => needManager b; return (.str s.text, b)
  | "host" =>
    needManager b
    let h := s.host
    return (.obj [("identifier", .str h.identifier), ("display_name", .str h.displayName),
      ("info", taggedMap h.info), ("debug", .str h.sessionText)], b)
  | "cli_resolve" =>
    let refs ← needStrs step "refs"
    let traits ← traitSetArg step "traits"
    needManager b
    let (p, b) := b.act (Query.resolution refs traits)
    return (printedJson p, b)
  | "cli_exists" =>
    let refs ← needStrs step "refs"
    needManager b
    let (p, b) := b.act (Query.existence refs)
    return (printedJson p, b)
  | "pager_debug" | "pager_is_closed" | "pager_has_next" | "pager_get" | "pager_next" | "pager_close"
  | "pager_drop" => pagerStep counted b step op
  | _ => batchStep b step op

/-- Runs manager steps; a refused step changes nothing. -/
def runManagerSteps (counted : Bool) (b : ManagerBench) : List Json → List Json × ManagerBench
  | [] => ([], b)
  | step :: rest =>
    let (answer, b') := match managerStep counted b step with
      | .ok (answer, b') => (answer, b')
      | .error refusal => (refusal, b)
    let (answers, b'') := runManagerSteps counted b' rest
    (answer :: answers, b'')

def managerScript (req : Json) : Read (Json × Trail) := do
  let host ← readHost req
  let spec := (req.given? "manager").getD (.obj [])
  let (backend, probe) ← readBackend spec
  let steps ← asList (← need req "steps")
  let (answers, b) := runManagerSteps true (ManagerBench.start (Session.start backend host)) steps
  let ((), s) := Session.finish.run b.session
  let answer := Json.obj ([("steps", .arr answers), ("final_counters", countersJson s.backend)] ++ probe)
  return (maskAnswer answer, s.trail)

end Script

end AssetBroker
