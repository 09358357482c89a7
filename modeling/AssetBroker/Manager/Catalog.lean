import AssetBroker.Batch.Sink
import AssetBroker.Error
import AssetBroker.Keyed
import AssetBroker.Text.Replace
import AssetBroker.Manager.State
import AssetBroker.Manager.Pages
import AssetBroker.Manager.Token

/-!
# The in-memory catalog

A manager that keeps its entities in memory and offers every capability.
An entity's reference is `mock:///` followed by its name; any other text is
malformed. Entities are kept sorted by reference, relations in the order
they were added.

Every batch loop looks at the sink before each element and stops once it
is aborted. Some entities may be silent: trait, existence and resolution
queries report nothing for them. Registering stores the data under the
reference (or, for related creation, under a fresh reference below it) and
records the index it published.

States are numbered from one, a child remembering its parent's number, and
persist as `{"id":n,"parent":m|null}`. The counts of closes, of pager closes
and the published indices stay readable after the manager is closed.
-/

namespace AssetBroker

/-- A relation of kind `kind` from one entity to another, by reference. -/
structure Relation where
  source : String
  kind : String
  target : String
  deriving Inhabited

/-- The in-memory catalog manager. -/
structure Catalog where
  identifier : String := "org.assetio.test.mock"
  displayName : String := "Mock Manager"
  capabilities : List Capability := Capability.all
  /-- References that trait, existence and resolution queries pass over. -/
  silent : List String := []
  /-- Whether its pagers refuse to close. -/
  refusesPagerClose : Bool := false
  entities : List (String × TraitsData) := []
  relations : List Relation := []
  settings : Settings := []
  started : Bool := false
  /-- The number the next state gets; after the largest 64-bit number it
  wraps around to zero. -/
  nextState : UInt64 := 1
  /-- How many references related creation has made so far. -/
  created : Nat := 0
  closes : Nat := 0
  pagerCloses : Nat := 0
  /-- The indices registered, in order, over all calls. -/
  published : List Nat := []
  deriving Inhabited

namespace Catalog

/-- What every reference of the catalog starts with. -/
def referencePrefix : String := "mock:///"

def reference (name : String) : String := referencePrefix ++ name

def managedTrait : String := "assetio.ManagementPolicy.Managed"

/-- Adds an entity, replacing one of the same name. -/
def withEntity (c : Catalog) (name : String) (data : TraitsData) : Catalog :=
  { c with entities := Keyed.insert (reference name) data c.entities }

def withRelation (c : Catalog) (source kind target : String) : Catalog :=
  { c with relations := c.relations ++ [⟨reference source, kind, reference target⟩] }

def withSilent (c : Catalog) (name : String) : Catalog :=
  { c with silent := c.silent ++ [reference name] }

def entity? (c : Catalog) (name : String) : Option TraitsData := Keyed.find? (reference name) c.entities

def isSilent (c : Catalog) (r : String) : Bool := c.silent.contains r

/-- The data under a reference: malformed unless it has the catalog's
prefix, unresolved unless an entity has it. -/
def lookup (c : Catalog) (r : String) : Except ElementError TraitsData :=
  if !r.startsWith referencePrefix then
    .error ⟨.malformedEntityReference, "'" ++ r ++ "' is not a mock reference"⟩
  else
    match Keyed.find? r c.entities with
    | some d => .ok d
    | none => .error ⟨.entityResolutionError, "entity '" ++ r ++ "' not found"⟩

/-- The targets, in relation order, of the relations from `source` whose
kind is a trait of `relationship` and whose target is an entity holding
every trait of `result`. -/
def related (c : Catalog) (source : String) (relationship : TraitsData) (result : TraitSet) :
    List String :=
  (c.relations.filter fun rel =>
    rel.source == source && relationship.hasTrait rel.kind &&
      match Keyed.find? rel.target c.entities with
      | some d => result.all d.hasTrait
      | none => false).map (·.target)

/-- The policy of a trait set: managed for reading and writing a set that
is not empty. -/
def policy (access : PolicyAccess) (set : TraitSet) : TraitsData :=
  match access with
  | .read | .write | .createRelated => if set.isEmpty then .empty else .withTraits [managedTrait]
  | _ => .empty

def info : Settings := [("entityReferencesMatchPrefix", .str referencePrefix)]

/-- Takes the settings, unless `fail_initialize` is true. -/
def start (c : Catalog) (settings : Settings) : Except BrokerError Catalog :=
  match Keyed.find? "fail_initialize" settings with
  | some (.bool true) => .error (.manager "initialization refused by settings")
  | _ => .ok { c with settings := settings, started := true }

/-- Renames assets to mock entities in every term. -/
def updateTerminology (terms : List (String × String)) : List (String × String) :=
  terms.map fun (k, v) => (k, Text.replaceAll v "asset" "mock entity")

/-- A new state, with its parent's number if it has a parent. -/
def newState (c : Catalog) (parent : Option UInt64) : StateContent × Catalog :=
  (.catalog c.nextState parent, { c with nextState := c.nextState + 1 })

/-- The refusal of a state some other manager made. -/
def foreignState : BrokerError := .invalidInput "state was not created by the mock manager"

def childState (c : Catalog) (parent : StateContent) : Except BrokerError (StateContent × Catalog) :=
  match parent with
  | .catalog id _ => .ok (c.newState (some id))
  | _ => .error foreignState

def tokenOf (state : StateContent) : Except BrokerError String :=
  match state with
  | .catalog id parent => .ok (Token.write id parent)
  | _ => .error foreignState

def stateOfToken (token : String) : Except BrokerError StateContent :=
  match Token.read token with
  | .ok (id, parent) => .ok (.catalog id parent)
  | .error m => .error (.invalidInput ("invalid persistence token: " ++ m))

/-- Reports one outcome per element in order, nothing for an element whose
outcome is `none`, and stops once the sink is aborted. -/
def reportEach {α : Type} (run : SinkRun α) (outcomes : List (Option (Except ElementError α))) :
    SinkRun α :=
  go run 0 outcomes
where
  go (run : SinkRun α) (i : Nat) : List (Option (Except ElementError α)) → SinkRun α
    | [] => run
    | o :: rest =>
      if run.isAborted then run
      else
        match o with
        | some outcome => go (run.report i outcome) (i + 1) rest
        | none => go run (i + 1) rest

/-- The outcome of an element, or none for a silent reference. -/
def unlessSilent {α : Type} (c : Catalog) (r : String) (outcome : Except ElementError α) :
    Option (Except ElementError α) :=
  if c.isSilent r then none else some outcome

/-- Which references name entities; an unresolved one does not exist, a
malformed one is an error. -/
def entityExists (c : Catalog) (refs : List String) (run : SinkRun Bool) : SinkRun Bool :=
  reportEach run (refs.map fun r =>
    c.unlessSilent r (match c.lookup r with
      | .ok _ => .ok true
      | .error e => if e.code == .entityResolutionError then .ok false else .error e))

def entityTraits (c : Catalog) (refs : List String) (run : SinkRun TraitSet) : SinkRun TraitSet :=
  reportEach run (refs.map fun r => c.unlessSilent r ((c.lookup r).map TraitsData.traitSet))

def resolve (c : Catalog) (refs : List String) (traits : TraitSet) (run : SinkRun TraitsData) :
    SinkRun TraitsData :=
  reportEach run (refs.map fun r => c.unlessSilent r ((c.lookup r).map (·.filtered traits)))

/-- For each trait set, the first entity (by reference) holding all of its
traits; an empty set is refused. -/
def defaultEntityReference (c : Catalog) (sets : List TraitSet) (run : SinkRun (Option String)) :
    SinkRun (Option String) :=
  reportEach run (sets.map fun set =>
    if set.isEmpty then some (.error ⟨.invalidTraitSet, "trait set is empty"⟩)
    else some (.ok ((c.entities.find? fun (_, d) => set.all d.hasTrait).map (·.1))))

def getWithRelationship (c : Catalog) (refs : List String) (relationship : TraitsData)
    (result : TraitSet) (run : SinkRun (List String)) : SinkRun (List String) :=
  reportEach run (refs.map fun r => some ((c.lookup r).map fun _ => c.related r relationship result))

def getWithRelationships (c : Catalog) (r : String) (relationships : List TraitsData)
    (result : TraitSet) (run : SinkRun (List String)) : SinkRun (List String) :=
  reportEach run (relationships.map fun rel =>
    some ((c.lookup r).map fun _ => c.related r rel result))

def pagesOf (c : Catalog) (r : String) (relationship : TraitsData) (result : TraitSet)
    (pageSize : Nat) : Except ElementError PageSource :=
  (c.lookup r).map fun _ =>
    .pages (chunksOf pageSize (c.related r relationship result)) 0
      (if c.refusesPagerClose then .refusing "mock pager refused to close" else .quietly)

def getWithRelationshipPaged (c : Catalog) (refs : List String) (relationship : TraitsData)
    (result : TraitSet) (pageSize : Nat) (run : SinkRun PageSource) : SinkRun PageSource :=
  reportEach run (refs.map fun r => some (c.pagesOf r relationship result pageSize))

def getWithRelationshipsPaged (c : Catalog) (r : String) (relationships : List TraitsData)
    (result : TraitSet) (pageSize : Nat) (run : SinkRun PageSource) : SinkRun PageSource :=
  reportEach run (relationships.map fun rel => some (c.pagesOf r rel result pageSize))

/-- Checks each reference and hint: a reference must be the catalog's and a
hint must name a trait. -/
def preflight (refs : List String) (hints : List TraitsData) (run : SinkRun String) : SinkRun String :=
  reportEach run ((refs.zip hints).map fun (r, hint) =>
    if !r.startsWith referencePrefix then some (.error ⟨.malformedEntityReference, r⟩)
    else if hint.isEmpty then some (.error ⟨.invalidPreflightHint, "preflight hint has no traits"⟩)
    else some (.ok r))

/-- The 32 hexadecimal digits that name the `n`-th created entity. -/
def createdName (n : Nat) : String :=
  let digits := Nat.toDigits 16 n
  String.ofList (List.replicate (32 - digits.length) '0' ++ digits)

/-- Stores each entity's data, under its reference for writing or under a
fresh reference below it for related creation, and records the index.
Malformed references are refused. Stops once the sink is aborted. -/
def register (c : Catalog) (refs : List String) (datas : List TraitsData) (access : PublishingAccess)
    (run : SinkRun String) : SinkRun String × Catalog :=
  go c run 0 (refs.zip datas)
where
  go (c : Catalog) (run : SinkRun String) (i : Nat) :
      List (String × TraitsData) → SinkRun String × Catalog
    | [] => (run, c)
    | (r, data) :: rest =>
      if run.isAborted then (run, c)
      else if !r.startsWith referencePrefix then
        go c (run.error i ⟨.malformedEntityReference, r⟩) (i + 1) rest
      else
        let (target, c) := match access with
          | .write => (r, c)
          | .createRelated => (r ++ "/" ++ createdName (c.created + 1), { c with created := c.created + 1 })
        let c := { c with entities := Keyed.insert target data c.entities,
                          published := c.published ++ [i] }
        go c (run.success i target) (i + 1) rest

end Catalog

end AssetBroker
