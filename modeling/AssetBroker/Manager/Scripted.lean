import AssetBroker.Batch.Sink
import AssetBroker.Error
import AssetBroker.Keyed
import AssetBroker.Traits.Data
import AssetBroker.Manager.Pages

/-!
# Scripted managers

A manager whose batch methods play back a script: for each method, a list
of cues run in order on every call. A cue reports an outcome for an index
(a value, written as JSON, or an element error), looks at the sink and
ends the call if it has been aborted, or fails the whole call. A value is
read into the kind the method reports when its cue is played; a value of
the wrong shape fails the call as an internal error at that point. A method
without a script reports nothing, except the paged methods, which then give
every element an empty pager.

Its other methods are fixed by its fields: the policies it answers or the
error it gives, whether starting or closing fails, and the prefix of the
references it accepts. Stateful methods are left out.
-/

namespace AssetBroker

/-- One entry of a method's script. -/
inductive Cue where
  /-- Reports an outcome for an index. -/
  | report (index : Nat) (outcome : Except ElementError Json)
  /-- Ends the call if the sink has been aborted. -/
  | poll
  /-- Fails the whole call with a manager error. -/
  | fail (message : String)
  deriving Inhabited

/-- A manager that plays back scripts. -/
structure Scripted where
  identifier : String := "org.oracle.scripted"
  displayName : String := "Scripted"
  capabilities : List Capability := Capability.all
  referencePrefix : String := "s://"
  /-- The cues of each batch method, by method name. -/
  script : List (String × List Cue) := []
  /-- The policies answered, whatever is asked; one empty policy per set when absent. -/
  policies : Option (List TraitsData) := none
  policyError : Option String := none
  startError : Option String := none
  closeError : Option String := none
  closePanics : Bool := false
  info : Settings := []
  closes : Nat := 0
  pagerCloses : Nat := 0
  deriving Inhabited

namespace Scripted

def wrongShape (method : String) : BrokerError :=
  .internal ("script value for " ++ method ++ " has the wrong shape")

/-- Plays the cues of `method`, reading each value with `read`. -/
def play {α : Type} (s : Scripted) (method : String) (read : Json → Option α) (run : SinkRun α) :
    SinkRun α × Except BrokerError Unit :=
  go run ((Keyed.find? method s.script).getD [])
where
  go (run : SinkRun α) : List Cue → SinkRun α × Except BrokerError Unit
    | [] => (run, .ok ())
    | .report i (.ok j) :: rest =>
      match read j with
      | some v => go (run.success i v) rest
      | none => (run, .error (wrongShape method))
    | .report i (.error e) :: rest => go (run.error i e) rest
    | .poll :: rest => if run.isAborted then (run, .ok ()) else go run rest
    | .fail m :: _ => (run, .error (.manager m))

def hasScript (s : Scripted) (method : String) : Bool := Keyed.contains method s.script

def readFlag : Json → Option Bool
  | .bool b => some b
  | _ => none

def readText : Json → Option String
  | .str s => some s
  | _ => none

def readTexts (j : Json) : Option (List String) := j.strs?

def readTraitSet (j : Json) : Option TraitSet := (j.strs?).map sortedSet

def readData (j : Json) : Option TraitsData := (TraitsData.ofJson? j).toOption

/-- Reads a reference or nothing. -/
def readOptionalText : Json → Option (Option String)
  | .null => some none
  | .str s => some (some s)
  | _ => none

/-- Reads a pager: its pages and how it closes (`ok` unless said). -/
def readPager (j : Json) : Option PageSource := do
  let pages ← (j.field? "pages").bind fun p => p.arr?.bind fun items => items.mapM Json.strs?
  let closing ← match j.field? "close" with
    | none | some (.str "ok") => some Closing.quietly
    | some (.str "error") => some (Closing.refusing "scripted pager refused to close")
    | some (.str "panic") => some (Closing.panicking "scripted pager panicked while closing")
    | some _ => none
  return .pages pages 0 closing

def managementPolicy (s : Scripted) (sets : List TraitSet) : Except BrokerError (List TraitsData) :=
  match s.policyError with
  | some m => .error (.manager m)
  | none => .ok (s.policies.getD (sets.map fun _ => .empty))

/-- A paged method: its script, or an empty pager for every element. -/
def playPaged (s : Scripted) (method : String) (len : Nat) (run : SinkRun PageSource) :
    SinkRun PageSource × Except BrokerError Unit :=
  if s.hasScript method then s.play method readPager run
  else ((List.range len).foldl (fun r i => r.success i .empty) run, .ok ())

end Scripted

end AssetBroker
