import AssetBroker.Manager.Session
import AssetBroker.Json.Write

/-!
# Resolving and checking references from the command line

Both commands take reference texts, check that the manager recognises
every one of them (the first it does not is the error, and nothing is
printed), make a reading context, and send all references in one batch
with every element's outcome returned in place.

Resolution prints one JSON object, pretty-printed, that maps each resolved
reference to its traits data. The existence check prints a line
`<reference>\t<true|false>` per element that succeeded. Each failed element
is reported on the error stream, and the command fails with the first
failed element in index order, so that it exits with that element's code.
-/

namespace AssetBroker

/-- What a command printed, and how it ended. -/
structure Printed where
  out : String := ""
  /-- Lines for the error stream. -/
  err : List String := []
  result : Except BrokerError Unit := .ok ()

namespace Query

/-- Checks that every text is one of the manager's references. -/
def references (texts : List String) : Act (Except BrokerError (List String)) := do
  let mut refs := []
  for t in texts do
    match ← Session.createEntityReference t with
    | .ok r => refs := refs ++ [r]
    | .error e => return .error e
  return .ok refs

def failureLine (reference : String) (e : ElementError) : String :=
  "assetio: " ++ reference ++ ": " ++ e.display

/-- The first failed element, as the command's error. -/
def firstFailure {α : Type} (pairs : List (String × Except ElementError α)) : Except BrokerError Unit :=
  match (pairs.zipIdx.find? fun ((_, o), _) => o matches .error _) with
  | some ((_, .error e), i) => .error (.batchElement i e)
  | _ => .ok ()

def failureLines {α : Type} (pairs : List (String × Except ElementError α)) : List String :=
  pairs.filterMap fun (r, o) =>
    match o with
    | .error e => some (failureLine r e)
    | .ok _ => none

/-- Runs a query over the checked references in a fresh context, with
every outcome in place. -/
def gatherOutcomes {α : Type} (texts : List String) (call : List String → Act (Ran α)) :
    Act (Except BrokerError (List (String × Except ElementError α))) := do
  match ← references texts with
  | .error e => return .error e
  | .ok refs =>
    match ← Session.createContext with
    | .error e => return .error e
    | .ok _ =>
      let (ds, result) ← call refs
      match result with
      | .error e => return .error e
      | .ok () => return .ok (refs.zip (Delivery.outcomes refs.length ds))

def resolution (texts : List String) (traits : TraitSet) : Act Printed := do
  match ← gatherOutcomes texts fun refs => Session.resolve refs traits false with
  | .error e => return { result := .error e }
  | .ok pairs =>
    let resolved := pairs.foldl (fun acc (r, o) =>
      match o with
      | .ok d => Keyed.insert r d.toJson acc
      | .error _ => acc) []
    return { out := (Json.obj resolved).pretty ++ "\n", err := failureLines pairs,
             result := firstFailure pairs }

def existence (texts : List String) : Act Printed := do
  match ← gatherOutcomes texts fun refs => Session.entityExists refs false with
  | .error e => return { result := .error e }
  | .ok pairs =>
    let lines := pairs.filterMap fun (r, o) =>
      match o with
      | .ok b => some (r ++ "\t" ++ (if b then "true" else "false") ++ "\n")
      | .error _ => none
    return { out := String.join lines, err := failureLines pairs, result := firstFailure pairs }

end Query

end AssetBroker
