import AssetBroker.Plugin.Origin
import AssetBroker.Keyed
import AssetBroker.Log

/-!
# Plugin registries

A registry maps plugin identifiers to a provider and the origin it came
from. The first registration of an identifier wins: a later one is handed
back untouched, with a debug event naming both origins. Identifiers are
listed in the order of their first registration since the last reset.

`Registry.reset` empties the registry and hands back what it held, sorted
by origin, which is the order in which the caller releases them.
-/

namespace AssetBroker

/-- A registered provider and where it came from. -/
structure Entry (P : Type) where
  provider : P
  origin : Origin

/-- Providers by identifier, with the order of registration. -/
structure Registry (P : Type) where
  order : List String
  entries : List (String × Entry P)

namespace Registry

variable {P : Type}

def empty : Registry P := ⟨[], []⟩

def get? (r : Registry P) (identifier : String) : Option (Entry P) := Keyed.find? identifier r.entries

/-- Registers a provider unless the identifier is taken. Gives back the
rejected entry when it is, with the events logged. -/
def register (r : Registry P) (identifier : String) (provider : P) (origin : Origin) :
    Registry P × Option (Entry P) × List Event :=
  match r.get? identifier with
  | some existing =>
    let message := "skipping '" ++ identifier ++ "' from " ++ origin.display ++
      " as it has already been registered by " ++ existing.origin.display
    (r, some ⟨provider, origin⟩,
      [⟨.debug, .registry, message, [Event.shown "identifier" identifier,
        Event.shown "origin" origin.display, Event.shown "existing" existing.origin.display]⟩])
  | none =>
    (⟨r.order ++ [identifier], Keyed.insert identifier ⟨provider, origin⟩ r.entries⟩, none,
      [⟨.debug, .registry, "registered plugin",
        [Event.shown "identifier" identifier, Event.shown "origin" origin.display]⟩])

/-- Identifiers in the order of their first registration. -/
def identifiers (r : Registry P) : List String := r.order

def plugin (r : Registry P) (identifier : String) : Except BrokerError P :=
  match r.get? identifier with
  | some e => .ok e.provider
  | none => .error (BrokerError.pluginNotFound identifier)

def origin? (r : Registry P) (identifier : String) : Option Origin := (r.get? identifier).map (·.origin)

/-- Identifiers with their entries, in registration order. -/
def listed (r : Registry P) : List (String × Entry P) :=
  r.order.filterMap fun id => (r.get? id).map fun e => (id, e)

def size (r : Registry P) : Nat := r.entries.length

/-- Empties the registry; the entries it held, sorted by the display text of
their origin. -/
def reset (r : Registry P) : Registry P × List (Entry P) :=
  let held := r.entries.map (·.2)
  (empty, held.mergeSort fun a b => decide (a.origin.display ≤ b.origin.display))

end Registry

end AssetBroker
