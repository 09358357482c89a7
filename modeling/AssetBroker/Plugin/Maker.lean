import AssetBroker.Manager.Catalog

/-!
# What plugin providers make

A plugin hands the broker a provider: something that names itself by an
identifier and makes managers on request. `Maker` says how one provider
answers those two questions. A provider function, what a binary or an entry
point declares, either makes such a provider or panics: that is a `Recipe`.

Catalog makers hand out fresh copies of a template catalog: a copy has the
template's entities and relations but no settings and is not started. A
refusing maker names itself but fails to make managers. A nameless maker
panics when asked its identifier. A sequence maker answers its identifier
from a list, one answer per question and the last one from then on; the
answer `!panic` panics instead.
-/

namespace AssetBroker

/-- How a provider names itself and makes managers. -/
inductive Maker where
  /-- Makes copies of a template catalog, and is named by its identifier. -/
  | catalog (template : Catalog)
  /-- Is named `identifier`, and fails to make a manager with `message`. -/
  | refusing (identifier message : String)
  /-- Panics when asked its identifier. -/
  | nameless
  /-- Answers its identifier from `answers`; makes catalogs shown as `tag`. -/
  | sequence (answers : List String) (tag : String)
  deriving Inhabited

/-- A provider function: it makes a provider, or panics. -/
inductive Recipe where
  | make (maker : Maker)
  | explode (message : String)
  deriving Inhabited

namespace Recipe

/-- The function of a slot that nothing was put in. -/
def unset (slot : Nat) : Recipe := .explode ("provider slot " ++ toString slot ++ " is not configured")

end Recipe

namespace Maker

/-- The answer a sequence maker gives to its `asked`-th question (counted
from zero): that answer, or the last one once they run out. -/
def sequenceAnswer (answers : List String) (asked : Nat) : String :=
  answers[asked]?.getD (answers.getLast?.getD "")

/-- The identifier a maker gives when asked for the `asked`-th time, or the
message of its panic. -/
def identify (m : Maker) (asked : Nat) : Except String String :=
  match m with
  | catalog c => .ok c.identifier
  | refusing identifier _ => .ok identifier
  | nameless => .error "identifier exploded"
  | sequence answers _ =>
    let answer := sequenceAnswer answers asked
    if answer == "!panic" then .error ("identifier call " ++ toString asked ++ " exploded")
    else .ok answer

/-- A new manager, numbering its states from `nextState`. -/
def make (m : Maker) (nextState : UInt64) : Except BrokerError Catalog :=
  match m with
  | catalog c => .ok { c with settings := [], started := false, nextState }
  | refusing _ message => .error (.manager message)
  | nameless => .error (.notImplemented "never")
  | sequence answers tag =>
    .ok { identifier := answers.head?.getD "", displayName := tag, nextState }

/-- A maker of plain catalogs named `identifier` and shown as `tag`. -/
def plain (identifier tag : String) : Maker := .catalog { identifier, displayName := tag }

/-- The provider of the system plugin library: a catalog of a furry cat and
a dog, the cat befriending the dog. -/
def system : Maker :=
  let c : Catalog := { identifier := "org.oracle.real", displayName := "Real Plugin" }
  .catalog (((c.withEntity "cat" (.withTraits ["animal", "furry"])).withEntity "dog"
    (.withTraits ["animal"])).withRelation "cat" "friend" "dog")

/-- The provider the system plugin library exports under its second symbol. -/
def systemCustom : Maker := plain "org.oracle.custom" "Custom Symbol"

end Maker

end AssetBroker
