import AssetBroker.Access
import AssetBroker.Traits.Data

/-!
# Bare managers

A manager with only the methods every manager must have: it knows its
references by a prefix, answers an empty policy for every trait set and an
empty trait set for every entity, and leaves every other method out. It may
count its closes, and may hand out a state whose content nobody can read.
-/

namespace AssetBroker

/-- A manager with the mandatory methods only. -/
structure Bare where
  identifier : String := "org.oracle.bare"
  displayName : String := "Bare"
  referencePrefix : String := "bare://"
  capabilities : List Capability := Capability.required
  /-- Whether closing is counted; otherwise closing does nothing at all. -/
  countsCloses : Bool := true
  /-- Whether it makes states. -/
  makesStates : Bool := false
  closes : Nat := 0
  deriving Inhabited

end AssetBroker
