import AssetBroker.Plugin.Binary

/-!
# Provider instances

Each call of a provider function makes a new provider. A provider remembers
how often it was asked its identifier, which a sequence maker's answers
depend on, and the number of the next state its managers hand out: the
managers one provider makes number their states from one shared counter.

A provider whose code lives in a binary keeps that binary loaded for as
long as anything holds the provider, and every manager it makes holds the
binary too.
-/

namespace AssetBroker

/-- A provider made by a provider function. -/
structure Provider where
  maker : Maker
  /-- The loaded binary the provider's code lives in, if any. -/
  binary : Option BinaryRef := none
  /-- How often the provider was asked its identifier. -/
  asked : Nat := 0
  /-- The number of the next state its managers hand out. -/
  nextState : UInt64 := 1
  deriving Inhabited

namespace Provider

/-- Asks the provider its identifier: the answer, or the message of the
panic it raised. -/
def identify (p : Provider) : Except String String × Provider :=
  (p.maker.identify p.asked, { p with asked := p.asked + 1 })

def make (p : Provider) : Except BrokerError Catalog := p.maker.make p.nextState

end Provider

/-- A manager implementation made by a provider, before any host drives it. -/
structure Made where
  catalog : Catalog
  /-- The binary the implementation's code lives in, if any. -/
  binary : Option BinaryRef
  /-- The number of the provider that made it. -/
  provider : Nat
  deriving Inhabited

end AssetBroker
