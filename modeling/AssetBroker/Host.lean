import AssetBroker.Property.Value
import AssetBroker.Text.Debug

/-!
# Hosts

A manager serves one host application, which it knows by an identifier, a
display name and a dictionary of facts about itself. The host session is
what a manager is handed with every call; its diagnostic text names the
host by identifier only.
-/

namespace AssetBroker

/-- The application a manager works for. -/
structure Host where
  identifier : String
  displayName : String
  /-- Facts about the host; empty unless the host says otherwise. -/
  info : Settings := []
  deriving Inhabited

namespace Host

def testing : Host := ⟨"org.assetio.test.host", "Mock Host", [("test", .bool true)]⟩

def commandLine : Host := ⟨"org.assetio.cli", "AssetIO CLI", [("version", .str "0.1.0")]⟩

/-- A host that says nothing about itself. -/
def plain : Host := ⟨"org.oracle.plain", "Plain Host", []⟩

def sessionText (h : Host) : String :=
  "HostSession \x7b host: " ++ debugQuote h.identifier ++ " \x7d"

end Host

end AssetBroker
