import AssetBroker.Batch.Code

/-!
# Errors of whole calls

An operation that fails as a whole, rather than element by element, gives a
`BrokerError`. Each cause has one display text, and a command that stops on
it exits with status 1, except for a failed batch element, whose exit status
is the element's code.
-/

namespace AssetBroker

/-- Why a whole call failed. -/
inductive BrokerError where
  | config (message : String)
  | invalidInput (message : String)
  | notFound (kind identifier : String)
  | notImplemented (message : String)
  | capabilityUnsupported (manager : String) (capability : Capability)
  | batchElement (index : Nat) (error : ElementError)
  | pluginLoad (message : String)
  | manager (message : String)
  | internal (message : String)
  deriving Repr, Inhabited

namespace BrokerError

def display : BrokerError → String
  | config m => "configuration error: " ++ m
  | invalidInput m => "invalid input: " ++ m
  | notFound kind id => kind ++ " not found: " ++ id
  | notImplemented m => "not implemented: " ++ m
  | capabilityUnsupported m c =>
    "manager '" ++ m ++ "' does not support the '" ++ c.name ++ "' capability"
  | batchElement i e => "batch element " ++ toString i ++ " failed: " ++ e.display
  | pluginLoad m => "plugin load error: " ++ m
  | manager m => "manager error: " ++ m
  | internal m => "internal error: " ++ m

def kind : BrokerError → String
  | config _ => "Config"
  | invalidInput _ => "InputValidation"
  | notFound _ _ => "NotFound"
  | notImplemented _ => "NotImplemented"
  | capabilityUnsupported _ _ => "CapabilityUnsupported"
  | batchElement _ _ => "BatchElement"
  | pluginLoad _ => "PluginLoad"
  | manager _ => "Manager"
  | internal _ => "Internal"

/-- The exit status of a command stopped by this error. -/
def exitCode : BrokerError → Nat
  | batchElement _ e => e.code.value
  | _ => 1

def pluginNotFound (identifier : String) : BrokerError := notFound "plugin" identifier

/-- A method a manager leaves out. -/
def unimplemented (manager method : String) : BrokerError :=
  notImplemented ("manager '" ++ manager ++ "' does not implement " ++ method)

end BrokerError

end AssetBroker
