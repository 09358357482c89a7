import AssetBroker.Error
import AssetBroker.Text.Debug

/-!
# Where a plugin came from

Every registered plugin records its origin: a native binary or a package
manifest found on a search path (by canonical path), an entry point compiled
into the program, or a label given by whoever registered it.

Plugin loading fails with a `PluginError`; each cause has one display
text, and as an error of a whole call it becomes `BrokerError.pluginLoad`
with that text.
-/

namespace AssetBroker

/-- The origin of a registered plugin. -/
inductive Origin where
  | binary (path : String)
  | package (path : String)
  | entryPoint (group name : String)
  | label (text : String)
  deriving DecidableEq, Repr, Inhabited

namespace Origin

def display : Origin → String
  | binary p => "binary '" ++ p ++ "'"
  | package p => "package '" ++ p ++ "'"
  | entryPoint g n => "entry point '" ++ n ++ "' in group '" ++ g ++ "'"
  | label t => "'" ++ t ++ "'"

def debug : Origin → String
  | binary p => "Binary(" ++ debugQuote p ++ ")"
  | package p => "Package(" ++ debugQuote p ++ ")"
  | entryPoint g n => "EntryPoint \x7b group: " ++ debugQuote g ++ ", name: " ++ debugQuote n ++ " \x7d"
  | label t => "Static(" ++ debugQuote t ++ ")"

def kind : Origin → String
  | binary _ => "binary"
  | package _ => "package"
  | entryPoint _ _ => "entry_point"
  | label _ => "static"

end Origin

/-- Why loading a plugin failed. -/
inductive PluginError where
  | openFailed (path message : String)
  | missingEntryPoint (path symbol : String)
  | incompatible (path : String) (abi : Nat) (core : String) (expectedAbi : Nat) (expectedCore : String)
  | invalidManifest (path message : String)
  | unsupportedVersion (path required running : String)
  | identifierMismatch (path declared actual : String)
  | emptyIdentifier (origin : String)
  | panicked (origin message : String)
  deriving Repr, Inhabited

namespace PluginError

def display : PluginError → String
  | openFailed p m => "failed to open library '" ++ p ++ "': " ++ m
  | missingEntryPoint p s => "'" ++ p ++ "' does not export the plugin entry point '" ++ s ++ "'"
  | incompatible p a c ea ec =>
    "'" ++ p ++ "' was built for plugin ABI " ++ toString a ++ " / assetio-core " ++ c ++
      ", expected ABI " ++ toString ea ++ " / assetio-core " ++ ec
  | invalidManifest p m => "invalid plugin manifest '" ++ p ++ "': " ++ m
  | unsupportedVersion p r run => "'" ++ p ++ "' requires assetio " ++ r ++ ", running " ++ run
  | identifierMismatch p d a =>
    "'" ++ p ++ "' declares identifier '" ++ d ++ "' but its provider reports '" ++ a ++ "'"
  | emptyIdentifier o => "plugin from " ++ o ++ " reported an empty identifier"
  | panicked o m => "plugin from " ++ o ++ " panicked: " ++ m

def kind : PluginError → String
  | openFailed .. => "OpenFailed"
  | missingEntryPoint .. => "MissingEntryPoint"
  | incompatible .. => "Incompatible"
  | invalidManifest .. => "InvalidManifest"
  | unsupportedVersion .. => "UnsupportedVersion"
  | identifierMismatch .. => "IdentifierMismatch"
  | emptyIdentifier .. => "EmptyIdentifier"
  | panicked .. => "Panicked"

/-- The same failure as an error of a whole call. -/
def toBroker (e : PluginError) : BrokerError := .pluginLoad e.display

end PluginError

end AssetBroker
