import AssetBroker.Plugin.Origin
import AssetBroker.Toml.Report
import AssetBroker.Toml.Decode
import AssetBroker.Version
import AssetBroker.Path
import AssetBroker.Text.Blank

/-!
# Plugin manifests

A package plugin is described by a TOML manifest with one `[plugin]` table:
its identifier, an optional display name, version, description and minimum
supported core version, the library to load (relative to the manifest's
directory), and the symbol to look up in it.

A manifest is checked in this order: the document and its keys (no key
outside the ones listed), a non-blank identifier, a non-blank library, a
valid `version`, a valid `min_assetio_version`. Whether the running core
is recent enough is a separate check (`Manifest.checkSupported`).
-/

namespace AssetBroker

def coreVersion : String := "0.1.0"

/-- A plugin manifest as read. -/
structure Manifest where
  identifier : String
  displayName : Option String
  version : Option String
  description : Option String
  minVersion : Option String
  /-- The library path, already joined to the manifest's directory. -/
  library : String
  symbol : Option String
  deriving Inhabited

namespace Manifest

def fileName : String := "plugin.toml"

def keys : List String :=
  ["identifier", "display_name", "version", "description", "min_assetio_version", "library", "symbol"]

def checkSection (key : Toml.Key) (v : Toml.Value) : Except Toml.ReadError Unit :=
  match v.entries? with
  | some es => do
    Toml.checkKeys keys (fun k x => do let _ ← Toml.readString k x) es
    Toml.checkRequired ["identifier", "library"] es (Toml.pointAt key v)
  | none => .error (Toml.valueError key v (Toml.invalidType v "struct PluginSection"))

/-- The `[plugin]` entries of a manifest document, with its keys checked. -/
def sectionOf (doc : Toml.Value) : Except Toml.ReadError Toml.Entries := do
  let es := (doc.entries?).getD []
  Toml.checkKeys ["plugin"] checkSection es
  Toml.checkRequired ["plugin"] es doc.span?
  match es.find? "plugin" >>= Toml.Value.entries? with
  | some table => pure table
  | none => pure []

/-- The directory a manifest's library is relative to. -/
def baseOf (manifestPath : String) : String := (Path.parent? manifestPath).getD "."

/-- Reads a manifest found at `manifestPath`, joining its library to the
manifest's directory with `join`. -/
def read (join : String → String → String) (text manifestPath : String) :
    Except PluginError Manifest := do
  let invalid := PluginError.invalidManifest manifestPath
  let table ← match Toml.parse text >>= sectionOf with
    | .ok s => pure s
    | .error e => throw (invalid (e.render text))
  let field := Toml.optionalString table
  let identifier := Toml.requiredString table "identifier"
  let library := Toml.requiredString table "library"
  if Text.isBlankText identifier then throw (invalid "identifier must not be empty")
  if Text.isBlankText library then throw (invalid "library must not be empty")
  if let some v := field "version" then
    if let .error e := Version.parse v then
      throw (invalid ("version '" ++ v ++ "' is not valid semver: " ++ e.message))
  if let some v := field "min_assetio_version" then
    if let .error e := Version.parse v then
      throw (invalid ("min_assetio_version '" ++ v ++ "' is not valid semver: " ++ e.message))
  pure {
    identifier := identifier
    displayName := field "display_name"
    version := field "version"
    description := field "description"
    minVersion := field "min_assetio_version"
    library := join (baseOf manifestPath) library
    symbol := field "symbol" }

/-- Reads a manifest found at `manifestPath` in the scratch tree, where a
library path from the scratch root is absolute. -/
def parse (text manifestPath : String) : Except PluginError Manifest :=
  read Path.join text manifestPath

/-- Checks that the running core is at least the manifest's minimum
version. A version that does not parse is not held against the plugin. -/
def checkSupported (m : Manifest) (manifestPath : String) : Except PluginError Unit :=
  match m.minVersion with
  | none => .ok ()
  | some minText =>
    match Version.parse minText, Version.parse coreVersion with
    | .ok required, .ok current =>
      if current.lt required then .error (.unsupportedVersion manifestPath minText coreVersion)
      else .ok ()
    | _, _ => .ok ()

end Manifest

end AssetBroker
