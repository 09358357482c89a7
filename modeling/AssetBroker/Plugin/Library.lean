import AssetBroker.Plugin.World

/-!
# Opening and loading binaries

A table opens each binary at most once per canonical path: opening a path
that is loaded takes another hold on it. A path that cannot be made
canonical fails to open with the system's message; otherwise the table's
opener opens the canonical path. A stand-in that panics while opening
fails as a panic of the binary.

Loading a binary opens it, reads the declaration under the given symbol,
or else under the standard symbol and then the legacy one (accepted with a
warning), checks that the declaration is compatible and calls its provider
function. The provider is new, and its code is the binary's. Whatever fails
after the binary was opened lets go of it, so a binary that nothing else
holds is unloaded before the failure is reported.

A package is loaded from its manifest: the manifest is read and checked,
its library loaded under its symbol, and the provider must name itself as
the manifest does.
-/

namespace AssetBroker

namespace World

/-- Asks a provider its identifier: the answer or the message of its
panic. -/
def identify (n : Nat) : Op (Except String String) := do
  let (answer, p) := (← get).provider n |>.identify
  setProvider n p
  return answer

/-- What opening a canonical path in a table gives, whatever is loaded: the
stand-in opener serves the scenario's tables and the system opener the
process-wide one. It depends on the path alone. -/
def opener (w : World) (shelf : Shelf) (canonical : String) : Except PluginError Binary :=
  match shelf with
  | .scratch _ =>
    match Keyed.find? canonical w.standIns.behaviours with
    | some (.exports decls) => .ok ⟨decls⟩
    | some (.panics message) => .error (.panicked ("binary '" ++ canonical ++ "'") message)
    | none => .error (.openFailed canonical "invalid ELF header")
  | .system => (systemOpen w.fs canonical).mapError (PluginError.openFailed canonical)

/-- Opens the binary at a path in a table, or takes another hold on it. A
stand-in counts its opens. -/
def openBinary (shelf : Shelf) (path : String) : Op (Except PluginError BinaryRef) := do
  let w ← get
  match w.fs.canonicalize "/" path with
  | .error e => return .error (.openFailed path e.message)
  | .ok canonical =>
    let ref : BinaryRef := ⟨shelf, canonical⟩
    let t := w.table shelf
    if (t.binary? canonical).isSome then
      log .debug .library "reusing loaded native plugin binary" [Event.shown "path" canonical]
      return .ok ref
    match w.opener shelf canonical with
    | .error e => return .error e
    | .ok b =>
      match shelf with
      | .scratch _ =>
        modify fun w => { w with standIns := { w.standIns with opens := StandIns.bump w.standIns.opens canonical } }
      | .system => pure ()
      setTable shelf { loaded := ((← get).table shelf).loaded ++ [(canonical, b)] }
      log .debug .library "opened native plugin binary" [Event.shown "path" canonical]
      return .ok ref

/-- The declaration a binary offers under a symbol, or under the standard
symbol and then the legacy one when no symbol is given. -/
def declarationOf (b : Binary) (ref : BinaryRef) (symbol : Option String) :
    Op (Except PluginError Declaration) := do
  let missing (s : String) : PluginError := .missingEntryPoint ref.path s
  match symbol with
  | some s => return (b.declaration? s).elim (.error (missing s)) .ok
  | none =>
    match b.declaration? entrySymbol with
    | some d => return .ok d
    | none =>
      match b.declaration? legacySymbol with
      | some d =>
        log .warn .native ("'" ++ legacySymbol ++ "' is deprecated, export '" ++ entrySymbol ++ "' instead")
          [Event.shown "path" ref.path]
        return .ok d
      | none => return .error (missing entrySymbol)

/-- Loads the binary at a path and makes the provider it declares; the
provider's number. -/
def loadBinary (shelf : Shelf) (path : String) (symbol : Option String) : Op (Except PluginError Nat) := do
  match ← openBinary shelf path with
  | .error e => return .error e
  | .ok ref =>
    let b := ((← get).table shelf |>.binary? ref.path).getD ⟨[]⟩
    let failed (e : PluginError) : Op (Except PluginError Nat) := do
      collect
      return .error e
    match ← declarationOf b ref symbol with
    | .error e => failed e
    | .ok d =>
      if !d.compatible then
        failed (.incompatible ref.path d.abi d.core interfaceVersion coreVersion)
      else
        match d.recipe with
        | .explode message => failed (.panicked (Origin.binary ref.path).display message)
        | .make maker => return .ok (← addProvider { maker, binary := some ref })

def binaryOrigin (w : World) (n : Nat) : Origin := .binary (((w.provider n).binary.map (·.path)).getD "")

/-- The manifest at a path: read, parsed, and supported by the running
core. -/
def readManifest (w : World) (manifestPath : String) : Except PluginError Manifest := do
  let text ← (w.fs.read "/" manifestPath).mapError fun e => .invalidManifest manifestPath e.message
  let m ← Manifest.parse text manifestPath
  m.checkSupported manifestPath
  pure m

/-- Loads the package described by a manifest; its manifest and the number
of its provider. -/
def loadPackage (shelf : Shelf) (manifestPath : String) : Op (Except PluginError (Manifest × Nat)) := do
  let w ← get
  match w.readManifest manifestPath with
  | .error e => return .error e
  | .ok m =>
    match ← loadBinary shelf m.library m.symbol with
    | .error e => return .error e
    | .ok n =>
      let origin := (← get).binaryOrigin n
      match ← identify n with
      | .error message =>
        collect
        return .error (.panicked origin.display message)
      | .ok actual =>
        if actual != m.identifier then
          collect
          return .error (.identifierMismatch manifestPath m.identifier actual)
        return .ok (m, n)

end World

end AssetBroker
