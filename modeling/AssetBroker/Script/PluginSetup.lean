import AssetBroker.Plugin.Factory
import AssetBroker.Script.Manager
import AssetBroker.Script.Config
import AssetBroker.Script.Scenario

/-!
# Setting up a discovery scenario

A discovery scenario describes its surroundings and its sources. Provider
specs fill numbered slots: the binaries' slots and the entry points' slots
are separate tables, and an empty slot's function panics. Files are
created in order; a binary entry creates an empty file and tells the
stand-in opener what opening it does. Relative paths are under the scratch
root.

Sources are read in order. Each loader source searches explicit paths or a
variable, which the scenario sets (or removes) for it. The top factory is
a hybrid of all sources, the single source, or the sources a configuration
text names; a configuration that does not validate stops the scenario.
-/

namespace AssetBroker

namespace Script

/-- The provider function a spec describes. -/
def readRecipe (spec : Json) : Read Recipe := do
  match ← strOr spec "kind" "mock" with
  | "mock" =>
    let identifier ← needStr spec "identifier"
    let tag ← strOr spec "tag" ""
    let template ← readCatalog ((spec.given? "manager").getD (.obj []))
    return .make (.catalog { template with identifier, displayName := tag })
  | "panic_identifier" => return .make .nameless
  | "create_error" => return .make (.refusing (← needStr spec "identifier") (← needStr spec "message"))
  | "panic_fn" => return .explode (← needStr spec "message")
  | "sequence" => return .make (.sequence (← needStrs spec "answers") (← strOr spec "tag" ""))
  | other => .error (badInput ("unknown provider kind '" ++ other ++ "'"))

/-- The provider function of a slot, or that of an empty slot. -/
def readSlot (slot : Nat) (spec : Json) : Read Recipe :=
  match spec with
  | .null => .ok (Recipe.unset slot)
  | j => readRecipe j

def readProviderSlots (req : Json) : Read (List Recipe) := do
  let specs ← (optional req "providers" asList).map (·.getD [])
  specs.zipIdx.mapM fun (spec, i) => readSlot i spec

/-- The provider function of a binary's slot. -/
def slotRecipe (slots : List Recipe) (slot : Nat) : Recipe := slots.getD slot (Recipe.unset slot)

/-- The provider functions of the entry point slots. -/
def readEntrySlots (req : Json) : Read (List (Nat × Recipe)) := do
  let fields ← (optional req "entry_points" asFields).map (·.getD [])
  fields.mapM fun (key, spec) => do
    match key.toNat? with
    | some slot => return (slot, ← readSlot slot spec)
    | none => .error (badInput ("entry point slot '" ++ key ++ "' is not a number"))

/-- A path of a request as the world sees it: canonical when it exists. -/
def canonicalOr (fs : FileSystem) (p : String) : String :=
  (fs.canonicalize "/" p).toOption.getD (Path.normalize p)

/-- What a binary entry tells the stand-in opener, if anything. -/
def readBehaviour (slots : List Recipe) (entry : Json) : Read (Option Behaviour) := do
  if let some exported := entry.given? "export" then
    let slot ← needNat exported "provider"
    let symbol ← strOr exported "symbol" entrySymbol
    let abi ← (optional exported "abi_version" asNat).map (·.getD interfaceVersion)
    let core ← strOr exported "core_version" coreVersion
    return some (.exports [(symbol, { abi, core, recipe := slotRecipe slots slot })])
  if (← boolOr entry "empty" false) then return some (.exports [])
  if let some message ← optional entry "panics" asStr then return some (.panics message)
  return none

def applyPluginEntry (slots : List Recipe) (w : World) (entry : Json) : Read World := do
  match ← optional entry "binary" asStr with
  | some p =>
    let path := scenarioPath p
    let fs := if (← boolOr entry "no_file" false) then w.fs else w.fs.writeFile path ""
    let w := { w with fs }
    match ← readBehaviour slots entry with
    | some b =>
      let key := canonicalOr w.fs path
      return { w with standIns := { w.standIns with behaviours := Keyed.insert key b w.standIns.behaviours } }
    | none => return w
  | none => return { w with fs := ← applyEntry w.fs entry }

/-- The table a `lib` field selects: an index, or `global` for the system
table; the first table by default. -/
def readShelf (j : Json) : Read Shelf := do
  match j.field? "lib" with
  | none | some .null => return .scratch 0
  | some (.str "global") => return .system
  | some v => return .scratch (← asNat v)

/-- The search paths of a source, setting or removing the variable it
names. -/
def readSearchPaths (spec : Json) (w : World) : Read (SearchPaths × World) := do
  match spec.given? "env" with
  | some env =>
    let name ← needStr env "name"
    let w := match env.field? "value" with
      | some (.str v) => { w with env := w.env.set name v }
      | _ => { w with env := w.env.unset name }
    return (.envVar name, w)
  | none =>
    let paths ← (optional spec "paths" asStrs).map (·.getD [])
    return (.explicit (paths.map scenarioPath), w)

/-- Adds the providers of a list of specs; their numbers. -/
def addProviders (specs : List Json) (w : World) : Read (List Nat × World) := do
  let mut w := w
  let mut numbers := []
  for spec in specs do
    match ← readRecipe spec with
    | .make maker =>
      numbers := numbers ++ [w.providers.size]
      w := { w with providers := w.providers.push { maker } }
    | .explode _ => pure ()
  return (numbers, w)

def addSource (w : World) (spec : Json) : Read World := do
  let kind ← needStr spec "kind"
  if kind == "static" then
    let (numbers, w) ← addProviders ((← optional spec "providers" asList).getD []) w
    return { w with children := w.children.push (.fixed numbers) }
  let shelf ← readShelf spec
  let (searchPaths, w) ← readSearchPaths spec w
  let (discovery, w) ← match kind with
    | "native" => pure (Discovery.native, w)
    | "package" => do
      let group ← strOr spec "group" "oracle.ep"
      let disableVar ← strOr spec "disable_var" "ASSETIO_DISABLE_ENTRY_POINTS_PLUGINS"
      pure (Discovery.package (← boolOr spec "entry_points" false) group disableVar, w)
    | "mock" => do
      let table ← (optional spec "providers" asFields).map (·.getD [])
      let mut w := w
      let mut listed := []
      for (path, specs) in table do
        let (numbers, w') ← addProviders (← asList specs) w
        w := w'
        listed := listed ++ [(scenarioPath path, numbers)]
      pure (Discovery.listed listed, w)
    | other => .error (badInput ("unknown source kind '" ++ other ++ "'"))
  return { w with children := w.children.push (.lazy { discovery, shelf } searchPaths .idle) }

/-- The world a scenario describes, before its top factory. -/
def readWorld (req : Json) : Read World := do
  let slots ← readProviderSlots req
  let entrySlots ← readEntrySlots req
  let host ← readHost req
  let libs ← (optional req "libs" asNat).map (·.getD 1)
  let w : World := { fs := .empty, env := [], entrySlots, host, tables := List.replicate libs {} }
  let entries ← (optional req "fs" asList).map (·.getD [])
  let w ← entries.foldlM (applyPluginEntry slots) w
  let w := { w with env := ← requestEnv req w.env }
  let sources ← (optional req "sources" asList).map (·.getD [])
  sources.foldlM addSource w

/-- The plugin configuration of a scenario's configuration text: the
configuration, or the answer that stops the scenario. -/
def readPluginsConfig (req : Json) : Read (Except Json Config.PluginsConfig) := do
  let text ← strOr req "config_toml" ""
  if ← boolOr req "validate" true then
    match Config.loadAndValidateText text with
    | .ok c => return .ok c.plugins
    | .error errors => return .error (.obj [("config_errors", configErrorsJson errors)])
  else
    match Config.loadText text with
    | .ok c => return .ok c.plugins
    | .error faults =>
      let sources : SourceSet := ⟨[(Config.inlineName, text)]⟩
      return .error (.obj [("config_errors", configErrorsJson (faults.map (Config.ConfigError.ofFault sources)))])

end Script

end AssetBroker
