import AssetBroker.Plugin.Factory
import AssetBroker.Json.Write
import AssetBroker.Property.Json

/-!
# Listings for the command line

The command line lists plugins source by source: each configured source on
its own gets a factory, which is asked for its identifiers and their
origins and then let go. A source with no plugins is listed as `(none)`.
Managers are listed from the whole factory: identifier and display name,
or a note that there are none. Both listings can be written as
pretty-printed JSON instead, with fields in the order shown.
-/

namespace AssetBroker

/-- One source's plugins: identifiers with the display text of their
origins. -/
structure SourceListing where
  source : String
  plugins : List (String × Option String)
  deriving Inhabited

namespace SourceListing

def text (l : SourceListing) : String :=
  l.source ++ ":\n" ++ (if l.plugins.isEmpty then "  (none)\n" else "") ++
    String.join (l.plugins.map fun (id, o) =>
      match o with
      | some origin => "  " ++ id ++ "  " ++ origin ++ "\n"
      | none => "  " ++ id ++ "\n")

def json (l : SourceListing) : Json :=
  .obj [("source", .str l.source), ("plugins", .arr (l.plugins.map fun (id, o) =>
    .obj [("identifier", .str id), ("origin", Json.opt Json.str o)]))]

end SourceListing

namespace World

/-- Lists one configured source's plugins with a factory of its own. -/
def listSource (config : Config.PluginsConfig) (source : String) : Op (Except BrokerError SourceListing) := do
  let start := (← get).children.size
  match ← fromConfig { config with sources := [source] } with
  | .error e =>
    dropSourcesFrom start
    return .error e
  | .ok top =>
    let rows : Except BrokerError (List (String × Option String)) ← tryCatch
      (do
        match ← identifiers top with
        | .error e => return .error e
        | .ok ids => return .ok (← ids.mapM fun id => do return (id, (← origin top id).map (·.display))))
      (fun message => do
        dropSourcesFrom start
        throw message)
    dropSourcesFrom start
    return rows.map (⟨source, ·⟩)

/-- The plugins of each configured source, as the command line prints
them, and how the listing ended. -/
def listPlugins (config : Config.PluginsConfig) (json : Bool) : Op (String × Except BrokerError Unit) := do
  let mut listings : List SourceListing := []
  for source in config.sources do
    match ← listSource config source with
    | .error e => return ("", .error e)
    | .ok l => listings := listings ++ [l]
  if json then return ((Json.arr (listings.map SourceListing.json)).pretty ++ "\n", .ok ())
  return (String.join (listings.map SourceListing.text), .ok ())

/-- The managers the factory can make, as the command line prints them. -/
def listManagers (top : Composition) (json : Bool) : Op (String × Except BrokerError Unit) := do
  let details ← match ← availableManagers top with
    | .ok details => pure details
    | .error e => return ("", .error e)
  if json then
    let rows := details.map fun d => Json.obj [("identifier", .str d.identifier),
      ("display_name", .str d.displayName), ("info", Settings.toJson d.info)]
    return ((Json.arr rows).pretty ++ "\n", .ok ())
  if details.isEmpty then return ("no managers found\n", .ok ())
  return (String.join (details.map fun d => d.identifier ++ "  " ++ d.displayName ++ "\n"), .ok ())

end World

end AssetBroker
