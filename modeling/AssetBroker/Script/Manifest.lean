import AssetBroker.Script.Common
import AssetBroker.Plugin.Manifest

/-!
# The manifest script

Reads a plugin manifest as if found at a path (by default one in a plugin
directory) and answers the manifest with the result of the version check,
or the reason it was refused. This script has no scratch tree, so the text
of the scratch root in a library path is an ordinary name.
-/

namespace AssetBroker

namespace Script

/-- Where a manifest is taken to live when the request names no path. -/
def defaultManifestPath : String := "/plugins/example/plugin.toml"

def manifestJson (m : Manifest) : Json :=
  let text (o : Option String) : Json := Json.opt Json.str o
  .obj [("identifier", .str m.identifier), ("display_name", text m.displayName),
    ("version", text m.version), ("description", text m.description),
    ("min_assetio_version", text m.minVersion), ("library", .str m.library),
    ("symbol", text m.symbol)]

def manifestScript (req : Json) : Read Json := do
  let text ← needStr req "toml"
  let path ← strOr req "path" defaultManifestPath
  match Manifest.read Path.joinPlain text path with
  | .error e => return pluginErrorJson e
  | .ok m =>
    let supported : Json := match m.checkSupported path with
      | .ok () => .bool true
      | .error e => pluginErrorJson e
    return .obj [("manifest", manifestJson m), ("supported", supported)]

end Script

end AssetBroker
