import AssetBroker.Property.Value
import AssetBroker.Text.Replace

/-!
# The configuration directory placeholder

A default manager file may name resources next to itself: in each string
setting at the top level, `${config_dir}` is replaced by the directory that
holds the file. Values nested in dictionaries and values of other kinds are
left alone.
-/

namespace AssetBroker

def configDirPlaceholder : String := "$" ++ "\x7bconfig_dir\x7d"

/-- Replaces the placeholder in every top-level string setting. -/
def substituteConfigDir (settings : Settings) (dir : String) : Settings :=
  settings.map fun (k, v) =>
    match v with
    | .str s => (k, .str (Text.replaceAll s configDirPlaceholder dir))
    | other => (k, other)

end AssetBroker
