import AssetBroker.Plugin.Maker
import AssetBroker.Plugin.Manifest
import AssetBroker.Text.Debug
import AssetBroker.FileSystem

/-!
# Native binaries

A native plugin binary exports declarations under symbol names. A
declaration carries the plugin interface version it was built for, the core
version, and the provider function. It is compatible only when both match
the running program exactly: interface version 1 and core `0.1.0`.

Binaries are opened by one of two openers. The stand-in opener serves files
registered with what opening them does: export some declarations, or panic;
any other file fails as an invalid ELF header. The system opener reads the
file itself: a copy of the system plugin library exports its two
declarations, a file shorter than an ELF header is too short, and any other
content has an invalid header.

Loaded binaries live in tables, the shelves: the scenario's own tables, by
number, all over one stand-in opener, and the system table over the system
opener. A loaded binary is known by its shelf and canonical path.
-/

namespace AssetBroker

def interfaceVersion : Nat := 1

def entrySymbol : String := "assetio_plugin"

/-- The symbol older plugins export their declaration under. -/
def legacySymbol : String := "assetio_manager_plugin"

/-- What a binary exports under one symbol. -/
structure Declaration where
  abi : Nat := interfaceVersion
  core : String := coreVersion
  recipe : Recipe
  deriving Inhabited

namespace Declaration

/-- Whether the declaration was built for exactly this program. -/
def compatible (d : Declaration) : Bool := d.abi == interfaceVersion && d.core == coreVersion

def debug (d : Declaration) : String :=
  "PluginDeclaration \x7b abi_version: " ++ toString d.abi ++ ", core_version: " ++ debugQuote d.core ++
    ", .. \x7d"

end Declaration

/-- An opened binary: its declarations by symbol. -/
structure Binary where
  exports : List (String × Declaration)
  deriving Inhabited

namespace Binary

def declaration? (b : Binary) (symbol : String) : Option Declaration :=
  (b.exports.find? (·.1 == symbol)).map (·.2)

/-- The system plugin library: its provider under the standard symbol and
a second one under `oracle_custom`. -/
def system : Binary :=
  ⟨[(entrySymbol, { recipe := .make Maker.system }), ("oracle_custom", { recipe := .make Maker.systemCustom })]⟩

end Binary

/-- What opening a stand-in binary does. -/
inductive Behaviour where
  | exports (decls : List (String × Declaration))
  | panics (message : String)
  deriving Inhabited

def systemLibraryContent : String := "\x7fELF real plugin"

/-- The size of an ELF header, below which a file is too short to load. -/
def elfHeaderSize : Nat := 64

/-- Opens a file with the system loader: the binary, or the loader's
message, which starts with the path. -/
def systemOpen (fs : FileSystem) (path : String) : Except String Binary :=
  match fs.entry "/" path with
  | .ok (.file content) =>
    if content == systemLibraryContent then .ok Binary.system
    else if content.utf8ByteSize < elfHeaderSize then .error (path ++ ": file too short")
    else .error (path ++ ": invalid ELF header")
  | .ok .dir => .error (path ++ ": cannot read file data: Is a directory")
  | _ => .error (path ++ ": cannot open shared object file: No such file or directory")

/-- Which table a binary is loaded in. -/
inductive Shelf where
  /-- One of the scenario's tables, over the stand-in opener. -/
  | scratch (index : Nat)
  /-- The process-wide table, over the system opener. -/
  | system
  deriving DecidableEq, Repr, Inhabited

/-- A loaded binary: its table and canonical path. -/
structure BinaryRef where
  shelf : Shelf
  path : String
  deriving DecidableEq, Repr, Inhabited

end AssetBroker
