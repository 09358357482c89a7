import AssetBroker.Binary64.Basic

/-!
# Layered configuration values

Configuration is gathered in layers: built-in defaults, then TOML texts or
files, then environment variables. Each layer gives a tree of values, and
a later layer is merged over an earlier one: tables merge key by key, and
any other value replaces what was there.

Every value remembers the layer that gave it, so that an error about it can
name its source. A merged table takes the layer of the table merged in
last.
-/

namespace AssetBroker

namespace Config

/-- A layer of configuration. -/
inductive Layer where
  /-- The built-in defaults. -/
  | defaults
  /-- A TOML text given directly. -/
  | text
  /-- A TOML file: the path it was found at, and that path as messages show
  it. -/
  | file (path shown : String)
  /-- Environment variables with the configuration prefix. -/
  | environment
  deriving DecidableEq, Inhabited

/-- A configuration value, with the layer that gave it. Tables are sorted
by key. -/
inductive Tree where
  | str (s : String) (layer : Layer)
  | bool (b : Bool) (layer : Layer)
  | signed (n : Int) (layer : Layer)
  | unsigned (n : Nat) (layer : Layer)
  | float (x : Binary64) (layer : Layer)
  | dict (entries : List (String × Tree)) (layer : Layer)
  | array (items : List Tree) (layer : Layer)
  deriving Inhabited

namespace Tree

def layer : Tree → Layer
  | str _ l | bool _ l | signed _ l | unsigned _ l | float _ l | dict _ l | array _ l => l

/-- Inserts a key into sorted entries, replacing an entry of the same key. -/
def insertSorted (k : String) (v : Tree) : List (String × Tree) → List (String × Tree)
  | [] => [(k, v)]
  | (k2, v2) :: rest =>
    if k < k2 then (k, v) :: (k2, v2) :: rest
    else if k == k2 then (k, v) :: rest
    else (k2, v2) :: insertSorted k v rest

/-- A table from entries in any order; a later entry of a key wins. -/
def sortedEntries (es : List (String × Tree)) : List (String × Tree) :=
  es.foldl (fun acc (k, v) => insertSorted k v acc) []

mutual

/-- Merges `top` over `base`: two tables merge key by key, otherwise `top`
replaces `base`. -/
def merge (base top : Tree) : Tree :=
  match base, top with
  | dict a _, dict b l => dict (mergeEntries a b) l
  | _, t => t

/-- Merges the entries of `top` over sorted entries `base`. -/
def mergeEntries (base : List (String × Tree)) : List (String × Tree) → List (String × Tree)
  | [] => base
  | (k, v) :: rest => mergeEntries (mergeOne k v base) rest

def mergeOne (k : String) (v : Tree) : List (String × Tree) → List (String × Tree)
  | [] => [(k, v)]
  | (k2, v2) :: rest =>
    if k < k2 then (k, v) :: (k2, v2) :: rest
    else if k == k2 then (k, merge v2 v) :: rest
    else (k2, v2) :: mergeOne k v rest

end

end Tree

end Config

end AssetBroker
