import AssetBroker.Path

/-!
# An in-memory file system

Scenarios run in a file system of their own: directories, text files and
symbolic links under the scratch root `$ROOT`, which stands for an
absolute directory. Outside it only `/` exists.

A path is looked up component by component: `.` stays, `..` goes to the
parent of what was reached so far, and a symbolic link is replaced by its
target (relative to the link's directory) before going on, at most forty
times. Failures carry the text the operating system gives for them.
-/

namespace AssetBroker

/-- Why a file operation failed, with its system text. -/
inductive IoError where
  | notFound
  | notADirectory
  | isADirectory
  | tooManyLinks
  deriving DecidableEq, Inhabited

def IoError.message : IoError → String
  | .notFound => "No such file or directory (os error 2)"
  | .notADirectory => "Not a directory (os error 20)"
  | .isADirectory => "Is a directory (os error 21)"
  | .tooManyLinks => "Too many levels of symbolic links (os error 40)"

/-- An entry of the file system. -/
inductive Node where
  | dir
  | file (content : String)
  | link (target : String)
  deriving Inhabited

/-- Directories, files and links by absolute path. -/
structure FileSystem where
  nodes : List (String × Node)
  deriving Inhabited

namespace Path

/-- The components of a path's text, without empty ones. -/
def pieces (p : String) : List String :=
  ((p.toList.splitOn '/').filter (!·.isEmpty)).map String.ofList

/-- The root of an absolute path and the components after it. A path that
does not start from `/` starts from its first component: the scratch root,
or a directory beside it. -/
def splitRooted (p : String) : String × List String :=
  if p.startsWith "/" then ("/", pieces p)
  else
    match p.toList.splitOn '/' with
    | root :: rest => (String.ofList root, (rest.filter (!·.isEmpty)).map String.ofList)
    | [] => (p, [])

def render (root : String) (parts : List String) : String :=
  if root == "/" then "/" ++ "/".intercalate parts
  else "/".intercalate (root :: parts)

/-- A path made absolute against a working directory. -/
def absolute (cwd p : String) : String :=
  if isRooted p then p else join cwd p

/-- Whether a path starts at a root, `/` or the scratch root, for joining. -/
def joinRooted (base p : String) : String := if isRooted p then p else join base p

/-- A path with `.` and `..` resolved by the text alone. -/
def normalize (p : String) : String :=
  let (root, parts) := splitRooted p
  let step (acc : List String) (c : String) : List String :=
    if c == "." then acc else if c == ".." then acc.dropLast else acc ++ [c]
  render root (parts.foldl step [])

end Path

namespace FileSystem

/-- The empty file system: only the roots exist. -/
def empty : FileSystem := ⟨[]⟩

/-- The entry at a path, as stored. -/
def node? (fs : FileSystem) (p : String) : Option Node :=
  if p == "/" || p == Path.scratchRoot then some .dir
  else (fs.nodes.find? (·.1 == p)).map (·.2)

/-- Resolves the components `todo` from `(root, done)` while links may
still be followed; `next` resolves what a link leads to, with one link
fewer left. The last component's link is followed when `follow`; a missing
last component is allowed when `lenient`. -/
def walkSteps (fs : FileSystem) (follow lenient : Bool)
    (next : String → List String → List String → Except IoError (String × List String)) (root : String) :
    List String → List String → Except IoError (String × List String)
  | done, [] => .ok (root, done)
  | done, c :: rest =>
    if c == "." then walkSteps fs follow lenient next root done rest
    else if c == ".." then walkSteps fs follow lenient next root done.dropLast rest
    else
      let here := done ++ [c]
      match fs.node? (Path.render root here) with
      | none => if rest.isEmpty && lenient then .ok (root, here) else .error .notFound
      | some .dir => walkSteps fs follow lenient next root here rest
      | some (.file _) => if rest.isEmpty then .ok (root, here) else .error .notADirectory
      | some (.link target) =>
        if rest.isEmpty && !follow then .ok (root, here)
        else if Path.isRooted target then
          let (troot, tparts) := Path.splitRooted target
          if (fs.node? troot).isNone then .error .notFound
          else next troot [] (tparts ++ rest)
        else next root done (Path.pieces target ++ rest)

/-- Resolves the components `todo` from `(root, done)`, following at most
`n - 1` links. -/
def walk (fs : FileSystem) (follow lenient : Bool) :
    Nat → String → List String → List String → Except IoError (String × List String)
  | 0, _, _, _ => .error .tooManyLinks
  | n + 1, root, done, todo => walkSteps fs follow lenient (walk fs follow lenient n) root done todo

/-- The resolved absolute path of an existing entry, links followed. -/
def canonicalize (fs : FileSystem) (cwd p : String) : Except IoError String := do
  let (root, parts) := Path.splitRooted (Path.absolute cwd p)
  if (fs.node? root).isNone then throw .notFound
  let (r, ps) ← fs.walk true false 41 root [] parts
  pure (Path.render r ps)

/-- The entry a path leads to, links followed. -/
def entry (fs : FileSystem) (cwd p : String) : Except IoError Node := do
  let q ← fs.canonicalize cwd p
  match fs.node? q with
  | some node => pure node
  | none => throw .notFound

def read (fs : FileSystem) (cwd p : String) : Except IoError String := do
  match ← fs.entry cwd p with
  | .file content => pure content
  | .dir => throw .isADirectory
  | .link _ => throw .notFound

def isFile (fs : FileSystem) (cwd p : String) : Bool :=
  match fs.entry cwd p with
  | .ok (.file _) => true
  | _ => false

def isDir (fs : FileSystem) (cwd p : String) : Bool :=
  match fs.entry cwd p with
  | .ok .dir => true
  | _ => false

def exists? (fs : FileSystem) (cwd p : String) : Bool := (fs.entry cwd p).toBool

/-- Stores an entry at a normalized absolute path, replacing what was
there. -/
def put (fs : FileSystem) (p : String) (n : Node) : FileSystem :=
  ⟨(fs.nodes.filter (·.1 != p)) ++ [(p, n)]⟩

/-- Creates a directory and its missing parents. -/
def makeDirs (fs : FileSystem) (p : String) : FileSystem :=
  let (root, parts) := Path.splitRooted (Path.normalize p)
  let prefixes := (List.range parts.length).map fun i => Path.render root (parts.take (i + 1))
  prefixes.foldl (fun acc q => if (acc.node? q).isSome then acc else acc.put q .dir) fs

/-- Writes a text file, creating its missing parent directories. -/
def writeFile (fs : FileSystem) (p content : String) : FileSystem :=
  let q := Path.normalize p
  let withParents := match Path.parent? q with
    | some dir => fs.makeDirs dir
    | none => fs
  withParents.put q (.file content)

/-- Creates a symbolic link at `p` to `target`. -/
def makeLink (fs : FileSystem) (p target : String) : FileSystem :=
  let q := Path.normalize p
  let withParents := match Path.parent? q with
    | some dir => fs.makeDirs dir
    | none => fs
  withParents.put q (.link target)

/-- The names of the entries directly in a directory, sorted. -/
def children (fs : FileSystem) (dir : String) : List String :=
  let pre := if dir == "/" then "/" else dir ++ "/"
  let names := fs.nodes.filterMap fun (p, _) =>
    if p.startsWith pre then
      let rest := p.toList.drop pre.length
      if rest.isEmpty || rest.contains '/' then none else some (String.ofList rest)
    else none
  Path.sortNames names

end FileSystem

end AssetBroker
