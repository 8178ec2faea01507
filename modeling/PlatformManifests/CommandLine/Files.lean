import PlatformManifests.Text.Pieces

/-!
Files, as far as the program needs them: it reads texts and writes texts by their paths, and either
may fail.

A `Store` keeps files in a state that changes as it is written to. A `FileTree` is such a state: the
files and directories that there are, and the directory where relative paths begin. It has no
links.
-/
namespace PlatformManifests.CommandLine

inductive FileError where
  | notFound
  | notDirectory
  | isDirectory
  | nameTooLong
  | other (code : Nat) (kind message : String)
  | notText
  | notName
deriving DecidableEq, Repr

/-- Access to files in some setting. -/
structure FileAccess (m : Type → Type) where
  read : String → m (Except FileError String)
  write : String → String → m (Except FileError Unit)

/-- Files in some state. Reading leaves the state as it is; the state that writing leaves is given
also when it fails. -/
structure Store (σ : Type) where
  read : σ → String → Except FileError String
  write : σ → String → String → Except FileError Unit × σ

def Store.access {σ : Type} (store : Store σ) : FileAccess (StateM σ) where
  read path := do return store.read (← get) path
  write path content := modifyGet fun state => store.write state path content

/-! ### Paths -/

/-- The steps of a path. Empty steps are left out; a slash at the end means a directory. -/
structure FilePath where
  absolute : Bool
  steps : List String
  slashed : Bool
deriving DecidableEq

namespace FilePath

def ofText (text : String) : FilePath where
  absolute := text.toList.head? = some '/'
  steps := ((Text.pieces '/' text.toList).map String.ofList).filter (· ≠ "")
  slashed := text.toList.getLast? = some '/'

/-- The path of the last step's directory. -/
def parent (path : FilePath) : FilePath := { path with steps := path.steps.dropLast }

def longest : Nat := 4095

def longestStep : Nat := 255

/-- The path with the text, unless there can be none, whatever files there are. -/
def read (text : String) : Except FileError FilePath :=
  if text = "" then .error .notFound
  else if text.toList.contains '\x00' then .error .notName
  else if longest < text.utf8ByteSize then .error .nameTooLong
  else .ok (.ofText text)

end FilePath

/-! ### Trees of files -/

/-- What there is at a place. -/
inductive Node where
  | file (content : String)
  | directory
deriving DecidableEq

/-- What there is at which place, and the place where relative paths begin. Places are the steps
that lead to them from the root. -/
structure FileTree where
  here : List String
  nodes : List (List String × Node)

namespace FileTree

/-- What is listed first for a place is there. The root always is. -/
def at? (tree : FileTree) (place : List String) : Option Node :=
  if place.isEmpty then some .directory else tree.nodes.lookup place

def put (tree : FileTree) (place : List String) (content : String) : FileTree :=
  { tree with nodes := (place, .file content) :: tree.nodes }

/-- The place that steps lead to from another one. There are directories on the way, and anything or
nothing at the end. -/
def follow (tree : FileTree) (place : List String) : List String → Except FileError (List String)
  | [] => .ok place
  | step :: rest =>
    if step = "." then follow tree place rest
    else if step = ".." then follow tree place.dropLast rest
    else if FilePath.longestStep < step.utf8ByteSize then .error .nameTooLong
    else
      let next := place ++ [step]
      if rest.isEmpty then .ok next
      else
        match tree.at? next with
        | some .directory => follow tree next rest
        | some (.file _) => .error .notDirectory
        | none => .error .notFound

def locate (tree : FileTree) (path : FilePath) : Except FileError (List String) :=
  tree.follow (if path.absolute then [] else tree.here) path.steps

/-- The file that a path leads to: its place and its content. -/
def find (tree : FileTree) (path : FilePath) : Except FileError (List String × String) := do
  let place ← tree.locate path
  match tree.at? place with
  | some (.file content) => if path.slashed then .error .notDirectory else .ok (place, content)
  | some .directory => .error .isDirectory
  | none => .error .notFound

/-- The place of the file that is written at a path. Nothing is written where a path with a slash at
its end leads, but what is wrong on the way there counts first. -/
def target (tree : FileTree) (path : FilePath) : Except FileError (List String) := do
  let place ← tree.locate (if path.slashed then path.parent else path)
  match tree.at? place with
  | some .directory => .error .isDirectory
  | some (.file _) => if path.slashed then .error .notDirectory else .ok place
  | none => if path.slashed then .error .notFound else .ok place

def read (tree : FileTree) (path : String) : Except FileError String := do
  let (_, content) ← tree.find (← FilePath.read path)
  return content

/-- Writes a file, or replaces it. -/
def write (tree : FileTree) (path content : String) : Except FileError Unit × FileTree :=
  match FilePath.read path >>= tree.target with
  | .ok place => (.ok (), tree.put place content)
  | .error error => (.error error, tree)

def store : Store FileTree := ⟨read, write⟩

end FileTree

end PlatformManifests.CommandLine
