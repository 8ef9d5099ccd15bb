import ContentCache.Bytes

/-!
# Local files

The files that a program sees: contents and directories, each under the components of its path.
A path is walked component by component, so that a missing directory, a content in the place of a
directory and a component that is too long are told apart.

Main statements: `node?_put` (what is put under a path is there, and nothing else changes) and
`node?_remove`.
-/

namespace ContentCache

/-- What a path leads to. -/
inductive FileNode where
  | content (data : Bytes)
  | directory
  deriving DecidableEq

/-- Why a path cannot be used. -/
inductive FileError where
  | notFound
  | isDirectory
  | notDirectory
  | nameTooLong
  | invalidName
  | notText
  deriving DecidableEq

def FileError.message : FileError → String
  | notFound => "No such file or directory (os error 2)"
  | isDirectory => "Is a directory (os error 21)"
  | notDirectory => "Not a directory (os error 20)"
  | nameTooLong => "File name too long (os error 36)"
  | invalidName => "file name contained an unexpected NUL byte"
  | notText => "stream did not contain valid UTF-8"

/-- The components of a path. -/
abbrev FilePath := List (List Char)

/-- The pieces of a path between slashes, the empty ones and single points left out. -/
def FilePath.ofText (path : String) : FilePath :=
  let step (c : Char) (acc : List Char × FilePath) : List Char × FilePath :=
    if c = '/' then ([], acc.1 :: acc.2) else (c :: acc.1, acc.2)
  let (first, rest) := path.toList.foldr step ([], [])
  (first :: rest).filter fun s => s ≠ [] && s ≠ ['.']

/-- Files under their paths, the latest ones first. -/
structure Files where
  nodes : List (FilePath × Option FileNode) := []

namespace Files

def empty : Files := {}

/-- What was last put under a path, if it is still there. -/
def node? (f : Files) (path : FilePath) : Option FileNode := (f.nodes.lookup path).join

def put (f : Files) (path : String) (node : FileNode) : Files :=
  ⟨(FilePath.ofText path, some node) :: f.nodes⟩

/-- The paths that lead to a path, the shortest first. -/
def ancestors (path : FilePath) : List FilePath :=
  (List.range (path.length - 1)).map fun n => path.take (n + 1)

/-- Puts a node under a path, with the directories that lead to it. -/
def putWithin (f : Files) (path : String) (node : FileNode) : Files :=
  let above := (ancestors (FilePath.ofText path)).map fun p => (p, some FileNode.directory)
  ⟨(FilePath.ofText path, some node) :: (above ++ f.nodes)⟩

def remove (f : Files) (path : String) : Files := ⟨(FilePath.ofText path, none) :: f.nodes⟩

/-- The most bytes that one component of a path may have. -/
def longestName : Nat := 255

/-- Walks from a directory along the components that are left: every one before the last has to be
a directory. -/
def walk (f : Files) (here : FilePath) : FilePath → Except FileError FileNode
  | [] => .ok .directory
  | name :: rest =>
    if longestName < (Bytes.ofText (String.ofList name)).length then .error .nameTooLong
    else
      match f.node? (here ++ [name]), rest with
      | none, _ => .error .notFound
      | some node, [] => .ok node
      | some (.content _), _ :: _ => .error .notDirectory
      | some .directory, rest => f.walk (here ++ [name]) rest

/-- What a path leads to. An empty path leads nowhere, and one that ends in a slash leads to a
directory. -/
def find (f : Files) (path : String) : Except FileError FileNode :=
  if path.toList.contains (Char.ofNat 0) then .error .invalidName
  else if path.isEmpty then .error .notFound
  else
    match f.walk [] (FilePath.ofText path) with
    | .ok (.content data) =>
      if path.toList.getLast? = some '/' then .error .notDirectory else .ok (.content data)
    | result => result

def read (f : Files) (path : String) : Except FileError Bytes :=
  match f.find path with
  | .ok (.content data) => .ok data
  | .ok .directory => .error .isDirectory
  | .error e => .error e

def readText (f : Files) (path : String) : Except FileError String :=
  match f.read path with
  | .error e => .error e
  | .ok data =>
    match data.text? with
    | some text => .ok text
    | none => .error .notText

/-- Looks for a directory. -/
def findDirectory (f : Files) (path : String) : Except FileError Unit :=
  match f.find path with
  | .ok .directory => .ok ()
  | .ok (.content _) => .error .notDirectory
  | .error e => .error e

/-- What is put under a path is there. -/
theorem node?_put (f : Files) (path : String) (node : FileNode) (other : FilePath) :
    (f.put path node).node? other =
      if other = FilePath.ofText path then some node else f.node? other := by
  unfold node? put
  by_cases h : other = FilePath.ofText path
  · simp [h]
  · have h' : (other == FilePath.ofText path) = false := by simpa using h
    simp [List.lookup_cons, h, h']

/-- What is taken away is no longer there. -/
theorem node?_remove (f : Files) (path : String) (other : FilePath) :
    (f.remove path).node? other = if other = FilePath.ofText path then none else f.node? other := by
  unfold node? remove
  by_cases h : other = FilePath.ofText path
  · simp [h]
  · have h' : (other == FilePath.ofText path) = false := by simpa using h
    simp [List.lookup_cons, h, h']

end Files

end ContentCache
