import QueryTyping.FilePath
import QueryTyping.FilePath.Problem
import QueryTyping.Text.Utf8

/-!
# File trees

The files that a program works on, as a value.  A place is a list of names from
the root, and a path leads to a place by way of the links and double dots on it.
Reading and writing say what the tree holds before and after.
-/

namespace QueryTyping

open Text

/-- The names that lead from the root to a file or directory, free of links and dots. -/
abbrev Place := List String

/-- What stands at a place. -/
inductive FileEntry where
  | directory
  | file (content : Bytes)
  | link (target : FilePath)
  deriving DecidableEq, Repr, Inhabited

structure FileTree where
  entries : List (Place × FileEntry) := []
  /-- The place that relative paths start from. -/
  workingPlace : Place := []
  deriving Inhabited

namespace FileTree

/-- The entry at a place; the root is always a directory. -/
def entry? (tree : FileTree) (place : Place) : Option FileEntry :=
  if place.isEmpty then some .directory else tree.entries.lookup place

/-- How many links a path may lead through. -/
def linkBound : Nat := 40

/-- Go from the directory at a place along names.  The answer is a place whose directory exists,
and its entry, if it has one.  The last link is followed only if asked for. -/
def walk (tree : FileTree) (followLast : Bool) (links : Nat) (place : Place) (names : List String) :
    Except PathProblem (Place × Option FileEntry) :=
  match names with
  | [] => .ok (place, some .directory)
  | name :: rest =>
    if name = ".." then walk tree followLast links place.dropLast rest
    else
      let next := place ++ [name]
      match tree.entry? next with
      | none => if rest.isEmpty then .ok (next, none) else .error .missing
      | some .directory => walk tree followLast links next rest
      | some (.file content) =>
        if rest.isEmpty then .ok (next, some (.file content)) else .error .notDirectory
      | some (.link target) =>
        if rest.isEmpty && !followLast then .ok (next, some (.link target))
        else
          match links with
          | 0 => .error .endlessLinks
          | links + 1 =>
            walk tree followLast links (if target.isAbsolute then [] else place)
              (target.names ++ rest)
  termination_by (links, names.length)

/-- The place that a path leads to, and what stands there. -/
def find (tree : FileTree) (path : FilePath) (followLast : Bool) :
    Except PathProblem (Place × Option FileEntry) :=
  tree.walk followLast linkBound (if path.isAbsolute then [] else tree.workingPlace) path.names

/-- What a path leads to. -/
def status? (tree : FileTree) (path : FilePath) : Option FileEntry :=
  match tree.find path true with
  | .ok (_, entry) => entry
  | .error _ => none

def holds (tree : FileTree) (path : FilePath) : Bool := (tree.status? path).isSome

/-- Whether a path leads to anything, be it a link that leads nowhere. -/
def holdsLink (tree : FileTree) (path : FilePath) : Bool :=
  match tree.find path false with
  | .ok (_, entry) => entry.isSome
  | .error _ => false

def isDirectory (tree : FileTree) (path : FilePath) : Bool :=
  tree.status? path = some .directory

def isFile (tree : FileTree) (path : FilePath) : Bool :=
  match tree.status? path with
  | some (.file _) => true
  | _ => false

/-- The absolute path, free of links and dots, of what a path leads to. -/
def resolve (tree : FileTree) (path : FilePath) : FilePath :=
  match tree.find path true with
  | .ok (place, _) => ⟨1, place⟩
  | .error _ => path

/-- The names in the directory that a path leads to. -/
def names (tree : FileTree) (path : FilePath) : List String :=
  match tree.find path true with
  | .ok (place, some .directory) =>
    tree.entries.filterMap fun (other, _) =>
      if other.dropLast = place then other.getLast? else none
  | _ => []

/-- The content of a file. -/
def read (tree : FileTree) (path : FilePath) : Except PathProblem Bytes :=
  match tree.find path true with
  | .ok (_, some (.file content)) => .ok content
  | .ok (_, some _) => .error .isDirectory
  | .ok (_, none) => .error .missing
  | .error problem => .error problem

/-- Put an entry at a place, in the stead of the one there. -/
def put (tree : FileTree) (place : Place) (entry : FileEntry) : FileTree :=
  if (tree.entries.lookup place).isSome then
    { tree with entries := tree.entries.map fun (other, old) =>
        (other, if other = place then entry else old) }
  else { tree with entries := tree.entries ++ [(place, entry)] }

/-- Write a file, new or not. -/
def write (tree : FileTree) (path : FilePath) (content : Bytes) : Except PathProblem FileTree :=
  match tree.find path true with
  | .ok (_, some .directory) => .error .isDirectory
  | .ok (place, _) => .ok (tree.put place (.file content))
  | .error problem => .error problem

/-- Make a directory in an existing one. -/
def makeDirectory (tree : FileTree) (path : FilePath) : Except PathProblem FileTree :=
  match tree.find path false with
  | .ok (place, none) => .ok (tree.put place .directory)
  | .ok _ => .error .present
  | .error problem => .error problem

/-- Make a directory and those that lead to it, unless they exist. -/
def makeDirectories (tree : FileTree) (path : FilePath) : Except PathProblem FileTree :=
  (List.range (path.names.length + 1)).foldlM (fun tree count =>
    let step : FilePath := { path with names := path.names.take count }
    if tree.isDirectory step then .ok tree else tree.makeDirectory step) tree

/-- Make the directories on the way to a path, up to the first that cannot be made. -/
def makeOnTheWay (tree : FileTree) (path : FilePath) : List Nat → FileTree
  | [] => tree
  | count :: rest =>
    let step : FilePath := { path with names := path.names.take count }
    if tree.isDirectory step then tree.makeOnTheWay path rest
    else
      match tree.makeDirectory step with
      | .ok made => made.makeOnTheWay path rest
      | .error _ => tree

/-- What an attempt to make a directory and those that lead to it leaves, also if it fails. -/
def leftByMaking (tree : FileTree) (path : FilePath) : FileTree :=
  tree.makeOnTheWay path (List.range (path.names.length + 1))

/-- Make a link to a path. -/
def makeLink (tree : FileTree) (path target : FilePath) : Except PathProblem FileTree :=
  match tree.find path false with
  | .ok (place, none) => .ok (tree.put place (.link target))
  | .ok _ => .error .present
  | .error problem => .error problem

end FileTree

end QueryTyping
