import QueryTyping.Failure
import QueryTyping.FileTree
import QueryTyping.Glob.Pattern

/-!
# Globs

The files that patterns name.  A pattern is a path whose names may hold
wildcards; a name of two stars stands for any number of directories.
-/

namespace QueryTyping

namespace Glob

/-- A name of a pattern. -/
inductive Segment where
  /-- The directory at hand. -/
  | here
  | literal (name : String)
  | wild (pattern : NamePattern) (hidden : Bool)
  | anyDepth

/-- Whether a text holds a wildcard. -/
def isWild (s : List Char) : Bool := s.any fun c => c = '*' || c = '?' || c = '['

/-- A hidden name starts with a point; only a pattern that starts with one meets it. -/
def isHidden (name : String) : Bool := name.toList.head? = some '.'

def Segment.ofName (name : String) : Segment :=
  if name = "." then .here
  else if name = "**" then .anyDepth
  else if isWild name.toList then .wild (NamePattern.ofChars name.toList) (isHidden name)
  else .literal name

/-- The names of a directory, or only those of its directories. -/
def namesIn (tree : FileTree) (directoriesOnly : Bool) (base : FilePath) : List String :=
  let names := tree.names base
  if directoriesOnly then names.filter fun name => tree.isDirectory (base.child name) else names

/-- All paths below a directory, without hidden names. -/
def below (tree : FileTree) (directoriesOnly : Bool) : Nat → FilePath → List FilePath
  | 0, _ => []
  | depth + 1, base =>
    ((namesIn tree directoriesOnly base).filter (!isHidden ·)).flatMap fun name =>
      base.child name :: below tree directoriesOnly depth (base.child name)

/-- A bound for the depth of paths: a path passes every entry at most once between two links. -/
def depthBound (tree : FileTree) : Nat := (tree.entries.length + 1) * (FileTree.linkBound + 1)

/-- The paths that a segment leads to. -/
def step (tree : FileTree) (directoriesOnly : Bool) (segment : Segment) (base : FilePath) :
    List FilePath :=
  match segment with
  | .here => if tree.isDirectory base then [base] else []
  | .literal name => if tree.holdsLink (base.child name) then [base.child name] else []
  | .wild pattern hidden =>
    let names := (namesIn tree directoriesOnly base).filter fun name =>
      (hidden || !isHidden name) && pattern.admits name.toList
    names.map base.child
  | .anyDepth =>
    if tree.isDirectory base then base :: below tree directoriesOnly (depthBound tree) base else []

/-- The paths that segments lead to; all but the last have to be directories. -/
def walk (tree : FileTree) (base : FilePath) : List Segment → List FilePath
  | [] => [base]
  | segment :: rest =>
    (step tree (!rest.isEmpty) segment base).flatMap fun path => walk tree path rest

/-- The files that a pattern with wildcards names. -/
def files (tree : FileTree) (pattern : String) : List FilePath :=
  let s := pattern.toList
  let slashes := (FilePath.ofText pattern).slashes
  let names := ((Text.splitOnChar '/' s).map String.ofList).filter (!·.isEmpty)
  if s.getLast? = some '/' then []
  else
    ((walk tree ⟨slashes, []⟩ (names.map Segment.ofName)).filter tree.isFile).mergeSort
      FilePath.before

end Glob

namespace FileTree

/-- The paths that a pattern names.  A pattern without wildcards has to name something that
exists. -/
def expand (tree : FileTree) (pattern : String) : Except Failure (List FilePath) :=
  if Glob.isWild pattern.toList then .ok (Glob.files tree pattern)
  else
    let path := FilePath.ofText pattern
    if tree.holds path then .ok [path] else .error (.input ("File does not exist: " ++ pattern))

/-- The absolute paths that patterns name: sorted for each pattern, patterns in their order. -/
def expandAll (tree : FileTree) (patterns : List String) : Except Failure (List FilePath) := do
  return (← patterns.mapM tree.expand).flatten.map tree.resolve

end FileTree

end QueryTyping
