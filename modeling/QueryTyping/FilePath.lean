import QueryTyping.Text.Blank

/-!
# Paths

A path is the slashes in front and the names after them, without empty names and
single dots.  Double dots stay: what they mean depends on links.
-/

namespace QueryTyping

open Text

structure FilePath where
  /-- None for a relative path; two slashes in front are kept apart from one. -/
  slashes : Nat
  names : List String
  deriving DecidableEq, Repr, Inhabited

namespace FilePath

/-- The path that a text writes. -/
def ofText (s : String) : FilePath :=
  let front := (s.toList.takeWhile (· = '/')).length
  let names := (splitOnChar '/' s.toList).map String.ofList
  { slashes := if front = 2 then 2 else min front 1
    names := names.filter fun name => !name.isEmpty && name ≠ "." }

/-- The text of a path; the empty relative path is a dot. -/
def text (path : FilePath) : String :=
  if path.slashes = 0 ∧ path.names.isEmpty then "."
  else String.ofList (List.replicate path.slashes '/') ++ "/".intercalate path.names

def isAbsolute (path : FilePath) : Bool := path.slashes ≠ 0

/-- A path taken relative to another; an absolute one stays as it is. -/
def join (base path : FilePath) : FilePath :=
  if path.isAbsolute then path else { base with names := base.names ++ path.names }

/-- A path with one more name. -/
def child (path : FilePath) (name : String) : FilePath :=
  { path with names := path.names ++ [name] }

/-- The path without its last name. -/
def parent (path : FilePath) : FilePath := { path with names := path.names.dropLast }

/-- The last name, or nothing. -/
def name (path : FilePath) : String := path.names.getLast?.getD ""

/-- The place of the point that starts a name's suffix: the last one, with something on both
sides. -/
def suffixParts (name : String) : List Char × List Char :=
  let s := name.toList
  let after := (s.reverse.takeWhile (· ≠ '.')).reverse
  let before := s.take (s.length - after.length - 1)
  if s.contains '.' && !before.isEmpty && !after.isEmpty then (before, '.' :: after) else (s, [])

/-- The last name without its suffix. -/
def stem (path : FilePath) : String := String.ofList (suffixParts path.name).1

/-- The suffix of the last name, with its point. -/
def suffix (path : FilePath) : String := String.ofList (suffixParts path.name).2

/-- The order of paths, by their parts. -/
def before (a b : FilePath) : Bool :=
  let parts (path : FilePath) : List String :=
    if path.slashes = 0 then path.names
    else String.ofList (List.replicate path.slashes '/') :: path.names
  !(parts b).lex (parts a) fun x y => decide (x < y)

end FilePath

end QueryTyping
