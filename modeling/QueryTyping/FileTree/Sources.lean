import QueryTyping.FileTree.Text
import QueryTyping.Gzip
import QueryTyping.QueryFile

/-!
# Source files

The files that a run reads: query files, and schema files, which may be packed.
-/

namespace QueryTyping

open Text

/-- The names that schema files end in. -/
def schemaSuffixes : List String := [".sql", ".sql.gz"]

namespace FileTree

/-- The queries of a query file. -/
def readQueries (tree : FileTree) (path : FilePath) : Except Error (List SourceQuery) :=
  if !tree.isFile path then .error (.failure (.input ("Query file not found: " ++ path.text)))
  else do
    match QueryFile.parseText path.text (← tree.readText path) with
    | .ok queries => return queries
    | .error failure => throw (.failure failure)

/-- The text of a packed file. -/
def readPackedText (tree : FileTree) (path : FilePath) : Except Error String := do
  match Gzip.unpack (← tree.readBytes path) with
  | .ok content => return String.ofList (universalNewlines (← textOfBytes content))
  | .error problem => throw (.unforeseen (.packed problem))

/-- The script in a schema file. -/
def readSchema (tree : FileTree) (path : FilePath) : Except Error String :=
  if path.name.endsWith ".sql.gz" then tree.readPackedText path
  else if path.suffix = ".sql" then tree.readText path
  else .error (.failure (.input ("Unsupported schema file " ++ path.text ++
    "; expected one of " ++ ", ".intercalate schemaSuffixes)))

end FileTree

end QueryTyping
