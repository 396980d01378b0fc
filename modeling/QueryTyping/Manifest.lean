import QueryTyping.Failure
import QueryTyping.FileTree
import QueryTyping.Json.Printer
import QueryTyping.TypedQuery.Json

/-!
# Manifests

A manifest is a JSON file with the typed queries of one query file.  Its name is
made of the query file's, so query files of the same name share a manifest path
and cannot be generated into one directory.
-/

namespace QueryTyping

open Text

namespace Manifest

/-- Where the manifest of a query file goes. -/
def path (outputDir queryFile : FilePath) : FilePath :=
  outputDir.child (queryFile.stem ++ ".typed.json")

/-- The first file of a list whose manifest path belongs to a different file before it, with that
file. -/
def collision? (outputDir : FilePath) : List FilePath → List FilePath →
    Option (FilePath × FilePath)
  | _, [] => none
  | before, file :: rest =>
    match before.find? fun other => path outputDir other = path outputDir file with
    | some owner =>
      if owner = file then collision? outputDir before rest else some (owner, file)
    | none => collision? outputDir (before ++ [file]) rest

/-- Refuse query files that would share a manifest. -/
def checkCollisions (queryFiles : List FilePath) (outputDir : FilePath) : Except Failure Unit :=
  match collision? outputDir [] queryFiles with
  | none => .ok ()
  | some (owner, file) =>
    .error (.input ("Query files " ++ owner.text ++ " and " ++ file.text ++ " would both write " ++
      (path outputDir file).text ++ "; rename one or generate them into separate output dirs"))

def document (queryFile : FilePath) (queries : List TypedQuery) : Json :=
  .object [("source", .text queryFile.name), ("queries", TypedQuery.jsonList queries)]

/-- The text of a manifest. -/
def render (queryFile : FilePath) (queries : List TypedQuery) : String :=
  (document queryFile queries).pretty ++ "\n"

/-- Write a manifest, and make its directory if there is none. -/
def write (tree : FileTree) (outputDir queryFile : FilePath) (queries : List TypedQuery) :
    Except Failure (FilePath × FileTree) :=
  let target := path outputDir queryFile
  let written : Except PathProblem FileTree := do
    let tree ← tree.makeDirectories outputDir
    tree.write target (encodeUtf8 (render queryFile queries).toList)
  match written with
  | .ok tree => .ok (target, tree)
  | .error _ => .error (.output ("Cannot write manifest " ++ target.text))

/-- The directory that manifests go to: the one asked for, or the one that all query files are
in. -/
def directory (queryFiles : List FilePath) (outputDir : Option FilePath) :
    Except Failure FilePath :=
  match outputDir with
  | some directory => .ok directory
  | none =>
    match queryFiles.map FilePath.parent with
    | [] => .error (.input "No query files to deduce an output directory from")
    | first :: rest =>
      if rest.all (· = first) then .ok first
      else .error (.input ("Cannot deduce output dir because query files use different dirs; " ++
        "specify explicitly with --output-dir"))

end Manifest

end QueryTyping
