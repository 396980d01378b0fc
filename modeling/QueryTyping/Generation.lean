import QueryTyping.Connection.Client
import QueryTyping.FileTree.Sources
import QueryTyping.Inference
import QueryTyping.Manifest

/-!
# Generation

Inferring query files with schema files loaded, and writing manifests.  Schema
files run in a transaction that is always rolled back.  Nothing is written
before all files are inferred, and a file with a failure has no manifest
written.
-/

namespace QueryTyping

/-- The outcome of inferring the queries of one file. -/
structure FileInference where
  queryFile : FilePath
  queries : List TypedQuery := []
  failures : List InferenceFailure := []
  deriving DecidableEq, Repr

def FileInference.ok (outcome : FileInference) : Bool := outcome.failures.isEmpty

namespace Resolving

variable {σ α : Type}

/-- Run with types not resolved yet, and forget them after. -/
def fresh (action : Attempt (Resolving σ) α) : Attempt σ α := fun session =>
  let (result, state) := action.run ⟨session, {}⟩
  (result, state.session)

end Resolving

namespace Generation

variable {σ α : Type}

/-- Infer queries in order.  A failure of one query ends the run, or is kept while the others go
on. -/
def inferQueries (session : Session σ) (keepGoing : Bool) (outcome : FileInference) :
    List SourceQuery → Attempt (Resolving σ) FileInference
  | [] => return outcome
  | query :: rest => do
    let outcome ← tryCatch
      (do
        let typed ← inferQuery session query
        return { outcome with queries := outcome.queries ++ [typed] })
      fun
        | .failure (.inference failure) =>
          if keepGoing then return { outcome with failures := outcome.failures ++ [failure] }
          else throw (.failure (.inference failure))
        | error => throw error
    inferQueries session keepGoing outcome rest

/-- Infer the queries of one file. -/
def inferFile (session : Session σ) (tree : FileTree) (keepGoing : Bool) (file : FilePath) :
    Attempt (Resolving σ) FileInference := do
  match tree.readQueries file with
  | .ok queries => inferQueries session keepGoing { queryFile := file } queries
  | .error error => throw error

/-- Infer files in order.  A type that was resolved for one file is known to the next. -/
def inferAll (session : Session σ) (tree : FileTree) (keepGoing : Bool)
    (files : List FilePath) : Attempt σ (List FileInference) :=
  Resolving.fresh (files.mapM (inferFile session tree keepGoing))

/-- Run the scripts of schema files. -/
def loadSchema (server : Server σ) (tree : FileTree) : List FilePath → Attempt (Client σ) Unit
  | [] => return
  | file :: rest => do
    match tree.readSchema file with
    | .ok script => Client.script server script
    | .error error => throw error
    loadSchema server tree rest

/-- Run a body with schema files loaded, and roll them back after. -/
def withSchema (server : Server σ) (tree : FileTree) (schemaFiles : List FilePath)
    (body : Attempt (Client σ) α) : Attempt (Client σ) α :=
  if schemaFiles.isEmpty then body
  else do
    Client.connect server
    Client.transaction true do
      loadSchema server tree schemaFiles
      body

/-- Infer files in order, with schema files loaded. -/
def inferFiles (server : Server σ) (tree : FileTree) (keepGoing : Bool)
    (queryFiles schemaFiles : List FilePath) : Attempt (Client σ) (List FileInference) :=
  withSchema server tree schemaFiles
    (inferAll (Client.session server) tree keepGoing queryFiles)

/-- A client and the files it works on. -/
structure Workplace (σ : Type) where
  client : Client σ
  tree : FileTree

namespace Workplace

/-- Let the client act. -/
def ask (action : Attempt (Client σ) α) : Attempt (Workplace σ) α := fun workplace =>
  let (result, client) := action.run workplace.client
  (result, { workplace with client })

end Workplace

/-- Write the manifests of files without failures.  Where one cannot be written, the directories
that were made for it stay. -/
def writeManifests (outputDir : FilePath) :
    List (FilePath × FileInference) → Attempt (Workplace σ) (List FilePath)
  | [] => return []
  | (file, outcome) :: rest => do
    if outcome.ok then
      match Manifest.write (← get).tree outputDir file outcome.queries with
      | .ok (path, tree) => do
        modify fun workplace => { workplace with tree }
        return path :: (← writeManifests outputDir rest)
      | .error failure => do
        modify fun workplace => { workplace with tree := workplace.tree.leftByMaking outputDir }
        throw (.failure failure)
    else writeManifests outputDir rest

/-- Infer query files and write the manifest of every file whose queries all have types. -/
def generate (server : Server σ) (keepGoing : Bool) (queryFiles : List FilePath)
    (outputDir : FilePath) (schemaFiles : List FilePath) :
    Attempt (Workplace σ) (List FilePath × List FileInference) := do
  match Manifest.checkCollisions queryFiles outputDir with
  | .ok () => pure ()
  | .error failure => throw (.failure failure)
  let tree := (← get).tree
  let outcomes ← Workplace.ask (inferFiles server tree keepGoing queryFiles schemaFiles)
  let written ← writeManifests outputDir (queryFiles.zip outcomes)
  return (written, outcomes)

end Generation

end QueryTyping
