import QueryTyping.CommandLine.Run
import QueryTyping.Connection.Recording
import QueryTyping.Json.Parser

/-!
# The program

The outer layer: it gathers the environment and the files that the command line
and the config file name, lets `CommandLine.run` do the work, and puts what it
left into effect.  The server is one recorded in the file that the environment
variable `PGQUERYGEN_RECORDING` names.
-/

namespace QueryTyping.Main

open CommandLine

/-- The variables of the environment that a run looks at. -/
def variableNames : List String :=
  ["PGHOST", "PGPORT", "PGDATABASE", "PGUSER", "PGPASSWORD", "PGSSLMODE", "PGQUERYGEN_CONFIG",
    "PGQUERYGEN_PROFILE", "PGQUERYGEN_DSN", "COLUMNS", "HOME", "PGQUERYGEN_RECORDING"]

def readEnvironment : IO Environment :=
  variableNames.filterMapM fun name => do
    return (← IO.getEnv name).map fun value => (name, value)

/-- A file's content, if it can be read. -/
def content? (path : String) : IO (Option Text.Bytes) := do
  try
    return some (← IO.FS.readBinFile path).toList
  catch _ =>
    return none

/-- Take a file into a tree, if it can be read. -/
def gather (tree : FileTree) (path : String) : IO FileTree := do
  match ← content? path with
  | none => return tree
  | some content =>
    let path := FilePath.ofText path
    let grown : Except PathProblem FileTree := do
      (← tree.makeDirectories path.parent).write path content
    return grown.toOption.getD tree

/-- The server that a recording describes; without one no connection is made. -/
def readServer (environment : Environment) : IO ScriptedServer := do
  let recorded ← match environment.lookup "PGQUERYGEN_RECORDING" with
    | some path => content? path
    | none => pure none
  let text := (recorded.bind fun content => (Text.decodeUtf8 content).toOption).getD []
  match Json.parse? (String.ofList text) with
  | some document => return { script := ServerScript.ofJson document }
  | none => return { script := { connectError := some "no server is recorded" } }

/-- Write a file of a tree where it belongs, with the directories above it. -/
def putBack (place : Place) (content : Text.Bytes) : IO Unit := do
  IO.FS.createDirAll ("/" ++ "/".intercalate place.dropLast)
  IO.FS.writeBinFile ("/" ++ "/".intercalate place) ⟨content.toArray⟩

/-- Make the directories that a run has made, and write the files that it has written. -/
def putBackAll (before after : FileTree) : IO Unit :=
  after.entries.forM fun (place, entry) =>
    if before.entry? place = some entry then pure ()
    else
      match entry with
      | .directory => IO.FS.createDirAll ("/" ++ "/".intercalate place)
      | .file content => putBack place content
      | .link _ => pure ()

end QueryTyping.Main

open QueryTyping QueryTyping.Main CommandLine in
/-- Run the command line, and let what it wrote and printed take effect. -/
def main (arguments : List String) : IO UInt32 := do
  let environment ← readEnvironment
  let home := FilePath.ofText ((environment.lookup "HOME").getD "/")
  let workingPath := FilePath.ofText (toString (← IO.currentDir))
  let around : CommandLine.Surroundings := {
    home, environment
    isTerminal := ← (← IO.getStdout).isTty
    terminalWidth := (((environment.lookup "COLUMNS").bind String.toNat?).filter (0 < ·)).getD 120 }
  let bare : FileTree := { workingPlace := workingPath.names }
  let start := (bare.makeDirectories workingPath).toOption.getD bare
  let explicit := match Invocation.ofWords arguments with
    | .command options _ => options.configFile
    | _ => none
  let config := AppConfig.location home environment explicit
  let named ← (config.text :: arguments).foldlM gather start
  let gen := ((named.loadConfig home environment explicit).toOption.getD {}).gen
  let tree ← (gen.queryGlobs ++ gen.schemaGlobs).foldlM gather named
  let outcome := CommandLine.run ScriptedServer.server around tree (← readServer environment)
    arguments
  putBackAll tree outcome.desk.tree
  (← IO.getStdout).putStr outcome.output
  let errors ← IO.getStderr
  outcome.messages.forM fun message => errors.putStr (message ++ "\n")
  return outcome.exitStatus.toUInt32
