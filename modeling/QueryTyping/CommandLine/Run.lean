import QueryTyping.CommandLine.Invocation
import QueryTyping.Generation
import QueryTyping.Glob
import QueryTyping.Settings.File
import QueryTyping.Settings.Pages
import QueryTyping.Terminal.Escape

/-!
# Runs

One run of the program: from a command line, the files and a server to what is
printed, what the files hold after, and the exit status.
-/

namespace QueryTyping.CommandLine

/-- What a run finds around it. -/
structure Surroundings where
  home : FilePath
  environment : Environment := []
  /-- Whether the output goes to a terminal. -/
  isTerminal : Bool := false
  terminalWidth : Nat := 120

/-- The state of a run; texts and events have the latest in front. -/
structure Desk (σ : Type) where
  tree : FileTree
  server : σ
  output : List String := []
  messages : List String := []
  events : List ConnectionEvent := []

/-- What is left of a run. -/
structure Outcome (σ : Type) where
  exitStatus : Nat
  output : String
  /-- The messages on errors, in order. -/
  messages : List String
  desk : Desk σ

/-- What the program is called, with its version. -/
def versionLine : String := "pgquerygen 0.1.0"

/-- What `--help` prints. -/
def helpLines : List String :=
  ["Usage: pgquerygen [OPTIONS] COMMAND [ARGS]...", "",
    "pgquerygen - typed query descriptors inferred from PostgreSQL", "", "Commands:",
    "  config show                Display resolved configuration with source attribution.",
    "  config profiles            List available connection profiles.",
    "  gen -q GLOB [-o DIR]       Generate typed query manifests.",
    "  infer FILES...             Infer and print parameter and column types of query files."]

/-- The exit status of a run that the user interrupts. -/
def interruptedStatus : Nat := 130

/-- A message on an error; it is not for a terminal. -/
def complaint (message : String) : String :=
  String.ofList (Terminal.withoutEscapes ("Error: " ++ message).toList)

/-- The exit status and the messages of a run that ends with an error. -/
def ending (error : Error) : Nat × List String := (error.exitStatus, [complaint error.report])

namespace Desk

variable {σ α : Type}

/-- Print text as it is. -/
def print (text : String) : Attempt (Desk σ) Unit :=
  modify fun desk => { desk with output := text :: desk.output }

/-- Print a line.  Escape sequences are for terminals only. -/
def say (around : Surroundings) (line : String) : Attempt (Desk σ) Unit :=
  let line :=
    if around.isTerminal then line
    else String.ofList (Terminal.withoutEscapes line.toList)
  print (line ++ "\n")

/-- Report an error. -/
def complain (message : String) : Attempt (Desk σ) Unit :=
  modify fun desk => { desk with messages := complaint message :: desk.messages }

/-- Let a client with its own connection act; the connection is closed after. -/
def withClient (config : ResolvedConfig) (action : Attempt (Generation.Workplace σ) α) :
    Attempt (Desk σ) α := fun desk =>
  let start : Generation.Workplace σ := ⟨{ config, server := desk.server }, desk.tree⟩
  let (result, place) := action.run start
  let (_, client) := (Client.close : Attempt (Client σ) Unit).run place.client
  (result,
    { desk with tree := place.tree, server := client.server, events := client.events ++ desk.events })

end Desk

open Desk

variable {σ : Type}

def loadConfig (around : Surroundings) (options : RunOptions) : Attempt (Desk σ) AppConfig := do
  ofExcept ((← get).tree.loadConfig around.home around.environment options.configFile)

def resolveConfig (around : Surroundings) (options : RunOptions) (timeout : Option Double) :
    Attempt (Desk σ) ResolvedConfig := do
  let config ← loadConfig around options
  ofExcept (Settings.resolve config around.environment options.profile options.url
    { options.settings with statementTimeout := timeout })

/-- The files that patterns match. -/
def expand (patterns : List String) : Attempt (Desk σ) (List FilePath) := do
  match (← get).tree.expandAll patterns with
  | .ok files => return files
  | .error refusal => throw (.failure refusal)

/-- Report the failures of queries; the exit status tells whether there are any. -/
def reportFailures (outcomes : List FileInference) : Attempt (Desk σ) Nat := do
  let failures := (outcomes.flatMap (·.failures)).map Failure.inference
  match failures with
  | [] => return 0
  | first :: _ =>
    failures.forM fun failure => complain failure.message
    return first.exitStatus

def showConfig (around : Surroundings) (options : RunOptions) : Attempt (Desk σ) Nat := do
  let resolved ← resolveConfig around options none
  let gen := (← loadConfig around options).gen.resolve {}
  let location := AppConfig.location around.home around.environment options.configFile
  (Settings.page resolved gen location).forM (say around)
  return 0

def listProfiles (around : Surroundings) (options : RunOptions) : Attempt (Desk σ) Nat := do
  let config ← loadConfig around options
  let location := AppConfig.location around.home around.environment options.configFile
  let marked := config.markedProfile around.environment options.profile
  (config.profilesPage marked location).forM (say around)
  return 0

/-- Write the manifests of query files. -/
def generate (server : Server σ) (around : Surroundings) (options : RunOptions) (flags : GenFlags)
    (timeout : Option Double) : Attempt (Desk σ) Nat := do
  let settings := ((← loadConfig around options).gen.resolve flags).settings
  if settings.queryGlobs.isEmpty then
    complain "at least one --query-glob is required"
    return usageStatus
  let queryFiles ← expand settings.queryGlobs
  if queryFiles.isEmpty then
    throw (.failure (.input "No query files match --query-glob"))
  let schemaFiles ← expand settings.schemaGlobs
  let outputDir ←
    match Manifest.directory queryFiles settings.outputDir with
    | .ok directory => pure directory
    | .error refusal => throw (.failure refusal)
  let config ← resolveConfig around options timeout
  let (written, outcomes) ← withClient config
    (Generation.generate server settings.keepGoing queryFiles outputDir schemaFiles)
  say around ("gen: out_dir=" ++ outputDir.text ++ " manifests=" ++ toString written.length)
  written.forM fun path => say around ("  " ++ path.text)
  reportFailures outcomes

/-- Print the types of query files. -/
def infer (server : Server σ) (around : Surroundings) (options : RunOptions)
    (files schemaGlobs : List String) (keepGoing : Bool) (timeout : Option Double) :
    Attempt (Desk σ) Nat := do
  let queryFiles ← expand files
  if queryFiles.isEmpty then
    throw (.failure (.input "No query files match the given paths"))
  let schemaFiles ← expand schemaGlobs
  let config ← resolveConfig around options timeout
  let tree := (← get).tree
  let outcomes ← withClient config (Generation.Workplace.ask
    (Generation.inferFiles server tree keepGoing queryFiles schemaFiles))
  let fallback := (nonempty config.defaultFormat).getD "table"
  let name := ReportFormat.chooseName options.format around.isTerminal fallback
  let format ← ofExcept (ReportFormat.ofName options.report name)
  print (← ofExcept (format.report around.terminalWidth (outcomes.flatMap (·.queries))))
  reportFailures outcomes

/-- Do what a command asks for. -/
def obey (server : Server σ) (around : Surroundings) : Invocation → Attempt (Desk σ) Nat
  | .senseless => return usageStatus
  | .notice .version => do
    say around versionLine
    return 0
  | .notice .help => do
    helpLines.forM (say around)
    return 0
  | .command options .showConfig => showConfig around options
  | .command options .listProfiles => listProfiles around options
  | .command options (.generate flags timeout) => generate server around options flags timeout
  | .command options (.infer files schemaGlobs keepGoing timeout) =>
    infer server around options files schemaGlobs keepGoing timeout

/-- Run a command line.  An error that nothing handles is reported, and its exit status is the
run's. -/
def run (server : Server σ) (around : Surroundings) (tree : FileTree) (start : σ)
    (words : List String) : Outcome σ :=
  let action : Attempt (Desk σ) Nat :=
    tryCatch (obey server around (Invocation.ofWords words)) fun error => do
      complain error.report
      return error.exitStatus
  let (status, desk) := action.run { tree, server := start }
  { exitStatus := match status with
      | .ok status => status
      | .error error => error.exitStatus
    output := String.join desk.output.reverse
    messages := desk.messages.reverse
    desk }

end QueryTyping.CommandLine
