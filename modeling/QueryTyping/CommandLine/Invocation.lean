import QueryTyping.CommandLine.Options
import QueryTyping.Number.Numeral
import QueryTyping.Report
import QueryTyping.Settings.Resolution

/-!
# Invocations

What a command line asks for.  Options for all commands stand before the
command, and the command's own behind it.  A line that makes no sense asks for
nothing, and a notice, once asked for, is all that is given.
-/

namespace QueryTyping.CommandLine

/-- A text that is shown in place of a run. -/
inductive Notice where
  | version
  | help
  deriving DecidableEq, Repr

/-- The options for all commands, read. -/
structure RunOptions where
  profile : Option String
  url : Option String
  configFile : Option FilePath
  /-- The settings among them. -/
  settings : SettingsLayer
  format : Option String
  report : ReportOptions

inductive Command where
  | showConfig
  | listProfiles
  | generate (flags : GenFlags) (timeout : Option Double)
  | infer (files schemaGlobs : List String) (keepGoing : Bool) (timeout : Option Double)

/-- What a command line asks for. -/
inductive Invocation where
  | notice (notice : Notice)
  | command (options : RunOptions) (command : Command)
  | senseless

/-- The options of a command as they are written. -/
structure Written where
  /-- The first notice that is asked for. -/
  notice : Option Notice := none
  /-- Names with their values, latest first. -/
  values : List (String × String) := []
  /-- The names of options without a value, latest first. -/
  marks : List String := []

namespace Written

/-- The value of an option; the last one counts. -/
def value? (written : Written) (name : String) : Option String := written.values.lookup name

/-- All values of an option in their order. -/
def values? (written : Written) (name : String) : List String :=
  (written.values.filterMap fun (other, value) =>
    if other = name then some value else none).reverse

def has (written : Written) (name : String) : Bool := written.marks.contains name

/-- The value of an option, read; a value that cannot be read makes no sense. -/
def read {α : Type} (written : Written) (name : String) (reading : String → Option α) :
    Option (Option α) :=
  match written.value? name with
  | some value => (reading value).map some
  | none => some none

end Written

/-- An option with a value, kept under its first name. -/
def valueOption (name : String) (others : List String) : CommandOption Written where
  names := name :: others
  effect := .store fun value written => { written with values := (name, value) :: written.values }

/-- An option without a value, kept under its name. -/
def markOption (name : String) : CommandOption Written where
  names := [name]
  effect := .set fun written => { written with marks := name :: written.marks }

def noticeOption (notice : Notice) (names : List String) : CommandOption Written where
  names
  effect := .set fun written => { written with notice := written.notice.or (some notice) }

def helpOption : CommandOption Written := noticeOption .help ["--help"]

def globalOptions : List (CommandOption Written) :=
  [noticeOption .version ["--version", "-V"], markOption "--verbose",
    valueOption "--profile" ["-P"], valueOption "--host" ["-H"], valueOption "--port" ["-p"],
    valueOption "--database" ["-d"], valueOption "--user" ["-U"],
    valueOption "--password" ["-W"], valueOption "--dsn" [], valueOption "--config" [],
    valueOption "--schema" ["-s"], valueOption "--format" ["-f"], markOption "--compact",
    valueOption "--width" [], markOption "--no-header", helpOption]

def generateOptions : List (CommandOption Written) :=
  [valueOption "--query-glob" ["-q"], valueOption "--schema-glob" [],
    valueOption "--output-dir" ["-o"], markOption "--keep-going", markOption "--stop-on-error",
    valueOption "--timeout" ["-t"], helpOption]

def inferOptions : List (CommandOption Written) :=
  [valueOption "--schema-glob" [], markOption "--keep-going", valueOption "--timeout" ["-t"],
    helpOption]

/-- Read the words behind a command; a notice goes before everything but unknown options. -/
def behindCommand (options : List (CommandOption Written)) (words : List String)
    (meaning : Written → List String → Option Invocation) : Invocation :=
  match CommandOption.read options true words {} with
  | none => .senseless
  | some (written, others) =>
    match written.notice with
    | some asked => .notice asked
    | none => (meaning written others).getD .senseless

/-- The options for all commands. -/
def RunOptions.ofWritten (written : Written) : Option RunOptions := do
  let port ← written.read "--port" Numeral.anyInteger?
  let width ← written.read "--width" Numeral.anyInteger?
  let format ← written.read "--format" fun name =>
    if ReportFormat.names.contains name then some name else none
  return {
    profile := written.value? "--profile"
    url := written.value? "--dsn"
    configFile := (written.value? "--config").map FilePath.ofText
    settings := {
      host := written.value? "--host", port, dbname := written.value? "--database"
      user := written.value? "--user", password := written.value? "--password"
      searchPath := (written.value? "--schema").map SearchPath.ofText }
    format
    report := {
      header := !written.has "--no-header", compact := written.has "--compact"
      width := width.getD 40 } }

namespace Invocation

/-- The command that takes no words and no options but the one for help. -/
def plain (options : RunOptions) (command : Command) (words : List String) : Invocation :=
  behindCommand [helpOption] words fun _ others =>
    if others.isEmpty then some (.command options command) else none

def ofGenerateWords (options : RunOptions) (words : List String) : Invocation :=
  behindCommand generateOptions words fun written others => do
    let timeout ← written.read "--timeout" Numeral.anyDouble?
    let flags : GenFlags := {
      queryGlobs := written.values? "--query-glob"
      schemaGlobs := written.values? "--schema-glob"
      outputDir := (written.value? "--output-dir").map FilePath.ofText
      keepGoing := written.marks.head?.map fun last => last = "--keep-going" }
    if others.isEmpty then some (.command options (.generate flags timeout)) else none

def ofInferWords (options : RunOptions) (words : List String) : Invocation :=
  behindCommand inferOptions words fun written files => do
    let timeout ← written.read "--timeout" Numeral.anyDouble?
    let command : Command :=
      .infer files (written.values? "--schema-glob") (written.has "--keep-going") timeout
    if files.isEmpty then none else some (.command options command)

/-- The words behind `config`. -/
def ofConfigWords (options : RunOptions) (words : List String) : Invocation :=
  match CommandOption.read [helpOption] false words {} with
  | none => .senseless
  | some (written, others) =>
    if written.notice.isSome then .notice .help
    else
      match others with
      | [] => .notice .help
      | "show" :: rest => plain options .showConfig rest
      | "profiles" :: rest => plain options .listProfiles rest
      | _ => .senseless

/-- What a command line asks for. -/
def ofWords (words : List String) : Invocation :=
  match CommandOption.read globalOptions false words {} with
  | none => .senseless
  | some (written, others) =>
    match written.notice, RunOptions.ofWritten written, others with
    | some asked, _, _ => .notice asked
    | none, some options, "config" :: rest => ofConfigWords options rest
    | none, some options, "gen" :: rest => ofGenerateWords options rest
    | none, some options, "infer" :: rest => ofInferWords options rest
    | none, _, _ => .senseless

end Invocation

end QueryTyping.CommandLine
