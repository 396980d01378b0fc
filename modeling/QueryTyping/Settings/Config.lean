import QueryTyping.FilePath
import QueryTyping.Settings.Connection

/-!
# The config file's model

What a config file can say: settings for all connections, named profiles, and
settings for generating manifests.
-/

namespace QueryTyping

open Check

/-- A named set of connection settings.  A connection URL fills in what is not given by name. -/
structure Profile where
  layer : SettingsLayer
  url : Option String
  deriving Inhabited

namespace Profile

/-- The settings of a URL as fields of a table. -/
def urlMembers (fields : UrlFields) : List (String × Datum) :=
  [("host", fields.host.map Datum.text), ("port", fields.port.map fun n => Datum.integer n),
    ("dbname", fields.dbname.map Datum.text), ("user", fields.user.map Datum.text),
    ("password", fields.password.map Datum.text),
    ("sslmode", fields.sslmode.map Datum.text)].filterMap fun (name, value) =>
      value.map fun value => (name, value)

/-- The fields of a table with those of its URL behind them. -/
def withUrl (members : List (String × Datum)) : Except Refusal (List (String × Datum)) :=
  match members.lookup "dsn" with
  | some (.text url) =>
    if url.isEmpty then .ok members
    else
      match ConnectionUrl.fields url with
      | .ok fields => .ok (members ++ (urlMembers fields).filter fun (name, _) =>
          (members.lookup name).isNone)
      | .error (.unforeseen (.badValue message)) => breaks message
      | .error error => .error (.error error)
  | some datum =>
    if datum.isGiven then .error (.error (.unforeseen (.notText datum.kind "decode")))
    else .ok members
  | none => .ok members

def check : Check Profile
  | .table members => do
    let members ← withUrl members
    model "PgProfile" (fun members => do
      let layer ← SettingsLayer.connectionFields members
      let url ← fieldOr members "dsn" none (optional text)
      let timeout ← fieldOr members "statement_timeout" none (optional number)
      nothingElse members (SettingsLayer.connectionNames ++ ["dsn", "statement_timeout"])
      return { layer := { layer with statementTimeout := timeout }, url }) (.table members)
  | datum => model "PgProfile" (fun _ => return default) datum

end Profile

/-- What to generate from, where to, and whether to go on after a failure. -/
structure GenSettings where
  queryGlobs : List String := []
  schemaGlobs : List String := []
  outputDir : Option FilePath := none
  keepGoing : Bool := false
  deriving DecidableEq, Repr, Inhabited

namespace GenSettings

def checkPath : Check FilePath
  | .text value => .ok (FilePath.ofText value)
  | _ => refuse "path_type" "Input is not a valid path for <class 'pathlib.Path'>"

def fields (members : List (String × Datum)) : Fields GenSettings := do
  return {
    queryGlobs := ← fieldOr members "query_globs" [] (list text)
    schemaGlobs := ← fieldOr members "schema_globs" [] (list text)
    outputDir := ← fieldOr members "output_dir" none (optional checkPath)
    keepGoing := ← fieldOr members "keep_going" false truth }

def check : Check GenSettings :=
  model "GenSettings" fun members => do
    let settings ← fields members
    nothingElse members ["query_globs", "schema_globs", "output_dir", "keep_going"]
    return settings

/-- A pattern taken relative to a directory. -/
def anchor (base : FilePath) (pattern : String) : String :=
  let path := FilePath.ofText pattern
  if path.isAbsolute then pattern else (base.join path).text

/-- The settings with relative patterns and the output directory taken relative to a
directory. -/
def anchored (settings : GenSettings) (base : FilePath) : GenSettings :=
  { settings with
    queryGlobs := settings.queryGlobs.map (anchor base)
    schemaGlobs := settings.schemaGlobs.map (anchor base)
    outputDir := settings.outputDir.map base.join }

end GenSettings

/-- A config file. -/
structure AppConfig where
  statementTimeout : Double := builtinTimeout
  defaultFormat : Option String := none
  defaultProfile : Option String := none
  profiles : List (String × Profile) := []
  gen : GenSettings := {}
  deriving Inhabited

def AppConfig.check : Check AppConfig :=
  model "AppConfig" fun members => do
    let config : AppConfig := {
      statementTimeout := ← fieldOr members "statement_timeout" builtinTimeout number
      defaultFormat := ← fieldOr members "default_format" none (optional text)
      defaultProfile := ← fieldOr members "default_profile" none (optional text)
      profiles := ← fieldOr members "profiles" [] (dictionary Profile.check)
      gen := ← fieldOr members "gen" {} GenSettings.check }
    nothingElse members
      ["statement_timeout", "default_format", "default_profile", "profiles", "gen"]
    return config

end QueryTyping
