import QueryTyping.Settings.Config

/-!
# Resolving settings

Settings come in layers: built-in ones, the config file, its active profile, the
environment, the URL in the environment, the URL on the command line, and the
flags.  A setting has the value of the highest layer that gives it, and keeps
the label of that layer.
-/

namespace QueryTyping

open Check

/-- The settings that have a source. -/
inductive SettingName where
  | host
  | port
  | dbname
  | user
  | password
  | sslmode
  | searchPath
  | statementTimeout
  | defaultFormat
  deriving DecidableEq, Repr

namespace SettingName

def all : List SettingName :=
  [host, port, dbname, user, password, sslmode, searchPath, statementTimeout, defaultFormat]

/-- The name that a config file uses. -/
def text : SettingName → String
  | host => "host"
  | port => "port"
  | dbname => "dbname"
  | user => "user"
  | password => "password"
  | sslmode => "sslmode"
  | searchPath => "search_path"
  | statementTimeout => "statement_timeout"
  | defaultFormat => "default_format"

/-- The flag that gives the setting. -/
def flag : SettingName → String
  | dbname => "--database"
  | searchPath => "--schema"
  | statementTimeout => "--timeout"
  | name => "--" ++ name.text

/-- The variable of the environment that gives the setting. -/
def environmentName? : SettingName → Option String
  | host => some "PGHOST"
  | port => some "PGPORT"
  | dbname => some "PGDATABASE"
  | user => some "PGUSER"
  | password => some "PGPASSWORD"
  | sslmode => some "PGSSLMODE"
  | _ => none

/-- Whether a layer gives the setting. -/
def isGiven (layer : SettingsLayer) : SettingName → Bool
  | host => layer.host.isSome
  | port => layer.port.isSome
  | dbname => layer.dbname.isSome
  | user => layer.user.isSome
  | password => layer.password.isSome
  | sslmode => layer.sslmode.isSome
  | searchPath => layer.searchPath.isSome
  | statementTimeout => layer.statementTimeout.isSome
  | defaultFormat => layer.defaultFormat.isSome

end SettingName

/-- Where a layer comes from. -/
inductive Origin where
  | builtin
  | config
  | profile (name : String)
  | environment
  | environmentUrl
  | url
  | flags
  deriving DecidableEq, Repr

/-- The label of a setting that comes from there. -/
def Origin.label (name : SettingName) : Origin → String
  | .builtin => "default"
  | .config => "config"
  | .profile p => "profile: " ++ p
  | .environment => "env: " ++ name.environmentName?.getD ""
  | .environmentUrl => "env: PGQUERYGEN_DSN"
  | .url => "dsn"
  | .flags => "cli: " ++ name.flag

/-- Layers from the lowest to the highest. -/
abbrev Layers := List (Origin × SettingsLayer)

namespace Layers

/-- What the highest layer gives that gives anything. -/
def pick {α : Type} (layers : Layers) (setting : SettingsLayer → Option α) : Option α :=
  layers.reverse.findSome? fun layer => setting layer.2

/-- All layers as one. -/
def merged (layers : Layers) : SettingsLayer :=
  { host := layers.pick (·.host), port := layers.pick (·.port), dbname := layers.pick (·.dbname)
    user := layers.pick (·.user), password := layers.pick (·.password)
    sslmode := layers.pick (·.sslmode), searchPath := layers.pick (·.searchPath)
    statementTimeout := layers.pick (·.statementTimeout)
    defaultFormat := layers.pick (·.defaultFormat) }

/-- The label of the layer that gives a setting. -/
def source? (layers : Layers) (name : SettingName) : Option String :=
  (layers.reverse.find? fun layer => name.isGiven layer.2).map fun layer => layer.1.label name

/-- The labels of all settings that some layer gives. -/
def sources (layers : Layers) : List (String × String) :=
  SettingName.all.filterMap fun name => (layers.source? name).map fun label => (name.text, label)

end Layers

/-- The settings in effect. -/
structure ResolvedConfig where
  connection : ConnectionSettings := {}
  statementTimeout : Double := builtinTimeout
  defaultFormat : Option String := none
  activeProfile : Option String := none
  /-- Where each setting comes from. -/
  sources : List (String × String) := []
  deriving Inhabited

namespace ResolvedConfig

/-- What is shown of the password: nothing but whether there is one. -/
def shownPassword (config : ResolvedConfig) : String :=
  if config.connection.password.isSome then "***" else "not set"

def shownSearchPath (config : ResolvedConfig) : String :=
  if config.connection.searchPath.isEmpty then "not set"
  else ", ".intercalate config.connection.searchPath

end ResolvedConfig

/-- Resolved settings as data. -/
def ResolvedConfig.check : Check ResolvedConfig :=
  model "ResolvedConfig" fun members => do
    let layer ← SettingsLayer.connectionFields members
    let timeout ← fieldOr members "statement_timeout" builtinTimeout number
    let format ← fieldOr members "default_format" none (optional text)
    let active ← fieldOr members "active_profile" none (optional text)
    let sources ← fieldOr members "sources" [] (dictionary text)
    nothingElse members (SettingsLayer.connectionNames ++
      ["statement_timeout", "default_format", "active_profile", "sources"])
    return {
      connection := layer.connection, statementTimeout := timeout, defaultFormat := format
      activeProfile := active, sources }

/-- The variables of the environment. -/
abbrev Environment := List (String × String)

/-- A value that counts only if it is not empty. -/
def nonempty (value : Option String) : Option String := value.filter (!·.isEmpty)

/-- Where the config file is: where the command line says, where the environment says, or in the
home directory. -/
def AppConfig.location (home : FilePath) (environment : Environment) (explicit : Option FilePath) :
    FilePath :=
  explicit.getD <|
    match nonempty (environment.lookup "PGQUERYGEN_CONFIG") with
    | some path => FilePath.ofText path
    | none => { home with names := home.names ++ [".config", "pgquerygen", "config.toml"] }

namespace Settings

/-- The built-in settings. -/
def builtin : SettingsLayer :=
  let settings : ConnectionSettings := {}
  { host := some settings.host, port := some settings.port, dbname := some settings.dbname
    sslmode := some settings.sslmode, searchPath := some settings.searchPath
    statementTimeout := some builtinTimeout }

/-- What a config file says for all connections.  The built-in timeout counts as not given. -/
def ofConfig (config : AppConfig) : SettingsLayer :=
  { statementTimeout :=
      if config.statementTimeout.same builtinTimeout then none else some config.statementTimeout
    defaultFormat := config.defaultFormat }

/-- What the environment says. -/
def ofEnvironment (environment : Environment) : Except Error SettingsLayer := do
  let port ← match environment.lookup "PGPORT" with
    | none => pure none
    | some value =>
      match Numeral.anyInteger? value with
      | some port => pure (some port)
      | none => throw (.failure (.config
          ("Invalid PGPORT value: '" ++ value ++ "'. Must be an integer") none))
  return {
    host := environment.lookup "PGHOST", port, dbname := environment.lookup "PGDATABASE"
    user := environment.lookup "PGUSER", password := environment.lookup "PGPASSWORD"
    sslmode := environment.lookup "PGSSLMODE" }

/-- The profile in effect: the one asked for, the environment's or the config file's. -/
def activeProfile (config : AppConfig) (environment : Environment) (profile : Option String) :
    Except Error (Option String) :=
  let asked := (nonempty profile).orElse fun _ => nonempty (environment.lookup "PGQUERYGEN_PROFILE")
  let active := asked.orElse fun _ => config.defaultProfile
  match nonempty active with
  | some name =>
    if (config.profiles.lookup name).isSome then .ok active
    else
      let names := (config.profiles.map (·.1)).mergeSort fun a b => a ≤ b
      let available := if names.isEmpty then "none" else ", ".intercalate names
      .error (.failure (.config
        ("Unknown profile: '" ++ name ++ "'. Available profiles: " ++ available) none))
  | none => .ok active

/-- The layer of a URL, unless it is empty. -/
def ofUrl (origin : Origin) (url : Option String) : Except Error Layers :=
  match nonempty url with
  | some url => do return [(origin, (← ConnectionUrl.fields url).layer)]
  | none => .ok []

/-- The layers below the flags. -/
def layers (config : AppConfig) (environment : Environment) (active url : Option String) :
    Except Error Layers := do
  let profile : Layers :=
    match nonempty active with
    | some name => ((config.profiles.lookup name).map fun p => (.profile name, p.layer)).toList
    | none => []
  let given ← ofEnvironment environment
  let environmentUrl ← ofUrl .environmentUrl (environment.lookup "PGQUERYGEN_DSN")
  let givenUrl ← ofUrl .url url
  return [(.builtin, builtin), (.config, ofConfig config)] ++ profile ++
    [(.environment, given)] ++ environmentUrl ++ givenUrl

/-- The rules that merged settings have to keep. -/
def violations (settings : ConnectionSettings) : List Violation :=
  let broken {α : Type} (name : String) (result : Except Refusal α) : List Violation :=
    match under name result with
    | .error (.violations items) => items
    | _ => []
  broken "port" (SettingsLayer.checkPort (.integer settings.port)) ++
    broken "sslmode" (SettingsLayer.checkSslMode (.text settings.sslmode))

/-- The settings in effect for one connection. -/
def resolve (config : AppConfig) (environment : Environment) (profile url : Option String)
    (flags : SettingsLayer) : Except Error ResolvedConfig := do
  let active ← activeProfile config environment profile
  let lower ← layers config environment active url
  let all : Layers := lower ++ [(.flags, flags)]
  let merged := all.merged
  match violations merged.connection with
  | [] => return {
      connection := merged.connection
      statementTimeout := merged.statementTimeout.getD builtinTimeout
      defaultFormat := merged.defaultFormat
      activeProfile := active
      sources := all.sources }
  | items => throw (.failure (.config "Invalid connection settings"
      (some ⟨"ResolvedConfig", items⟩)))

end Settings

/-- Settings for generating, with where each comes from. -/
structure ResolvedGenSettings where
  settings : GenSettings
  sources : List (String × String)
  deriving Repr

/-- The flags of the command line that generates. -/
structure GenFlags where
  queryGlobs : List String := []
  schemaGlobs : List String := []
  outputDir : Option FilePath := none
  keepGoing : Option Bool := none

namespace GenSettings

/-- A setting and its label: the flag's, the config file's if it differs from the built-in one,
or the built-in one. -/
def choose {α : Type} [DecidableEq α] (flagName : String) (flag : Option α)
    (configured builtin : α) : α × String :=
  match flag with
  | some value => (value, "cli: " ++ flagName)
  | none => if configured = builtin then (builtin, "default") else (configured, "config")

/-- The settings in effect: a flag replaces what the config file says. -/
def resolve (config : GenSettings) (flags : GenFlags) : ResolvedGenSettings :=
  let given (globs : List String) : Option (List String) :=
    if globs.isEmpty then none else some globs
  let (queryGlobs, querySource) :=
    choose "--query-glob" (given flags.queryGlobs) config.queryGlobs []
  let (schemaGlobs, schemaSource) :=
    choose "--schema-glob" (given flags.schemaGlobs) config.schemaGlobs []
  let (outputDir, outputSource) :=
    choose "--output-dir" (flags.outputDir.map some) config.outputDir none
  let (keepGoing, keepSource) := choose "--keep-going" flags.keepGoing config.keepGoing false
  { settings := { queryGlobs, schemaGlobs, outputDir, keepGoing }
    sources := [("query_globs", querySource), ("schema_globs", schemaSource)] ++
      (if outputDir.isSome then [("output_dir", outputSource)] else []) ++
      [("keep_going", keepSource)] }

end GenSettings

end QueryTyping
