import QueryTyping.Settings.Resolution

/-!
# Settings on the screen

The pages that show what settings are in effect, and which profiles there are.
No password is on them.
-/

namespace QueryTyping

namespace Settings

/-- A list for the screen. -/
def listed (empty : String) (items : List String) : String :=
  let text := ", ".intercalate items
  if text.isEmpty then empty else text

/-- A line with a setting and where it comes from. -/
def line (sources : List (String × String)) (label name value : String) : String :=
  "  " ++ label ++ ": " ++ value ++ " (" ++ (sources.lookup name).getD "default" ++ ")"

def seconds (timeout : Double) : String := timeout.text ++ "s"

def connectionLines (config : ResolvedConfig) : List String :=
  let shown := line config.sources
  let settings := config.connection
  [shown "host" "host" settings.host,
    shown "port" "port" (toString settings.port),
    shown "database" "dbname" settings.dbname,
    shown "user" "user" ((nonempty settings.user).getD "not set"),
    shown "password" "password" config.shownPassword,
    shown "sslmode" "sslmode" settings.sslmode,
    shown "search path" "search_path" config.shownSearchPath,
    shown "statement timeout" "statement_timeout" (seconds config.statementTimeout)]

def generationLines (gen : ResolvedGenSettings) : List String :=
  let shown := line gen.sources
  let settings := gen.settings
  [shown "query globs" "query_globs" (listed "none" settings.queryGlobs),
    shown "schema globs" "schema_globs" (listed "none" settings.schemaGlobs),
    shown "output dir" "output_dir"
      ((settings.outputDir.map FilePath.text).getD "next to query files"),
    shown "keep going" "keep_going" (if settings.keepGoing then "yes" else "no")]

/-- The page of the settings in effect. -/
def page (config : ResolvedConfig) (gen : ResolvedGenSettings) (location : FilePath) :
    List String :=
  ["Connection Settings (resolved):"] ++ connectionLines config ++ ["", "Gen Defaults:"] ++
    generationLines gen ++
    ["", "Active Profile: " ++ (nonempty config.activeProfile).getD "none",
      "Config File: " ++ location.text]

end Settings

namespace Profile

/-- What the page of profiles shows of one. -/
def lines (profile : Profile) : List String :=
  let settings := profile.layer.connection
  ["host: " ++ settings.host, "port: " ++ toString settings.port,
    "database: " ++ settings.dbname] ++
    ((nonempty settings.user).map ("user: " ++ ·)).toList ++
    (if settings.searchPath.isEmpty then []
      else ["search path: " ++ ", ".intercalate settings.searchPath]) ++
    (profile.layer.statementTimeout.map fun timeout =>
      "statement timeout: " ++ Settings.seconds timeout).toList

end Profile

namespace AppConfig

/-- The page of profiles, by name, with a star before the active one. -/
def profilesPage (config : AppConfig) (active : Option String) (location : FilePath) :
    List String :=
  if config.profiles.isEmpty then
    ["No profiles configured.", "Add profiles to: " ++ location.text]
  else
    let sorted := config.profiles.mergeSort fun a b => a.1 ≤ b.1
    ["Available Profiles:", ""] ++ sorted.flatMap fun (name, profile) =>
      (if active = some name then "* " ++ name ++ " (active)" else "  " ++ name) ::
        profile.lines.map ("      " ++ ·) ++ [""]

/-- The profile that the page marks: the one asked for, the environment's or the config file's. -/
def markedProfile (config : AppConfig) (environment : Environment) (asked : Option String) :
    Option String :=
  (nonempty asked).or ((nonempty (environment.lookup "PGQUERYGEN_PROFILE")).or
    config.defaultProfile)

end AppConfig

end QueryTyping
