import QueryTyping.Proofs.GenerateStatus
import QueryTyping.Proofs.MaskedSettings

/-!
# Passwords do not show

Two runs that show the settings in effect or the profiles, and differ in nothing
but the passwords of the config file, the environment and the flags, print the
same when both succeed (`CommandLine.passwords_do_not_show`).  What each run
prints is a page of what it loads and resolves, and that page depends on neither
password.
-/

namespace QueryTyping

open Check

/-- The file at the path writes this table. -/
def FileTree.Writes (tree : FileTree) (path : FilePath) (members : List (String × Datum)) : Prop :=
  tree.holds path = true ∧ ∃ content document, tree.readBytes path = .ok content ∧
    textOfBytes content = .ok document ∧ Toml.parse? (String.ofList document) = some members

/-- Neither tree has a config file there, or both have one and only passwords differ in them. -/
def FileTree.SameConfig (tree other : FileTree) (path : FilePath) : Prop :=
  (tree.holds path = false ∧ other.holds path = false) ∨
    ∃ members others, tree.Writes path members ∧ other.Writes path others ∧
      Entrywise AppConfig.SameField members others

namespace FileTree

theorem Writes.unique {tree : FileTree} {path : FilePath} {members others : List (String × Datum)}
    (writes : tree.Writes path members) (writesOther : tree.Writes path others) :
    members = others := by
  obtain ⟨-, content, document, read, decoded, parsed⟩ := writes
  obtain ⟨-, content', document', read', decoded', parsed'⟩ := writesOther
  cases read.symm.trans read'
  cases decoded.symm.trans decoded'
  exact Option.some.inj (parsed.symm.trans parsed')

/-- The config is built in without a file, and else what the file writes. -/
theorem loadConfig_eq_ok_iff {tree : FileTree} {home : FilePath} {environment : Environment}
    {explicit : Option FilePath} {config : AppConfig} :
    let path := AppConfig.location home environment explicit
    tree.loadConfig home environment explicit = .ok config ↔
      (tree.holds path = false ∧ config = {}) ∨
        ∃ members written, tree.Writes path members ∧
          AppConfig.check (.table members) = .ok written ∧
          config = { written with gen := written.gen.anchored path.parent } := by
  intro path
  constructor
  · intro loaded
    simp only [loadConfig] at loaded
    split at loaded
    next missing =>
      cases loaded
      exact .inl ⟨by simpa using missing, rfl⟩
    next present =>
      obtain ⟨content, read, loaded⟩ := (except_bind_eq_ok_iff _ _ _).mp loaded
      obtain ⟨document, decoded, loaded⟩ := (except_bind_eq_ok_iff _ _ _).mp loaded
      obtain ⟨members, written, parsed, valid, same⟩ := AppConfig.ofDocument_eq_ok_iff.mp loaded
      exact .inr ⟨members, written, ⟨by simpa using present, content, document, read, decoded,
        parsed⟩, valid, same⟩
  · rintro (⟨missing, rfl⟩ | ⟨members, written, ⟨present, content, document, read, decoded,
      parsed⟩, valid, same⟩)
    · exact if_pos (by rw [missing]; rfl)
    · refine (if_neg (by rw [present]; decide)).trans ?_
      refine (except_bind_eq_ok_iff _ _ _).mpr ⟨content, read, ?_⟩
      refine (except_bind_eq_ok_iff _ _ _).mpr ⟨document, decoded, ?_⟩
      exact AppConfig.ofDocument_eq_ok_iff.mpr ⟨members, written, parsed, valid, same⟩

theorem SameConfig.masked_eq {tree other : FileTree} {home : FilePath} {environment : Environment}
    {explicit : Option FilePath} {config another : AppConfig}
    (same : tree.SameConfig other (AppConfig.location home environment explicit))
    (loaded : tree.loadConfig home environment explicit = .ok config)
    (loadedOther : other.loadConfig home environment explicit = .ok another) :
    config.masked = another.masked := by
  have found := loadConfig_eq_ok_iff.mp loaded
  have foundOther := loadConfig_eq_ok_iff.mp loadedOther
  obtain ⟨absent, absentOther⟩ | ⟨members, others, writes, writesOther, fields⟩ := same
  · obtain ⟨-, rfl⟩ | ⟨-, -, ⟨present, -⟩, -⟩ := found
    · obtain ⟨-, rfl⟩ | ⟨-, -, ⟨present, -⟩, -⟩ := foundOther
      · rfl
      · exact absurd present (by simp [absentOther])
    · exact absurd present (by simp [absent])
  · obtain ⟨absent, -⟩ | ⟨_, written, writes', valid, rfl⟩ := found
    · exact absurd writes.1 (by simp [absent])
    · obtain ⟨absent, -⟩ | ⟨_, writtenOther, writesOther', validOther, rfl⟩ := foundOther
      · exact absurd writesOther.1 (by simp [absent])
      · cases writes.unique writes'
        cases writesOther.unique writesOther'
        have masked := AppConfig.masked_eq_of_fields fields valid validOther
        exact congrArg (fun config : AppConfig => { config with
          gen := config.gen.anchored
            (AppConfig.location home environment explicit).parent }) masked

/-- The environment only tells where the config file is. -/
theorem loadConfig_of_location {tree : FileTree} {home : FilePath}
    {environment other : Environment} {explicit : Option FilePath}
    (location : AppConfig.location home environment explicit =
      AppConfig.location home other explicit) :
    tree.loadConfig home environment explicit = tree.loadConfig home other explicit := by
  unfold FileTree.loadConfig
  rw [location]

end FileTree

namespace CommandLine

open Attempt

/-- Two runs find the same around them, but for the passwords in the environment. -/
structure Surroundings.Same (around other : Surroundings) : Prop where
  home : around.home = other.home
  environment : Environment.Same around.environment other.environment
  isTerminal : around.isTerminal = other.isTerminal

/-- The same options are written with the same values, but for passwords. -/
structure Written.Same (written other : Written) : Prop where
  notice : written.notice = other.notice
  values : Entrywise (SameText "--password" "--dsn") written.values other.values
  marks : written.marks = other.marks

/-- Two command lines are the same, but for passwords among the options for all commands. -/
def SameWords (words others : List String) : Prop :=
  ∃ written another rest,
    CommandOption.read globalOptions false words {} = some (written, rest) ∧
    CommandOption.read globalOptions false others {} = some (another, rest) ∧
    written.Same another

/-- The options say the same of settings, but for passwords. -/
structure RunOptions.Same (options other : RunOptions) : Prop where
  profile : options.profile = other.profile
  url : Option.Rel ConnectionUrl.Alike options.url other.url
  configFile : options.configFile = other.configFile
  settings : options.settings.masked = other.settings.masked

theorem RunOptions.ofWritten_same {written other : Written} (same : written.Same other)
    {options : RunOptions} (made : RunOptions.ofWritten written = some options) :
    ∃ another, RunOptions.ofWritten other = some another ∧ options.Same another := by
  have value (name : String) (noPassword : name ≠ "--password") (noUrl : name ≠ "--dsn") :
      written.value? name = other.value? name := SameText.lookup_eq same.values noPassword noUrl
  have read {α : Type} (name : String) (noPassword : name ≠ "--password") (noUrl : name ≠ "--dsn")
      (reading : String → Option α) : written.read name reading = other.read name reading := by
    unfold Written.read
    rw [value name noPassword noUrl]
  obtain ⟨port, portRead, made⟩ := Option.bind_eq_some_iff.mp made
  obtain ⟨width, widthRead, made⟩ := Option.bind_eq_some_iff.mp made
  obtain ⟨format, formatRead, made⟩ := Option.bind_eq_some_iff.mp made
  cases made
  rw [read _ (by decide) (by decide)] at portRead widthRead formatRead
  refine ⟨_, Option.bind_eq_some_iff.mpr ⟨port, portRead, Option.bind_eq_some_iff.mpr
    ⟨width, widthRead, Option.bind_eq_some_iff.mpr ⟨format, formatRead, rfl⟩⟩⟩, ?_⟩
  have url := SameText.lookup_url same.values (by decide)
  constructor
  · exact value _ (by decide) (by decide)
  · exact url
  · exact congrArg (Option.map FilePath.ofText) (value _ (by decide) (by decide))
  · have host := value "--host" (by decide) (by decide)
    have dbname := value "--database" (by decide) (by decide)
    have user := value "--user" (by decide) (by decide)
    have schema := value "--schema" (by decide) (by decide)
    have password : (written.value? "--password").map (fun _ => "") =
        (other.value? "--password").map fun _ => "" := SameText.map_lookup_password same.values
    simp only [SettingsLayer.masked, host, dbname, user, schema, password]

theorem behindCommand_eq_command {opts : List (CommandOption Written)} {words : List String}
    {meaning : Written → List String → Option Invocation} {options : RunOptions} {command : Command}
    (asked : behindCommand opts words meaning = .command options command) :
    ∃ written others, CommandOption.read opts true words {} = some (written, others) ∧
      written.notice = none ∧ meaning written others = some (.command options command) := by
  unfold behindCommand at asked
  split at asked
  · cases asked
  next written others read =>
    split at asked
    · cases asked
    next unnoticed =>
      cases given : meaning written others with
      | none => simp [given] at asked
      | some invocation =>
        rw [given] at asked
        exact ⟨written, others, read, unnoticed, given.trans (congrArg some asked)⟩

/-- Which command stands behind `config` does not depend on the options before it. -/
theorem ofConfigWords_eq_command {options found : RunOptions} {words : List String}
    {command : Command} (asked : Invocation.ofConfigWords options words = .command found command) :
    found = options ∧ ∀ other, Invocation.ofConfigWords other words = .command other command := by
  have plain (command' : Command) (rest : List String)
      (asked : Invocation.plain options command' rest = .command found command) :
      found = options ∧ ∀ other, Invocation.plain other command' rest = .command other command := by
    obtain ⟨written, others, read, unnoticed, meant⟩ := behindCommand_eq_command asked
    split at meant
    next alone =>
      cases meant
      refine ⟨rfl, fun other => ?_⟩
      simp [Invocation.plain, behindCommand, read, unnoticed, alone]
    · cases meant
  unfold Invocation.ofConfigWords at asked ⊢
  rcases read : CommandOption.read [helpOption] false words {} with _ | ⟨written, others⟩
  · simp [read] at asked
  · simp only [read] at asked ⊢
    split at asked
    · cases asked
    next unnoticed =>
      simp only [if_neg unnoticed]
      split at asked
      · cases asked
      · exact plain .showConfig _ asked
      · exact plain .listProfiles _ asked
      · cases asked

theorem ofGenerateWords_eq_command {options found : RunOptions} {words : List String}
    {command : Command}
    (asked : Invocation.ofGenerateWords options words = .command found command) :
    ∃ flags timeout, command = .generate flags timeout := by
  obtain ⟨written, others, -, -, meant⟩ := behindCommand_eq_command asked
  obtain ⟨timeout, -, meant⟩ := Option.bind_eq_some_iff.mp meant
  dsimp only at meant
  split at meant
  · cases meant
    exact ⟨_, timeout, rfl⟩
  · cases meant

theorem ofInferWords_eq_command {options found : RunOptions} {words : List String}
    {command : Command} (asked : Invocation.ofInferWords options words = .command found command) :
    ∃ files schemaGlobs keepGoing timeout,
      command = .infer files schemaGlobs keepGoing timeout := by
  obtain ⟨written, others, -, -, meant⟩ := behindCommand_eq_command asked
  obtain ⟨timeout, -, meant⟩ := Option.bind_eq_some_iff.mp meant
  dsimp only at meant
  split at meant
  · cases meant
  · cases meant
    exact ⟨others, _, _, timeout, rfl⟩

/-- Such command lines ask for the same, but for passwords. -/
theorem ofWords_same {words others : List String} {options : RunOptions} {command : Command}
    (shows : command = .showConfig ∨ command = .listProfiles)
    (same : SameWords words others)
    (asked : Invocation.ofWords words = .command options command) :
    ∃ another, Invocation.ofWords others = .command another command ∧ options.Same another := by
  obtain ⟨written, another, rest, read, readOther, same⟩ := same
  unfold Invocation.ofWords at asked ⊢
  simp only [read] at asked
  simp only [readOther, ← same.notice]
  split at asked
  · cases asked
  next found unnoticed made =>
    obtain ⟨foundOther, madeOther, sameOptions⟩ := RunOptions.ofWritten_same same made
    obtain ⟨rfl, anyway⟩ := ofConfigWords_eq_command asked
    refine ⟨foundOther, ?_, sameOptions⟩
    simp only [unnoticed, madeOther]
    exact anyway foundOther
  next found unnoticed made =>
    obtain ⟨flags, timeout, rfl⟩ := ofGenerateWords_eq_command asked
    simp at shows
  next found unnoticed made =>
    obtain ⟨files, schemaGlobs, keepGoing, timeout, rfl⟩ := ofInferWords_eq_command asked
    simp at shows
  · cases asked

/-- The page of the settings in effect. -/
def settingsPage (around : Surroundings) (options : RunOptions) (tree : FileTree) :
    Except Error (List String) := do
  let config ← tree.loadConfig around.home around.environment options.configFile
  let resolved ← Settings.resolve config around.environment options.profile options.url
    { options.settings with statementTimeout := none }
  return Settings.page resolved (config.gen.resolve {})
    (AppConfig.location around.home around.environment options.configFile)

/-- The page of profiles. -/
def profilesPage (around : Surroundings) (options : RunOptions) (tree : FileTree) :
    Except Error (List String) := do
  let config ← tree.loadConfig around.home around.environment options.configFile
  return config.profilesPage (config.markedProfile around.environment options.profile)
    (AppConfig.location around.home around.environment options.configFile)

/-- What a line is on the output. -/
def shownLine (around : Surroundings) (line : String) : String :=
  (if around.isTerminal then line else String.ofList (Terminal.withoutEscapes line.toList)) ++ "\n"

section Printing

variable {σ : Type} (around : Surroundings) (options : RunOptions)

theorem run_say_all (lines : List String) (desk : Desk σ) :
    (lines.forM (Desk.say around)).run desk =
      (.ok (), { desk with output := (lines.map (shownLine around)).reverse ++ desk.output }) := by
  induction lines generalizing desk with
  | nil => rfl
  | cons line lines ih =>
    have said : (Desk.say around line).run desk =
        (.ok (), { desk with output := shownLine around line :: desk.output }) := rfl
    have unrolled : (line :: lines).forM (Desk.say around) =
        (Desk.say around line : Attempt (Desk σ) Unit) >>= fun _ => lines.forM (Desk.say around) :=
      rfl
    rw [unrolled, run_bind, said]
    dsimp only
    rw [ih]
    simp

/-- How a command ends that has nothing to do but show a page. -/
def Desk.afterPage (desk : Desk σ) : Except Error (List String) → Except Error Nat × Desk σ
  | .ok lines =>
    (.ok 0, { desk with output := (lines.map (shownLine around)).reverse ++ desk.output })
  | .error error => (.error error, desk)

theorem run_listProfiles (desk : Desk σ) :
    (listProfiles around options).run desk =
      desk.afterPage around (profilesPage around options desk.tree) := by
  unfold listProfiles profilesPage
  rw [run_bind, run_loadConfig]
  rcases desk.tree.loadConfig around.home around.environment options.configFile with error | config
  · rfl
  · dsimp only
    rw [run_bind, run_say_all]
    rfl

theorem run_showConfig (desk : Desk σ) :
    (showConfig around options).run desk =
      desk.afterPage around (settingsPage around options desk.tree) := by
  unfold showConfig
  rcases loaded : desk.tree.loadConfig around.home around.environment options.configFile with
    error | config
  · have failed : (resolveConfig around options none).run desk = (.error error, desk) := by
      unfold resolveConfig
      rw [run_bind, run_loadConfig, loaded]
    unfold settingsPage
    rw [run_bind, failed, loaded]
    rfl
  · have page : settingsPage around options desk.tree =
        (Settings.resolve config around.environment options.profile options.url
          { options.settings with statementTimeout := none }).map fun resolved =>
            Settings.page resolved (config.gen.resolve {})
              (AppConfig.location around.home around.environment options.configFile) := by
      unfold settingsPage
      rw [loaded]
      rfl
    rw [run_bind, run_resolveConfig around options none loaded, page]
    rcases Settings.resolve config around.environment options.profile options.url
      { options.settings with statementTimeout := none } with error | resolved
    · rfl
    · dsimp only
      rw [run_bind, run_loadConfig, loaded]
      dsimp only
      rw [run_bind, run_say_all]
      rfl

/-- A page is printed line by line. -/
def printed (lines : List String) : String := String.join (lines.map (shownLine around))

theorem exitStatus_ne_zero (error : Error) : error.exitStatus ≠ 0 := by
  cases error with
  | failure failure => cases failure <;> exact nofun
  | unforeseen => exact nofun

/-- The exit status of a run that has nothing to do but show a page. -/
def pageStatus : Except Error (List String) → Nat
  | .ok _ => 0
  | .error error => error.exitStatus

theorem pageStatus_eq_zero_iff {page : Except Error (List String)} :
    pageStatus page = 0 ↔ ∃ lines, page = .ok lines := by
  cases page with
  | ok lines => simp [pageStatus]
  | error error => simpa [pageStatus] using exitStatus_ne_zero error

/-- The run prints the page, if there is one, and ends as the page does. -/
def Outcome.Shows (outcome : Outcome σ) (around : Surroundings)
    (page : Except Error (List String)) : Prop :=
  outcome.exitStatus = pageStatus page ∧
    ∀ lines, page = .ok lines → outcome.output = printed around lines

theorem Outcome.Shows.exists_lines {outcome : Outcome σ} {page : Except Error (List String)}
    (shows : outcome.Shows around page) (success : outcome.exitStatus = 0) :
    ∃ lines, page = .ok lines ∧ outcome.output = printed around lines := by
  rw [shows.1, pageStatus_eq_zero_iff] at success
  obtain ⟨lines, same⟩ := success
  exact ⟨lines, same, shows.2 lines same⟩

variable {server : Server σ} {around} {options} {tree : FileTree} {start : σ} {words : List String}

theorem shows_of_afterPage {page : Except Error (List String)}
    (obeyed : (obey server around (Invocation.ofWords words)).run { tree, server := start } =
      Desk.afterPage around { tree, server := start } page) :
    (run server around tree start words).Shows around page := by
  unfold Outcome.Shows run
  dsimp only
  rw [run_tryCatch, obeyed]
  cases page with
  | error error => exact ⟨rfl, nofun⟩
  | ok lines =>
    refine ⟨rfl, ?_⟩
    rintro _ ⟨⟩
    simp [Desk.afterPage, printed]

theorem run_shows_settings (asked : Invocation.ofWords words = .command options .showConfig) :
    (run server around tree start words).Shows around (settingsPage around options tree) := by
  apply shows_of_afterPage
  rw [asked]
  exact run_showConfig around options _

theorem run_shows_profiles (asked : Invocation.ofWords words = .command options .listProfiles) :
    (run server around tree start words).Shows around (profilesPage around options tree) := by
  apply shows_of_afterPage
  rw [asked]
  exact run_listProfiles around options _

end Printing

section Secrecy

variable {around other : Surroundings} {tree treeOther : FileTree}
  {options optionsOther : RunOptions} (sameAround : around.Same other)

include sameAround

theorem printed_eq : printed around = printed other := by
  funext lines
  unfold printed shownLine
  rw [sameAround.isTerminal]

variable (sameOptions : options.Same optionsOther)

include sameOptions

theorem location_eq :
    AppConfig.location around.home around.environment options.configFile =
      AppConfig.location other.home other.environment optionsOther.configFile := by
  rw [sameAround.environment.location_eq, sameAround.home, sameOptions.configFile]

variable (sameConfig : tree.SameConfig treeOther
  (AppConfig.location around.home around.environment options.configFile))

include sameConfig

/-- The config that both runs load is the same without passwords. -/
theorem config_masked_eq {config another : AppConfig}
    (loaded : tree.loadConfig around.home around.environment options.configFile = .ok config)
    (loadedOther : treeOther.loadConfig other.home other.environment optionsOther.configFile =
      .ok another) : config.masked = another.masked := by
  rw [← sameOptions.configFile, ← sameAround.home,
    ← FileTree.loadConfig_of_location (sameAround.environment.location_eq _ _)] at loadedOther
  exact sameConfig.masked_eq loaded loadedOther

theorem profilesPage_eq {lines another : List String}
    (page : profilesPage around options tree = .ok lines)
    (pageOther : profilesPage other optionsOther treeOther = .ok another) : lines = another := by
  obtain ⟨config, loaded, made⟩ := (except_bind_eq_ok_iff _ _ _).mp page
  obtain ⟨configOther, loadedOther, madeOther⟩ := (except_bind_eq_ok_iff _ _ _).mp pageOther
  cases made
  cases madeOther
  have configs := config_masked_eq sameAround sameOptions sameConfig loaded loadedOther
  have marked : config.markedProfile around.environment options.profile =
      configOther.markedProfile other.environment optionsOther.profile := by
    rw [sameAround.environment.markedProfile_eq, sameOptions.profile,
      ← config.markedProfile_masked, configs, configOther.markedProfile_masked]
  rw [location_eq sameAround sameOptions, marked, ← config.profilesPage_masked, configs,
    configOther.profilesPage_masked]

theorem settingsPage_eq {lines another : List String}
    (page : settingsPage around options tree = .ok lines)
    (pageOther : settingsPage other optionsOther treeOther = .ok another) : lines = another := by
  obtain ⟨config, loaded, page⟩ := (except_bind_eq_ok_iff _ _ _).mp page
  obtain ⟨configOther, loadedOther, pageOther⟩ := (except_bind_eq_ok_iff _ _ _).mp pageOther
  obtain ⟨resolved, resolves, made⟩ := (except_bind_eq_ok_iff _ _ _).mp page
  obtain ⟨resolvedOther, resolvesOther, madeOther⟩ := (except_bind_eq_ok_iff _ _ _).mp pageOther
  cases made
  cases madeOther
  have configs := config_masked_eq sameAround sameOptions sameConfig loaded loadedOther
  have flags : SettingsLayer.masked { options.settings with statementTimeout := none } =
      SettingsLayer.masked { optionsOther.settings with statementTimeout := none } :=
    congrArg (fun layer : SettingsLayer => { layer with statementTimeout := none })
      sameOptions.settings
  rw [← sameOptions.profile] at resolvesOther
  have masked := Settings.resolve_masked_eq configs sameAround.environment sameOptions.url flags
    resolves resolvesOther
  have gen : config.gen = configOther.gen := by
    rw [← config.gen_masked, configs, configOther.gen_masked]
  rw [location_eq sameAround sameOptions, gen, ← Settings.page_masked resolved, masked,
    Settings.page_masked]

end Secrecy

/-- Two runs that show the settings or the profiles, and differ only in the passwords of the config
file, the environment and the flags, print the same if both succeed. -/
theorem passwords_do_not_show {σ τ : Type} {server : Server σ} {serverOther : Server τ}
    {around other : Surroundings} {tree treeOther : FileTree} {start : σ} {startOther : τ}
    {words wordsOther : List String} {options : RunOptions} {command : Command}
    (shows : command = .showConfig ∨ command = .listProfiles)
    (asked : Invocation.ofWords words = .command options command)
    (sameWords : SameWords words wordsOther) (sameAround : around.Same other)
    (sameConfig : tree.SameConfig treeOther
      (AppConfig.location around.home around.environment options.configFile))
    (success : (run server around tree start words).exitStatus = 0)
    (successOther : (run serverOther other treeOther startOther wordsOther).exitStatus = 0) :
    (run server around tree start words).output =
      (run serverOther other treeOther startOther wordsOther).output := by
  obtain ⟨optionsOther, askedOther, sameOptions⟩ := ofWords_same shows sameWords asked
  rcases shows with rfl | rfl
  · obtain ⟨lines, page, output⟩ := (run_shows_settings asked).exists_lines around success
    obtain ⟨another, pageOther, outputOther⟩ :=
      (run_shows_settings askedOther).exists_lines other successOther
    rw [output, outputOther, printed_eq sameAround,
      settingsPage_eq sameAround sameOptions sameConfig page pageOther]
  · obtain ⟨lines, page, output⟩ := (run_shows_profiles asked).exists_lines around success
    obtain ⟨another, pageOther, outputOther⟩ :=
      (run_shows_profiles askedOther).exists_lines other successOther
    rw [output, outputOther, printed_eq sameAround,
      profilesPage_eq sameAround sameOptions sameConfig page pageOther]

def secretUrl (password : String) : String := "postgresql://ann:" ++ password ++ "@shelfhost/books"

def secretDocument (password : String) : String :=
  "[profiles.shelf]\npassword = \"" ++ password ++ "\"\ndsn = \"" ++ secretUrl password ++ "\"\n"

def secretTable (password url : String) : List (String × Datum) :=
  [("profiles", .table [("shelf", .table [("password", .text password), ("dsn", .text url)])])]

/-- The password and the URL of a table that has nothing else. -/
def secrets? : List (String × Datum) → Option (String × String)
  | [("profiles", .table [("shelf", .table [("password", .text password), ("dsn", .text url)])])] =>
    some (password, url)
  | _ => none

theorem secrets?_eq_some {members : List (String × Datum)} {password url : String}
    (found : secrets? members = some (password, url)) : members = secretTable password url := by
  unfold secrets? at found
  split at found
  · cases found
    rfl
  · cases found

def secretPath : FilePath := ⟨0, ["shelf.toml"]⟩

def shelfWith (content : Text.Bytes) : FileTree where
  entries := [(["shelf.toml"], .file content)]

theorem shelfWith_read (content : Text.Bytes) :
    (shelfWith content).holds secretPath = true ∧
      (shelfWith content).readBytes secretPath = .ok content := by
  constructor <;> cbv

def secretShelf (password : String) : FileTree :=
  shelfWith (Text.encodeUtf8 (secretDocument password).toList)

def secretSurroundings (password : String) : Surroundings where
  home := ⟨1, ["home"]⟩
  environment := [("PGPASSWORD", password), ("PGQUERYGEN_DSN", secretUrl password)]

def secretWords (password url : String) : List String :=
  ["--config", "shelf.toml", "--password", password, "--dsn", url, "-P", "shelf", "config", "show"]

def secretWritten (password url : String) : Written where
  values := [("--profile", "shelf"), ("--dsn", url), ("--password", password),
    ("--config", "shelf.toml")]

theorem secretWords_read (password url : String) :
    CommandOption.read globalOptions false (secretWords password url) {} =
      some (secretWritten password url, ["config", "show"]) := by cbv

def secretOptions (password url : String) : RunOptions where
  profile := some "shelf"
  url := some url
  configFile := some secretPath
  settings := { password := some password }
  format := none
  report := {}

theorem secretWords_asked (password url : String) :
    Invocation.ofWords (secretWords password url) =
      .command (secretOptions password url) .showConfig := by
  simp only [Invocation.ofWords, secretWords_read]
  cbv

/-- What the run with a password comes to, step by step. -/
structure Secret (password : String) : Prop where
  decoded : textOfBytes (Text.encodeUtf8 (secretDocument password).toList) =
    .ok (secretDocument password).toList
  parsed : (Toml.parse? (String.ofList (secretDocument password).toList)).bind secrets? =
    some (password, secretUrl password)
  resolved : ((AppConfig.check (.table (secretTable password (secretUrl password)))).toOption.bind
    fun config => (Settings.resolve { config with gen := config.gen.anchored secretPath.parent }
      (secretSurroundings password).environment (some "shelf") (some (secretUrl password))
      { password := some password }).toOption.map fun _ => ()) = some ()

theorem secret_one : Secret "one" := by
  constructor <;> decide +kernel

theorem secret_two : Secret "two" := by
  constructor <;> decide +kernel

section Runs

variable {password : String} (secret : Secret password)

include secret

theorem Secret.writes :
    (secretShelf password).Writes secretPath (secretTable password (secretUrl password)) := by
  obtain ⟨holds, read⟩ := shelfWith_read (Text.encodeUtf8 (secretDocument password).toList)
  obtain ⟨members, parsed, found⟩ := Option.bind_eq_some_iff.mp secret.parsed
  obtain rfl := secrets?_eq_some found
  exact ⟨holds, _, _, read, secret.decoded, parsed⟩

theorem Secret.exitStatus_eq_zero :
    (run ScriptedServer.server (secretSurroundings password) (secretShelf password)
      { script := {} } (secretWords password (secretUrl password))).exitStatus = 0 := by
  obtain ⟨written, valid, rest⟩ := Option.bind_eq_some_iff.mp secret.resolved
  obtain ⟨resolved, resolves, -⟩ := Option.map_eq_some_iff.mp rest
  have loaded : (secretShelf password).loadConfig (secretSurroundings password).home
      (secretSurroundings password).environment (some secretPath) =
        .ok { written with gen := written.gen.anchored secretPath.parent } :=
    FileTree.loadConfig_eq_ok_iff.mpr
      (.inr ⟨_, written, secret.writes, toOption_eq_some_iff.mp valid, rfl⟩)
  have page : ∃ lines, settingsPage (secretSurroundings password)
      (secretOptions password (secretUrl password)) (secretShelf password) = .ok lines :=
    ⟨_, (except_bind_eq_ok_iff _ _ _).mpr ⟨_, loaded,
      (except_bind_eq_ok_iff _ _ _).mpr ⟨resolved, toOption_eq_some_iff.mp resolves, rfl⟩⟩⟩
  rw [(run_shows_settings (secretWords_asked _ _)).1]
  exact pageStatus_eq_zero_iff.mpr page

end Runs

def secretFrame : ConnectionUrl.UrlFrame where
  scheme := "postgresql".toList
  user := ['a', 'n', 'n']
  place := "shelfhost".toList
  tail := '/' :: "books".toList
  colonless := by decide +kernel
  user_plain := by simp [ConnectionUrl.isEnd]
  place_plain := by simp [ConnectionUrl.isEnd]
  tail_ends := by simp [ConnectionUrl.isEnd]

theorem secretUrl_alike : ConnectionUrl.Alike (secretUrl "one") (secretUrl "two") := by
  refine .inr ⟨secretFrame, "one".toList, "two".toList, ⟨by decide, ?_⟩, ⟨by decide, ?_⟩,
    by decide +kernel, by decide +kernel⟩ <;>
  simp [ConnectionUrl.isEnd]

theorem secretWords_same :
    SameWords (secretWords "one" (secretUrl "one")) (secretWords "two" (secretUrl "two")) := by
  refine ⟨_, _, _, secretWords_read _ _, secretWords_read _ _, rfl, ?_, rfl⟩
  exact .cons ⟨rfl, .same _⟩ (.cons ⟨rfl, .url rfl secretUrl_alike⟩
    (.cons ⟨rfl, .password rfl _ _⟩ (.cons ⟨rfl, .same _⟩ .nil)))

theorem secretSurroundings_same : (secretSurroundings "one").Same (secretSurroundings "two") :=
  ⟨rfl, .cons ⟨rfl, .password rfl _ _⟩ (.cons ⟨rfl, .url rfl secretUrl_alike⟩ .nil), rfl⟩

theorem secretShelf_same : (secretShelf "one").SameConfig (secretShelf "two") secretPath := by
  refine .inr ⟨_, _, secret_one.writes, secret_two.writes, ?_⟩
  have fields : Entrywise Profile.SameField
      [("password", .text "one"), ("dsn", .text (secretUrl "one"))]
      [("password", .text "two"), ("dsn", .text (secretUrl "two"))] :=
    .cons ⟨rfl, .text (.password rfl _ _)⟩ (.cons ⟨rfl, .text (.url rfl secretUrl_alike)⟩ .nil)
  exact .cons ⟨rfl, .profiles rfl (.cons ⟨rfl, .table fields⟩ .nil)⟩ .nil

def secretRun (password : String) : Outcome ScriptedServer :=
  run ScriptedServer.server (secretSurroundings password) (secretShelf password) { script := {} }
    (secretWords password (secretUrl password))

/-- Passwords in all four places at once, and the page is the same. -/
theorem passwords_do_not_show_shelf :
    (secretRun "one").exitStatus = 0 ∧ (secretRun "two").exitStatus = 0 ∧
      (secretRun "one").output = (secretRun "two").output :=
  ⟨secret_one.exitStatus_eq_zero, secret_two.exitStatus_eq_zero,
    passwords_do_not_show (.inl rfl) (secretWords_asked _ _) secretWords_same
      secretSurroundings_same secretShelf_same secret_one.exitStatus_eq_zero
      secret_two.exitStatus_eq_zero⟩

end CommandLine

end QueryTyping
