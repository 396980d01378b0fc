import QueryTyping.Proofs.SettingStack

/-!
# Labels of settings

Each setting in effect is labelled with the level that gives it
(`Settings.labels_name_levels`), with one exception: where the config file gives
what is built in anyway and no higher level gives anything, the setting has the
label of what is built in.  The same holds of the settings for generating.
-/

namespace QueryTyping

open Check

/-- The level gives a setting this value, and no higher level gives it any. -/
def Highest {Value : Type} (gives : SettingLevel → Value → Prop) (level : SettingLevel)
    (value : Value) : Prop :=
  gives level value ∧ ∀ higher other, level.rank < higher.rank → ¬ gives higher other

/-- The labels name the highest levels that give settings, unless the config file only repeats
what is built in; what no level gives has no label, and neither has anything else. -/
structure NameLevels {Name : Type} {Value : Name → Type} (text : Name → String)
    (builtin? : (name : Name) → Option (Value name)) (label : SettingLevel → Name → String)
    (gives : SettingLevel → (name : Name) → Value name → Prop)
    (labels : List (String × String)) : Prop where
  highest (level : SettingLevel) (name : Name) (value : Value name)
    (given : Highest (fun level => gives level name) level value)
    (counts : level = .config → builtin? name ≠ some value) :
    labels.lookup (text name) = some (label level name)
  repeated (name : Name) (value : Value name)
    (given : Highest (fun level => gives level name) .config value)
    (builtin : builtin? name = some value) :
    labels.lookup (text name) = some "default"
  unlabelled (key : String)
    (nothing : ∀ name, key = text name → ∀ level value, ¬ gives level name value) :
    labels.lookup key = none

/-- The label of a connection's setting that a level gives; that of a profile tells its name. -/
def SettingSources.label (sources : SettingSources) : SettingLevel → SettingName → String
  | .builtin, _ => "default"
  | .config, _ => "config"
  | .profile, _ => "profile: " ++ sources.profileName?.getD ""
  | .environment, name => "env: " ++ name.environmentName?.getD ""
  | .environmentUrl, _ => "env: PGQUERYGEN_DSN"
  | .url, _ => "dsn"
  | .flags, name => "cli: " ++ name.flag

/-- The settings for generating. -/
inductive GenSettingName where
  | queryGlobs
  | schemaGlobs
  | outputDir
  | keepGoing
  deriving DecidableEq

namespace GenSettingName

def text : GenSettingName → String
  | queryGlobs => "query_globs"
  | schemaGlobs => "schema_globs"
  | outputDir => "output_dir"
  | keepGoing => "keep_going"

def flag : GenSettingName → String
  | queryGlobs => "--query-glob"
  | schemaGlobs => "--schema-glob"
  | outputDir => "--output-dir"
  | keepGoing => "--keep-going"

def Value : GenSettingName → Type
  | queryGlobs => List String
  | schemaGlobs => List String
  | outputDir => FilePath
  | keepGoing => Bool

def check : (name : GenSettingName) → Check name.Value
  | queryGlobs => list Check.text
  | schemaGlobs => list Check.text
  | outputDir => GenSettings.checkPath
  | keepGoing => truth

def builtin? : (name : GenSettingName) → Option name.Value
  | queryGlobs => some ([] : List String)
  | schemaGlobs => some ([] : List String)
  | outputDir => none
  | keepGoing => some false

/-- The table gives the setting this value. -/
def SaidIn (members : List (String × Datum)) (name : GenSettingName) (value : name.Value) : Prop :=
  ∃ datum, members.lookup name.text = some datum ∧ name.check datum = .ok value

end GenSettingName

/-- What a flag gives; an empty list of patterns is no flag. -/
def GenFlags.get (flags : GenFlags) : (name : GenSettingName) → Option name.Value
  | .queryGlobs => if flags.queryGlobs.isEmpty then none else some flags.queryGlobs
  | .schemaGlobs => if flags.schemaGlobs.isEmpty then none else some flags.schemaGlobs
  | .outputDir => flags.outputDir
  | .keepGoing => flags.keepGoing

/-- What settings for generating are. -/
def GenSettings.get (settings : GenSettings) : (name : GenSettingName) → Option name.Value
  | .queryGlobs => some settings.queryGlobs
  | .schemaGlobs => some settings.schemaGlobs
  | .outputDir => settings.outputDir
  | .keepGoing => some settings.keepGoing

/-- The level gives the setting for generating this value. -/
def SettingSources.GivesGen (sources : SettingSources) (flags : GenFlags) :
    SettingLevel → (name : GenSettingName) → name.Value → Prop
  | .builtin, name, value => name.builtin? = some value
  | .config, name, value => name.SaidIn sources.genTable value
  | .flags, name, value => flags.get name = some value
  | _, _, _ => False

/-- The label of a setting for generating that a level gives. -/
def GenSettingName.label : SettingLevel → GenSettingName → String
  | .builtin, _ => "default"
  | .config, _ => "config"
  | .flags, name => "cli: " ++ name.flag
  | _, _ => ""

theorem SettingName.mem_all (name : SettingName) : name ∈ all := by
  cases name <;> decide

section Connection

variable {sources : SettingSources} {config : AppConfig} {stack : SettingStack}
  (reads : AppConfig.ReadFrom sources.config config)
  (stacked : Settings.Stacks config sources.environment sources.profile sources.url
    sources.flags.layer stack)

include reads stacked

/-- A level that gives anything has the label of its origin. -/
theorem label_origin {level : SettingLevel} {name : SettingName} {value : name.Value}
    (given : (stack.layer level).get name = some value) :
    (stack.origin level).label name = sources.label level name := by
  cases level with
  | profile =>
    obtain ⟨profile, table, named, -, -⟩ :=
      (stacked.get_iff reads (by decide : SettingLevel.profile ≠ .config) name value).mp given
    have active := activeProfile_eq reads stacked.activeRead
    rw [named] at active
    obtain ⟨active, -⟩ := nonempty_eq_some_iff.mp active
    simp only [SettingStack.origin, Origin.label, SettingSources.label, active, named]
  | _ => rfl

/-- The label is that of the highest level whose layer gives the setting. -/
theorem label?_eq {level : SettingLevel} {name : SettingName} {value : name.Value}
    (given : (stack.layer level).get name = some value)
    (unset : ∀ higher : SettingLevel, level.rank < higher.rank →
      (stack.layer higher).get name = none) :
    stack.label? name = some (sources.label level name) := by
  rw [SettingStack.label?, SettingLevel.findSome?_eq_some_iff]
  refine ⟨level, ?_, fun higher rises => ?_⟩
  · rw [given, Option.map_some, label_origin reads stacked given]
  · rw [unset higher rises, Option.map_none]

/-- A level that gives nothing has a layer that gives nothing. -/
theorem get_eq_none {level : SettingLevel} {name : SettingName}
    (nothing : ∀ value, ¬ sources.Gives level name value) :
    (stack.layer level).get name = none := by
  rw [Option.eq_none_iff_forall_ne_some]
  intro value given
  by_cases top : level = .config
  · subst top
    exact nothing value ((stacked.get_config_iff reads name value).mp given).1
  · exact nothing value ((stacked.get_iff reads top name value).mp given)

/-- The layer of the config file leaves out what is built in. -/
theorem get_config_eq_none {name : SettingName} {value : name.Value}
    (given : sources.Gives .config name value) (builtin : name.builtin? = some value) :
    (stack.layer .config).get name = none := by
  rw [Option.eq_none_iff_forall_ne_some]
  intro other found
  obtain ⟨said, counts⟩ := (stacked.get_config_iff reads name other).mp found
  have same := (saidLayer_get_iff reads name value).mpr given
  rw [(saidLayer_get_iff reads name other).mpr said] at same
  rw [builtin, same] at counts
  exact counts rfl

theorem labels_of_stack :
    NameLevels SettingName.text SettingName.builtin? sources.label sources.Gives
      stack.resolved.sources where
  highest level name value given counts := by
    have held : (stack.layer level).get name = some value := by
      by_cases top : level = .config
      · subst top
        exact (stacked.get_config_iff reads name value).mpr ⟨given.1, counts rfl⟩
      · exact (stacked.get_iff reads top name value).mpr given.1
    refine (lookup_labels (by decide) (SettingName.mem_all name)).trans
      (label?_eq reads stacked held fun higher rises => ?_)
    exact get_eq_none reads stacked fun other => given.2 higher other rises
  repeated name value given builtin := by
    have held : (stack.layer .builtin).get name = some value := by
      rw [stacked.builtinLayer, builtin_get, builtin]
    refine (lookup_labels (by decide) (SettingName.mem_all name)).trans
      (label?_eq reads stacked held fun higher rises => ?_)
    by_cases top : higher = .config
    · subst top
      exact get_config_eq_none reads stacked given.1 builtin
    · refine get_eq_none reads stacked fun other => given.2 higher other ?_
      cases higher <;> simp_all [SettingLevel.rank]
  unlabelled key nothing := by
    refine lookup_labels_eq_none fun name _ same => ?_
    rw [SettingStack.label?, List.findSome?_eq_none_iff]
    intro level _
    rw [get_eq_none reads stacked (nothing name same level), Option.map_none]

end Connection

instance : (name : GenSettingName) → DecidableEq name.Value
  | .queryGlobs => inferInstanceAs (DecidableEq (List String))
  | .schemaGlobs => inferInstanceAs (DecidableEq (List String))
  | .outputDir => inferInstanceAs (DecidableEq FilePath)
  | .keepGoing => inferInstanceAs (DecidableEq Bool)

/-- The label of a setting: its flag's, or else whether it is what is built in. -/
def GenSettings.label? (settings : GenSettings) (flags : GenFlags) (name : GenSettingName) :
    Option String :=
  if (flags.get name).isSome then some ("cli: " ++ name.flag)
  else (settings.get name).map fun value =>
    if name.builtin? = some value then "default" else "config"

def GenSettingName.all : List GenSettingName := [queryGlobs, schemaGlobs, outputDir, keepGoing]

theorem choose_snd {α : Type} [DecidableEq α] (name : String) (flag : Option α)
    (configured builtin : α) :
    (GenSettings.choose name flag configured builtin).2 =
      if flag.isSome then "cli: " ++ name
      else if builtin = configured then "default" else "config" := by
  cases flag with
  | some given => rfl
  | none =>
    by_cases same : configured = builtin
    · simp [GenSettings.choose, same]
    · simp [GenSettings.choose, same, Ne.symm same]

theorem GenSettings.label?_of_builtin {settings : GenSettings} (name : GenSettingName)
    {configured builtin : name.Value} (held : settings.get name = some configured)
    (isBuiltin : name.builtin? = some builtin) (flags : GenFlags) :
    settings.label? flags name =
      some (choose name.flag (flags.get name) configured builtin).2 := by
  rw [choose_snd, label?, held, isBuiltin]
  split
  · rfl
  · simp only [Option.map_some, Option.some.injEq]

theorem GenSettings.label?_outputDir (settings : GenSettings) (flags : GenFlags) :
    settings.label? flags .outputDir =
      let chosen := choose "--output-dir" (flags.outputDir.map some) settings.outputDir none
      if chosen.1.isSome then some chosen.2 else none := by
  unfold label? GenFlags.get get
  cases flags.outputDir <;> cases settings.outputDir <;> rfl

/-- Every setting for generating is labelled so, if it has a label. -/
theorem GenSettings.sources_eq (settings : GenSettings) (flags : GenFlags) :
    (settings.resolve flags).sources = GenSettingName.all.filterMap fun name =>
      (settings.label? flags name).map fun label => (name.text, label) := by
  have queryGlobs := label?_of_builtin .queryGlobs (rfl : settings.get .queryGlobs = _) rfl flags
  have schemaGlobs := label?_of_builtin .schemaGlobs (rfl : settings.get .schemaGlobs = _) rfl flags
  have keepGoing := label?_of_builtin .keepGoing (rfl : settings.get .keepGoing = _) rfl flags
  simp only [GenSettingName.all, List.filterMap_cons, List.filterMap_nil, queryGlobs, schemaGlobs,
    keepGoing, label?_outputDir, Option.map_some]
  unfold resolve
  by_cases set : (choose "--output-dir" (flags.outputDir.map some) settings.outputDir none).1.isSome
  · simp only [set, if_true]
    rfl
  · simp only [set]
    rfl

/-- Anchoring changes no label: no pattern and no directory is gained or lost. -/
theorem GenSettings.label?_anchored (settings : GenSettings) (base : FilePath) (flags : GenFlags)
    (name : GenSettingName) :
    (settings.anchored base).label? flags name = settings.label? flags name := by
  obtain ⟨queryGlobs, schemaGlobs, outputDir, keepGoing⟩ := settings
  cases name with
  | queryGlobs => cases queryGlobs <;> rfl
  | schemaGlobs => cases schemaGlobs <;> rfl
  | outputDir => cases outputDir <;> rfl
  | keepGoing => rfl

/-- A setting that is not optional is what the table says, or else what is built in. -/
theorem readsOr_iff {α : Type} {members : List (String × Datum)} {key : String} {check : Check α}
    {builtin held : α} (read : Fields.ReadsOr members key builtin check held) (value : α) :
    some held = some value ↔
      (∃ datum, members.lookup key = some datum ∧ check datum = .ok value) ∨
        (∀ other, ¬ ∃ datum, members.lookup key = some datum ∧ check datum = .ok other) ∧
          some builtin = some value := by
  unfold Fields.ReadsOr at read
  cases found : members.lookup key with
  | none =>
    simp only [found] at read
    simp [read]
  | some datum =>
    simp only [found] at read
    simp [read]

/-- A setting for generating is what the table says, or else what is built in. -/
theorem GenSettings.ReadFrom.get_iff {members : List (String × Datum)} {settings : GenSettings}
    (read : GenSettings.ReadFrom members settings) (name : GenSettingName) (value : name.Value) :
    settings.get name = some value ↔
      name.SaidIn members value ∨
        (∀ other, ¬ name.SaidIn members other) ∧ name.builtin? = some value := by
  cases name with
  | queryGlobs => exact readsOr_iff read.queryGlobs value
  | schemaGlobs => exact readsOr_iff read.schemaGlobs value
  | keepGoing => exact readsOr_iff read.keepGoing value
  | outputDir =>
    have refusesNull : ∀ value, checkPath .null ≠ .ok value := by simp [checkPath, refuse]
    have given := (read.outputDir.gives_optional refusesNull).eq_some_iff value
    exact given.trans ⟨.inl, fun said => said.elim id fun builtin => absurd builtin.2 nofun⟩

theorem GenSettings.label?_of_unflagged {settings : GenSettings} {flags : GenFlags}
    {name : GenSettingName} {value : name.Value} (unflagged : ∀ other, flags.get name ≠ some other)
    (held : settings.get name = some value) :
    settings.label? flags name =
      some (if name.builtin? = some value then "default" else "config") := by
  rw [label?, Option.eq_none_iff_forall_ne_some.mpr unflagged, held]
  rfl

/-- The labels of the settings for generating, whatever directory they are taken relative to. -/
theorem gen_labels {sources : SettingSources} {config : AppConfig}
    (reads : AppConfig.ReadFrom sources.config config) (base : FilePath) (flags : GenFlags) :
    NameLevels GenSettingName.text GenSettingName.builtin? GenSettingName.label
      (sources.GivesGen flags) ((config.gen.anchored base).resolve flags).sources := by
  have read := gen_readFrom reads
  have labelled (name : GenSettingName) :
      ((config.gen.anchored base).resolve flags).sources.lookup name.text =
        config.gen.label? flags name := by
    rw [GenSettings.sources_eq, lookup_labels (by decide) (by cases name <;> decide),
      GenSettings.label?_anchored]
  refine ⟨fun level name value given counts => ?_, fun name value given builtin => ?_,
    fun key nothing => ?_⟩
  · obtain ⟨gives, unset⟩ := given
    rw [labelled]
    cases level with
    | flags =>
      have flagged : flags.get name = some value := gives
      rw [GenSettings.label?, flagged]
      rfl
    | config =>
      have held := (read.get_iff name value).mpr (.inl gives)
      rw [GenSettings.label?_of_unflagged (fun other => unset .flags other (by decide)) held,
        if_neg (counts rfl), GenSettingName.label]
    | builtin =>
      have builtin : name.builtin? = some value := gives
      have held := (read.get_iff name value).mpr
        (.inr ⟨fun other => unset .config other (by decide), builtin⟩)
      rw [GenSettings.label?_of_unflagged (fun other => unset .flags other (by decide)) held,
        if_pos builtin, GenSettingName.label]
    | _ => exact gives.elim
  · obtain ⟨gives, unset⟩ := given
    have held := (read.get_iff name value).mpr (.inl gives)
    rw [labelled,
      GenSettings.label?_of_unflagged (fun other => unset .flags other (by decide)) held,
      if_pos builtin]
  · rw [GenSettings.sources_eq]
    refine lookup_labels_eq_none fun name _ same => ?_
    have unflagged : flags.get name = none :=
      Option.eq_none_iff_forall_ne_some.mpr fun value => nothing name same .flags value
    have unheld : config.gen.get name = none := by
      rw [Option.eq_none_iff_forall_ne_some]
      intro value held
      obtain said | ⟨-, builtin⟩ := (read.get_iff name value).mp held
      · exact nothing name same .config value said
      · exact nothing name same .builtin value builtin
    rw [GenSettings.label?_anchored, GenSettings.label?, unflagged, unheld]
    rfl

/-- The labels of settings that resolve name the levels that give them, unless the config file
only repeats what is built in. -/
theorem Settings.labels_name_levels (sources : SettingSources) (config : AppConfig)
    (valid : AppConfig.check (.table sources.config) = .ok config) :
    (∀ resolved, Settings.resolve config sources.environment sources.profile sources.url
        sources.flags.layer = .ok resolved →
      NameLevels SettingName.text SettingName.builtin? sources.label sources.Gives
        resolved.sources) ∧
    ∀ base flags,
      NameLevels GenSettingName.text GenSettingName.builtin? GenSettingName.label
        (sources.GivesGen flags) ((config.gen.anchored base).resolve flags).sources := by
  have reads := AppConfig.check_eq_ok_iff.mp valid
  refine ⟨fun resolved resolves => ?_, gen_labels reads⟩
  obtain ⟨stack, stacked, -, rfl⟩ := resolve_eq_ok_iff.mp resolves
  exact labels_of_stack reads stacked

/-- A config file with a timeout and a profile, below a variable of the environment. -/
theorem Settings.labels_name_levels_shelf :
    ∃ config resolved, AppConfig.check (.table shelfSources.config) = .ok config ∧
      Settings.resolve config shelfSources.environment shelfSources.profile shelfSources.url
        shelfSources.flags.layer = .ok resolved ∧
      NameLevels SettingName.text SettingName.builtin? shelfSources.label shelfSources.Gives
        resolved.sources := by
  have run : ((AppConfig.check (.table shelfSources.config)).toOption.bind fun config =>
      (Settings.resolve config shelfSources.environment shelfSources.profile shelfSources.url
        shelfSources.flags.layer).toOption.map fun resolved => resolved.connection.port) =
      some 6543 := by decide +kernel
  obtain ⟨config, valid, rest⟩ := Option.bind_eq_some_iff.mp run
  obtain ⟨resolved, resolves, -⟩ := Option.map_eq_some_iff.mp rest
  have valid := toOption_eq_some_iff.mp valid
  have resolves := toOption_eq_some_iff.mp resolves
  exact ⟨config, resolved, valid, resolves,
    (Settings.labels_name_levels shelfSources config valid).1 resolved resolves⟩

/-- A config file that gives the timeout that is built in. -/
def repeatingSources : SettingSources where
  config := [("statement_timeout", .integer 30)]

/-- Only the config file gives the timeout, and yet its label is that of what is built in. -/
theorem repeated_timeout_unlabelled :
    ∃ config resolved, AppConfig.check (.table repeatingSources.config) = .ok config ∧
      Settings.resolve config repeatingSources.environment repeatingSources.profile
        repeatingSources.url repeatingSources.flags.layer = .ok resolved ∧
      repeatingSources.HighestGives .config .statementTimeout builtinTimeout ∧
      resolved.sources.lookup "statement_timeout" = some "default" := by
  have run : ((AppConfig.check (.table repeatingSources.config)).toOption.bind fun config =>
      (Settings.resolve config repeatingSources.environment repeatingSources.profile
        repeatingSources.url repeatingSources.flags.layer).toOption.map fun resolved =>
        resolved.sources.lookup "statement_timeout") = some (some "default") := by decide +kernel
  obtain ⟨config, valid, rest⟩ := Option.bind_eq_some_iff.mp run
  obtain ⟨resolved, resolves, label⟩ := Option.map_eq_some_iff.mp rest
  refine ⟨config, resolved, toOption_eq_some_iff.mp valid, toOption_eq_some_iff.mp resolves,
    ⟨⟨by decide, .integer 30, rfl, rfl⟩, fun higher other rises given => ?_⟩, label⟩
  cases higher with
  | builtin => exact absurd rises (by decide)
  | config => exact absurd rises (by decide)
  | profile =>
    obtain ⟨profile, table, named, -⟩ := given
    cases named
  | environment =>
    obtain ⟨key, s, -, found, -⟩ := given
    cases found
  | environmentUrl =>
    obtain ⟨url, found, -⟩ := given
    cases found
  | url =>
    obtain ⟨url, found, -⟩ := given
    cases found
  | flags => cases given

end QueryTyping
