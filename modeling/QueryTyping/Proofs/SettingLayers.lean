import QueryTyping.Proofs.ConfigTables

/-!
# Layers of settings

A setting can come from seven levels: what is built in, the top of the config
file, the active profile, the environment's variables, the URL in the
environment, the URL on the command line, and the flags.  What each level gives
is said of the raw data, without merging anything (`SettingSources.Gives`).

When settings resolve, each has the value of the highest level that gives one,
and none if no level does; port and SSL mode are then in range
(`Settings.layers_take_effect`).  The settings for generating have two levels
above what is built in, and come out the same way.
-/

namespace QueryTyping

open Check

/-- Where a setting can come from. -/
inductive SettingLevel where
  | builtin
  | config
  | profile
  | environment
  | environmentUrl
  | url
  | flags
  deriving DecidableEq, Repr

namespace SettingLevel

/-- Levels from the highest to the lowest. -/
def descending : List SettingLevel :=
  [flags, url, environmentUrl, environment, profile, config, builtin]

/-- How many levels are below. -/
def rank : SettingLevel → Nat
  | builtin => 0
  | config => 1
  | profile => 2
  | environment => 3
  | environmentUrl => 4
  | url => 5
  | flags => 6

end SettingLevel

namespace SettingName

/-- The built-in value, if there is one. -/
def builtin? : (name : SettingName) → Option name.Value
  | host => some "localhost"
  | port => some (5432 : Int)
  | dbname => some "postgres"
  | sslmode => some "prefer"
  | searchPath => some ([] : List String)
  | statementTimeout => some builtinTimeout
  | user | password | defaultFormat => none

/-- The value that a variable's text stands for. -/
def ofText? : (name : SettingName) → String → Option name.Value
  | port, s => Numeral.anyInteger? s
  | host, s => some s
  | dbname, s => some s
  | user, s => some s
  | password, s => some s
  | sslmode, s => some s
  | searchPath, _ => none
  | statementTimeout, _ => none
  | defaultFormat, _ => none

end SettingName

/-- The flags that give settings; a search path is one text or a list. -/
structure SettingFlags where
  host : Option String := none
  port : Option Int := none
  database : Option String := none
  user : Option String := none
  password : Option String := none
  schema : Option (String ⊕ List String) := none
  timeout : Option Double := none

/-- The settings that flags give. -/
def SettingFlags.layer (flags : SettingFlags) : SettingsLayer where
  host := flags.host
  port := flags.port
  dbname := flags.database
  user := flags.user
  password := flags.password
  searchPath := flags.schema.map (Sum.elim SearchPath.ofText SearchPath.ofItems)
  statementTimeout := flags.timeout

/-- What settings are resolved from, as it is found. -/
structure SettingSources where
  /-- The table that the config file writes. -/
  config : List (String × Datum) := []
  environment : Environment := []
  /-- The profile asked for. -/
  profile : Option String := none
  url : Option String := none
  flags : SettingFlags := {}

namespace SettingSources

/-- The profile in effect: the one asked for, the environment's or the config file's. -/
def profileName? (sources : SettingSources) : Option String :=
  let configured := match sources.config.lookup "default_profile" with
    | some (.text name) => some name
    | _ => none
  (nonempty sources.profile).or
    ((nonempty (sources.environment.lookup "PGQUERYGEN_PROFILE")).or (nonempty configured))

/-- The level gives the setting this value. -/
def Gives (sources : SettingSources) :
    SettingLevel → (name : SettingName) → name.Value → Prop
  | .builtin, name, value => name.builtin? = some value
  | .config, name, value =>
    name ∈ [.statementTimeout, .defaultFormat] ∧ name.SaidIn sources.config value
  | .profile, name, value =>
    ∃ profile table, sources.profileName? = some profile ∧
      AppConfig.profileTable? sources.config profile = some table ∧
      Profile.Gives table name value
  | .environment, name, value =>
    ∃ key s, name.environmentName? = some key ∧ sources.environment.lookup key = some s ∧
      name.ofText? s = some value
  | .environmentUrl, name, value =>
    ∃ url, sources.environment.lookup "PGQUERYGEN_DSN" = some url ∧ url ≠ "" ∧
      ConnectionUrl.Gives url name value
  | .url, name, value =>
    ∃ url, sources.url = some url ∧ url ≠ "" ∧ ConnectionUrl.Gives url name value
  | .flags, name, value => sources.flags.layer.get name = some value

/-- The level gives the setting this value, and no higher level gives it any. -/
def HighestGives (sources : SettingSources) (level : SettingLevel) (name : SettingName)
    (value : name.Value) : Prop :=
  sources.Gives level name value ∧
    ∀ higher other, level.rank < higher.rank → ¬ sources.Gives higher name other

end SettingSources

/-- The value of a setting in effect. -/
def ResolvedConfig.get (config : ResolvedConfig) : (name : SettingName) → Option name.Value
  | .host => some config.connection.host
  | .port => some config.connection.port
  | .dbname => some config.connection.dbname
  | .user => config.connection.user
  | .password => config.connection.password
  | .sslmode => some config.connection.sslmode
  | .searchPath => some config.connection.searchPath
  | .statementTimeout => some config.statementTimeout
  | .defaultFormat => config.defaultFormat

namespace SettingLevel

theorem mem_descending (level : SettingLevel) : level ∈ descending := by
  cases level <;> decide

theorem descending_ranks : descending.Pairwise fun higher lower => lower.rank < higher.rank := by
  decide

/-- The first value downwards is that of the highest level that has one. -/
theorem findSome?_eq_some_iff {α : Type} (given : SettingLevel → Option α) (value : α) :
    descending.findSome? given = some value ↔
      ∃ level, given level = some value ∧
        ∀ higher : SettingLevel, level.rank < higher.rank → given higher = none := by
  rw [List.findSome?_eq_some_iff]
  constructor
  · rintro ⟨above, level, below, split, gives, unset⟩
    have ordered := descending_ranks
    rw [split, List.pairwise_append, List.pairwise_cons] at ordered
    refine ⟨level, gives, fun higher rises => ?_⟩
    have somewhere := mem_descending higher
    rw [split, List.mem_append, List.mem_cons] at somewhere
    obtain isAbove | rfl | isBelow := somewhere
    · exact unset higher isAbove
    · exact absurd rises (Nat.lt_irrefl _)
    · exact absurd rises (Nat.not_lt.mpr (Nat.le_of_lt (ordered.2.1.1 higher isBelow)))
  · rintro ⟨level, gives, unset⟩
    obtain ⟨above, below, split⟩ := List.append_of_mem (mem_descending level)
    have ordered := descending_ranks
    rw [split, List.pairwise_append] at ordered
    refine ⟨above, level, below, split, gives, fun higher isAbove => ?_⟩
    exact unset higher (ordered.2.2 higher isAbove level List.mem_cons_self)

end SettingLevel

theorem nonempty_eq_some_iff {given : Option String} {s : String} :
    nonempty given = some s ↔ given = some s ∧ s ≠ "" := by
  simp [nonempty]

theorem same_builtinTimeout {timeout : Double} (same : timeout.same builtinTimeout) :
    timeout = builtinTimeout := by
  have written : builtinTimeout = .finite false 8444249301319680 (-48) := by decide +kernel
  rw [written] at same ⊢
  cases timeout <;> simp_all [Double.same]

theorem nonempty_orElse (first second : Option String) :
    nonempty ((nonempty first).orElse fun _ => second) = (nonempty first).or (nonempty second) := by
  cases present : nonempty first with
  | none => rfl
  | some s =>
    obtain ⟨-, filled⟩ := nonempty_eq_some_iff.mp present
    exact nonempty_eq_some_iff.mpr ⟨rfl, filled⟩

theorem builtin_get (name : SettingName) : Settings.builtin.get name = name.builtin? := by
  cases name <;> rfl

theorem get_empty (name : SettingName) : ({} : SettingsLayer).get name = none := by
  cases name <;> rfl

theorem ofEnvironment_eq_ok {environment : Environment} {layer : SettingsLayer}
    (read : Settings.ofEnvironment environment = .ok layer) :
    layer =
      { host := environment.lookup "PGHOST"
        port := (environment.lookup "PGPORT").bind Numeral.anyInteger?
        dbname := environment.lookup "PGDATABASE", user := environment.lookup "PGUSER"
        password := environment.lookup "PGPASSWORD"
        sslmode := environment.lookup "PGSSLMODE" } := by
  unfold Settings.ofEnvironment at read
  split at read
  next absent =>
    cases read
    rw [absent]
    rfl
  next s present =>
    split at read
    next port whole =>
      cases read
      rw [present, Option.bind_some, whole]
    · cases read

/-- The environment's layer is what its variables say. -/
theorem ofEnvironment_get_iff {environment : Environment} {layer : SettingsLayer}
    (read : Settings.ofEnvironment environment = .ok layer) (name : SettingName)
    (value : name.Value) :
    layer.get name = some value ↔
      ∃ key s, name.environmentName? = some key ∧ environment.lookup key = some s ∧
        name.ofText? s = some value := by
  have verbatim (given : Option String) (value : String) :
      given = some value ↔ ∃ s, given = some s ∧ some s = some value := by simp
  rw [ofEnvironment_eq_ok read]
  cases name <;> simp only [SettingsLayer.get, SettingName.environmentName?, SettingName.ofText?,
    Option.some.injEq, exists_and_left, exists_eq_left', reduceCtorEq, exists_false, and_false]
  case port => exact Option.bind_eq_some_iff
  all_goals exact verbatim _ value

namespace Layers

/-- The settings of a level that may be missing. -/
def only (layers : Layers) : SettingsLayer := (layers.head?.map (·.2)).getD {}

theorem findSome?_only {layers : Layers} (atMostOne : layers.length ≤ 1) (name : SettingName) :
    layers.reverse.findSome? (fun layer => layer.2.get name) = layers.only.get name := by
  cases layers with
  | nil => exact (get_empty name).symm
  | cons layer others =>
    have alone : others = [] := by
      simpa using atMostOne
    subst alone
    cases given : layer.2.get name <;> simp [only, given]

end Layers

/-- The layer of a URL is what the URL gives. -/
theorem ofUrl_get_iff {origin : Origin} {url : Option String} {layers : Layers}
    (read : Settings.ofUrl origin url = .ok layers) (name : SettingName) (value : name.Value) :
    layers.only.get name = some value ↔
      ∃ s, url = some s ∧ s ≠ "" ∧ ConnectionUrl.Gives s name value := by
  unfold Settings.ofUrl at read
  split at read
  next s present =>
    obtain ⟨given, filled⟩ := nonempty_eq_some_iff.mp present
    obtain ⟨fields, fieldsRead, made⟩ := (except_bind_eq_ok_iff _ _ _).mp read
    cases made
    simp [Layers.only, ConnectionUrl.Gives, given, filled, fieldsRead]
  next absent =>
    cases read
    have unset : ({} : SettingsLayer).get name ≠ some value := by simp [get_empty]
    constructor
    · exact fun given => absurd given unset
    · rintro ⟨s, given, filled, -⟩
      rw [nonempty_eq_some_iff.mpr ⟨given, filled⟩] at absent
      cases absent

theorem ofUrl_length {origin : Origin} {url : Option String} {layers : Layers}
    (read : Settings.ofUrl origin url = .ok layers) : layers.length ≤ 1 := by
  unfold Settings.ofUrl at read
  split at read
  · obtain ⟨fields, -, made⟩ := (except_bind_eq_ok_iff _ _ _).mp read
    cases made
    exact Nat.le_refl 1
  · cases read
    exact Nat.zero_le 1

section Profiles

variable {sources : SettingSources} {config : AppConfig}
  (reads : AppConfig.ReadFrom sources.config config)

include reads

theorem defaultProfile_eq :
    config.defaultProfile =
      match sources.config.lookup "default_profile" with
      | some (.text name) => some name
      | _ => none := by
  have refusesNull : ∀ value, text .null ≠ .ok value := by simp [text, refuse]
  have gives := reads.defaultProfile.gives_optional refusesNull
  cases given : config.defaultProfile with
  | some name =>
    obtain ⟨datum, found, read⟩ := (gives.eq_some_iff name).mp given
    cases datum <;> cases read
    rw [found]
  | none =>
    split
    next name found =>
      have wrong := (gives.eq_some_iff name).mpr ⟨_, found, rfl⟩
      rw [given] at wrong
      cases wrong
    · rfl

/-- The profile in effect is the one that the sources name. -/
theorem activeProfile_eq {active : Option String}
    (chosen : Settings.activeProfile config sources.environment sources.profile = .ok active) :
    nonempty active = sources.profileName? := by
  have asked : nonempty active = nonempty
      (((nonempty sources.profile).orElse fun _ =>
        nonempty (sources.environment.lookup "PGQUERYGEN_PROFILE")).orElse fun _ =>
        config.defaultProfile) := by
    simp only [Settings.activeProfile] at chosen
    split at chosen
    · split at chosen
      · cases chosen
        rfl
      · cases chosen
    · cases chosen
      rfl
  rw [asked, SettingSources.profileName?, ← defaultProfile_eq reads]
  cases present : nonempty sources.profile with
  | none => exact nonempty_orElse _ _
  | some s =>
    obtain ⟨-, filled⟩ := nonempty_eq_some_iff.mp present
    exact nonempty_eq_some_iff.mpr ⟨rfl, filled⟩

omit reads in
theorem activeProfile_known {active : Option String} {environment : Environment}
    {asked : Option String} (chosen : Settings.activeProfile config environment asked = .ok active)
    {name : String} (named : nonempty active = some name) :
    ∃ profile, config.profiles.lookup name = some profile := by
  simp only [Settings.activeProfile] at chosen
  split at chosen
  next other found =>
    split at chosen
    next known =>
      cases chosen
      rw [named] at found
      cases found
      exact Option.isSome_iff_exists.mp known
    · cases chosen
  next absent =>
    cases chosen
    rw [named] at absent
    cases absent

/-- The layer of the profile in effect, if there is one. -/
def profileLayers (config : AppConfig) (active : Option String) : Layers :=
  match nonempty active with
  | some name => ((config.profiles.lookup name).map fun p => (Origin.profile name, p.layer)).toList
  | none => []

omit reads in
theorem profileLayers_length (config : AppConfig) (active : Option String) :
    (profileLayers config active).length ≤ 1 := by
  unfold profileLayers
  split
  · exact Option.length_toList_le
  · exact Nat.zero_le 1

/-- The layer of the active profile is what its table gives. -/
theorem profile_get_iff {active : Option String}
    (chosen : Settings.activeProfile config sources.environment sources.profile = .ok active)
    (name : SettingName) (value : name.Value) :
    (profileLayers config active).only.get name = some value ↔
      sources.Gives .profile name value := by
  have named := activeProfile_eq reads chosen
  unfold profileLayers
  cases present : nonempty active with
  | none =>
    rw [present] at named
    simp [Layers.only, get_empty, SettingSources.Gives, ← named]
  | some profile =>
    rw [present] at named
    obtain ⟨held, found⟩ := activeProfile_known chosen present
    obtain ⟨table, isTable, checked⟩ := (reads.lookup_profile profile held).mp found
    have given := Profile.layer_get_iff checked name value
    have only : Layers.only ((config.profiles.lookup profile).map fun p =>
        (Origin.profile profile, p.layer)).toList = held.layer := by
      rw [found]
      rfl
    simp only [only, given, SettingSources.Gives, ← named, Option.some.injEq]
    constructor
    · exact fun gives => ⟨profile, table, rfl, isTable, gives⟩
    · rintro ⟨_, other, rfl, otherTable, gives⟩
      rw [isTable] at otherTable
      cases otherTable
      exact gives

/-- What the config file says at its top. -/
def saidLayer (members : List (String × Datum)) (config : AppConfig) : SettingsLayer where
  statementTimeout :=
    if (members.lookup "statement_timeout").isSome then some config.statementTimeout else none
  defaultFormat := config.defaultFormat

theorem saidLayer_get_iff (name : SettingName) (value : name.Value) :
    (saidLayer sources.config config).get name = some value ↔ sources.Gives .config name value := by
  cases name with
  | statementTimeout =>
    have read := reads.timeout
    unfold Fields.ReadsOr at read
    cases found : sources.config.lookup "statement_timeout" with
    | none =>
      simp [SettingsLayer.get, saidLayer, SettingSources.Gives, SettingName.SaidIn,
        SettingName.text, found]
    | some datum =>
      simp only [found] at read
      simp only [SettingsLayer.get, saidLayer, SettingSources.Gives, SettingName.SaidIn,
        SettingName.text, SettingName.check, found, read, Option.isSome_some, if_true,
        Option.some.injEq, exists_eq_left', List.mem_cons, true_or, true_and]
      exact ⟨fun same => congrArg _ (Option.some.inj same), fun same => congrArg _ (Except.ok.inj same)⟩
  | defaultFormat =>
    have refusesNull : ∀ value, text .null ≠ .ok value := by simp [text, refuse]
    have gives := (reads.format.gives_optional refusesNull).eq_some_iff value
    have listed : SettingName.defaultFormat ∈ [.statementTimeout, .defaultFormat] := by decide
    exact gives.trans ⟨fun said => ⟨listed, said⟩, fun said => said.2⟩
  | _ => simp [SettingsLayer.get, saidLayer, SettingSources.Gives]

/-- The built-in timeout counts as not given, and is the value all the same. -/
theorem ofConfig_or_builtin (name : SettingName) :
    ((Settings.ofConfig config).get name).or (Settings.builtin.get name) =
      ((saidLayer sources.config config).get name).or (Settings.builtin.get name) := by
  cases name with
  | statementTimeout =>
    have read := reads.timeout
    unfold Fields.ReadsOr at read
    have unsaid : sources.config.lookup "statement_timeout" = none →
        config.statementTimeout = builtinTimeout := by
      intro absent
      simpa only [absent] using read
    simp only [SettingsLayer.get, saidLayer, Settings.ofConfig, Settings.builtin]
    cases found : sources.config.lookup "statement_timeout" with
    | none =>
      rw [unsaid found]
      split <;> rfl
    | some datum =>
      split
      next same =>
        rw [same_builtinTimeout same]
        rfl
      · rfl
  | _ => rfl

end Profiles

/-- What is resolved is merged from all layers, and keeps the rules. -/
theorem resolve_eq_ok {config : AppConfig} {environment : Environment} {profile url : Option String}
    {flags : SettingsLayer} {resolved : ResolvedConfig}
    (resolves : Settings.resolve config environment profile url flags = .ok resolved) :
    ∃ active lower, Settings.activeProfile config environment profile = .ok active ∧
      Settings.layers config environment active url = .ok lower ∧
      let all : Layers := lower ++ [(.flags, flags)]
      Settings.violations all.merged.connection = [] ∧
        resolved =
          { connection := all.merged.connection
            statementTimeout := all.merged.statementTimeout.getD builtinTimeout
            defaultFormat := all.merged.defaultFormat, activeProfile := active
            sources := all.sources } := by
  obtain ⟨active, chosen, rest⟩ := (except_bind_eq_ok_iff _ _ _).mp resolves
  obtain ⟨lower, layered, rest⟩ := (except_bind_eq_ok_iff _ _ _).mp rest
  refine ⟨active, lower, chosen, layered, ?_⟩
  simp only at rest
  split at rest
  next kept =>
    cases rest
    exact ⟨kept, rfl⟩
  · cases rest

theorem layers_eq_ok {config : AppConfig} {environment : Environment} {active url : Option String}
    {lower : Layers} (layered : Settings.layers config environment active url = .ok lower) :
    ∃ given environmentUrl givenUrl, Settings.ofEnvironment environment = .ok given ∧
      Settings.ofUrl .environmentUrl (environment.lookup "PGQUERYGEN_DSN") = .ok environmentUrl ∧
      Settings.ofUrl .url url = .ok givenUrl ∧
      lower = [(.builtin, Settings.builtin), (.config, Settings.ofConfig config)] ++
        profileLayers config active ++ [(.environment, given)] ++ environmentUrl ++ givenUrl := by
  obtain ⟨given, givenRead, rest⟩ := (except_bind_eq_ok_iff _ _ _).mp layered
  obtain ⟨environmentUrl, environmentRead, rest⟩ := (except_bind_eq_ok_iff _ _ _).mp rest
  obtain ⟨givenUrl, urlRead, made⟩ := (except_bind_eq_ok_iff _ _ _).mp rest
  cases made
  exact ⟨given, environmentUrl, givenUrl, givenRead, environmentRead, urlRead, rfl⟩

theorem findSome?_cons_or {α β : Type} (given : α → Option β) (item : α) (items : List α) :
    (item :: items).findSome? given = (given item).or (items.findSome? given) := by
  cases first : given item <;> simp [first]

theorem Layers.merged_get_eq_pick (layers : Layers) (name : SettingName) :
    layers.merged.get name = layers.pick (·.get name) := by
  cases name <;> rfl

/-- Merging takes the levels downwards. -/
theorem merged_get {profile environmentUrl url : Layers} (profileAlone : profile.length ≤ 1)
    (environmentAlone : environmentUrl.length ≤ 1) (urlAlone : url.length ≤ 1)
    (builtin config environment flags : SettingsLayer) (name : SettingName) :
    (Layers.merged ([(.builtin, builtin), (.config, config)] ++ profile ++
        [(.environment, environment)] ++ environmentUrl ++ url ++ [(.flags, flags)])).get name =
      (flags.get name).or ((url.only.get name).or ((environmentUrl.only.get name).or
        ((environment.get name).or ((profile.only.get name).or
          ((config.get name).or (builtin.get name)))))) := by
  rw [Layers.merged_get_eq_pick, Layers.pick]
  simp only [List.reverse_append, List.reverse_cons, List.reverse_nil, List.nil_append,
    List.findSome?_append, Layers.findSome?_only profileAlone,
    Layers.findSome?_only environmentAlone, Layers.findSome?_only urlAlone, findSome?_cons_or,
    List.findSome?_nil, Option.or_none]

theorem some_getD_of_isSome {α : Type} {given : Option α} (set : given.isSome) (fallback : α) :
    some (given.getD fallback) = given := by
  obtain ⟨value, rfl⟩ := Option.isSome_iff_exists.mp set
  rfl

/-- A merged layer that leaves no built-in setting open is what is resolved. -/
theorem get_of_merged {merged : SettingsLayer}
    (set : ∀ name : SettingName, name.builtin?.isSome → (merged.get name).isSome)
    (active : Option String) (labels : List (String × String)) (name : SettingName) :
    ResolvedConfig.get
        { connection := merged.connection
          statementTimeout := merged.statementTimeout.getD builtinTimeout
          defaultFormat := merged.defaultFormat, activeProfile := active, sources := labels } name =
      merged.get name := by
  cases name with
  | user => rfl
  | password => rfl
  | defaultFormat => rfl
  | host => exact some_getD_of_isSome (set .host rfl) _
  | port => exact some_getD_of_isSome (set .port rfl) _
  | dbname => exact some_getD_of_isSome (set .dbname rfl) _
  | sslmode => exact some_getD_of_isSome (set .sslmode rfl) _
  | searchPath => exact some_getD_of_isSome (set .searchPath rfl) _
  | statementTimeout => exact some_getD_of_isSome (set .statementTimeout rfl) _

/-- Resolved settings are those of the levels, taken downwards. -/
theorem exists_levels {sources : SettingSources} {config : AppConfig} {resolved : ResolvedConfig}
    (reads : AppConfig.ReadFrom sources.config config)
    (resolves : Settings.resolve config sources.environment sources.profile sources.url
      sources.flags.layer = .ok resolved) :
    ∃ layerOf : SettingLevel → SettingsLayer,
      (∀ level name value, (layerOf level).get name = some value ↔
        sources.Gives level name value) ∧
      ∀ name, resolved.get name =
        SettingLevel.descending.findSome? fun level => (layerOf level).get name := by
  obtain ⟨active, lower, chosen, layered, -, rfl⟩ := resolve_eq_ok resolves
  obtain ⟨given, environmentUrl, givenUrl, givenRead, environmentRead, urlRead, rfl⟩ :=
    layers_eq_ok layered
  have merged := merged_get (profileLayers_length config active) (ofUrl_length environmentRead)
    (ofUrl_length urlRead) Settings.builtin (Settings.ofConfig config) given sources.flags.layer
  refine ⟨fun
    | .builtin => Settings.builtin
    | .config => saidLayer sources.config config
    | .profile => (profileLayers config active).only
    | .environment => given
    | .environmentUrl => environmentUrl.only
    | .url => givenUrl.only
    | .flags => sources.flags.layer, ?_, fun name => ?_⟩
  · intro level name value
    cases level with
    | builtin => rw [builtin_get, SettingSources.Gives]
    | config => exact saidLayer_get_iff reads name value
    | profile => exact profile_get_iff reads chosen name value
    | environment => exact ofEnvironment_get_iff givenRead name value
    | environmentUrl => exact ofUrl_get_iff environmentRead name value
    | url => exact ofUrl_get_iff urlRead name value
    | flags => rfl
  · rw [get_of_merged, merged, ofConfig_or_builtin reads]
    · simp only [SettingLevel.descending, findSome?_cons_or, List.findSome?_nil, Option.or_none]
    · intro name builtin
      rw [merged, builtin_get]
      simp [Option.isSome_or, builtin]

/-- Merged settings keep the rules when port and SSL mode are among the allowed ones. -/
theorem violations_eq_nil_iff {settings : ConnectionSettings} :
    Settings.violations settings = [] ↔
      (1 ≤ settings.port ∧ settings.port ≤ 65535) ∧ settings.sslmode ∈ SettingsLayer.sslModes := by
  have port : SettingsLayer.checkPort (.integer settings.port) =
      if 1 ≤ settings.port ∧ settings.port ≤ 65535 then .ok settings.port
      else breaks ("Invalid port: " ++ toString settings.port ++ ". Must be 1-65535") := rfl
  have mode : SettingsLayer.checkSslMode (.text settings.sslmode) =
      if SettingsLayer.sslModes.contains settings.sslmode then .ok settings.sslmode
      else breaks ("Invalid sslmode: '" ++ settings.sslmode ++ "'. Must be one of: " ++
        ", ".intercalate SettingsLayer.sslModes) := rfl
  unfold Settings.violations
  rw [port, mode]
  by_cases inRange : 1 ≤ settings.port ∧ settings.port ≤ 65535 <;>
    by_cases known : settings.sslmode ∈ SettingsLayer.sslModes <;>
    simp [inRange, known, under, breaks, refuse]

namespace SettingSources

/-- The table with the settings for generating. -/
def genTable (sources : SettingSources) : List (String × Datum) :=
  match sources.config.lookup "gen" with
  | some (.table members) => members
  | _ => []

/-- The value is a flag's, or else what the table says, or else what is built in. -/
def Chooses {α : Type} (sources : SettingSources) (flag : Option α) (name : String) (check : Check α)
    (builtin value : α) : Prop :=
  match flag with
  | some given => value = given
  | none => Fields.ReadsOr sources.genTable name builtin check value

/-- Every setting for generating is chosen so; an empty list of patterns is no flag. -/
structure ChoosesGen (sources : SettingSources) (flags : GenFlags) (settings : GenSettings) :
    Prop where
  queryGlobs : sources.Chooses (some flags.queryGlobs |>.filter (· ≠ [])) "query_globs"
    (list text) [] settings.queryGlobs
  schemaGlobs : sources.Chooses (some flags.schemaGlobs |>.filter (· ≠ [])) "schema_globs"
    (list text) [] settings.schemaGlobs
  outputDir : sources.Chooses (flags.outputDir.map some) "output_dir"
    (optional GenSettings.checkPath) none settings.outputDir
  keepGoing : sources.Chooses flags.keepGoing "keep_going" truth false settings.keepGoing

end SettingSources

theorem gen_readFrom {sources : SettingSources} {config : AppConfig}
    (reads : AppConfig.ReadFrom sources.config config) :
    GenSettings.ReadFrom sources.genTable config.gen := by
  have read := reads.gen
  unfold Fields.ReadsOr at read
  unfold SettingSources.genTable
  cases found : sources.config.lookup "gen" with
  | none =>
    simp only [found] at read
    rw [read]
    exact ⟨rfl, rfl, rfl, rfl, by simp⟩
  | some datum =>
    simp only [found] at read
    cases datum with
    | table members => exact GenSettings.check_eq_ok_iff.mp read
    | _ => cases read

theorem choose_fst {α : Type} [DecidableEq α] (name : String) (flag : Option α)
    (configured builtin : α) :
    (GenSettings.choose name flag configured builtin).1 = flag.getD configured := by
  cases flag with
  | some given => rfl
  | none =>
    by_cases same : configured = builtin
    · simp [GenSettings.choose, same]
    · simp [GenSettings.choose, same]

theorem chooses_of_reads {α : Type} [DecidableEq α] {sources : SettingSources} {name : String}
    {check : Check α} {builtin configured : α}
    (read : Fields.ReadsOr sources.genTable name builtin check configured) (flag : Option α)
    (flagName : String) :
    sources.Chooses flag name check builtin
      (GenSettings.choose flagName flag configured builtin).1 := by
  rw [choose_fst]
  cases flag with
  | some given => rfl
  | none => exact read

theorem gen_chooses {sources : SettingSources} {config : AppConfig}
    (reads : AppConfig.ReadFrom sources.config config) (flags : GenFlags) :
    sources.ChoosesGen flags (config.gen.resolve flags).settings := by
  have read := gen_readFrom reads
  have globs (given : List String) :
      (if given.isEmpty then none else some given) = (some given).filter (· ≠ []) := by
    cases given <;> rfl
  constructor
  · rw [← globs]
    exact chooses_of_reads read.queryGlobs _ "--query-glob"
  · rw [← globs]
    exact chooses_of_reads read.schemaGlobs _ "--schema-glob"
  · exact chooses_of_reads read.outputDir _ "--output-dir"
  · exact chooses_of_reads read.keepGoing _ "--keep-going"

/-- Settings that resolve have the values of the highest levels that give any, with port and SSL
mode in range; settings for generating are a flag's, the config file's or built in. -/
theorem Settings.layers_take_effect (sources : SettingSources) (config : AppConfig)
    (valid : AppConfig.check (.table sources.config) = .ok config) :
    (∀ resolved, Settings.resolve config sources.environment sources.profile sources.url
        sources.flags.layer = .ok resolved →
      (∀ name value, resolved.get name = some value ↔
        ∃ level, sources.HighestGives level name value) ∧
      (∀ name, resolved.get name = none ↔ ∀ level value, ¬ sources.Gives level name value) ∧
      (1 ≤ resolved.connection.port ∧ resolved.connection.port ≤ 65535) ∧
      resolved.connection.sslmode ∈
        ["disable", "allow", "prefer", "require", "verify-ca", "verify-full"]) ∧
    ∀ flags, sources.ChoosesGen flags (config.gen.resolve flags).settings := by
  have reads := AppConfig.check_eq_ok_iff.mp valid
  refine ⟨fun resolved resolves => ?_, gen_chooses reads⟩
  obtain ⟨layerOf, gives, taken⟩ := exists_levels reads resolves
  have unset (level : SettingLevel) (name : SettingName) :
      (layerOf level).get name = none ↔ ∀ value, ¬ sources.Gives level name value := by
    simp only [← gives, Option.eq_none_iff_forall_ne_some, ne_eq]
  have kept : Settings.violations resolved.connection = [] := by
    obtain ⟨active, lower, -, -, kept, rfl⟩ := resolve_eq_ok resolves
    exact kept
  obtain ⟨inRange, known⟩ := violations_eq_nil_iff.mp kept
  refine ⟨fun name value => ?_, fun name => ?_, inRange, ?_⟩
  · rw [taken, SettingLevel.findSome?_eq_some_iff]
    simp only [SettingSources.HighestGives, gives, unset]
    exact exists_congr fun level => and_congr_right fun _ =>
      ⟨fun nothing higher other rises => nothing higher rises other,
        fun nothing higher rises other => nothing higher other rises⟩
  · rw [taken, List.findSome?_eq_none_iff]
    simp only [unset, SettingLevel.mem_descending, true_implies]
  · revert known
    simp only [SettingsLayer.sslModes, List.mem_cons]
    tauto

theorem toOption_eq_some_iff {ε α : Type} {result : Except ε α} {value : α} :
    result.toOption = some value ↔ result = .ok value := by
  cases result <;> simp [Except.toOption]

/-- A profile with a URL, below a variable of the environment and a URL of its own. -/
def shelfSources : SettingSources where
  config :=
    [("statement_timeout", .integer 5), ("default_profile", .text "shelf"),
      ("profiles", .table [("shelf", .table
        [("host", .text "shelfhost"), ("dsn", .text "postgresql://ann@urlhost:5433/books")])])]
  environment := [("PGPORT", "6543")]
  url := some "postgresql://other/"
  flags := { schema := some (.inl "library, archive") }

/-- The environment gives the port, above the URL of the profile. -/
theorem layers_take_effect_shelf :
    ∃ config resolved, AppConfig.check (.table shelfSources.config) = .ok config ∧
      Settings.resolve config shelfSources.environment shelfSources.profile shelfSources.url
        shelfSources.flags.layer = .ok resolved ∧
      ∃ level, shelfSources.HighestGives level .port (6543 : Int) := by
  have run : ((AppConfig.check (.table shelfSources.config)).toOption.bind fun config =>
      (Settings.resolve config shelfSources.environment shelfSources.profile shelfSources.url
        shelfSources.flags.layer).toOption.map fun resolved => resolved.connection.port) =
      some 6543 := by decide +kernel
  obtain ⟨config, valid, rest⟩ := Option.bind_eq_some_iff.mp run
  obtain ⟨resolved, resolves, port⟩ := Option.map_eq_some_iff.mp rest
  have valid := toOption_eq_some_iff.mp valid
  have resolves := toOption_eq_some_iff.mp resolves
  have given := (Settings.layers_take_effect shelfSources config valid).1 resolved resolves
  exact ⟨config, resolved, valid, resolves, (given.1 .port (6543 : Int)).mp (congrArg some port)⟩

end QueryTyping
