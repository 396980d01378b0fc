import QueryTyping.Proofs.Admission
import QueryTyping.Settings.File

/-!
# What a config table says

An admitted config holds exactly what its table says, field by field, and what
is built in where the table says nothing (`AppConfig.check_eq_ok_iff`).  A
profile holds what its table says, and what its connection URL gives for the
names that the table leaves out (`Profile.layer_get_iff`).
-/

namespace QueryTyping

open Check

namespace SettingsLayer

instance decides_checkSslMode : Decides checkSslMode where
  decided datum := by
    refine decided_bind (Decides.decided datum) fun mode => ?_
    split
    · exact decided_ok _
    · exact decided_breaks _

instance decides_checkPort : Decides checkPort where
  decided datum := by
    refine decided_bind (Decides.decided datum) fun port => ?_
    split
    · exact decided_ok _
    · exact decided_breaks _

instance explains_checkSearchPath : Explains checkSearchPath where
  explained datum := by
    unfold checkSearchPath
    split
    · exact explained_ok _
    · refine explained_bind (explained_mapM _ fun item => ?_) fun _ => explained_ok _
      split
      · exact explained_ok _
      · simp [Explained]
    · exact Explains.explained _

theorem checkPort_eq_ok_iff {datum : Datum} {port : Int} :
    checkPort datum = .ok port ↔ integer datum = .ok port ∧ 1 ≤ port ∧ port ≤ 65535 := by
  simp only [checkPort, except_bind_eq_ok_iff]
  constructor
  · rintro ⟨value, read, judged⟩
    split at judged
    next range =>
      cases judged
      exact ⟨read, range⟩
    · cases judged
  · rintro ⟨read, range⟩
    refine ⟨port, read, ?_⟩
    rw [if_pos range]
    rfl

theorem checkSslMode_eq_ok_iff {datum : Datum} {mode : String} :
    checkSslMode datum = .ok mode ↔ text datum = .ok mode ∧ mode ∈ sslModes := by
  simp only [checkSslMode, except_bind_eq_ok_iff, List.contains_iff_mem]
  constructor
  · rintro ⟨value, read, judged⟩
    split at judged
    next known =>
      cases judged
      exact ⟨read, known⟩
    · cases judged
  · rintro ⟨read, known⟩
    refine ⟨mode, read, ?_⟩
    rw [if_pos known]
    rfl

end SettingsLayer

instance Check.explains_map {α β : Type} {check : Check α} {f : α → β} [Explains check] :
    Explains (fun datum => (check datum).map f) where
  explained datum := explained_map f (Explains.explained datum)

instance GenSettings.decides_checkPath : Decides GenSettings.checkPath where
  decided datum := by
    unfold GenSettings.checkPath
    split
    · exact decided_ok _
    · exact decided_refuse _ _

instance SettingsLayer.keeps_connectionFields {members : List (String × Datum)} :
    (connectionFields members).Keeps := by
  unfold connectionFields
  infer_instance

namespace SettingName

/-- What the value of a setting is. -/
def Value : SettingName → Type
  | host => String
  | port => Int
  | dbname => String
  | user => String
  | password => String
  | sslmode => String
  | searchPath => List String
  | statementTimeout => Double
  | defaultFormat => String

/-- How a value is read from data. -/
def check : (name : SettingName) → Check name.Value
  | host => Check.text
  | port => SettingsLayer.checkPort
  | dbname => Check.text
  | user => Check.text
  | password => Check.text
  | sslmode => SettingsLayer.checkSslMode
  | searchPath => SettingsLayer.checkSearchPath
  | statementTimeout => Check.number
  | defaultFormat => Check.text

/-- The table gives the setting this value. -/
def SaidIn (members : List (String × Datum)) (name : SettingName) (value : name.Value) : Prop :=
  ∃ datum, members.lookup name.text = some datum ∧ name.check datum = .ok value

end SettingName

/-- What a layer gives a setting. -/
def SettingsLayer.get (layer : SettingsLayer) : (name : SettingName) → Option name.Value
  | .host => layer.host
  | .port => layer.port
  | .dbname => layer.dbname
  | .user => layer.user
  | .password => layer.password
  | .sslmode => layer.sslmode
  | .searchPath => layer.searchPath
  | .statementTimeout => layer.statementTimeout
  | .defaultFormat => layer.defaultFormat

/-- The settings of a connection are what the table gives by their names. -/
theorem SettingsLayer.connectionFields_gives {members : List (String × Datum)}
    {layer : SettingsLayer} (admitted : (connectionFields members).Admits layer)
    {name : SettingName} (listed : name.text ∈ connectionNames) :
    Fields.Gives members name.text name.check (layer.get name) := by
  unfold connectionFields at admitted
  simp only [Fields.admits_bind_iff, Fields.admits_fieldOr_iff, Fields.admits_pure_iff] at admitted
  obtain ⟨host, hostRead, port, portRead, dbname, dbnameRead, user, userRead, password,
    passwordRead, sslmode, sslmodeRead, searchPath, searchPathRead, rfl⟩ := admitted
  have refusesNull : ∀ value, text .null ≠ .ok value := by simp [text, refuse]
  cases name with
  | host => exact hostRead.gives
  | port => exact portRead.gives
  | dbname => exact dbnameRead.gives
  | user => exact userRead.gives_optional refusesNull
  | password => exact passwordRead.gives_optional refusesNull
  | sslmode => exact sslmodeRead.gives
  | searchPath => exact searchPathRead.gives
  | statementTimeout => exact absurd listed (by decide)
  | defaultFormat => exact absurd listed (by decide)

theorem SettingsLayer.connectionFields_leaves {members : List (String × Datum)}
    {layer : SettingsLayer} (admitted : (connectionFields members).Admits layer) :
    layer.statementTimeout = none ∧ layer.defaultFormat = none := by
  unfold connectionFields at admitted
  simp only [Fields.admits_bind_iff, Fields.admits_pure_iff] at admitted
  obtain ⟨host, -, port, -, dbname, -, user, -, password, -, sslmode, -, searchPath, -, rfl⟩ :=
    admitted
  exact ⟨rfl, rfl⟩

theorem lookup_eq_none_of_unlisted {members : List (String × Datum)} {names : List String}
    (listed : ∀ member ∈ members, member.1 ∈ names) {name : String} (unlisted : name ∉ names) :
    members.lookup name = none := by
  rw [List.lookup_eq_none_iff]
  intro member inTable
  have known := listed member inTable
  simp only [bne_iff_ne, ne_eq]
  rintro rfl
  exact unlisted known

/-- The URL gives the setting this value. -/
def ConnectionUrl.Gives (url : String) (name : SettingName) (value : name.Value) : Prop :=
  ∃ fields, ConnectionUrl.fields url = .ok fields ∧ fields.layer.get name = some value

theorem lookup_filter_name {α : Type} (members : List (String × α)) (keep : String → Bool)
    (name : String) :
    (members.filter fun member => keep member.1).lookup name =
      if keep name then members.lookup name else none := by
  induction members with
  | nil => simp
  | cons member members ih =>
    obtain ⟨key, datum⟩ := member
    by_cases same : name = key
    · subst same
      by_cases kept : keep name
      · simp [kept]
      · rw [List.filter_cons_of_neg (by simpa using kept), ih]
        simp [kept]
    · have other : (name == key) = false := by simpa using same
      by_cases kept : keep key <;> simp [kept, List.lookup_cons, other, ih]

/-- An entry without a value is not in the table, and the others are. -/
theorem lookup_filterMap_given {α : Type} (entries : List (String × Option α))
    (distinct : (entries.map (·.1)).Nodup) (name : String) :
    (entries.filterMap fun (key, value) => value.map fun value => (key, value)).lookup name =
      (entries.lookup name).join := by
  induction entries with
  | nil => rfl
  | cons entry entries ih =>
    obtain ⟨key, value⟩ := entry
    obtain ⟨fresh, distinct⟩ := List.nodup_cons.mp distinct
    have others := ih distinct
    by_cases same : name = key
    · subst same
      have absent : entries.lookup name = none := by
        rw [List.lookup_eq_none_iff]
        intro entry inTable
        simp only [bne_iff_ne, ne_eq]
        intro same
        exact fresh (List.mem_map.mpr ⟨entry, inTable, same.symm⟩)
      cases value <;> simp [others, absent]
    · have other : (name == key) = false := by simpa using same
      cases value <;> simp [List.lookup_cons, other, others]

namespace Profile

/-- The names that a profile's table can have. -/
def names : List String := SettingsLayer.connectionNames ++ ["dsn", "statement_timeout"]

/-- A profile is what its table says once the URL's settings stand in it. -/
theorem check_eq_ok {members : List (String × Datum)} {profile : Profile}
    (checked : Profile.check (.table members) = .ok profile) :
    ∃ filled, withUrl members = .ok filled ∧ (∀ member ∈ filled, member.1 ∈ names) ∧
      ∀ name : SettingName,
        Fields.Gives filled name.text name.check (profile.layer.get name) := by
  obtain ⟨filled, withFields, admitted⟩ := (except_bind_eq_ok_iff _ _ _).mp checked
  refine ⟨filled, withFields, ?_⟩
  rw [model_eq_ok_iff] at admitted
  simp only [Fields.admits_bind_iff, Fields.admits_fieldOr_iff, Fields.admits_pure_iff] at admitted
  obtain ⟨layer, connection, url, urlRead, timeout, timeoutRead, ⟨⟩, listed, rfl⟩ :=
    admitted
  have known := Fields.admits_nothingElse_iff.mp listed
  refine ⟨known, fun name => ?_⟩
  have refusesNull : ∀ value, number .null ≠ .ok value := by simp [number, refuse]
  cases name with
  | statementTimeout => exact timeoutRead.gives_optional refusesNull
  | defaultFormat =>
    have absent := lookup_eq_none_of_unlisted known
      (by decide : SettingName.defaultFormat.text ∉ names)
    have unset : layer.defaultFormat = none := (SettingsLayer.connectionFields_leaves connection).2
    constructor <;> simp [SettingsLayer.get, unset, absent]
  | _ => exact SettingsLayer.connectionFields_gives connection (by decide)

/-- The entry of a table for a value of a URL. -/
def urlDatum : (name : SettingName) → name.Value → Datum
  | .host, value => .text value
  | .port, value => .integer value
  | .dbname, value => .text value
  | .user, value => .text value
  | .password, value => .text value
  | .sslmode, value => .text value
  | .searchPath, value => .list (value.map .text)
  | .statementTimeout, value => .number value
  | .defaultFormat, value => .text value

theorem urlMembers_lookup (fields : UrlFields) (name : SettingName) :
    (urlMembers fields).lookup name.text = (fields.layer.get name).map (urlDatum name) := by
  unfold urlMembers
  rw [lookup_filterMap_given _ (by simp)]
  cases name <;>
    simp [SettingName.text, SettingsLayer.get, UrlFields.layer, List.lookup_cons]
  case port => cases fields.port <;> rfl
  all_goals rfl

/-- What is said by name counts, and a URL of the table counts for what is not. -/
def Gives (members : List (String × Datum)) (name : SettingName) (value : name.Value) : Prop :=
  name.SaidIn members value ∨
    members.lookup name.text = none ∧
      ∃ url, members.lookup "dsn" = some (.text url) ∧ url ≠ "" ∧ ConnectionUrl.Gives url name value

/-- A table is filled from its URL, if it has one. -/
theorem withUrl_eq_ok {members filled : List (String × Datum)}
    (filling : withUrl members = .ok filled) :
    (filled = members ∧ ∀ url, members.lookup "dsn" = some (.text url) → url = "") ∨
      ∃ url fields, members.lookup "dsn" = some (.text url) ∧ url ≠ "" ∧
        ConnectionUrl.fields url = .ok fields ∧
        ∀ name : String, filled.lookup name =
          (members.lookup name).or ((urlMembers fields).lookup name) := by
  unfold withUrl at filling
  split at filling
  next url found =>
    split at filling
    next blank =>
      cases filling
      refine .inl ⟨rfl, fun other same => ?_⟩
      rw [found] at same
      cases same
      simpa using blank
    next written =>
      split at filling
      next fields read =>
        cases filling
        refine .inr ⟨url, fields, found, by simpa using written, read, fun name => ?_⟩
        have added := lookup_filter_name (urlMembers fields)
          (fun name => (members.lookup name).isNone) name
        rw [List.lookup_append, added]
        cases members.lookup name <;> simp
      · cases filling
      · cases filling
  next datum noText found =>
    split at filling
    · cases filling
    · cases filling
      refine .inl ⟨rfl, fun url same => ?_⟩
      rw [found] at same
      cases same
      exact absurd rfl (noText url)
  next absent =>
    cases filling
    refine .inl ⟨rfl, fun url same => ?_⟩
    rw [absent] at same
    cases same

theorem check_urlDatum {fields : UrlFields} {name : SettingName} {value other : name.Value}
    (given : fields.layer.get name = some value)
    (checked : name.check (urlDatum name value) = .ok other) : other = value := by
  cases name with
  | port =>
    obtain ⟨read, -⟩ := SettingsLayer.checkPort_eq_ok_iff.mp checked
    cases read
    rfl
  | sslmode =>
    obtain ⟨read, -⟩ := SettingsLayer.checkSslMode_eq_ok_iff.mp checked
    cases read
    rfl
  | searchPath => cases given
  | statementTimeout => cases given
  | defaultFormat => cases given
  | _ =>
    cases checked
    rfl

theorem urlDatum_ne_null (name : SettingName) (value : name.Value) : urlDatum name value ≠ .null := by
  cases name <;> exact nofun

/-- A profile gives what its table says by name, and what its URL gives besides. -/
theorem layer_get_iff {members : List (String × Datum)} {profile : Profile}
    (checked : Profile.check (.table members) = .ok profile) (name : SettingName)
    (value : name.Value) : profile.layer.get name = some value ↔ Gives members name value := by
  obtain ⟨filled, filling, known, gives⟩ := check_eq_ok checked
  rw [(gives name).eq_some_iff]
  obtain ⟨rfl, urlless⟩ | ⟨url, fields, found, written, read, lookups⟩ := withUrl_eq_ok filling
  · constructor
    · exact .inl
    · rintro (byName | ⟨-, url, found, written, -⟩)
      · exact byName
      · exact absurd (urlless url found) written
  · have looked := lookups name.text
    rw [urlMembers_lookup] at looked
    cases byName : members.lookup name.text with
    | some datum => simp [looked, byName, Gives, SettingName.SaidIn]
    | none =>
      rw [byName, Option.none_or] at looked
      constructor
      · rintro ⟨datum, inFilled, read'⟩
        obtain ⟨given, fromUrl, rfl⟩ := Option.map_eq_some_iff.mp (looked.symm.trans inFilled)
        refine .inr ⟨byName, url, found, written, fields, read, ?_⟩
        rw [check_urlDatum fromUrl read']
        exact fromUrl
      · rintro (⟨datum, inTable, -⟩ | ⟨-, other, otherFound, -, otherFields, otherRead, fromUrl⟩)
        · rw [byName] at inTable
          cases inTable
        · rw [found] at otherFound
          cases otherFound
          rw [read] at otherRead
          cases otherRead
          rw [fromUrl, Option.map_some] at looked
          obtain ⟨admitted, read'⟩ :=
            (gives name).admitted _ looked (urlDatum_ne_null name value)
          refine ⟨_, looked, ?_⟩
          rw [read', check_urlDatum fromUrl read']

theorem explained_withUrl (members : List (String × Datum)) : Explained (withUrl members) := by
  unfold withUrl
  split
  · split
    · exact explained_ok _
    · split
      · exact explained_ok _
      · exact explained_breaks _
      · simp [Explained]
  · split
    · simp [Explained]
    · exact explained_ok _
  · exact explained_ok _

instance explains_check : Explains Profile.check where
  explained datum := by
    unfold Profile.check
    split
    · exact explained_bind (explained_withUrl _) fun _ => Explains.explained _
    · exact Explains.explained _

end Profile

namespace GenSettings

/-- The settings for generating are what the table says, and built in where it says nothing. -/
structure ReadFrom (members : List (String × Datum)) (settings : GenSettings) : Prop where
  queryGlobs : Fields.ReadsOr members "query_globs" [] (list text) settings.queryGlobs
  schemaGlobs : Fields.ReadsOr members "schema_globs" [] (list text) settings.schemaGlobs
  outputDir : Fields.ReadsOr members "output_dir" none (optional checkPath) settings.outputDir
  keepGoing : Fields.ReadsOr members "keep_going" false truth settings.keepGoing
  known : ∀ member ∈ members,
    member.1 ∈ ["query_globs", "schema_globs", "output_dir", "keep_going"]

theorem check_eq_ok_iff {members : List (String × Datum)} {settings : GenSettings} :
    GenSettings.check (.table members) = .ok settings ↔ ReadFrom members settings := by
  unfold GenSettings.check GenSettings.fields
  rw [model_eq_ok_iff]
  simp only [Fields.admits_bind_iff, Fields.admits_fieldOr_iff, Fields.admits_pure_iff]
  constructor
  · rintro ⟨_, ⟨queryGlobs, queryRead, schemaGlobs, schemaRead, outputDir, outputRead, keepGoing,
      keepRead, rfl⟩, ⟨⟩, listed, rfl⟩
    exact ⟨queryRead, schemaRead, outputRead, keepRead, Fields.admits_nothingElse_iff.mp listed⟩
  · rintro ⟨queryRead, schemaRead, outputRead, keepRead, known⟩
    exact ⟨_, ⟨_, queryRead, _, schemaRead, _, outputRead, _, keepRead, rfl⟩, (),
      Fields.admits_nothingElse_iff.mpr known, rfl⟩

instance explains_check : Explains GenSettings.check := by
  unfold GenSettings.check GenSettings.fields
  infer_instance

end GenSettings

namespace AppConfig

/-- The config is what the table says, and built in where it says nothing. -/
structure ReadFrom (members : List (String × Datum)) (config : AppConfig) : Prop where
  timeout : Fields.ReadsOr members "statement_timeout" builtinTimeout number config.statementTimeout
  format : Fields.ReadsOr members "default_format" none (optional text) config.defaultFormat
  defaultProfile :
    Fields.ReadsOr members "default_profile" none (optional text) config.defaultProfile
  profiles : Fields.ReadsOr members "profiles" [] (dictionary Profile.check) config.profiles
  gen : Fields.ReadsOr members "gen" {} GenSettings.check config.gen
  known : ∀ member ∈ members,
    member.1 ∈ ["statement_timeout", "default_format", "default_profile", "profiles", "gen"]

theorem check_eq_ok_iff {members : List (String × Datum)} {config : AppConfig} :
    AppConfig.check (.table members) = .ok config ↔ ReadFrom members config := by
  unfold AppConfig.check
  rw [model_eq_ok_iff]
  simp only [Fields.admits_bind_iff, Fields.admits_fieldOr_iff, Fields.admits_pure_iff]
  constructor
  · rintro ⟨timeout, timeoutRead, format, formatRead, name, nameRead, profiles, profilesRead, gen,
      genRead, ⟨⟩, listed, rfl⟩
    exact ⟨timeoutRead, formatRead, nameRead, profilesRead, genRead,
      Fields.admits_nothingElse_iff.mp listed⟩
  · rintro ⟨timeoutRead, formatRead, nameRead, profilesRead, genRead, known⟩
    exact ⟨_, timeoutRead, _, formatRead, _, nameRead, _, profilesRead, _, genRead, (),
      Fields.admits_nothingElse_iff.mpr known, rfl⟩

/-- The table of a profile. -/
def profileTable? (members : List (String × Datum)) (name : String) :
    Option (List (String × Datum)) := do
  match ← members.lookup "profiles" with
  | .table profiles =>
    match ← profiles.lookup name with
    | .table table => some table
    | _ => none
  | _ => none

theorem profileTable?_eq_some_iff {members table : List (String × Datum)} {name : String} :
    profileTable? members name = some table ↔
      ∃ profiles, members.lookup "profiles" = some (.table profiles) ∧
        profiles.lookup name = some (.table table) := by
  unfold profileTable?
  cases members.lookup "profiles" with
  | none => simp
  | some datum =>
    cases datum with
    | table profiles =>
      cases found : profiles.lookup name with
      | none => simp [found]
      | some datum => cases datum <;> simp [found]
    | _ => simp

/-- A profile of the config is an admitted table among those of the file. -/
theorem ReadFrom.lookup_profile {members : List (String × Datum)} {config : AppConfig}
    (reads : ReadFrom members config) (name : String) (profile : Profile) :
    config.profiles.lookup name = some profile ↔
      ∃ table, profileTable? members name = some table ∧
        Profile.check (.table table) = .ok profile := by
  have profilesRead := reads.profiles
  unfold Fields.ReadsOr at profilesRead
  cases found : members.lookup "profiles" with
  | none =>
    simp only [found] at profilesRead
    simp [profilesRead, profileTable?, found]
  | some datum =>
    simp only [found] at profilesRead
    cases datum with
    | table profiles =>
      rw [lookup_dictionary profilesRead]
      constructor
      · rintro ⟨datum, inTable, checked⟩
        cases datum with
        | table table =>
          exact ⟨table, profileTable?_eq_some_iff.mpr ⟨profiles, found, inTable⟩, checked⟩
        | _ => cases checked
      · rintro ⟨table, isTable, checked⟩
        obtain ⟨others, otherFound, inTable⟩ := profileTable?_eq_some_iff.mp isTable
        rw [found] at otherFound
        cases otherFound
        exact ⟨_, inTable, checked⟩
    | _ => cases profilesRead

/-- A document gives the config that its table is admitted as, with paths taken from its own. -/
theorem ofDocument_eq_ok_iff {path : FilePath} {document : String} {config : AppConfig} :
    ofDocument path document = .ok config ↔
      ∃ members written, Toml.parse? document = some members ∧
        AppConfig.check (.table members) = .ok written ∧
        config = { written with gen := written.gen.anchored path.parent } := by
  unfold ofDocument Toml.parse?
  rcases Toml.parse document with (- | digits) | members
  · simp [Except.toOption]
  · simp [Except.toOption]
  · rcases checked : AppConfig.check (.table members) with refusal | written
    · have refused : ∀ written,
          validate "AppConfig" AppConfig.check (.table members) ≠ .ok written := by
        intro written valid
        rw [validate_eq_ok_iff, checked] at valid
        cases valid
      simp only [Except.toOption, Option.some.injEq]
      split <;> simp_all
    · have valid : validate "AppConfig" AppConfig.check (.table members) = .ok written :=
        validate_eq_ok_iff.mpr checked
      simp [Except.toOption, valid, checked, eq_comm]

end AppConfig

end QueryTyping
