import QueryTyping.Proofs.MaskedUrls
import QueryTyping.Proofs.SettingLayers
import QueryTyping.Settings.Pages

/-!
# Settings without their passwords

A password can stand in a profile's table, in a URL, in the environment and
among the flags.  The pages that show settings depend on them only as far as
they are without their passwords (`Settings.page_masked`,
`AppConfig.profilesPage_masked`).  Where two sources differ only in passwords,
what is read from them is the same without passwords: profiles and config files
(`AppConfig.masked_eq_of_fields`), and the settings that are resolved from them
(`Settings.resolve_masked_eq`).
-/

namespace QueryTyping

open Check

namespace SettingsLayer

/-- The layer, with the password made blank. -/
def masked (layer : SettingsLayer) : SettingsLayer :=
  { layer with password := layer.password.map fun _ => "" }

end SettingsLayer

namespace SettingName

/-- The value of a setting, with a password made blank. -/
def mask : (name : SettingName) → name.Value → name.Value
  | .password, _ => ""
  | _, value => value

end SettingName

namespace SettingsLayer

theorem masked_get (layer : SettingsLayer) (name : SettingName) :
    layer.masked.get name = (layer.get name).map name.mask := by
  cases name
  case password => rfl
  all_goals exact (congrFun Option.map_id _).symm

theorem ext_get {layer other : SettingsLayer} (same : ∀ name, layer.get name = other.get name) :
    layer = other := by
  cases layer
  cases other
  simp only [mk.injEq]
  exact ⟨same .host, same .port, same .dbname, same .user, same .password, same .sslmode,
    same .searchPath, same .statementTimeout, same .defaultFormat⟩

end SettingsLayer

/-- The profile, with its password made blank and without its URL. -/
def Profile.masked (profile : Profile) : Profile := { layer := profile.layer.masked, url := none }

/-- The config, with the passwords of its profiles made blank. -/
def AppConfig.masked (config : AppConfig) : AppConfig :=
  { config with profiles := config.profiles.map fun entry => (entry.1, entry.2.masked) }

/-- The settings in effect, with the password made blank. -/
def ResolvedConfig.masked (config : ResolvedConfig) : ResolvedConfig :=
  { config with connection :=
      { config.connection with password := config.connection.password.map fun _ => "" } }

/-- The layers, with their passwords made blank. -/
def Layers.masked (layers : Layers) : Layers :=
  layers.map fun (origin, layer) => (origin, layer.masked)

namespace Layers

theorem pick_masked {α : Type} {setting : SettingsLayer → Option α} {mask : α → α}
    (each : ∀ layer, setting layer.masked = (setting layer).map mask) (layers : Layers) :
    layers.masked.pick setting = (layers.pick setting).map mask := by
  unfold pick masked
  rw [← List.map_reverse, List.findSome?_map, List.map_findSome?]
  refine congrArg (fun given => layers.reverse.findSome? given) (funext fun layer => ?_)
  exact each layer.2

theorem merged_masked (layers : Layers) : layers.masked.merged = layers.merged.masked := by
  apply SettingsLayer.ext_get
  intro name
  rw [SettingsLayer.masked_get, merged_get_eq_pick, merged_get_eq_pick]
  exact pick_masked (fun layer => layer.masked_get name) layers

theorem isGiven_masked (layer : SettingsLayer) (name : SettingName) :
    name.isGiven layer.masked = name.isGiven layer := by
  cases name
  case password => exact Option.isSome_map
  all_goals rfl

theorem sources_masked (layers : Layers) : layers.masked.sources = layers.sources := by
  have source (name : SettingName) : layers.masked.source? name = layers.source? name := by
    unfold source? masked
    rw [← List.map_reverse, List.find?_map, Option.map_map]
    have given : (fun layer : Origin × SettingsLayer => name.isGiven layer.2.masked) =
        fun layer => name.isGiven layer.2 :=
      funext fun layer => isGiven_masked layer.2 name
    exact congrArg (fun p => (layers.reverse.find? p).map fun layer => layer.1.label name) given
  unfold sources
  simp only [source]

end Layers

theorem Settings.page_masked (config : ResolvedConfig) (gen : ResolvedGenSettings)
    (location : FilePath) : page config.masked gen location = page config gen location := by
  have password : config.masked.shownPassword = config.shownPassword := by
    unfold ResolvedConfig.shownPassword
    exact if_congr (by simp [ResolvedConfig.masked]) rfl rfl
  unfold page connectionLines
  rw [password]
  rfl

namespace AppConfig

theorem gen_masked (config : AppConfig) : config.masked.gen = config.gen := rfl

theorem markedProfile_masked (config : AppConfig) (environment : Environment)
    (asked : Option String) :
    config.masked.markedProfile environment asked = config.markedProfile environment asked := rfl

theorem profilesPage_masked (config : AppConfig) (active : Option String) (location : FilePath) :
    config.masked.profilesPage active location = config.profilesPage active location := by
  have sorted : (config.profiles.map fun entry => (entry.1, entry.2.masked)).mergeSort
        (fun a b => a.1 ≤ b.1) =
      (config.profiles.mergeSort fun a b => a.1 ≤ b.1).map fun entry =>
        (entry.1, entry.2.masked) := by
    refine (List.map_mergeSort ?_).symm
    intro one _ other _
    rfl
  unfold profilesPage masked
  simp only [List.isEmpty_map, sorted, List.flatMap_map]
  rfl

end AppConfig

/-- Lists with the same names in the same order, and related values under them. -/
def Entrywise {α : Type} (related : String → α → α → Prop) (entries others : List (String × α)) :
    Prop :=
  List.Forall₂ (fun entry other => entry.1 = other.1 ∧ related entry.1 entry.2 other.2)
    entries others

namespace Entrywise

variable {α : Type} {related : String → α → α → Prop} {entries others : List (String × α)}

theorem lookup (each : Entrywise related entries others) (name : String) :
    Option.Rel (related name) (entries.lookup name) (others.lookup name) := by
  induction each with
  | nil => exact .none
  | @cons entry other entries others first _ ih =>
    obtain ⟨key, value⟩ := entry
    obtain ⟨_, another⟩ := other
    obtain ⟨rfl, first⟩ := first
    by_cases same : name = key
    · subst same
      simpa using first
    · have unlike : (name == key) = false := by simpa using same
      simpa only [List.lookup_cons, unlike] using ih

theorem of_some (each : Entrywise related entries others) {name : String} {value : α}
    (found : entries.lookup name = some value) :
    ∃ other, others.lookup name = some other ∧ related name value other := by
  have looked := each.lookup name
  rw [found] at looked
  generalize others.lookup name = result at looked
  cases looked with
  | some first => exact ⟨_, rfl, first⟩

theorem of_none (each : Entrywise related entries others) {name : String}
    (absent : entries.lookup name = none) : others.lookup name = none := by
  have looked := each.lookup name
  rw [absent] at looked
  generalize others.lookup name = result at looked
  cases looked
  rfl

theorem symm (turned : ∀ {name value other}, related name value other → related name other value)
    (each : Entrywise related entries others) : Entrywise related others entries := by
  refine List.Forall₂.flip (each.imp ?_)
  rintro ⟨key, value⟩ ⟨_, other⟩ ⟨rfl, first⟩
  exact ⟨rfl, turned first⟩

end Entrywise

/-- Two texts under a name: the same, two passwords under the one name for them, or two URLs that
differ in a password under the other. -/
inductive SameText (passwordName urlName name : String) : String → String → Prop
  | same (s : String) : SameText passwordName urlName name s s
  | password (named : name = passwordName) (s other : String) :
      SameText passwordName urlName name s other
  | url (named : name = urlName) {url other : String} (alike : ConnectionUrl.Alike url other) :
      SameText passwordName urlName name url other

namespace SameText

variable {passwordName urlName name : String} {entries others : List (String × String)}

theorem symm {s other : String} (same : SameText passwordName urlName name s other) :
    SameText passwordName urlName name other s := by
  cases same with
  | same => exact .same s
  | password named => exact .password named other s
  | url named alike => exact .url named alike.symm

section Lookup

variable (each : Entrywise (SameText passwordName urlName) entries others)

include each

theorem lookup_eq {name : String} (noPassword : name ≠ passwordName) (noUrl : name ≠ urlName) :
    entries.lookup name = others.lookup name := by
  cases found : entries.lookup name with
  | none => exact (each.of_none found).symm
  | some s =>
    obtain ⟨other, foundOther, same⟩ := each.of_some found
    cases same with
    | same => exact foundOther.symm
    | password named => exact absurd named noPassword
    | url named => exact absurd named noUrl

theorem map_lookup_password :
    (entries.lookup passwordName).map (fun _ => "") =
      (others.lookup passwordName).map fun _ => "" := by
  cases found : entries.lookup passwordName with
  | none => rw [each.of_none found]
  | some s =>
    obtain ⟨other, foundOther, -⟩ := each.of_some found
    rw [foundOther]
    rfl

theorem lookup_url (distinct : urlName ≠ passwordName) :
    Option.Rel ConnectionUrl.Alike (entries.lookup urlName) (others.lookup urlName) := by
  cases found : entries.lookup urlName with
  | none =>
    rw [each.of_none found]
    exact .none
  | some s =>
    obtain ⟨other, foundOther, same⟩ := each.of_some found
    rw [foundOther]
    cases same with
    | same => exact .some (.inl rfl)
    | password named => exact absurd named distinct
    | url _ alike => exact .some alike

end Lookup

end SameText

namespace Profile

/-- Two values in a profile's table: the same, or texts that are the same but for a password. -/
inductive SameField (name : String) : Datum → Datum → Prop
  | same (datum : Datum) : SameField name datum datum
  | text {s other : String} (same : SameText "password" "dsn" name s other) :
      SameField name (.text s) (.text other)

/-- Two profiles as a config file writes them. -/
inductive Same : Datum → Datum → Prop
  | same (datum : Datum) : Same datum datum
  | table {members others : List (String × Datum)} (fields : Entrywise SameField members others) :
      Same (.table members) (.table others)

theorem SameField.symm {name : String} {datum other : Datum} (same : SameField name datum other) :
    SameField name other datum := by
  cases same with
  | same => exact .same datum
  | text same => exact .text same.symm

section Tables

variable {members others : List (String × Datum)} {profile another : Profile}
  (fields : Entrywise SameField members others)
  (checked : Profile.check (.table members) = .ok profile)
  (checkedOther : Profile.check (.table others) = .ok another)

include fields in
theorem saidIn_same {name : SettingName} {value : name.Value}
    (said : name.SaidIn members value) :
    ∃ other, name.SaidIn others other ∧ name.mask other = name.mask value := by
  obtain ⟨datum, found, read⟩ := said
  obtain ⟨other, foundOther, same⟩ := fields.of_some found
  cases same with
  | same => exact ⟨value, ⟨datum, foundOther, read⟩, rfl⟩
  | text same =>
    cases same with
    | same => exact ⟨value, ⟨_, foundOther, read⟩, rfl⟩
    | password named =>
      cases name with
      | password => exact ⟨_, ⟨_, foundOther, rfl⟩, rfl⟩
      | _ => exact absurd named (by decide)
    | url named => cases name <;> exact absurd named (by decide)

theorem url_read_of_check {members : List (String × Datum)} {profile : Profile}
    (checked : Profile.check (.table members) = .ok profile) {url : String}
    (found : members.lookup "dsn" = some (.text url)) (filled : url ≠ "") :
    ∃ fields, ConnectionUrl.fields url = .ok fields := by
  obtain ⟨table, filling, -⟩ := check_eq_ok checked
  obtain ⟨-, blank⟩ | ⟨other, fields, otherFound, -, read, -⟩ := withUrl_eq_ok filling
  · exact absurd (blank url found) filled
  · rw [found] at otherFound
    cases otherFound
    exact ⟨fields, read⟩

include fields checkedOther in
theorem gives_same {name : SettingName} {value : name.Value} (gives : Gives members name value) :
    ∃ other, Gives others name other ∧ name.mask other = name.mask value := by
  obtain said | ⟨unsaid, url, found, filled, given, read, fromUrl⟩ := gives
  · obtain ⟨other, saidOther, same⟩ := saidIn_same fields said
    exact ⟨other, .inl saidOther, same⟩
  · obtain ⟨datum, foundOther, field⟩ := fields.of_some found
    obtain ⟨other, rfl, alike⟩ : ∃ other, datum = .text other ∧
        ConnectionUrl.Alike url other := by
      cases field with
      | same => exact ⟨url, rfl, .inl rfl⟩
      | text same =>
        cases same with
        | same => exact ⟨url, rfl, .inl rfl⟩
        | password named => exact absurd named (by decide)
        | url _ alike => exact ⟨_, rfl, alike⟩
    -- The other URL is read too, or its table would not be admitted.
    have filledOther := alike.ne_empty filled
    obtain ⟨givenOther, readOther⟩ := url_read_of_check checkedOther foundOther filledOther
    have masked : given.layer.masked = givenOther.layer.masked :=
      congrArg UrlFields.layer (alike.masked_eq read readOther)
    have maskedGet := congrArg (·.get name) masked
    simp only [SettingsLayer.masked_get, fromUrl, Option.map_some] at maskedGet
    obtain ⟨value', fromOther, same⟩ := Option.map_eq_some_iff.mp maskedGet.symm
    exact ⟨value', .inr ⟨fields.of_none unsaid, other, foundOther, filledOther, givenOther,
      readOther, fromOther⟩, same⟩

include fields checked checkedOther in
/-- Profiles that differ only in passwords are the same without them. -/
theorem masked_eq_of_fields : profile.masked = another.masked := by
  have masked : profile.layer.masked = another.layer.masked := by
    apply SettingsLayer.ext_get
    intro name
    rw [SettingsLayer.masked_get, SettingsLayer.masked_get]
    cases given : profile.layer.get name with
    | some value =>
      obtain ⟨other, givesOther, same⟩ :=
        gives_same fields checkedOther ((layer_get_iff checked name value).mp given)
      rw [(layer_get_iff checkedOther name other).mpr givesOther, Option.map_some, Option.map_some,
        same]
    | none =>
      cases givenOther : another.layer.get name with
      | none => rfl
      | some other =>
        obtain ⟨value, gives, -⟩ := gives_same (fields.symm SameField.symm) checked
          ((layer_get_iff checkedOther name other).mp givenOther)
        rw [(layer_get_iff checked name value).mpr gives] at given
        cases given
  unfold Profile.masked
  rw [masked]

end Tables

theorem Same.masked_eq {datum other : Datum} (same : Same datum other) {profile another : Profile}
    (checked : Profile.check datum = .ok profile)
    (checkedOther : Profile.check other = .ok another) : profile.masked = another.masked := by
  cases same with
  | same =>
    rw [checked] at checkedOther
    cases checkedOther
    rfl
  | table fields => exact masked_eq_of_fields fields checked checkedOther

end Profile

/-- Two values at the top of a config file: the same, or two tables of profiles that differ only in
passwords. -/
inductive AppConfig.SameField (name : String) : Datum → Datum → Prop
  | same (datum : Datum) : SameField name datum datum
  | profiles (named : name = "profiles") {tables others : List (String × Datum)}
      (each : Entrywise (fun _ => Profile.Same) tables others) :
      SameField name (.table tables) (.table others)

namespace AppConfig

theorem profiles_masked_eq {tables others : List (String × Datum)}
    {profiles another : List (String × Profile)}
    (each : Entrywise (fun _ => Profile.Same) tables others)
    (checked : dictionary Profile.check (.table tables) = .ok profiles)
    (checkedOther : dictionary Profile.check (.table others) = .ok another) :
    (profiles.map fun entry => (entry.1, entry.2.masked)) =
      another.map fun entry => (entry.1, entry.2.masked) := by
  have entries := dictionary_eq_ok_iff.mp checked
  have entriesOther := dictionary_eq_ok_iff.mp checkedOther
  clear checked checkedOther
  -- Along the two tables; each config has an entry for every one of its own.
  induction each generalizing profiles another with
  | nil =>
    cases entries
    cases entriesOther
    rfl
  | cons first _ ih =>
    obtain _ | ⟨⟨named, checked⟩, entries⟩ := entries
    obtain _ | ⟨⟨namedOther, checkedOther⟩, entriesOther⟩ := entriesOther
    obtain ⟨sameName, same⟩ := first
    rw [List.map_cons, List.map_cons, ih entries entriesOther, same.masked_eq checked checkedOther,
      ← named, ← namedOther, sameName]

section Files

variable {members others : List (String × Datum)} {config another : AppConfig}

/-- A field outside the profiles is the same. -/
theorem lookup_eq_of_fields (fields : Entrywise SameField members others) {name : String}
    (outside : name ≠ "profiles") : members.lookup name = others.lookup name := by
  cases found : members.lookup name with
  | none => exact (fields.of_none found).symm
  | some datum =>
    obtain ⟨other, foundOther, same⟩ := fields.of_some found
    cases same with
    | same => exact foundOther.symm
    | profiles named => exact absurd named outside

/-- Config files that differ only in passwords say the same without them. -/
theorem masked_eq_of_fields (fields : Entrywise SameField members others)
    (checked : AppConfig.check (.table members) = .ok config)
    (checkedOther : AppConfig.check (.table others) = .ok another) :
    config.masked = another.masked := by
  have reads := check_eq_ok_iff.mp checked
  have readsOther := check_eq_ok_iff.mp checkedOther
  have timeout := reads.timeout.unique readsOther.timeout (lookup_eq_of_fields fields (by decide))
  have format := reads.format.unique readsOther.format (lookup_eq_of_fields fields (by decide))
  have default := reads.defaultProfile.unique readsOther.defaultProfile
    (lookup_eq_of_fields fields (by decide))
  have gen := reads.gen.unique readsOther.gen (lookup_eq_of_fields fields (by decide))
  have profiles : (config.profiles.map fun entry => (entry.1, entry.2.masked)) =
      another.profiles.map fun entry => (entry.1, entry.2.masked) := by
    have read := reads.profiles
    have readOther := readsOther.profiles
    unfold Fields.ReadsOr at read readOther
    cases found : members.lookup "profiles" with
    | none =>
      simp only [found] at read
      simp only [fields.of_none found] at readOther
      rw [read, readOther]
    | some datum =>
      obtain ⟨other, foundOther, same⟩ := fields.of_some found
      simp only [found] at read
      simp only [foundOther] at readOther
      cases same with
      | same => rw [Except.ok.inj (read.symm.trans readOther)]
      | profiles _ each => exact profiles_masked_eq each read readOther
  simp only [masked, timeout, format, default, profiles, gen]

end Files

end AppConfig

/-- Two environments with the same variables, in which only passwords differ. -/
def Environment.Same (environment other : Environment) : Prop :=
  Entrywise (SameText "PGPASSWORD" "PGQUERYGEN_DSN") environment other

namespace Environment.Same

variable {environment other : Environment} (same : Environment.Same environment other)

include same

theorem layer_masked_eq {layer another : SettingsLayer}
    (read : Settings.ofEnvironment environment = .ok layer)
    (readOther : Settings.ofEnvironment other = .ok another) : layer.masked = another.masked := by
  have host := SameText.lookup_eq same (by decide : "PGHOST" ≠ _) (by decide)
  have port := SameText.lookup_eq same (by decide : "PGPORT" ≠ _) (by decide)
  have dbname := SameText.lookup_eq same (by decide : "PGDATABASE" ≠ _) (by decide)
  have user := SameText.lookup_eq same (by decide : "PGUSER" ≠ _) (by decide)
  have sslmode := SameText.lookup_eq same (by decide : "PGSSLMODE" ≠ _) (by decide)
  have password := SameText.map_lookup_password same
  rw [ofEnvironment_eq_ok read, ofEnvironment_eq_ok readOther]
  simp only [SettingsLayer.masked, host, port, dbname, user, sslmode, password]

theorem location_eq (home : FilePath) (explicit : Option FilePath) :
    AppConfig.location home environment explicit = AppConfig.location home other explicit := by
  unfold AppConfig.location
  rw [SameText.lookup_eq same (by decide : "PGQUERYGEN_CONFIG" ≠ _) (by decide)]

theorem activeProfile_eq (config : AppConfig) (profile : Option String) :
    Settings.activeProfile config environment profile =
      Settings.activeProfile config other profile := by
  unfold Settings.activeProfile
  rw [SameText.lookup_eq same (by decide : "PGQUERYGEN_PROFILE" ≠ _) (by decide)]

theorem markedProfile_eq (config : AppConfig) (asked : Option String) :
    config.markedProfile environment asked = config.markedProfile other asked := by
  unfold AppConfig.markedProfile
  rw [SameText.lookup_eq same (by decide : "PGQUERYGEN_PROFILE" ≠ _) (by decide)]

end Environment.Same

namespace Settings

theorem nonempty_alike {url other : Option String}
    (alike : Option.Rel ConnectionUrl.Alike url other) :
    Option.Rel ConnectionUrl.Alike (nonempty url) (nonempty other) := by
  cases alike with
  | none => exact .none
  | @some url other alike =>
    by_cases filled : url = ""
    · have filledOther : other = "" := by
        by_contra filledOther
        exact alike.symm.ne_empty filledOther filled
      rw [filled, filledOther]
      exact .none
    · rw [nonempty_eq_some_iff.mpr ⟨rfl, filled⟩,
        nonempty_eq_some_iff.mpr ⟨rfl, alike.ne_empty filled⟩]
      exact .some alike

/-- URLs that differ only in a password give the same layer without it. -/
theorem ofUrl_masked_eq {origin : Origin} {url other : Option String}
    (alike : Option.Rel ConnectionUrl.Alike url other) {layers another : Layers}
    (read : ofUrl origin url = .ok layers) (readOther : ofUrl origin other = .ok another) :
    layers.masked = another.masked := by
  have alike := nonempty_alike alike
  unfold ofUrl at read readOther
  generalize nonempty url = found at read alike
  generalize nonempty other = foundOther at readOther alike
  cases alike with
  | none =>
    cases read
    cases readOther
    rfl
  | some alike =>
    obtain ⟨fields, fieldsRead, made⟩ := (except_bind_eq_ok_iff _ _ _).mp read
    obtain ⟨fieldsOther, fieldsReadOther, madeOther⟩ := (except_bind_eq_ok_iff _ _ _).mp readOther
    cases made
    cases madeOther
    have masked := alike.masked_eq fieldsRead fieldsReadOther
    exact congrArg (fun fields : UrlFields => [(origin, fields.layer)]) masked

theorem lookup_profiles_masked (config : AppConfig) (name : String) :
    config.masked.profiles.lookup name = (config.profiles.lookup name).map Profile.masked := by
  unfold AppConfig.masked
  dsimp only
  induction config.profiles with
  | nil => rfl
  | cons entry profiles ih =>
    obtain ⟨key, profile⟩ := entry
    simp only [List.map_cons, List.lookup_cons, ih]
    cases name == key <;> rfl

theorem ofConfig_masked (config : AppConfig) : ofConfig config.masked = ofConfig config := rfl

/-- Which profile is in effect does not depend on passwords. -/
theorem activeProfile_masked (config : AppConfig) (environment : Environment)
    (profile : Option String) :
    activeProfile config.masked environment profile = activeProfile config environment profile := by
  have names : config.masked.profiles.map (·.1) = config.profiles.map (·.1) := by
    simp [AppConfig.masked, Function.comp_def]
  have default : config.masked.defaultProfile = config.defaultProfile := rfl
  unfold activeProfile
  simp only [lookup_profiles_masked, Option.isSome_map, names, default]

theorem profileLayers_masked (config : AppConfig) (active : Option String) :
    profileLayers config.masked active = (profileLayers config active).masked := by
  unfold profileLayers
  split
  · rw [lookup_profiles_masked]
    cases config.profiles.lookup _ <;> rfl
  · rfl

section Resolving

variable {config another : AppConfig} {environment other : Environment}
  {url urlOther : Option String}
  (configs : config.masked = another.masked) (environments : Environment.Same environment other)
  (urls : Option.Rel ConnectionUrl.Alike url urlOther)

include configs environments

theorem activeProfile_eq_of_masked (profile : Option String) :
    activeProfile config environment profile = activeProfile another other profile := by
  rw [← activeProfile_masked config, configs, activeProfile_masked, environments.activeProfile_eq]

include urls

theorem layers_masked_eq {active : Option String} {lower lowerOther : Layers}
    (layered : layers config environment active url = .ok lower)
    (layeredOther : layers another other active urlOther = .ok lowerOther) :
    lower.masked = lowerOther.masked := by
  obtain ⟨layer, environmentUrl, givenUrl, givenRead, environmentRead, urlRead, rfl⟩ :=
    layers_eq_ok layered
  obtain ⟨layerOther, environmentUrlOther, givenUrlOther, givenReadOther, environmentReadOther,
    urlReadOther, rfl⟩ := layers_eq_ok layeredOther
  have top : ofConfig config = ofConfig another := by
    rw [← ofConfig_masked config, configs, ofConfig_masked]
  have profiles : (profileLayers config active).masked = (profileLayers another active).masked := by
    rw [← profileLayers_masked, ← profileLayers_masked, configs]
  have given := environments.layer_masked_eq givenRead givenReadOther
  have fromVariable := ofUrl_masked_eq (SameText.lookup_url environments (by decide))
    environmentRead environmentReadOther
  have fromFlag := ofUrl_masked_eq urls urlRead urlReadOther
  unfold Layers.masked at profiles fromVariable fromFlag ⊢
  simp only [List.map_append, List.map_cons, List.map_nil, top, profiles, given, fromVariable,
    fromFlag]

/-- Settings that are resolved from what differs only in passwords are the same without them. -/
theorem resolve_masked_eq {profile : Option String} {flags flagsOther : SettingsLayer}
    {resolved resolvedOther : ResolvedConfig} (sameFlags : flags.masked = flagsOther.masked)
    (resolves : resolve config environment profile url flags = .ok resolved)
    (resolvesOther : resolve another other profile urlOther flagsOther = .ok resolvedOther) :
    resolved.masked = resolvedOther.masked := by
  obtain ⟨active, lower, chosen, layered, -, rfl⟩ := resolve_eq_ok resolves
  obtain ⟨activeOther, lowerOther, chosenOther, layeredOther, -, rfl⟩ := resolve_eq_ok resolvesOther
  obtain rfl : active = activeOther := by
    rw [activeProfile_eq_of_masked configs environments] at chosen
    exact Except.ok.inj (chosen.symm.trans chosenOther)
  -- Passwords are made blank before merging or after it, so only the layers are compared.
  have lowerSame := layers_masked_eq configs environments urls layered layeredOther
  have all : Layers.masked (lower ++ [(.flags, flags)]) =
      Layers.masked (lowerOther ++ [(.flags, flagsOther)]) := by
    unfold Layers.masked at lowerSame ⊢
    simp only [List.map_append, List.map_cons, List.map_nil, lowerSame, sameFlags]
  have merged : (Layers.merged (lower ++ [(.flags, flags)])).masked =
      (Layers.merged (lowerOther ++ [(.flags, flagsOther)])).masked := by
    rw [← Layers.merged_masked, ← Layers.merged_masked, all]
  have sources : Layers.sources (lower ++ [(.flags, flags)]) =
      Layers.sources (lowerOther ++ [(.flags, flagsOther)]) := by
    rw [← Layers.sources_masked, all, Layers.sources_masked]
  rw [sources]
  exact congrArg (fun merged : SettingsLayer =>
    ({ connection := merged.connection
       statementTimeout := merged.statementTimeout.getD builtinTimeout
       defaultFormat := merged.defaultFormat, activeProfile := active
       sources := Layers.sources (lowerOther ++ [(.flags, flagsOther)]) } : ResolvedConfig)) merged

end Resolving

end Settings

end QueryTyping
