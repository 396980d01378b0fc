import QueryTyping.Proofs.PortPlaces

/-!
# Ports judged alike

Wherever a port is given, one in range is the port in effect if no higher level
gives one, and one out of range keeps the settings from resolving; but zero in a
URL counts as if no port stood there (`Settings.ports_judged_alike`).

A port that is put in a place changes the stack of levels in nothing but the port
of that level (`SettingSources.StackTo.setPort`), and what is read there is the
port that was put (`SettingSources.StackTo.port_of_url`, `SettingSources.StackTo.port_of_number`).
-/

namespace QueryTyping

open Check

/-- A port in range is read as itself; in a URL, none and zero are read as none. -/
def PortPlace.Reads (place : PortPlace) (port value : Option Int) : Prop :=
  (∃ n, (1 ≤ n ∧ n ≤ 65535) ∧ port = some n ∧ value = some n) ∨
    place.IsUrl ∧ (port = none ∨ port = some 0) ∧ value = none

namespace PortPlace

variable {place : PortPlace} {port value : Option Int}

/-- Above a port's level there are no profiles. -/
theorem mem_of_level_lt {place : PortPlace} {higher : SettingLevel}
    (rises : place.level.rank < higher.rank) :
    higher ∈ [SettingLevel.environment, .environmentUrl, .url, .flags] := by
  cases place <;> cases higher <;> simp [level, SettingLevel.rank] at rises ⊢

theorem Reads.number (reads : place.Reads port value) :
    (∀ n ∈ port, 0 ≤ n ∧ n ≤ 65535) ∧ value = (PortUrl.number port).map (↑) := by
  obtain ⟨n, range, rfl, rfl⟩ | ⟨-, rfl | rfl, rfl⟩ := reads
  · have other : n ≠ 0 := by omega
    have whole : ((n.toNat : Nat) : Int) = n := Int.toNat_of_nonneg (by omega)
    simp only [Option.mem_def, Option.some.injEq, forall_eq', PortUrl.number, Option.bind_some,
      other, if_false, Option.map_some, whole, and_true]
    omega
  · exact ⟨by simp, rfl⟩
  · exact ⟨by simp, rfl⟩

theorem Reads.range (reads : place.Reads port value) :
    ∀ n ∈ PortUrl.number port, 1 ≤ n ∧ n ≤ 65535 := by
  obtain ⟨n, range, rfl, rfl⟩ | ⟨-, rfl | rfl, rfl⟩ := reads
  · have other : n ≠ 0 := by omega
    simp only [PortUrl.number, Option.bind_some, other, if_false, Option.mem_def, Option.some.injEq,
      forall_eq']
    omega
  · simp [PortUrl.number]
  · simp [PortUrl.number]

end PortPlace

namespace PortUrl

variable {url : PortUrl} {place : PortPlace} {port other value : Option Int}

/-- Another port changes nothing else that the URL gives. -/
theorem fields_text (reads : place.Reads port value) {given : UrlFields}
    (read : ConnectionUrl.fields (url.text other) = .ok given) :
    ConnectionUrl.fields (url.text port) = .ok { given with port := number port } := by
  obtain ⟨order, -, rfl⟩ := (url.fields_text_iff other).mp read
  exact (url.fields_text_iff port).mpr ⟨order, reads.number.1, rfl⟩

/-- The URL is never empty, so its layer is that of its fields. -/
theorem urlLayer_eq_ok_iff {layer : SettingsLayer} :
    Settings.urlLayer (some (url.text port)) = .ok layer ↔
      ∃ given, ConnectionUrl.fields (url.text port) = .ok given ∧ given.layer = layer := by
  have written : nonempty (some (url.text port)) = some (url.text port) :=
    nonempty_eq_some_iff.mpr ⟨rfl, url.text_ne_empty port⟩
  rw [Settings.urlLayer, written]
  cases found : ConnectionUrl.fields (url.text port) <;> simp [found, Except.map]

/-- Another port changes nothing else in the layer that the URL gives. -/
theorem urlLayer_text (reads : place.Reads port value) {layer : SettingsLayer}
    (read : Settings.urlLayer (some (url.text other)) = .ok layer) :
    Settings.urlLayer (some (url.text port)) = .ok { layer with port := value } := by
  obtain ⟨given, found, rfl⟩ := urlLayer_eq_ok_iff.mp read
  refine urlLayer_eq_ok_iff.mpr ⟨_, fields_text reads found, ?_⟩
  rw [Profile.layer_with_port, reads.number.2]

/-- The port that the URL's layer has. -/
theorem port_of_urlLayer {layer : SettingsLayer}
    (read : Settings.urlLayer (some (url.text port)) = .ok layer) :
    (∀ n ∈ port, 0 ≤ n ∧ n ≤ 65535) ∧ layer.port = (number port).map (↑) := by
  obtain ⟨given, found, rfl⟩ := urlLayer_eq_ok_iff.mp read
  obtain ⟨-, range, rfl⟩ := (url.fields_text_iff port).mp found
  refine ⟨range, ?_⟩
  cases number port <;> rfl

end PortUrl

namespace Settings

/-- Only one variable of the environment tells a profile. -/
theorem activeProfile_put (config : AppConfig) (environment : Environment) (profile : Option String)
    {key : String} (other : "PGQUERYGEN_PROFILE" ≠ key) (value : Option String) :
    activeProfile config (put environment key value) profile =
      activeProfile config environment profile := by
  unfold activeProfile
  rw [lookup_put_of_ne environment value other]

theorem ofEnvironment_put (environment : Environment) (value : Option String) :
    ofEnvironment (put environment "PGQUERYGEN_DSN" value) = ofEnvironment environment := by
  unfold ofEnvironment
  simp only [lookup_put_of_ne environment value (by decide : "PGHOST" ≠ "PGQUERYGEN_DSN"),
    lookup_put_of_ne environment value (by decide : "PGPORT" ≠ "PGQUERYGEN_DSN"),
    lookup_put_of_ne environment value (by decide : "PGDATABASE" ≠ "PGQUERYGEN_DSN"),
    lookup_put_of_ne environment value (by decide : "PGUSER" ≠ "PGQUERYGEN_DSN"),
    lookup_put_of_ne environment value (by decide : "PGPASSWORD" ≠ "PGQUERYGEN_DSN"),
    lookup_put_of_ne environment value (by decide : "PGSSLMODE" ≠ "PGQUERYGEN_DSN")]

/-- A variable with a port in range is read as the port, and the other variables as before. -/
theorem ofEnvironment_put_port {environment : Environment} {other : Option String}
    {layer : SettingsLayer} (read : ofEnvironment (put environment "PGPORT" other) = .ok layer)
    {n : Int} (range : 1 ≤ n ∧ n ≤ 65535) :
    ofEnvironment (put environment "PGPORT" (some (toString n))) =
      .ok { layer with port := some n } := by
  have whole : Numeral.anyInteger? (toString n) = some n :=
    Numeral.anyInteger?_of_port range.1 range.2
  obtain ⟨-, rfl⟩ := ofEnvironment_eq_ok_iff.mp read
  rw [ofEnvironment_eq_ok_iff]
  refine ⟨?_, ?_⟩
  · rw [PortReadable, lookup_put_self]
    rintro s ⟨⟩
    exact ⟨n, whole⟩
  · simp only [lookup_put_self, Option.bind_some, whole,
      lookup_put_of_ne environment _ (by decide : "PGHOST" ≠ "PGPORT"),
      lookup_put_of_ne environment _ (by decide : "PGDATABASE" ≠ "PGPORT"),
      lookup_put_of_ne environment _ (by decide : "PGUSER" ≠ "PGPORT"),
      lookup_put_of_ne environment _ (by decide : "PGPASSWORD" ≠ "PGPORT"),
      lookup_put_of_ne environment _ (by decide : "PGSSLMODE" ≠ "PGPORT")]

end Settings

namespace SettingSources

variable {sources : SettingSources} {stack : SettingStack}

section Profiles

variable {profile : String} {table : List (String × Datum)}
  {edit another : List (String × Datum) → List (String × Datum)}
  (named : sources.profileName? = some profile)
  (isTable : AppConfig.profileTable? sources.config profile = some table)

theorem profileName?_editProfile (sources : SettingSources) (profile : String)
    (edit : List (String × Datum) → List (String × Datum)) :
    { sources with config := AppConfig.editProfile sources.config profile edit }.profileName? =
      sources.profileName? := by
  unfold profileName?
  rw [AppConfig.lookup_editProfile_of_ne (by decide)]

include named isTable

/-- The level of profiles holds the edited profile. -/
theorem profile_of_editProfile {config : AppConfig}
    (reads : AppConfig.ReadFrom (AppConfig.editProfile sources.config profile edit) config)
    (stacked : Settings.Stacks config sources.environment sources.profile sources.url
      sources.flags.layer stack) :
    nonempty stack.active = some profile ∧
      ∃ held, Profile.check (.table (edit table)) = .ok held ∧
        stack.layer .profile = held.layer := by
  have active : nonempty stack.active = { sources with
      config := AppConfig.editProfile sources.config profile edit }.profileName? :=
    activeProfile_eq reads stacked.activeRead
  rw [profileName?_editProfile, named] at active
  obtain ⟨held, others, checked, profiles⟩ := reads.check_edited isTable
  refine ⟨active, held, checked, ?_⟩
  rw [stacked.profileLayer, Settings.profileLayer, active, profiles]
  simp

/-- Another edit of the profile changes that level as it changes the profile. -/
theorem stackTo_editProfile {value : Option Int}
    (changes : ∀ before, Profile.check (.table (edit table)) = .ok before →
      ∃ after, Profile.check (.table (another table)) = .ok after ∧
        after.layer = { before.layer with port := value })
    (stacked : { sources with
      config := AppConfig.editProfile sources.config profile edit }.StackTo stack) :
    { sources with config := AppConfig.editProfile sources.config profile another }.StackTo
      (stack.setPort .profile value) := by
  obtain ⟨config, reads, stacked⟩ := stacked
  obtain ⟨active, before, checked, layer⟩ := profile_of_editProfile named isTable reads stacked
  obtain ⟨after, checkedAfter, changed⟩ := changes before checked
  obtain ⟨_, others, -, profiles⟩ := reads.check_edited isTable
  obtain ⟨known, marked⟩ := Settings.activeProfile_eq_ok_iff.mp stacked.activeRead
  refine ⟨_, reads.editProfile isTable checkedAfter, ?_⟩
  refine ⟨Settings.activeProfile_eq_ok_iff.mpr ⟨fun name asked => ?_, marked⟩, stacked.builtinLayer,
    stacked.configLayer, ?_, stacked.environmentRead, stacked.environmentUrlRead, stacked.urlRead,
    stacked.flagsLayer⟩
  · obtain ⟨held, found⟩ := known name asked
    by_cases isEdited : name = profile
    · exact ⟨after, by simp [isEdited]⟩
    · have other : (name == profile) = false := by simpa using isEdited
      rw [profiles, List.lookup_cons, other] at found
      exact ⟨held, by simpa [profiles, List.lookup_cons, other] using found⟩
  · have edited : (stack.setPort .profile value).layer .profile =
        { stack.layer .profile with port := value } := rfl
    have unchanged : (stack.setPort .profile value).active = stack.active := rfl
    rw [edited, layer, ← changed, unchanged, Settings.profileLayer, active]
    simp

end Profiles

/-- Another port in a place changes nothing in the stack but the port of its level. -/
theorem StackTo.setPort {place : PortPlace} (reached : place.Reached sources)
    {other port value : Option Int} (reads : place.Reads port value)
    (stacked : (sources.withPort place other).StackTo stack) :
    (sources.withPort place port).StackTo (stack.setPort place.level value) := by
  cases place with
  | profileKey profile =>
    obtain ⟨named, table, isTable⟩ := reached
    obtain ⟨n, range, rfl, rfl⟩ | ⟨isUrl, -⟩ := reads
    · exact stackTo_editProfile named isTable
        (fun before checked => ⟨_, Profile.check_put_port checked range, rfl⟩) stacked
    · exact isUrl.elim
  | profileUrl profile url =>
    obtain ⟨named, table, isTable, unset⟩ := reached
    refine stackTo_editProfile named isTable (fun before checked => ?_) stacked
    obtain ⟨given, read⟩ := Profile.url_read_of_check checked (lookup_put_self table "dsn" _)
      (url.text_ne_empty other)
    refine ⟨_, Profile.check_put_url unset ⟨url.text_ne_empty other, url.text_ne_empty port⟩ read
      (PortUrl.fields_text reads read) reads.range checked, ?_⟩
    rw [reads.number.2]
  | environment =>
    obtain ⟨n, range, rfl, rfl⟩ | ⟨isUrl, -⟩ := reads
    · obtain ⟨config, configReads, stacked⟩ := stacked
      refine ⟨config, configReads, ⟨?_, stacked.builtinLayer, stacked.configLayer,
        stacked.profileLayer, Settings.ofEnvironment_put_port stacked.environmentRead range, ?_,
        stacked.urlRead, stacked.flagsLayer⟩⟩
      · have active := stacked.activeRead
        rw [withPort, Settings.activeProfile_put _ _ _ (by decide)] at active ⊢
        exact active
      · have read := stacked.environmentUrlRead
        rw [withPort, lookup_put_of_ne _ _ (by decide)] at read ⊢
        exact read
    · exact isUrl.elim
  | environmentUrl url =>
    obtain ⟨config, configReads, stacked⟩ := stacked
    refine ⟨config, configReads, ⟨?_, stacked.builtinLayer, stacked.configLayer,
      stacked.profileLayer, ?_, ?_, stacked.urlRead, stacked.flagsLayer⟩⟩
    · have active := stacked.activeRead
      rw [withPort, Settings.activeProfile_put _ _ _ (by decide)] at active ⊢
      exact active
    · have read := stacked.environmentRead
      rw [withPort, Settings.ofEnvironment_put] at read ⊢
      exact read
    · have read := stacked.environmentUrlRead
      rw [withPort, lookup_put_self] at read ⊢
      exact PortUrl.urlLayer_text reads read
  | url url =>
    obtain ⟨config, configReads, stacked⟩ := stacked
    exact ⟨config, configReads, ⟨stacked.activeRead, stacked.builtinLayer, stacked.configLayer,
      stacked.profileLayer, stacked.environmentRead, stacked.environmentUrlRead,
      PortUrl.urlLayer_text reads stacked.urlRead, stacked.flagsLayer⟩⟩
  | flag =>
    obtain ⟨n, range, rfl, rfl⟩ | ⟨isUrl, -⟩ := reads
    · obtain ⟨config, configReads, stacked⟩ := stacked
      exact ⟨config, configReads, ⟨stacked.activeRead, stacked.builtinLayer, stacked.configLayer,
        stacked.profileLayer, stacked.environmentRead, stacked.environmentUrlRead, stacked.urlRead,
        congrArg (fun layer : SettingsLayer => { layer with port := some n }) stacked.flagsLayer⟩⟩
    · exact isUrl.elim

/-- A port in a URL is what the level gives; zero is none. -/
theorem StackTo.port_of_url {place : PortPlace} (isUrl : place.IsUrl)
    (reached : place.Reached sources) {port : Option Int}
    (stacked : (sources.withPort place port).StackTo stack) :
    (∀ n ∈ port, 0 ≤ n ∧ n ≤ 65535) ∧
      (stack.layer place.level).port = (PortUrl.number port).map (↑) := by
  obtain ⟨config, configReads, stacked⟩ := stacked
  cases place with
  | profileUrl profile url =>
    obtain ⟨named, table, isTable, unset⟩ := reached
    obtain ⟨-, held, checked, layer⟩ := profile_of_editProfile named isTable configReads stacked
    have filled := url.text_ne_empty port
    obtain ⟨given, read⟩ :=
      Profile.url_read_of_check checked (lookup_put_self table "dsn" _) filled
    obtain ⟨-, range, rfl⟩ := (url.fields_text_iff port).mp read
    refine ⟨range, ?_⟩
    rw [PortPlace.level, layer]
    exact Profile.port_of_put_url unset filled read checked
  | environmentUrl url =>
    have read := stacked.environmentUrlRead
    rw [withPort, lookup_put_self] at read
    exact PortUrl.port_of_urlLayer read
  | url url => exact PortUrl.port_of_urlLayer stacked.urlRead
  | _ => exact isUrl.elim

/-- A port that does not stand in a URL is what the level gives. -/
theorem StackTo.port_of_number {place : PortPlace} (other : ¬ place.IsUrl)
    (reached : place.Reached sources) {n : Int}
    (stacked : (sources.withPort place (some n)).StackTo stack) :
    (stack.layer place.level).port = some n := by
  obtain ⟨config, configReads, stacked⟩ := stacked
  cases place with
  | profileKey profile =>
    obtain ⟨named, table, isTable⟩ := reached
    obtain ⟨-, held, checked, layer⟩ := profile_of_editProfile named isTable configReads stacked
    rw [PortPlace.level, layer]
    exact Profile.port_of_put_port checked
  | environment =>
    obtain ⟨readable, layer⟩ := Settings.ofEnvironment_eq_ok_iff.mp stacked.environmentRead
    rw [withPort, Settings.PortReadable, lookup_put_self] at readable
    obtain ⟨m, read⟩ := readable _ rfl
    obtain rfl := Numeral.eq_of_anyInteger?_decimal read
    rw [PortPlace.level, layer, withPort, lookup_put_self]
    simpa only [Option.map_some, Option.bind_some] using read
  | flag =>
    rw [PortPlace.level, stacked.flagsLayer]
    rfl
  | _ => exact absurd trivial other

/-- Above its level a port changes nothing. -/
theorem gives_withPort {place : PortPlace} {higher : SettingLevel}
    (rises : place.level.rank < higher.rank) (port : Option Int) (value : Int) :
    (sources.withPort place port).Gives higher .port value ↔ sources.Gives higher .port value := by
  have environmentUrl : (sources.withPort .environment port).environment.lookup "PGQUERYGEN_DSN" =
      sources.environment.lookup "PGQUERYGEN_DSN" := lookup_put_of_ne _ _ (by decide)
  have above := PortPlace.mem_of_level_lt rises
  simp only [List.mem_cons, List.not_mem_nil, or_false] at above
  obtain rfl | rfl | rfl | rfl := above
  · cases place with
    | profileKey _ | profileUrl _ _ => exact Iff.rfl
    | _ => simp [PortPlace.level, SettingLevel.rank] at rises
  · cases place with
    | profileKey _ | profileUrl _ _ => exact Iff.rfl
    | environment => simp only [Gives, environmentUrl]
    | _ => simp [PortPlace.level, SettingLevel.rank] at rises
  · cases place with
    | url _ | flag => simp [PortPlace.level, SettingLevel.rank] at rises
    | _ => exact Iff.rfl
  · cases place with
    | flag => simp [PortPlace.level, SettingLevel.rank] at rises
    | _ => exact Iff.rfl

/-- If no higher level gives a port, the port of its level is the stack's. -/
theorem StackTo.get_port {place : PortPlace} {port : Option Int}
    (unset : ∀ higher value, place.level.rank < higher.rank → ¬ sources.Gives higher .port value)
    (stacked : (sources.withPort place port).StackTo stack) {n : Int}
    (given : (stack.layer place.level).port = some n) : stack.get .port = some n := by
  obtain ⟨config, reads, stacked⟩ := stacked
  refine SettingStack.get_port_of_level given fun higher rises => ?_
  have notConfig : higher ≠ .config := by
    rintro rfl
    exact absurd (PortPlace.mem_of_level_lt rises) (by decide)
  refine Option.eq_none_iff_forall_ne_some.mpr fun value found => ?_
  have gives := (stacked.get_iff reads notConfig .port value).mp found
  exact unset higher value rises ((gives_withPort rises port value).mp gives)

/-- In a URL, zero is no port, and the other parts are read alike. -/
theorem resolvesTo_of_zero {place : PortPlace} (isUrl : place.IsUrl)
    (reached : place.Reached sources) {resolved : ResolvedConfig} {port another : Option Int}
    (blank : port = none ∨ port = some 0) (blankAnother : another = none ∨ another = some 0)
    (resolves : (sources.withPort place port).ResolvesTo resolved) :
    (sources.withPort place another).ResolvesTo resolved := by
  obtain ⟨stack, stacked, settled⟩ := resolvesTo_iff.mp resolves
  have nothing : (stack.layer place.level).port = none := by
    rw [(stacked.port_of_url isUrl reached).2]
    obtain rfl | rfl := blank <;> rfl
  have moved := stacked.setPort reached (.inr ⟨isUrl, blankAnother, rfl⟩)
  rw [SettingStack.setPort_self _ _ _ nothing] at moved
  exact resolvesTo_iff.mpr ⟨stack, moved, settled⟩

end SettingSources

namespace Settings

/-- A port in range that no higher level replaces is the one in effect, if the settings resolve at
all with some port in its place or none; one out of range keeps them from resolving.  But zero in
a URL is as good as none. -/
theorem ports_judged_alike (sources : SettingSources) (place : PortPlace)
    (reached : place.Reached sources)
    (unset : ∀ higher value, place.level.rank < higher.rank → ¬ sources.Gives higher .port value)
    (n : Int) :
    (1 ≤ n ∧ n ≤ 65535 →
        (∃ other resolved, (sources.withPort place other).ResolvesTo resolved) →
          ∃ resolved, (sources.withPort place (some n)).ResolvesTo resolved ∧
            resolved.connection.port = n) ∧
      (¬ (1 ≤ n ∧ n ≤ 65535) → ¬ (place.IsUrl ∧ n = 0) →
        ∀ resolved, ¬ (sources.withPort place (some n)).ResolvesTo resolved) ∧
      (place.IsUrl → ∀ resolved,
        (sources.withPort place (some 0)).ResolvesTo resolved ↔
          (sources.withPort place none).ResolvesTo resolved) := by
  refine ⟨fun range ⟨other, _, resolves⟩ => ?_, fun outside notZero resolved resolves => ?_,
    fun isUrl resolved => ⟨?_, ?_⟩⟩
  · obtain ⟨stack, stacked, kept, -⟩ := SettingSources.resolvesTo_iff.mp resolves
    have moved := stacked.setPort reached (.inl ⟨n, range, rfl, rfl⟩)
    have port : (stack.setPort place.level (some n)).merged.port = some n :=
      moved.get_port unset (by simp [SettingStack.setPort])
    have sslmode : (stack.setPort place.level (some n)).merged.sslmode = stack.merged.sslmode :=
      stack.get_setPort place.level (some n) .sslmode (by decide)
    obtain ⟨-, known⟩ := violations_eq_nil_iff.mp kept
    have keeps : violations (stack.setPort place.level (some n)).merged.connection = [] := by
      refine violations_eq_nil_iff.mpr ⟨?_, ?_⟩
      · simpa only [SettingsLayer.connection, port, Option.getD_some] using range
      · simpa only [SettingsLayer.connection, sslmode] using known
    refine ⟨_, SettingSources.resolvesTo_iff.mpr ⟨_, moved, keeps, rfl⟩, ?_⟩
    simp only [SettingStack.resolved, SettingsLayer.connection, port, Option.getD_some]
  · obtain ⟨stack, stacked, kept, -⟩ := SettingSources.resolvesTo_iff.mp resolves
    have given : (stack.layer place.level).port = some n := by
      by_cases isUrl : place.IsUrl
      · obtain ⟨range, read⟩ := stacked.port_of_url isUrl reached
        have other : n ≠ 0 := fun zero => notZero ⟨isUrl, zero⟩
        have := range n rfl
        exact absurd ⟨by omega, this.2⟩ outside
      · exact stacked.port_of_number isUrl reached
    have port : stack.merged.port = some n := stacked.get_port unset given
    obtain ⟨range, -⟩ := violations_eq_nil_iff.mp kept
    simp only [SettingsLayer.connection, port, Option.getD_some] at range
    exact outside range
  · exact SettingSources.resolvesTo_of_zero isUrl reached (.inr rfl) (.inl rfl)
  · exact SettingSources.resolvesTo_of_zero isUrl reached (.inl rfl) (.inr rfl)

end Settings

/-- A URL for a database of the own host, with room for a port. -/
def authorsUrl : PortUrl where
  before := "postgresql://localhost"
  after := "/authors"
  frame :=
    { scheme := "postgresql".toList
      user := []
      host := "localhost".toList
      tail := "/authors".toList
      isScheme := by decide
      user_ends := .inl rfl
      user_plain := nofun
      host_plain := List.all_iff_forall_prop.mp (by decide)
      host_closed := .inl (by decide)
      tail_ends := by
        rintro c ⟨⟩
        rfl }
  before_read := by decide
  after_read := by decide

/-- The environment gives a port. -/
def portSources : SettingSources where
  environment := [("PGPORT", "6543")]

/-- The port of a URL is taken before that of the environment. -/
theorem Settings.ports_judged_alike_authors :
    ∃ resolved, (portSources.withPort (.url authorsUrl) (some 5433)).ResolvesTo resolved ∧
      resolved.connection.port = 5433 := by
  have run : ((AppConfig.check (.table portSources.config)).toOption.bind fun config =>
      (Settings.resolve config portSources.environment portSources.profile
        (some (authorsUrl.text none)) portSources.flags.layer).toOption.map fun resolved =>
          resolved.connection.port) = some 6543 := by decide +kernel
  obtain ⟨config, valid, rest⟩ := Option.bind_eq_some_iff.mp run
  obtain ⟨resolved, resolves, -⟩ := Option.map_eq_some_iff.mp rest
  have unported : (portSources.withPort (.url authorsUrl) none).ResolvesTo resolved :=
    ⟨config, toOption_eq_some_iff.mp valid, toOption_eq_some_iff.mp resolves⟩
  have unset (higher : SettingLevel) (value : Int) (rises : SettingLevel.url.rank < higher.rank) :
      ¬ portSources.Gives higher .port value := by
    cases higher with
    | flags => exact nofun
    | _ => exact absurd rises (by decide)
  exact (Settings.ports_judged_alike portSources (.url authorsUrl) trivial unset 5433).1
    (by decide) ⟨none, resolved, unported⟩

/-- Zero in a URL is passed over, and the port of the environment is in effect. -/
theorem zero_port_passed_over :
    ∃ resolved, { portSources with url := some "postgresql://localhost:0/authors" }.ResolvesTo
        resolved ∧
      resolved.connection.port = 6543 := by
  have run : ((AppConfig.check (.table portSources.config)).toOption.bind fun config =>
      (Settings.resolve config portSources.environment portSources.profile
        (some "postgresql://localhost:0/authors") portSources.flags.layer).toOption.map
          fun resolved => resolved.connection.port) = some 6543 := by decide +kernel
  obtain ⟨config, valid, rest⟩ := Option.bind_eq_some_iff.mp run
  obtain ⟨resolved, resolves, port⟩ := Option.map_eq_some_iff.mp rest
  exact ⟨resolved, ⟨config, toOption_eq_some_iff.mp valid, toOption_eq_some_iff.mp resolves⟩, port⟩

end QueryTyping
