import QueryTyping.Proofs.SettingStack

/-!
# Editing a profile

A value is put under a key of a table, or taken from it, and everything else in
the table stays as it was.  An admitted config stays admitted when one of its
profiles is replaced by an admitted one (`AppConfig.ReadFrom.editProfile`), and
a profile depends on nothing but what its table holds under its names
(`Profile.check_eq_ok_iff`).
-/

namespace QueryTyping

open Check

section Put

variable {α : Type} (entries : List (String × α)) (key : String) (value : Option α)

/-- The entries with this value under a key, or with none. -/
def put : List (String × α) :=
  (value.map fun value => (key, value)).toList ++ entries.filter fun entry => entry.1 ≠ key

theorem lookup_put (name : String) :
    (put entries key value).lookup name = if name = key then value else entries.lookup name := by
  have others := lookup_filter_name entries (fun name => decide (name ≠ key)) name
  unfold put
  rw [List.lookup_append, others]
  by_cases same : name = key
  · subst same
    cases value <;> simp
  · have other : (name == key) = false := by simpa using same
    cases value <;> simp [same, other, List.lookup_cons]

theorem lookup_put_self : (put entries key value).lookup key = value := by
  rw [lookup_put, if_pos rfl]

variable {key} in
theorem lookup_put_of_ne {name : String} (other : name ≠ key) :
    (put entries key value).lookup name = entries.lookup name := by
  rw [lookup_put, if_neg other]

theorem mem_put {entry : String × α} (inside : entry ∈ put entries key value) :
    entry.1 = key ∨ entry ∈ entries := by
  obtain isNew | old := List.mem_append.mp inside
  · obtain ⟨_, -, rfl⟩ := Option.map_eq_some_iff.mp (Option.mem_toList.mp isNew)
    exact .inl rfl
  · exact .inr (List.mem_of_mem_filter old)

theorem mem_put_of_mem {entry : String × α} (inside : entry ∈ entries) (other : entry.1 ≠ key) :
    entry ∈ put entries key value :=
  List.mem_append_right _ (List.mem_filter.mpr ⟨inside, by simpa using other⟩)

end Put

theorem Check.Fields.ReadsOr.congr {α : Type} {members others : List (String × Datum)}
    {name : String} {fallback value : α} {check : Check α}
    (reads : Fields.ReadsOr members name fallback check value)
    (same : others.lookup name = members.lookup name) :
    Fields.ReadsOr others name fallback check value := by
  unfold Fields.ReadsOr at reads ⊢
  rwa [same]

/-- A layer with another port has the other settings that it had. -/
theorem SettingsLayer.get_with_port (layer : SettingsLayer) (port : Option Int) {name : SettingName}
    (other : name ≠ .port) : ({ layer with port } : SettingsLayer).get name = layer.get name := by
  cases name with
  | port => exact absurd rfl other
  | _ => rfl

namespace Profile

/-- The entries that a table's URL adds. -/
def urlEntries : Option Datum → Except Refusal (List (String × Datum))
  | some (.text url) =>
    if url.isEmpty then .ok []
    else
      match ConnectionUrl.fields url with
      | .ok fields => .ok (urlMembers fields)
      | .error (.unforeseen (.badValue message)) => breaks message
      | .error error => .error (.error error)
  | some datum =>
    if datum.isGiven then .error (.error (.unforeseen (.notText datum.kind "decode"))) else .ok []
  | none => .ok []

/-- A table with the entries that it has no values for. -/
def filledWith (members entries : List (String × Datum)) : List (String × Datum) :=
  members ++ entries.filter fun (name, _) => (members.lookup name).isNone

theorem withUrl_eq (members : List (String × Datum)) :
    withUrl members = (urlEntries (members.lookup "dsn")).map (filledWith members) := by
  have unfilled : filledWith members [] = members := by simp [filledWith]
  have unwritten (datum : Datum) :
      (if datum.isGiven then .error (.error (.unforeseen (.notText datum.kind "decode")))
        else .ok members : Except Refusal (List (String × Datum))) =
      (if datum.isGiven then .error (.error (.unforeseen (.notText datum.kind "decode")))
        else .ok [] : Except Refusal (List (String × Datum))).map (filledWith members) := by
    split
    · rfl
    · exact congrArg Except.ok unfilled.symm
  unfold withUrl urlEntries
  generalize members.lookup "dsn" = found
  cases found with
  | none => exact congrArg Except.ok unfilled.symm
  | some datum =>
    cases datum with
    | text url =>
      dsimp only
      by_cases blank : url.isEmpty = true
      · rw [if_pos blank, if_pos blank]
        exact congrArg Except.ok unfilled.symm
      · rw [if_neg blank, if_neg blank]
        rcases ConnectionUrl.fields url with (failure | unforeseen) | fields
        · rfl
        · cases unforeseen <;> rfl
        · rfl
    | _ => exact unwritten _

theorem lookup_filledWith (members entries : List (String × Datum)) (name : String) :
    (filledWith members entries).lookup name = (members.lookup name).or (entries.lookup name) := by
  have added := lookup_filter_name entries (fun name => (members.lookup name).isNone) name
  rw [filledWith, List.lookup_append, added]
  cases members.lookup name <;> simp

/-- The profile is what the table says, and gives nothing where the table says nothing. -/
structure ReadFrom (members : List (String × Datum)) (profile : Profile) : Prop where
  host : Fields.ReadsOr members "host" none (fun datum => (text datum).map some) profile.layer.host
  port : Fields.ReadsOr members "port" none
    (fun datum => (SettingsLayer.checkPort datum).map some) profile.layer.port
  dbname :
    Fields.ReadsOr members "dbname" none (fun datum => (text datum).map some) profile.layer.dbname
  user : Fields.ReadsOr members "user" none (optional text) profile.layer.user
  password : Fields.ReadsOr members "password" none (optional text) profile.layer.password
  sslmode : Fields.ReadsOr members "sslmode" none
    (fun datum => (SettingsLayer.checkSslMode datum).map some) profile.layer.sslmode
  searchPath : Fields.ReadsOr members "search_path" none
    (fun datum => (SettingsLayer.checkSearchPath datum).map some) profile.layer.searchPath
  timeout : Fields.ReadsOr members "statement_timeout" none (optional number)
    profile.layer.statementTimeout
  format : profile.layer.defaultFormat = none
  url : Fields.ReadsOr members "dsn" none (optional text) profile.url
  known : ∀ member ∈ members, member.1 ∈ names

theorem check_eq_ok_iff {members : List (String × Datum)} {profile : Profile} :
    Profile.check (.table members) = .ok profile ↔
      ∃ entries, urlEntries (members.lookup "dsn") = .ok entries ∧
        ReadFrom (filledWith members entries) profile := by
  have filling (filled : List (String × Datum)) : withUrl members = .ok filled ↔
      ∃ entries, urlEntries (members.lookup "dsn") = .ok entries ∧
        filledWith members entries = filled := by
    rw [withUrl_eq]
    cases urlEntries (members.lookup "dsn") <;> simp [Except.map]
  constructor
  · intro checked
    obtain ⟨filled, withFields, admitted⟩ := (except_bind_eq_ok_iff _ _ _).mp checked
    obtain ⟨entries, read, rfl⟩ := (filling filled).mp withFields
    refine ⟨entries, read, ?_⟩
    rw [model_eq_ok_iff] at admitted
    unfold SettingsLayer.connectionFields at admitted
    simp only [Fields.admits_bind_iff, Fields.admits_fieldOr_iff, Fields.admits_pure_iff]
      at admitted
    obtain ⟨_, ⟨host, hostRead, port, portRead, dbname, dbnameRead, user, userRead, password,
      passwordRead, sslmode, sslmodeRead, searchPath, searchPathRead, rfl⟩, url, urlRead, timeout,
      timeoutRead, ⟨⟩, listed, rfl⟩ := admitted
    exact ⟨hostRead, portRead, dbnameRead, userRead, passwordRead, sslmodeRead, searchPathRead,
      timeoutRead, rfl, urlRead, Fields.admits_nothingElse_iff.mp listed⟩
  · rintro ⟨entries, read, reads⟩
    refine (except_bind_eq_ok_iff _ _ _).mpr ⟨_, (filling _).mpr ⟨entries, read, rfl⟩, ?_⟩
    rw [model_eq_ok_iff]
    unfold SettingsLayer.connectionFields
    simp only [Fields.admits_bind_iff, Fields.admits_fieldOr_iff, Fields.admits_pure_iff]
    refine ⟨_, ⟨_, reads.host, _, reads.port, _, reads.dbname, _, reads.user, _, reads.password, _,
      reads.sslmode, _, reads.searchPath, rfl⟩, _, reads.url, _, reads.timeout, (),
      Fields.admits_nothingElse_iff.mpr reads.known, ?_⟩
    obtain ⟨⟨_, _, _, _, _, _, _, _, _⟩, url⟩ := profile
    obtain rfl := reads.format
    rfl

theorem urlMembers_known (fields : UrlFields) :
    ∀ entry ∈ urlMembers fields, entry.1 ∈ names := by
  rintro ⟨key, datum⟩ listed
  obtain ⟨⟨name, value⟩, isField, found⟩ := List.mem_filterMap.mp listed
  obtain ⟨_, -, entry⟩ := Option.map_eq_some_iff.mp found
  cases entry
  simp only [List.mem_cons, Prod.mk.injEq, List.not_mem_nil, or_false] at isField
  obtain ⟨rfl, -⟩ | ⟨rfl, -⟩ | ⟨rfl, -⟩ | ⟨rfl, -⟩ | ⟨rfl, -⟩ | ⟨rfl, -⟩ := isField <;>
    simp [names, SettingsLayer.connectionNames]

theorem urlEntries_known {found : Option Datum} {entries : List (String × Datum)}
    (read : urlEntries found = .ok entries) : ∀ entry ∈ entries, entry.1 ∈ names := by
  unfold urlEntries at read
  split at read
  · split at read
    · cases read
      simp
    · split at read
      · cases read
        exact urlMembers_known _
      · cases read
      · cases read
  · split at read
    · cases read
    · cases read
      simp
  · cases read
    simp

section Edits

variable {table entries : List (String × Datum)} {profile : Profile}

/-- Putting a value under a name of profiles brings no other name. -/
theorem known_put {key : String} (listed : key ∈ names) {other : Option Datum}
    {others : List (String × Datum)}
    (known : ∀ member ∈ filledWith (put table key other) others, member.1 ∈ names)
    (entriesKnown : ∀ entry ∈ entries, entry.1 ∈ names) (value : Option Datum) :
    ∀ member ∈ filledWith (put table key value) entries, member.1 ∈ names := by
  intro member inside
  obtain inTable | inEntries := List.mem_append.mp inside
  · obtain isKey | old := mem_put table key value inTable
    · rwa [isKey]
    · by_cases isKey : member.1 = key
      · rwa [isKey]
      · exact known member (List.mem_append_left _ (mem_put_of_mem table key other old isKey))
  · exact entriesKnown member (List.mem_of_mem_filter inEntries)

/-- A profile whose table gets a port has it, and is otherwise as it was. -/
theorem check_put_port {other : Option Datum}
    (checked : Profile.check (.table (put table "port" other)) = .ok profile) {n : Int}
    (range : 1 ≤ n ∧ n ≤ 65535) :
    Profile.check (.table (put table "port" (some (.integer n)))) =
      .ok { profile with layer := { profile.layer with port := some n } } := by
  obtain ⟨entries, read, reads⟩ := check_eq_ok_iff.mp checked
  have dsn (value : Option Datum) : (put table "port" value).lookup "dsn" = table.lookup "dsn" :=
    lookup_put_of_ne table value (by decide)
  have same {name : String} (apart : name ≠ "port") :
      (filledWith (put table "port" (some (.integer n))) entries).lookup name =
        (filledWith (put table "port" other) entries).lookup name := by
    simp only [lookup_filledWith, lookup_put_of_ne table _ apart]
  have port : (filledWith (put table "port" (some (.integer n))) entries).lookup "port" =
      some (.integer n) := by
    rw [lookup_filledWith, lookup_put_self, Option.some_or]
  have admitted : SettingsLayer.checkPort (.integer n) = .ok n :=
    SettingsLayer.checkPort_eq_ok_iff.mpr ⟨rfl, range⟩
  rw [dsn] at read
  refine check_eq_ok_iff.mpr ⟨entries, by rw [dsn]; exact read, ?_⟩
  exact
    { reads with
      host := reads.host.congr (same (by decide))
      port := by
        simp only [Fields.ReadsOr, port, admitted]
        rfl
      dbname := reads.dbname.congr (same (by decide))
      user := reads.user.congr (same (by decide))
      password := reads.password.congr (same (by decide))
      sslmode := reads.sslmode.congr (same (by decide))
      searchPath := reads.searchPath.congr (same (by decide))
      timeout := reads.timeout.congr (same (by decide))
      url := reads.url.congr (same (by decide))
      known := known_put (by decide) reads.known (urlEntries_known read) _ }

/-- A port that stands in a table as a number is the one that is read. -/
theorem port_of_readsOr {members : List (String × Datum)} {port held : Option Int}
    (found : members.lookup "port" = port.map .integer)
    (reads : Fields.ReadsOr members "port" none
      (fun datum => (SettingsLayer.checkPort datum).map some) held) : held = port := by
  unfold Fields.ReadsOr at reads
  rw [found] at reads
  cases port with
  | none => exact reads
  | some n =>
    dsimp only [Option.map_some] at reads
    cases checked : SettingsLayer.checkPort (.integer n) with
    | error refusal =>
      rw [checked] at reads
      cases reads
    | ok admitted =>
      rw [checked] at reads
      cases reads
      obtain ⟨read, -⟩ := SettingsLayer.checkPort_eq_ok_iff.mp checked
      cases read
      rfl

/-- The port under its name is the profile's. -/
theorem port_of_put_port {n : Int}
    (checked : Profile.check (.table (put table "port" (some (.integer n)))) = .ok profile) :
    profile.layer.port = some n := by
  obtain ⟨entries, -, reads⟩ := check_eq_ok_iff.mp checked
  refine port_of_readsOr ?_ reads.port
  rw [lookup_filledWith, lookup_put_self]
  rfl

/-- With no port under its name, a table has its URL's. -/
theorem lookup_port_of_url (unset : table.lookup "port" = none) (url : String) (given : UrlFields) :
    (filledWith (put table "dsn" (some (.text url))) (urlMembers given)).lookup "port" =
      (given.port.map (↑) : Option Int).map .integer := by
  have fromUrl := urlMembers_lookup given .port
  rw [lookup_filledWith, lookup_put_of_ne table _ (by decide), unset, Option.none_or]
  refine fromUrl.trans ?_
  obtain ⟨host, port, dbname, user, password, sslmode⟩ := given
  cases port <;> rfl

theorem urlEntries_text {url : String} (filled : url ≠ "") {given : UrlFields}
    (read : ConnectionUrl.fields url = .ok given) :
    urlEntries (some (.text url)) = .ok (urlMembers given) := by
  have written : ¬ url.isEmpty = true := by simpa using filled
  rw [urlEntries, if_neg written, read]

/-- The port of its URL is the profile's. -/
theorem port_of_put_url (unset : table.lookup "port" = none) {url : String} (filled : url ≠ "")
    {given : UrlFields} (read : ConnectionUrl.fields url = .ok given)
    (checked : Profile.check (.table (put table "dsn" (some (.text url)))) = .ok profile) :
    profile.layer.port = given.port.map (↑) := by
  obtain ⟨entries, found, reads⟩ := check_eq_ok_iff.mp checked
  rw [lookup_put_self, urlEntries_text filled read] at found
  cases found
  exact port_of_readsOr (lookup_port_of_url unset url given) reads.port

theorem layer_with_port (given : UrlFields) (port : Option Nat) :
    UrlFields.layer { given with port } = { given.layer with port := port.map (↑) } := by
  cases port <;> rfl

/-- A profile whose URL changes in nothing but its port changes in nothing else either. -/
theorem check_put_url (unset : table.lookup "port" = none) {url another : String}
    (filled : url ≠ "" ∧ another ≠ "") {given : UrlFields} {port : Option Nat}
    (read : ConnectionUrl.fields url = .ok given)
    (readAnother : ConnectionUrl.fields another = .ok { given with port })
    (range : ∀ n ∈ port, 1 ≤ n ∧ n ≤ 65535)
    (checked : Profile.check (.table (put table "dsn" (some (.text url)))) = .ok profile) :
    Profile.check (.table (put table "dsn" (some (.text another)))) =
      .ok { layer := { profile.layer with port := port.map (↑) }, url := some another } := by
  obtain ⟨entries, found, reads⟩ := check_eq_ok_iff.mp checked
  rw [lookup_put_self, urlEntries_text filled.1 read] at found
  cases found
  have same (name : SettingName) (apart : name ≠ .port) (other : name.text ≠ "dsn") :
      (filledWith (put table "dsn" (some (.text another))) (urlMembers { given with port })).lookup
          name.text =
        (filledWith (put table "dsn" (some (.text url))) (urlMembers given)).lookup name.text := by
    simp only [lookup_filledWith, lookup_put_of_ne table _ other, urlMembers_lookup,
      layer_with_port, SettingsLayer.get_with_port _ _ apart]
  have portFound := lookup_port_of_url unset another { given with port }
  have portRead : Fields.ReadsOr (filledWith (put table "dsn" (some (.text another)))
      (urlMembers { given with port })) "port" none
      (fun datum => (SettingsLayer.checkPort datum).map some) (port.map (↑)) := by
    unfold Fields.ReadsOr
    rw [portFound]
    dsimp only
    cases port with
    | none => rfl
    | some n =>
      obtain ⟨low, high⟩ := range n rfl
      have admitted : SettingsLayer.checkPort (.integer n) = .ok (n : Int) :=
        SettingsLayer.checkPort_eq_ok_iff.mpr ⟨rfl, by omega, by omega⟩
      simp only [Option.map_some, admitted]
      rfl
  refine check_eq_ok_iff.mpr ⟨urlMembers { given with port }, ?_, ?_⟩
  · rw [lookup_put_self, urlEntries_text filled.2 readAnother]
  · exact
      { host := reads.host.congr (same .host (by decide) (by decide))
        port := portRead
        dbname := reads.dbname.congr (same .dbname (by decide) (by decide))
        user := reads.user.congr (same .user (by decide) (by decide))
        password := reads.password.congr (same .password (by decide) (by decide))
        sslmode := reads.sslmode.congr (same .sslmode (by decide) (by decide))
        searchPath := reads.searchPath.congr (same .searchPath (by decide) (by decide))
        timeout := reads.timeout.congr (same .statementTimeout (by decide) (by decide))
        format := reads.format
        url := by
          rw [Fields.ReadsOr, lookup_filledWith, lookup_put_self]
          rfl
        known := known_put (by decide) reads.known (urlMembers_known _) _ }

end Edits

end Profile

namespace AppConfig

/-- The table with one profile's table edited, if it has a profile of the name. -/
def editProfile (members : List (String × Datum)) (name : String)
    (edit : List (String × Datum) → List (String × Datum)) : List (String × Datum) :=
  match members.lookup "profiles" with
  | some (.table profiles) =>
    match profiles.lookup name with
    | some (.table table) =>
      put members "profiles" (some (.table (put profiles name (some (.table (edit table))))))
    | _ => members
  | _ => members

variable {members table : List (String × Datum)} {name : String}
  {edit another : List (String × Datum) → List (String × Datum)} {config : AppConfig}

theorem lookup_editProfile_of_ne {key : String} (other : key ≠ "profiles") :
    (editProfile members name edit).lookup key = members.lookup key := by
  unfold editProfile
  split
  · split
    · exact lookup_put_of_ne members _ other
    · rfl
  · rfl

theorem editProfile_eq {profiles : List (String × Datum)}
    (found : members.lookup "profiles" = some (.table profiles))
    (isTable : profiles.lookup name = some (.table table)) :
    editProfile members name edit =
      put members "profiles" (some (.table (put profiles name (some (.table (edit table)))))) := by
  unfold editProfile
  simp only [found, isTable]

/-- The edited profile is admitted if the config is. -/
theorem ReadFrom.check_edited (isTable : profileTable? members name = some table)
    (reads : ReadFrom (editProfile members name edit) config) :
    ∃ profile others, Profile.check (.table (edit table)) = .ok profile ∧
      config.profiles = (name, profile) :: others := by
  obtain ⟨profiles, found, inTable⟩ := profileTable?_eq_some_iff.mp isTable
  have profilesRead := reads.profiles
  unfold Fields.ReadsOr at profilesRead
  rw [editProfile_eq found inTable, lookup_put_self] at profilesRead
  have paired := dictionary_eq_ok_iff.mp profilesRead
  generalize config.profiles = entries at paired
  cases paired with
  | @cons _ entry _ others first _ =>
    obtain ⟨key, profile⟩ := entry
    obtain ⟨rfl, checked⟩ := first
    exact ⟨profile, others, checked, rfl⟩

/-- Another admitted edit of the profile makes another config of the table. -/
theorem ReadFrom.editProfile (isTable : profileTable? members name = some table)
    (reads : ReadFrom (editProfile members name edit) config) {profile : Profile}
    (checked : Profile.check (.table (another table)) = .ok profile) :
    ReadFrom (AppConfig.editProfile members name another)
      { config with profiles := (name, profile) :: config.profiles.tail } := by
  have same {key : String} (other : key ≠ "profiles") :
      (AppConfig.editProfile members name another).lookup key =
        (AppConfig.editProfile members name edit).lookup key :=
    (lookup_editProfile_of_ne other).trans (lookup_editProfile_of_ne other).symm
  have timeout := reads.timeout.congr (same (by decide))
  have format := reads.format.congr (same (by decide))
  have defaultProfile := reads.defaultProfile.congr (same (by decide))
  have gen := reads.gen.congr (same (by decide))
  have profilesRead := reads.profiles
  have known := reads.known
  obtain ⟨profiles, found, inTable⟩ := profileTable?_eq_some_iff.mp isTable
  unfold Fields.ReadsOr at profilesRead
  rw [editProfile_eq found inTable] at profilesRead known
  rw [lookup_put_self] at profilesRead
  rw [editProfile_eq found inTable] at timeout format defaultProfile gen ⊢
  refine ⟨timeout, format, defaultProfile, ?_, gen, ?_⟩
  · unfold Fields.ReadsOr
    rw [lookup_put_self]
    refine dictionary_eq_ok_iff.mpr ?_
    have paired := dictionary_eq_ok_iff.mp profilesRead
    generalize config.profiles = entries at paired
    cases paired with
    | cons _ others => exact .cons ⟨rfl, checked⟩ others
  · intro member inside
    obtain isKey | old := mem_put _ _ _ inside
    · rw [isKey]
      decide
    · by_cases isKey : member.1 = "profiles"
      · rw [isKey]
        decide
      · exact known member (mem_put_of_mem _ _ _ old isKey)

end AppConfig

end QueryTyping
