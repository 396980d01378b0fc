import QueryTyping.Proofs.SettingStack
import QueryTyping.Proofs.UrlFrames

/-!
# How resolving fails

Reading a connection URL fails in two ways: the scheme is not one for this
program, which is a config failure, or the URL is malformed, which no one foresees
(`ConnectionUrl.fields_cases`).  Resolving settings fails with a config failure
unless a malformed URL is reached first (`Settings.resolve_failures`).
-/

namespace QueryTyping

open Text

namespace ConnectionUrl

/-- The text is an address that may stand in brackets. -/
def isAddress (host : List Char) : Bool :=
  if host.head? = some 'v' then Address.isLater host
  else !Address.isVersion4 host && Address.isVersion6 host

/-- A place has this host in brackets; without brackets it is what stands before the colon. -/
inductive Encloses : List Char → List Char → Prop
  | closed (host after : List Char) (plain : ']' ∉ host) (port : ∀ c ∈ after.head?, c = ':') :
      Encloses ('[' :: (host ++ ']' :: after)) host
  | unclosed (host : List Char) (plain : ']' ∉ host) : Encloses ('[' :: host) host
  | bare (place : List Char) (plain : '[' ∉ place) : Encloses place (cutFirst ':' place).1

/-- Brackets come in both kinds, and if there are any the host is an address. -/
def BracketsFit (authority : List Char) : Prop :=
  ('[' ∈ authority ↔ ']' ∈ authority) ∧
    ('[' ∈ authority → ∃ host, Encloses (cutLast '@' authority).2 host ∧ isAddress host = true)

/-- A port as it can be written: nothing, or a number in digits that is not too great. -/
def IsPort (port : List Char) : Prop :=
  port = [] ∨ (∀ c ∈ port, c.isDigit = true) ∧ port.length ≤ Numeral.maxDigits ∧
    Numeral.digitsValue port ≤ 65535

/-- The scheme is one of those for this program. -/
def SchemeKnown (url : String) : Prop :=
  String.ofList (cut (cleaned url)).scheme ∈ ["postgresql", "postgres"]

/-- Brackets or characters of the authority are wrong, or the port behind a known scheme is. -/
def Malformed (url : String) : Prop :=
  ¬ BracketsFit (cut (cleaned url)).authority ∨
    (∃ c ∈ (cut (cleaned url)).authority, c ∈ disguised) ∨
    SchemeKnown url ∧ ¬ IsPort (place (cut (cleaned url)).authority).2

/-- An error that is not foreseen. -/
def IsBadValue (error : Error) : Prop := ∃ message, error = .unforeseen (.badValue message)

/-- A failure of the configuration. -/
def IsConfigFailure (error : Error) : Prop :=
  ∃ message violations, error = .failure (.config message violations)

theorem cutFirst_cases (mark : Char) (s : List Char) :
    (mark ∉ s ∧ cutFirst mark s = (s, none)) ∨
      ∃ before after, s = before ++ mark :: after ∧ mark ∉ before ∧
        cutFirst mark s = (before, some after) := by
  by_cases inside : mark ∈ s
  · obtain ⟨before, after, rfl, first⟩ := List.eq_append_cons_of_mem inside
    exact .inr ⟨before, after, rfl, first, cutFirst_append first after⟩
  · exact .inl ⟨inside, cutFirst_of_notMem inside⟩

theorem checkHost_cases (host : List Char) :
    (isAddress host = true ∧ checkBrackets.checkHost host = .ok ()) ∨
      (isAddress host = false ∧ ∃ error, IsBadValue error ∧
        checkBrackets.checkHost host = .error error) := by
  unfold isAddress checkBrackets.checkHost
  split
  · cases later : Address.isLater host
    · exact .inr ⟨rfl, _, ⟨_, rfl⟩, rfl⟩
    · exact .inl ⟨rfl, rfl⟩
  · cases four : Address.isVersion4 host
    · cases six : Address.isVersion6 host
      · exact .inr ⟨rfl, _, ⟨_, rfl⟩, rfl⟩
      · exact .inl ⟨rfl, rfl⟩
    · exact .inr ⟨rfl, _, ⟨_, rfl⟩, rfl⟩

/-- The host that a place encloses, found by cutting. -/
def enclosed? (place : List Char) : Option (List Char) :=
  match cutFirst '[' place with
  | (before, some bracketed) =>
    let (host, after) := cutFirst ']' bracketed
    if !before.isEmpty then none
    else if (after.getD []).head?.any (· ≠ ':') then none
    else some host
  | (_, none) => some (cutFirst ':' place).1

theorem enclosed?_of_encloses {place host : List Char} (encloses : Encloses place host) :
    enclosed? place = some host := by
  have opened (rest : List Char) : cutFirst '[' ('[' :: rest) = ([], some rest) :=
    (cutFirst_append (List.not_mem_nil (a := '[')) rest :)
  unfold enclosed?
  cases encloses with
  | closed host after plain port =>
    rw [opened]
    dsimp only
    rw [cutFirst_append plain]
    cases after with
    | nil => rfl
    | cons c after =>
      obtain rfl := port c rfl
      rfl
  | unclosed host plain =>
    rw [opened]
    dsimp only
    rw [cutFirst_of_notMem plain]
    rfl
  | bare _ plain => rw [cutFirst_of_notMem plain]

theorem encloses_of_enclosed? {place host : List Char} (found : enclosed? place = some host) :
    Encloses place host := by
  unfold enclosed? at found
  obtain ⟨plain, cut⟩ | ⟨before, bracketed, rfl, -, cut⟩ := cutFirst_cases '[' place
  · rw [cut] at found
    cases found
    exact .bare place plain
  · rw [cut] at found
    dsimp only at found
    split at found
    · cases found
    next starts =>
      obtain rfl : before = [] := by simpa using starts
      obtain ⟨plain, cut⟩ | ⟨inner, after, rfl, plain, cut⟩ := cutFirst_cases ']' bracketed
      · rw [cut] at found
        cases found
        exact .unclosed bracketed plain
      · rw [cut] at found
        dsimp only [Option.getD_some] at found
        split at found
        · cases found
        next port =>
          cases found
          refine .closed host after plain fun c first => ?_
          rw [Option.mem_def.mp first] at port
          simpa using port

theorem checkBrackets_eq (authority : List Char) :
    checkBrackets authority =
      if authority.contains '[' != authority.contains ']' then .error brokenBrackets
      else if !authority.contains '[' then .ok ()
      else match enclosed? (cutLast '@' authority).2 with
        | some host => checkBrackets.checkHost host
        | none => .error brokenBrackets := by
  unfold checkBrackets enclosed?
  split
  · rfl
  split
  · rfl
  dsimp only
  generalize cutFirst '[' (cutLast '@' authority).2 = pieces
  obtain ⟨before, _ | bracketed⟩ := pieces
  · rfl
  · dsimp only
    by_cases outside : (!before.isEmpty) = true
    · rw [if_pos outside, if_pos outside]
    · rw [if_neg outside, if_neg outside]
      split <;> rfl

/-- The check of the brackets is whether they fit. -/
theorem checkBrackets_cases (authority : List Char) :
    (BracketsFit authority ∧ checkBrackets authority = .ok ()) ∨
      (¬ BracketsFit authority ∧ ∃ error, IsBadValue error ∧
        checkBrackets authority = .error error) := by
  have broken : IsBadValue brokenBrackets := ⟨_, rfl⟩
  rw [checkBrackets_eq]
  simp only [List.contains_eq_mem]
  by_cases opened : '[' ∈ authority <;> by_cases closed : ']' ∈ authority
  · simp only [opened, closed, bne_self_eq_false, decide_true, Bool.not_true, Bool.false_eq_true,
      if_false]
    have fits : BracketsFit authority ↔
        ∃ host, Encloses (cutLast '@' authority).2 host ∧ isAddress host = true :=
      ⟨fun fit => fit.2 opened, fun host => ⟨by simp [opened, closed], fun _ => host⟩⟩
    rw [fits]
    cases found : enclosed? (cutLast '@' authority).2 with
    | none =>
      refine .inr ⟨?_, _, broken, rfl⟩
      rintro ⟨host, encloses, -⟩
      rw [enclosed?_of_encloses encloses] at found
      cases found
    | some host =>
      obtain ⟨address, checked⟩ | ⟨other, checked⟩ := checkHost_cases host
      · exact .inl ⟨⟨host, encloses_of_enclosed? found, address⟩, checked⟩
      · refine .inr ⟨?_, checked⟩
        rintro ⟨_, encloses, address⟩
        rw [enclosed?_of_encloses encloses] at found
        cases found
        rw [other] at address
        cases address
  · refine .inr ⟨fun fit => closed (fit.1.mp opened), _, broken, ?_⟩
    simp [opened, closed]
  · refine .inr ⟨fun fit => opened (fit.1.mpr closed), _, broken, ?_⟩
    simp [opened, closed]
  · refine .inl ⟨⟨by simp [opened, closed], fun inside => absurd inside opened⟩, ?_⟩
    simp [opened, closed]

theorem checkCharacters_cases (authority : List Char) :
    ((∀ c ∈ authority, c ∉ disguised) ∧ checkCharacters authority = .ok ()) ∨
      ((∃ c ∈ authority, c ∈ disguised) ∧ ∃ error, IsBadValue error ∧
        checkCharacters authority = .error error) := by
  by_cases clean : ∀ c ∈ authority, c ∉ disguised
  · exact .inl ⟨clean, checkCharacters_eq_ok_iff.mpr clean⟩
  · refine .inr ⟨by simpa using clean, ?_⟩
    rw [checkCharacters, if_pos (by simpa using clean)]
    exact ⟨_, ⟨_, rfl⟩, rfl⟩

theorem portNumber?_cases (port : List Char) :
    (IsPort port ∧ ∃ number, portNumber? port = .ok number) ∨
      (¬ IsPort port ∧ ∃ error, IsBadValue error ∧ portNumber? port = .error error) := by
  unfold portNumber? IsPort
  split
  next blank => exact .inl ⟨.inl (by simpa using blank), _, rfl⟩
  next written =>
    have filled : port ≠ [] := by simpa using written
    split
    next other =>
      refine .inr ⟨?_, _, ⟨_, rfl⟩, rfl⟩
      rintro (empty | ⟨digits, -⟩)
      · exact filled empty
      · exact absurd other (by simpa using digits)
    next digits =>
      have digits : ∀ c ∈ port, c.isDigit = true := by simpa using digits
      split
      next long =>
        refine .inr ⟨?_, _, ⟨_, rfl⟩, rfl⟩
        rintro (empty | ⟨-, short, -⟩)
        · exact filled empty
        · omega
      next short =>
        dsimp only
        split
        next great =>
          refine .inr ⟨?_, _, ⟨_, rfl⟩, rfl⟩
          rintro (empty | ⟨-, -, small⟩)
          · exact filled empty
          · omega
        next small => exact .inl ⟨.inr ⟨digits, by omega, by omega⟩, _, rfl⟩

/-- A URL gives fields unless it is malformed or its scheme is another; which of the two it is
can be told from the error. -/
theorem fields_cases (url : String) :
    (¬ Malformed url ∧ SchemeKnown url ∧ ∃ given, fields url = .ok given) ∨
      (Malformed url ∧ ∃ error, IsBadValue error ∧ fields url = .error error) ∨
      (¬ Malformed url ∧ ¬ SchemeKnown url ∧ ∃ error, IsConfigFailure error ∧
        fields url = .error error) := by
  rw [fields_eq]
  unfold Malformed SchemeKnown
  dsimp only
  generalize cut (cleaned url) = found
  obtain ⟨fit, brackets⟩ | ⟨unfit, error, bad, brackets⟩ := checkBrackets_cases found.authority
  · rw [brackets]
    obtain ⟨clean, characters⟩ | ⟨disguise, error, bad, characters⟩ :=
      checkCharacters_cases found.authority
    · rw [characters]
      have undisguised : ¬ ∃ c ∈ found.authority, c ∈ disguised := by simpa using clean
      by_cases known : String.ofList found.scheme ∈ ["postgresql", "postgres"]
      · rw [checkScheme_eq_ok_iff.mpr known]
        obtain ⟨port, number, read⟩ | ⟨noPort, error, bad, read⟩ :=
          portNumber?_cases (place found.authority).2
        · exact .inl ⟨by simp [fit, undisguised, port], known, _, by rw [read]; rfl⟩
        · exact .inr (.inl ⟨.inr (.inr ⟨known, noPort⟩), error, bad, by rw [read]; rfl⟩)
      · have refused : checkScheme found.scheme = .error (.failure (.config
            ("Invalid DSN scheme: '" ++ String.ofList found.scheme ++
              "'. Expected 'postgresql' or 'postgres'") none)) := by
          rw [checkScheme, if_pos (by simpa using known)]
        exact .inr (.inr ⟨by simp [fit, undisguised, known], known, _, ⟨_, _, rfl⟩,
          by rw [refused]; rfl⟩)
    · rw [characters]
      exact .inr (.inl ⟨.inr (.inl disguise), error, bad, rfl⟩)
  · rw [brackets]
    exact .inr (.inl ⟨.inl unfit, error, bad, rfl⟩)

end ConnectionUrl

namespace Settings

open ConnectionUrl (IsBadValue IsConfigFailure Malformed SchemeKnown)

/-- The profile that is asked for, if any is, is one of the config file's. -/
def ProfileKnown (config : AppConfig) (environment : Environment) (profile : Option String) :
    Prop :=
  ∀ name, nonempty (config.markedProfile environment profile) = some name →
    ∃ known, config.profiles.lookup name = some known

/-- The port of the environment, if it has one, is a whole number. -/
def PortReadable (environment : Environment) : Prop :=
  ∀ s, environment.lookup "PGPORT" = some s → ∃ n, Numeral.anyInteger? s = some n

/-- There is a URL, and it is malformed. -/
def MalformedUrl (url : Option String) : Prop := ∃ s, nonempty url = some s ∧ Malformed s

/-- The URL, if there is one, gives fields. -/
def UrlInOrder (url : Option String) : Prop :=
  ∀ s, nonempty url = some s → ¬ Malformed s ∧ SchemeKnown s

theorem activeProfile_cases (config : AppConfig) (environment : Environment)
    (profile : Option String) :
    (ProfileKnown config environment profile ∧
        activeProfile config environment profile =
          .ok (config.markedProfile environment profile)) ∨
      (¬ ProfileKnown config environment profile ∧
        ∃ error, IsConfigFailure error ∧
          activeProfile config environment profile = .error error) := by
  have same : (((nonempty profile).orElse fun _ =>
      nonempty (environment.lookup "PGQUERYGEN_PROFILE")).orElse fun _ => config.defaultProfile) =
      config.markedProfile environment profile := by
    simp only [AppConfig.markedProfile, Option.orElse_eq_or, Option.or_assoc]
  unfold ProfileKnown activeProfile
  simp only [same]
  cases asked : nonempty (config.markedProfile environment profile) with
  | none => exact .inl ⟨nofun, rfl⟩
  | some name =>
    cases found : config.profiles.lookup name with
    | none =>
      refine .inr ⟨fun known => ?_, _, ⟨_, _, rfl⟩, by simp only [found]; rfl⟩
      obtain ⟨held, isHeld⟩ := known name rfl
      rw [found] at isHeld
      cases isHeld
    | some held =>
      refine .inl ⟨fun other same => ?_, by simp only [found]; rfl⟩
      cases same
      exact ⟨held, found⟩

/-- The profile in effect is the one that is asked for, and is known. -/
theorem activeProfile_eq_ok_iff {config : AppConfig} {environment : Environment}
    {profile active : Option String} :
    activeProfile config environment profile = .ok active ↔
      ProfileKnown config environment profile ∧
        active = config.markedProfile environment profile := by
  obtain ⟨known, read⟩ | ⟨unknown, error, -, read⟩ := activeProfile_cases config environment profile
  · simp [read, known, eq_comm]
  · simp [read, unknown]

theorem ofEnvironment_cases (environment : Environment) :
    (PortReadable environment ∧ ∃ layer, ofEnvironment environment = .ok layer) ∨
      (¬ PortReadable environment ∧
        ∃ error, IsConfigFailure error ∧ ofEnvironment environment = .error error) := by
  unfold PortReadable ofEnvironment
  cases found : environment.lookup "PGPORT" with
  | none => exact .inl ⟨nofun, _, rfl⟩
  | some s =>
    cases read : Numeral.anyInteger? s with
    | none =>
      refine .inr ⟨fun readable => ?_, _, ⟨_, _, rfl⟩, by simp only [read]; rfl⟩
      obtain ⟨n, isRead⟩ := readable s rfl
      rw [read] at isRead
      cases isRead
    | some n =>
      refine .inl ⟨fun other same => ?_, _, by simp only [read]; rfl⟩
      cases same
      exact ⟨n, read⟩

/-- The layer of the environment is what its variables say, if its port can be read. -/
theorem ofEnvironment_eq_ok_iff {environment : Environment} {layer : SettingsLayer} :
    ofEnvironment environment = .ok layer ↔
      PortReadable environment ∧ layer =
        { host := environment.lookup "PGHOST"
          port := (environment.lookup "PGPORT").bind Numeral.anyInteger?
          dbname := environment.lookup "PGDATABASE", user := environment.lookup "PGUSER"
          password := environment.lookup "PGPASSWORD"
          sslmode := environment.lookup "PGSSLMODE" } := by
  obtain ⟨readable, given, read⟩ | ⟨unreadable, error, -, read⟩ := ofEnvironment_cases environment
  · rw [read, ← ofEnvironment_eq_ok read]
    simp [readable, eq_comm]
  · simp [read, unreadable]

theorem urlLayer_cases (url : Option String) :
    (UrlInOrder url ∧ ¬ MalformedUrl url ∧ ∃ layer, urlLayer url = .ok layer) ∨
      (MalformedUrl url ∧ ∃ error, IsBadValue error ∧ urlLayer url = .error error) ∨
      (¬ UrlInOrder url ∧ ¬ MalformedUrl url ∧
        ∃ error, IsConfigFailure error ∧ urlLayer url = .error error) := by
  unfold urlLayer UrlInOrder MalformedUrl
  cases nonempty url with
  | none => exact .inl ⟨nofun, nofun, _, rfl⟩
  | some s =>
    simp only [Option.some.injEq, forall_eq', exists_eq_left']
    obtain ⟨wellFormed, known, given, read⟩ | ⟨malformed, error, bad, read⟩ |
      ⟨wellFormed, unknown, error, failure, read⟩ := ConnectionUrl.fields_cases s
    · exact .inl ⟨⟨wellFormed, known⟩, wellFormed, _, by rw [read]; rfl⟩
    · exact .inr (.inl ⟨malformed, error, bad, by rw [read]; rfl⟩)
    · exact .inr (.inr ⟨fun both => unknown both.2, wellFormed, error, failure, by rw [read]; rfl⟩)

theorem settle_cases (stack : SettingStack) :
    (∃ resolved, stack.settle = .ok resolved) ∨
      ∃ error, IsConfigFailure error ∧ stack.settle = .error error := by
  unfold SettingStack.settle
  cases violations stack.merged.connection with
  | nil => exact .inl ⟨_, rfl⟩
  | cons item items => exact .inr ⟨_, ⟨_, _, rfl⟩, rfl⟩

/-- Resolving comes to a malformed URL: the environment's, or if that is in order the given one. -/
def MeetsMalformedUrl (config : AppConfig) (environment : Environment)
    (profile url : Option String) : Prop :=
  ProfileKnown config environment profile ∧ PortReadable environment ∧
    (MalformedUrl (environment.lookup "PGQUERYGEN_DSN") ∨
      UrlInOrder (environment.lookup "PGQUERYGEN_DSN") ∧ MalformedUrl url)

/-- Resolving gives settings or ends with a config failure, unless it meets a malformed URL. -/
theorem resolve_cases (config : AppConfig) (environment : Environment)
    (profile url : Option String) (flags : SettingsLayer) :
    (¬ MeetsMalformedUrl config environment profile url ∧
        ((∃ resolved, resolve config environment profile url flags = .ok resolved) ∨
          ∃ error, IsConfigFailure error ∧
            resolve config environment profile url flags = .error error)) ∨
      (MeetsMalformedUrl config environment profile url ∧
        ∃ error, IsBadValue error ∧
          resolve config environment profile url flags = .error error) := by
  rw [resolve_eq]
  unfold MeetsMalformedUrl
  -- The levels are read in order, and the first error is the outcome.
  obtain ⟨known, activeRead⟩ | ⟨unknown, error, failure, activeRead⟩ :=
    activeProfile_cases config environment profile
  · rw [activeRead]
    obtain ⟨readable, given, givenRead⟩ | ⟨unreadable, error, failure, givenRead⟩ :=
      ofEnvironment_cases environment
    · rw [givenRead]
      obtain ⟨inOrder, wellFormed, environmentUrl, environmentRead⟩ |
        ⟨malformed, error, bad, environmentRead⟩ |
        ⟨outOfOrder, wellFormed, error, failure, environmentRead⟩ :=
        urlLayer_cases (environment.lookup "PGQUERYGEN_DSN")
      · rw [environmentRead]
        obtain ⟨-, givenFormed, givenUrl, urlRead⟩ | ⟨malformed, error, bad, urlRead⟩ |
          ⟨-, givenFormed, error, failure, urlRead⟩ := urlLayer_cases url
        · rw [urlRead]
          refine .inl ⟨?_, settle_cases _⟩
          rintro ⟨-, -, malformed | ⟨-, malformed⟩⟩
          · exact wellFormed malformed
          · exact givenFormed malformed
        · rw [urlRead]
          exact .inr ⟨⟨known, readable, .inr ⟨inOrder, malformed⟩⟩, error, bad, rfl⟩
        · rw [urlRead]
          refine .inl ⟨?_, .inr ⟨error, failure, rfl⟩⟩
          rintro ⟨-, -, malformed | ⟨-, malformed⟩⟩
          · exact wellFormed malformed
          · exact givenFormed malformed
      · rw [environmentRead]
        exact .inr ⟨⟨known, readable, .inl malformed⟩, error, bad, rfl⟩
      · rw [environmentRead]
        refine .inl ⟨?_, .inr ⟨error, failure, rfl⟩⟩
        rintro ⟨-, -, malformed | ⟨inOrder, -⟩⟩
        · exact wellFormed malformed
        · exact outOfOrder inOrder
    · rw [givenRead]
      exact .inl ⟨fun meets => unreadable meets.2.1, .inr ⟨error, failure, rfl⟩⟩
  · rw [activeRead]
    exact .inl ⟨fun meets => unknown meets.1, .inr ⟨error, failure, rfl⟩⟩

/-- Settings resolve or end with a config failure and its exit status, unless a malformed URL is
met; then they end unforeseen, with the general status. -/
theorem resolve_failures (config : AppConfig) (environment : Environment)
    (profile url : Option String) (flags : SettingFlags) :
    ((∃ resolved, resolve config environment profile url flags.layer = .ok resolved) ∨
        ∃ error, resolve config environment profile url flags.layer = .error error ∧
          ((∃ message violations, error = .failure (.config message violations)) ∧
              error.exitStatus = 7 ∨
            (∃ message, error = .unforeseen (.badValue message)) ∧ error.exitStatus = 1)) ∧
      ((∃ cause, resolve config environment profile url flags.layer = .error (.unforeseen cause)) ↔
        MeetsMalformedUrl config environment profile url) := by
  obtain ⟨meetsNone, ⟨resolved, resolves⟩ | ⟨_, ⟨message, violations, rfl⟩, fails⟩⟩ |
    ⟨meets, _, ⟨message, rfl⟩, fails⟩ := resolve_cases config environment profile url flags.layer
  · rw [resolves]
    exact ⟨.inl ⟨resolved, rfl⟩, nofun, fun meets => absurd meets meetsNone⟩
  · rw [fails]
    exact ⟨.inr ⟨_, rfl, .inl ⟨⟨message, violations, rfl⟩, rfl⟩⟩, nofun,
      fun meets => absurd meets meetsNone⟩
  · rw [fails]
    exact ⟨.inr ⟨_, rfl, .inr ⟨⟨message, rfl⟩, rfl⟩⟩, fun _ => meets, fun _ => ⟨_, rfl⟩⟩

/-- A port that is no number is not foreseen. -/
theorem resolve_unforeseen_port :
    ∃ message, resolve {} [] none (some "postgresql://localhost:abc/authors") {} =
      .error (.unforeseen (.badValue message)) := by
  have malformed : Malformed "postgresql://localhost:abc/authors" := by
    refine .inr (.inr ⟨?_, ?_⟩)
    · unfold SchemeKnown
      decide +kernel
    · have port : (ConnectionUrl.place (ConnectionUrl.cut (ConnectionUrl.cleaned
          "postgresql://localhost:abc/authors")).authority).2 = ['a', 'b', 'c'] := by
        decide +kernel
      rw [port]
      rintro (blank | ⟨digits, -⟩)
      · cases blank
      · exact absurd (digits 'a' List.mem_cons_self) (by decide)
  have meets : MeetsMalformedUrl {} [] none (some "postgresql://localhost:abc/authors") :=
    ⟨nofun, nofun, .inr ⟨nofun, _, rfl, malformed⟩⟩
  obtain ⟨meetsNone, -⟩ | ⟨-, error, ⟨message, rfl⟩, fails⟩ :=
    resolve_cases {} [] none (some "postgresql://localhost:abc/authors") {}
  · exact absurd meets meetsNone
  · exact ⟨message, fails⟩

end Settings

end QueryTyping
