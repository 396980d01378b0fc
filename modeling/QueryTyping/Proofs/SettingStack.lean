import QueryTyping.Proofs.MaskedSettings

/-!
# Settings as a stack of levels

Resolving reads one layer for each level and takes every setting, and its label,
from the highest layer that gives it.  So what resolves is a stack of layers
that were read and that together keep the rules (`Settings.resolve_eq_ok_iff`);
changing one layer of a stack leaves the others as they are.
-/

namespace QueryTyping

open Check

section Labels

variable {Name : Type} {text : Name → String} {label? : Name → Option String} {all : List Name}

/-- A key is not labelled if no name that is written so has a label. -/
theorem lookup_labels_eq_none {key : String}
    (nothing : ∀ name ∈ all, key = text name → label? name = none) :
    (all.filterMap fun name => (label? name).map fun label => (text name, label)).lookup key =
      none := by
  rw [List.lookup_eq_none_iff]
  rintro ⟨other, label⟩ listed
  obtain ⟨name, inAll, found⟩ := List.mem_filterMap.mp listed
  obtain ⟨_, given, entry⟩ := Option.map_eq_some_iff.mp found
  cases entry
  simp only [bne_iff_ne, ne_eq]
  intro same
  rw [nothing name inAll same] at given
  cases given

/-- A label stands under what its name is written as. -/
theorem lookup_labels (distinct : (all.map text).Nodup) {name : Name} (listed : name ∈ all) :
    (all.filterMap fun name => (label? name).map fun label => (text name, label)).lookup
      (text name) = label? name := by
  induction all with
  | nil => cases listed
  | cons first others ih =>
    obtain ⟨fresh, distinct⟩ := List.nodup_cons.mp distinct
    obtain rfl | later := List.mem_cons.mp listed
    · cases given : label? name with
      | some label => simp [given]
      | none =>
        simp only [List.filterMap_cons, given, Option.map_none]
        refine lookup_labels_eq_none fun other isOther same => absurd ?_ fresh
        rw [same]
        exact List.mem_map_of_mem isOther
    · have apart : text name ≠ text first := fun same =>
        fresh (same ▸ List.mem_map_of_mem later)
      have unlike : (text name == text first) = false := by simpa using apart
      cases given : label? first <;> simp [given, List.lookup_cons, unlike, ih distinct later]

end Labels

/-- What each level gives, and the profile in effect. -/
structure SettingStack where
  active : Option String
  layer : SettingLevel → SettingsLayer

namespace SettingStack

variable (stack : SettingStack)

/-- Where the layer of a level comes from. -/
def origin : SettingLevel → Origin
  | .builtin => .builtin
  | .config => .config
  | .profile => .profile (stack.active.getD "")
  | .environment => .environment
  | .environmentUrl => .environmentUrl
  | .url => .url
  | .flags => .flags

/-- The value of a setting: that of the highest level that gives one. -/
def get (name : SettingName) : Option name.Value :=
  SettingLevel.descending.findSome? fun level => (stack.layer level).get name

/-- The label of the highest level that gives a setting. -/
def label? (name : SettingName) : Option String :=
  SettingLevel.descending.findSome? fun level =>
    ((stack.layer level).get name).map fun _ => (stack.origin level).label name

/-- All levels as one layer. -/
def merged : SettingsLayer where
  host := stack.get .host
  port := stack.get .port
  dbname := stack.get .dbname
  user := stack.get .user
  password := stack.get .password
  sslmode := stack.get .sslmode
  searchPath := stack.get .searchPath
  statementTimeout := stack.get .statementTimeout
  defaultFormat := stack.get .defaultFormat

/-- The settings that come out, with their labels. -/
def resolved : ResolvedConfig where
  connection := stack.merged.connection
  statementTimeout := stack.merged.statementTimeout.getD builtinTimeout
  defaultFormat := stack.merged.defaultFormat
  activeProfile := stack.active
  sources := SettingName.all.filterMap fun name =>
    (stack.label? name).map fun label => (name.text, label)

theorem merged_get (name : SettingName) : stack.merged.get name = stack.get name := by
  cases name <;> rfl

end SettingStack

namespace Layers

/-- The layers hold one layer of an origin, or none, which gives nothing. -/
def Hold (layers : Layers) (origin : Origin) (layer : SettingsLayer) : Prop :=
  layers = [(origin, layer)] ∨ layers = [] ∧ layer = {}

theorem Hold.findSome? {layers : Layers} {origin : Origin} {layer : SettingsLayer}
    (hold : layers.Hold origin layer) {α : Type} {find : Origin × SettingsLayer → Option α}
    (blank : find (origin, {}) = none) :
    layers.reverse.findSome? find = find (origin, layer) := by
  obtain rfl | ⟨rfl, rfl⟩ := hold
  · cases found : find (origin, layer) <;> simp [found]
  · exact blank.symm

theorem Hold.only_eq {layers : Layers} {origin : Origin} {layer : SettingsLayer}
    (hold : layers.Hold origin layer) : layers.only = layer := by
  obtain rfl | ⟨rfl, rfl⟩ := hold
  · rfl
  · rfl

end Layers

namespace Settings

/-- The layer of a URL, which gives nothing if it is empty. -/
def urlLayer (url : Option String) : Except Error SettingsLayer :=
  match nonempty url with
  | some url => (ConnectionUrl.fields url).map UrlFields.layer
  | none => .ok {}

theorem ofUrl_eq (origin : Origin) (url : Option String) :
    ofUrl origin url = (urlLayer url).map fun layer =>
      if (nonempty url).isSome then [(origin, layer)] else [] := by
  unfold ofUrl urlLayer
  cases nonempty url with
  | none => rfl
  | some s =>
    cases read : ConnectionUrl.fields s <;>
      simp [read, bind, Except.bind, Except.map, pure, Except.pure]

theorem urlLayer_holds {origin : Origin} {url : Option String} {layer : SettingsLayer}
    (read : urlLayer url = .ok layer) :
    Layers.Hold (if (nonempty url).isSome then [(origin, layer)] else []) origin layer := by
  unfold urlLayer at read
  cases present : nonempty url with
  | none =>
    simp only [present] at read
    cases read
    exact .inr ⟨rfl, rfl⟩
  | some s => exact .inl rfl

/-- The layer of the profile in effect, which gives nothing if there is none. -/
def profileLayer (config : AppConfig) (active : Option String) : SettingsLayer :=
  (((nonempty active).bind fun name => config.profiles.lookup name).map Profile.layer).getD {}

/-- The levels are read from these. -/
structure Stacks (config : AppConfig) (environment : Environment) (profile url : Option String)
    (flags : SettingsLayer) (stack : SettingStack) : Prop where
  activeRead : activeProfile config environment profile = .ok stack.active
  builtinLayer : stack.layer .builtin = Settings.builtin
  configLayer : stack.layer .config = ofConfig config
  profileLayer : stack.layer .profile = Settings.profileLayer config stack.active
  environmentRead : ofEnvironment environment = .ok (stack.layer .environment)
  environmentUrlRead :
    urlLayer (environment.lookup "PGQUERYGEN_DSN") = .ok (stack.layer .environmentUrl)
  urlRead : urlLayer url = .ok (stack.layer .url)
  flagsLayer : stack.layer .flags = flags

section Stacks

variable {config : AppConfig} {environment : Environment} {profile url : Option String}
  {flags : SettingsLayer} {stack : SettingStack}

theorem profileLayers_hold (config : AppConfig) (active : Option String) :
    (profileLayers config active).Hold (.profile (active.getD ""))
      (profileLayer config active) := by
  unfold profileLayers profileLayer
  cases present : nonempty active with
  | none => exact .inr ⟨rfl, rfl⟩
  | some name =>
    obtain ⟨rfl, -⟩ := nonempty_eq_some_iff.mp present
    cases found : config.profiles.lookup name with
    | none => exact .inr (by simp [found])
    | some held => exact .inl (by simp [found])

/-- The layers below the flags, as they are read. -/
theorem Stacks.layers (stacked : Stacks config environment profile url flags stack) :
    ∃ environmentUrl givenUrl : Layers,
      environmentUrl.Hold .environmentUrl (stack.layer .environmentUrl) ∧
      givenUrl.Hold .url (stack.layer .url) ∧
      Settings.layers config environment stack.active url =
        .ok ([(.builtin, Settings.builtin), (.config, ofConfig config)] ++
          profileLayers config stack.active ++ [(.environment, stack.layer .environment)] ++
          environmentUrl ++ givenUrl) := by
  refine ⟨_, _, urlLayer_holds stacked.environmentUrlRead, urlLayer_holds stacked.urlRead, ?_⟩
  unfold Settings.layers
  rw [ofUrl_eq, ofUrl_eq, stacked.environmentRead, stacked.environmentUrlRead, stacked.urlRead]
  rfl

/-- A search from the top of the layers goes down the levels. -/
theorem Stacks.findSome? (stacked : Stacks config environment profile url flags stack)
    {environmentUrl givenUrl : Layers}
    (environmentHeld : environmentUrl.Hold .environmentUrl (stack.layer .environmentUrl))
    (urlHeld : givenUrl.Hold .url (stack.layer .url)) {α : Type}
    {find : Origin × SettingsLayer → Option α} (blank : ∀ origin, find (origin, {}) = none) :
    List.findSome? find (([(.builtin, Settings.builtin), (.config, ofConfig config)] ++
        profileLayers config stack.active ++ [(.environment, stack.layer .environment)] ++
        environmentUrl ++ givenUrl) ++ [(.flags, flags)] : Layers).reverse =
      SettingLevel.descending.findSome? fun level =>
        find (stack.origin level, stack.layer level) := by
  have profileHeld := profileLayers_hold config stack.active
  simp only [List.reverse_append, List.reverse_cons, List.reverse_nil, List.nil_append,
    List.findSome?_append, environmentHeld.findSome? (blank _), urlHeld.findSome? (blank _),
    profileHeld.findSome? (blank _), findSome?_cons_or, List.findSome?_nil, Option.or_none,
    SettingLevel.descending, SettingStack.origin, stacked.builtinLayer, stacked.configLayer,
    stacked.profileLayer, stacked.flagsLayer]

/-- The first that is given, as a search for its label. -/
theorem source?_eq_findSome? (layers : Layers) (name : SettingName) :
    layers.source? name = layers.reverse.findSome? fun layer =>
      (layer.2.get name).map fun _ => layer.1.label name := by
  have given (layer : SettingsLayer) : name.isGiven layer = (layer.get name).isSome := by
    cases name <;> rfl
  unfold Layers.source?
  induction layers.reverse with
  | nil => rfl
  | cons layer layers ih =>
    rw [findSome?_cons_or, ← ih, List.find?_cons, given]
    cases layer.2.get name <;> simp

variable (stacked : Stacks config environment profile url flags stack)
  {environmentUrl givenUrl : Layers}
  (environmentHeld : environmentUrl.Hold .environmentUrl (stack.layer .environmentUrl))
  (urlHeld : givenUrl.Hold .url (stack.layer .url))

include stacked environmentHeld urlHeld

theorem Stacks.merged_eq :
    Layers.merged (([(.builtin, Settings.builtin), (.config, ofConfig config)] ++
        profileLayers config stack.active ++ [(.environment, stack.layer .environment)] ++
        environmentUrl ++ givenUrl) ++ [(.flags, flags)]) = stack.merged := by
  apply SettingsLayer.ext_get
  intro name
  rw [Layers.merged_get_eq_pick, stack.merged_get]
  exact stacked.findSome? environmentHeld urlHeld fun _ => get_empty name

theorem Stacks.sources_eq :
    Layers.sources (([(.builtin, Settings.builtin), (.config, ofConfig config)] ++
        profileLayers config stack.active ++ [(.environment, stack.layer .environment)] ++
        environmentUrl ++ givenUrl) ++ [(.flags, flags)]) = stack.resolved.sources := by
  have source (name : SettingName) : Layers.source? _ name = stack.label? name :=
    (source?_eq_findSome? _ name).trans (stacked.findSome? environmentHeld urlHeld fun _ => by
      rw [get_empty, Option.map_none])
  unfold Layers.sources SettingStack.resolved
  simp only [source]

end Stacks

end Settings

/-- The settings of a stack, if they keep the rules. -/
def SettingStack.settle (stack : SettingStack) : Except Error ResolvedConfig :=
  match Settings.violations stack.merged.connection with
  | [] => .ok stack.resolved
  | items => .error (.failure (.config "Invalid connection settings"
      (some ⟨"ResolvedConfig", items⟩)))

theorem SettingStack.settle_eq_ok_iff {stack : SettingStack} {resolved : ResolvedConfig} :
    stack.settle = .ok resolved ↔
      Settings.violations stack.merged.connection = [] ∧ resolved = stack.resolved := by
  unfold settle
  cases Settings.violations stack.merged.connection <;> simp [eq_comm]

namespace Settings

variable {config : AppConfig} {environment : Environment} {profile url : Option String}
  {flags : SettingsLayer}

theorem Stacks.resolve_eq {stack : SettingStack}
    (stacked : Stacks config environment profile url flags stack) :
    resolve config environment profile url flags = stack.settle := by
  obtain ⟨environmentUrl, givenUrl, environmentHeld, urlHeld, layered⟩ := stacked.layers
  have merged := stacked.merged_eq environmentHeld urlHeld
  have sources := stacked.sources_eq environmentHeld urlHeld
  unfold resolve SettingStack.settle
  rw [stacked.activeRead]
  dsimp only [bind, Except.bind]
  rw [layered]
  dsimp only
  rw [merged, sources]
  cases violations stack.merged.connection <;> rfl

/-- The stack of what was read. -/
def stackOf (config : AppConfig) (active : Option String)
    (given environmentUrl givenUrl flags : SettingsLayer) : SettingStack where
  active := active
  layer
    | .builtin => builtin
    | .config => ofConfig config
    | .profile => profileLayer config active
    | .environment => given
    | .environmentUrl => environmentUrl
    | .url => givenUrl
    | .flags => flags

/-- Resolving reads the levels, one after the other, and settles them. -/
theorem resolve_eq (config : AppConfig) (environment : Environment) (profile url : Option String)
    (flags : SettingsLayer) :
    resolve config environment profile url flags = (do
      let active ← activeProfile config environment profile
      let given ← ofEnvironment environment
      let environmentUrl ← urlLayer (environment.lookup "PGQUERYGEN_DSN")
      let givenUrl ← urlLayer url
      (stackOf config active given environmentUrl givenUrl flags).settle) := by
  cases activeRead : activeProfile config environment profile with
  | error error => simp only [resolve, activeRead]; rfl
  | ok active =>
    cases givenRead : ofEnvironment environment with
    | error error => simp only [resolve, layers, activeRead, givenRead]; rfl
    | ok given =>
      cases environmentRead : urlLayer (environment.lookup "PGQUERYGEN_DSN") with
      | error error =>
        simp only [resolve, layers, activeRead, givenRead, ofUrl_eq, environmentRead]
        rfl
      | ok environmentUrl =>
        cases urlRead : urlLayer url with
        | error error =>
          simp only [resolve, layers, activeRead, givenRead, ofUrl_eq, environmentRead, urlRead]
          rfl
        | ok givenUrl =>
          have stacked : Stacks config environment profile url flags
              (stackOf config active given environmentUrl givenUrl flags) :=
            ⟨activeRead, rfl, rfl, rfl, givenRead, environmentRead, urlRead, rfl⟩
          exact stacked.resolve_eq

/-- Settings resolve exactly to the stacks that keep the rules. -/
theorem resolve_eq_ok_iff {resolved : ResolvedConfig} :
    resolve config environment profile url flags = .ok resolved ↔
      ∃ stack, Stacks config environment profile url flags stack ∧
        violations stack.merged.connection = [] ∧ resolved = stack.resolved := by
  constructor
  · rw [resolve_eq]
    simp only [except_bind_eq_ok_iff, SettingStack.settle_eq_ok_iff]
    rintro ⟨active, activeRead, given, givenRead, environmentUrl, environmentRead, givenUrl,
      urlRead, kept, rfl⟩
    exact ⟨_, ⟨activeRead, rfl, rfl, rfl, givenRead, environmentRead, urlRead, rfl⟩, kept, rfl⟩
  · rintro ⟨stack, stacked, settled⟩
    rw [stacked.resolve_eq]
    exact SettingStack.settle_eq_ok_iff.mpr settled

theorem urlLayer_get_iff {url : Option String} {layer : SettingsLayer}
    (read : urlLayer url = .ok layer) (name : SettingName) (value : name.Value) :
    layer.get name = some value ↔
      ∃ s, url = some s ∧ s ≠ "" ∧ ConnectionUrl.Gives s name value := by
  have held : Layers.Hold _ Origin.url layer := urlLayer_holds read
  have readAlone : ofUrl .url url =
      .ok (if (nonempty url).isSome then [(Origin.url, layer)] else []) := by
    rw [ofUrl_eq, read]
    rfl
  rw [← ofUrl_get_iff readAlone, held.only_eq]

section Gives

variable {sources : SettingSources} {stack : SettingStack}
  (reads : AppConfig.ReadFrom sources.config config)
  (stacked : Stacks config sources.environment sources.profile sources.url sources.flags.layer stack)

include reads stacked

/-- The layer of a level is what the sources give there, but for the config file's. -/
theorem Stacks.get_iff {level : SettingLevel} (other : level ≠ .config) (name : SettingName)
    (value : name.Value) :
    (stack.layer level).get name = some value ↔ sources.Gives level name value := by
  cases level with
  | builtin => rw [stacked.builtinLayer, builtin_get, SettingSources.Gives]
  | config => exact absurd rfl other
  | profile =>
    rw [stacked.profileLayer, ← (profileLayers_hold config stack.active).only_eq]
    exact profile_get_iff reads stacked.activeRead name value
  | environment => exact ofEnvironment_get_iff stacked.environmentRead name value
  | environmentUrl => exact urlLayer_get_iff stacked.environmentUrlRead name value
  | url => exact urlLayer_get_iff stacked.urlRead name value
  | flags => rw [stacked.flagsLayer, SettingSources.Gives]

/-- What the config file gives counts unless it is built in anyway. -/
theorem Stacks.get_config_iff (name : SettingName) (value : name.Value) :
    (stack.layer .config).get name = some value ↔
      sources.Gives .config name value ∧ name.builtin? ≠ some value := by
  rw [stacked.configLayer, ← saidLayer_get_iff reads]
  cases name with
  | statementTimeout =>
    have read := reads.timeout
    unfold Fields.ReadsOr at read
    by_cases builtin : config.statementTimeout = builtinTimeout
    · have same : config.statementTimeout.same builtinTimeout = true := by
        rw [builtin]
        decide +kernel
      simp only [SettingsLayer.get, ofConfig, same, if_true, saidLayer, SettingName.builtin?]
      constructor
      · intro given
        cases given
      · rintro ⟨said, other⟩
        split at said
        · cases said
          exact absurd (congrArg some builtin.symm) other
        · cases said
    · have other : config.statementTimeout.same builtinTimeout = false :=
        Bool.eq_false_iff.mpr fun same => builtin (same_builtinTimeout same)
      have said : (sources.config.lookup "statement_timeout").isSome := by
        cases found : sources.config.lookup "statement_timeout" with
        | none => exact absurd (by simpa only [found] using read) builtin
        | some datum => rfl
      simp only [SettingsLayer.get, ofConfig, other, saidLayer, said, if_true, SettingName.builtin?]
      constructor
      · rintro ⟨⟩
        exact ⟨rfl, fun same => builtin (Option.some.inj same).symm⟩
      · exact fun given => given.1
  | defaultFormat =>
    exact ⟨fun given => ⟨given, (Option.some_ne_none value).symm⟩, fun given => given.1⟩
  | _ =>
    have nothing := (Option.some_ne_none value).symm
    exact ⟨fun given => absurd given nothing, fun given => absurd given.1 nothing⟩

end Gives

end Settings

end QueryTyping
