import QueryTyping.Proofs.PortNumerals
import QueryTyping.Proofs.ProfileEdits
import QueryTyping.Proofs.ResolvingFailures
import QueryTyping.Proofs.WrittenUrls

/-!
# Places for a port

A port can be given in six places: under its name or in the URL of a profile, in
two variables of the environment, in the URL of the command line, and as a flag.
A port put in a place changes nothing but what is read there.
-/

namespace QueryTyping

open Check

/-- A URL with room for a port: what is written before it and behind it, and how that is read. -/
structure PortUrl where
  before : String
  after : String
  frame : ConnectionUrl.PortFrame
  before_read : ConnectionUrl.cleaned before =
    frame.scheme ++ ':' :: '/' :: '/' :: (frame.user ++ frame.host)
  after_read : (after.toList.filter fun c => !(['\t', '\r', '\n'].contains c)) = frame.tail

namespace PortUrl

variable (url : PortUrl) (port : Option Int)

/-- The URL with a port, or with none. -/
def text : String := url.before ++ ConnectionUrl.part ":" (port.map toString) ++ url.after

/-- The text of a port in the URL. -/
def digits : Option (List Char) := port.map decimal

theorem isNumeral_digits : ∀ text ∈ digits port, ConnectionUrl.IsNumeral text := by
  simp only [digits, Option.mem_def, Option.map_eq_some_iff]
  rintro text ⟨n, -, rfl⟩
  exact isNumeral_decimal n

theorem cleaned_text : ConnectionUrl.cleaned (url.text port) = url.frame.text (digits port) := by
  have cleaned := url.before_read
  have written : (ConnectionUrl.part ":" (port.map toString)).toList =
      ConnectionUrl.behind ':' (digits port) := by
    cases port <;> simp [ConnectionUrl.part, ConnectionUrl.behind, digits, decimal]
  have kept : (ConnectionUrl.behind ':' (digits port)).filter
      (fun c => !(['\t', '\r', '\n'].contains c)) = ConnectionUrl.behind ':' (digits port) := by
    refine List.filter_eq_self.mpr fun c inside => ?_
    obtain rfl | ⟨text, found, inside⟩ := ConnectionUrl.mem_behind inside
    · rfl
    · have unbroken : ∀ c ∈ text, (!(['\t', '\r', '\n'].contains c)) = true :=
        Numeral.forall_isNumeral (by decide) (by decide) (isNumeral_digits port text found)
      exact unbroken c inside
  unfold ConnectionUrl.cleaned at cleaned ⊢
  have starts : (url.before.toList.dropWhile fun c => c.toNat ≤ 0x20) ≠ [] := by
    intro blank
    rw [blank] at cleaned
    simp at cleaned
  rw [text, String.toList_append, String.toList_append, List.append_assoc, List.dropWhile_append,
    if_neg (by simpa using starts), List.filter_append, List.filter_append, cleaned, written, kept,
    url.after_read]
  simp [ConnectionUrl.PortFrame.text, ConnectionUrl.PortFrame.authority]

theorem text_ne_empty : url.text port ≠ "" := by
  intro blank
  have cleaned := url.cleaned_text port
  rw [blank] at cleaned
  have nothing : ConnectionUrl.cleaned "" = [] := rfl
  rw [nothing, ConnectionUrl.PortFrame.text] at cleaned
  simp at cleaned

/-- The number that a port in the URL stands for: zero is none. -/
def number : Option Nat := port.bind fun n => if n = 0 then none else some n.toNat

/-- The URL gives the fields around its port, if they are in order and the port is one. -/
theorem fields_text_iff {given : UrlFields} :
    ConnectionUrl.fields (url.text port) = .ok given ↔
      url.frame.InOrder ∧ (∀ n ∈ port, 0 ≤ n ∧ n ≤ 65535) ∧
        given = url.frame.fields (number port) := by
  rw [url.frame.fields_eq_ok_iff (isNumeral_digits port) (url.cleaned_text port)]
  cases port with
  | none =>
    have blank : ConnectionUrl.portNumber? ((digits none).getD []) = .ok none := rfl
    simp [blank, number, eq_comm]
  | some n =>
    have read (number : Option Nat) :
        ConnectionUrl.portNumber? ((digits (some n)).getD []) = .ok number ↔ _ :=
      ConnectionUrl.portNumber?_decimal_iff
    simp only [read, number, Option.mem_def, Option.some.injEq, forall_eq', Option.bind_some]
    constructor
    · rintro ⟨order, _, ⟨range, rfl⟩, rfl⟩
      exact ⟨order, range, rfl⟩
    · rintro ⟨order, range, rfl⟩
      exact ⟨order, _, ⟨range, rfl⟩, rfl⟩

end PortUrl

/-- Where a port can be given. -/
inductive PortPlace where
  /-- Under its name in a profile. -/
  | profileKey (profile : String)
  | profileUrl (profile : String) (url : PortUrl)
  | environment
  | environmentUrl (url : PortUrl)
  | url (url : PortUrl)
  | flag

namespace PortPlace

def level : PortPlace → SettingLevel
  | profileKey _ => .profile
  | profileUrl _ _ => .profile
  | environment => .environment
  | environmentUrl _ => .environmentUrl
  | url _ => .url
  | flag => .flags

/-- The port stands in a URL. -/
def IsUrl : PortPlace → Prop
  | profileUrl _ _ => True
  | environmentUrl _ => True
  | url _ => True
  | _ => False

/-- The place counts: its profile is in effect, and does not give the port under its name if the
place is its URL. -/
def Reached (sources : SettingSources) : PortPlace → Prop
  | profileKey profile =>
    sources.profileName? = some profile ∧
      ∃ table, AppConfig.profileTable? sources.config profile = some table
  | profileUrl profile _ =>
    sources.profileName? = some profile ∧
      ∃ table, AppConfig.profileTable? sources.config profile = some table ∧
        table.lookup "port" = none
  | _ => True

end PortPlace

namespace SettingSources

/-- The sources with a port in a place, or with none there. -/
def withPort (sources : SettingSources) (place : PortPlace) (port : Option Int) : SettingSources :=
  match place with
  | .profileKey profile =>
    { sources with
      config := AppConfig.editProfile sources.config profile (put · "port" (port.map .integer)) }
  | .profileUrl profile url =>
    { sources with
      config := AppConfig.editProfile sources.config profile
        (put · "dsn" (some (.text (url.text port)))) }
  | .environment =>
    { sources with environment := put sources.environment "PGPORT" (port.map toString) }
  | .environmentUrl url =>
    { sources with
      environment := put sources.environment "PGQUERYGEN_DSN" (some (url.text port)) }
  | .url url => { sources with url := some (url.text port) }
  | .flag => { sources with flags := { sources.flags with port } }

/-- The sources are a config that is admitted, and resolve to these settings. -/
def ResolvesTo (sources : SettingSources) (resolved : ResolvedConfig) : Prop :=
  ∃ config, AppConfig.check (.table sources.config) = .ok config ∧
    Settings.resolve config sources.environment sources.profile sources.url sources.flags.layer =
      .ok resolved

/-- The sources are read as the stack. -/
def StackTo (sources : SettingSources) (stack : SettingStack) : Prop :=
  ∃ config, AppConfig.ReadFrom sources.config config ∧
    Settings.Stacks config sources.environment sources.profile sources.url sources.flags.layer stack

theorem resolvesTo_iff {sources : SettingSources} {resolved : ResolvedConfig} :
    sources.ResolvesTo resolved ↔
      ∃ stack, sources.StackTo stack ∧ Settings.violations stack.merged.connection = [] ∧
        resolved = stack.resolved := by
  simp only [ResolvesTo, StackTo, AppConfig.check_eq_ok_iff, Settings.resolve_eq_ok_iff]
  constructor
  · rintro ⟨config, reads, stack, stacked, settled⟩
    exact ⟨stack, ⟨config, reads, stacked⟩, settled⟩
  · rintro ⟨stack, ⟨config, reads, stacked⟩, settled⟩
    exact ⟨config, reads, stack, stacked, settled⟩

end SettingSources

namespace SettingStack

variable (stack : SettingStack) (level : SettingLevel) (port : Option Int)

/-- The stack with this port at a level. -/
def setPort : SettingStack where
  active := stack.active
  layer other := if other = level then { stack.layer other with port } else stack.layer other

theorem setPort_self (same : (stack.layer level).port = port) :
    stack.setPort level port = stack := by
  have layers : (fun other => if other = level then { stack.layer other with port }
      else stack.layer other) = stack.layer := by
    funext other
    split
    next isLevel =>
      subst isLevel
      rw [← same]
    · rfl
  rw [setPort, layers]

theorem get_setPort (name : SettingName) (other : name ≠ .port) :
    (stack.setPort level port).get name = stack.get name := by
  unfold get setPort
  refine congrArg (fun given => SettingLevel.descending.findSome? given) (funext fun at_ => ?_)
  dsimp only
  split
  · exact SettingsLayer.get_with_port _ _ other
  · rfl

variable {stack level} in
/-- The port of a stack is that of a level above which no level gives one. -/
theorem get_port_of_level {n : Int} (given : (stack.layer level).port = some n)
    (unset : ∀ higher : SettingLevel, level.rank < higher.rank → (stack.layer higher).port = none) :
    stack.get .port = some n :=
  (SettingLevel.findSome?_eq_some_iff _ _).mpr ⟨level, given, unset⟩

end SettingStack

end QueryTyping
