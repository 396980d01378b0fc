import Mathlib
import QueryTyping.Proofs.ConfigTables
import QueryTyping.Proofs.ResolvingFailures

/-!
# How loading the config file fails

Checking a table collects violations and goes on; only an error of another kind
ends it at once.  Most checks never end so (`Judges`), and what a profile gives
in place of a text is where the error of a config file comes from
(`Profile.check_cases`).  So what loading does not foresee can be told from the
content of the file (`FileTree.loadConfig_failures`).
-/

namespace QueryTyping

open Text
open Check

namespace Check

variable {α β : Type}

/-- No error of another kind ended the check. -/
def Judged (result : Except Refusal α) : Prop := ∀ error, result ≠ .error (.error error)

/-- A check that only ever finds violations. -/
class Judges (check : Check α) : Prop where
  judged (datum : Datum) : Judged (check datum)

/-- Fields that are read to the last one. -/
class Fields.Finishes (fields : Fields α) : Prop where
  finishes (found : List Violation) : ∃ result, fields.run found = .ok result

theorem judged_ok (value : α) : Judged (.ok value) := nofun

theorem judged_refuse (kind message : String) :
    Judged (refuse kind message : Except Refusal α) := nofun

theorem map_eq_error_iff {result : Except Refusal α} {f : α → β} {error : Error} :
    result.map f = .error (.error error) ↔ result = .error (.error error) := by
  cases result <;> simp [Except.map]

theorem under_eq_error_iff {step : String} {result : Except Refusal α} {error : Error} :
    under step result = .error (.error error) ↔ result = .error (.error error) := by
  rcases result with (items | other) | value <;> simp [under]

theorem judged_map {result : Except Refusal α} (f : α → β) (judged : Judged result) :
    Judged (result.map f) := fun error same => judged error (map_eq_error_iff.mp same)

theorem judged_under {step : String} {result : Except Refusal α} (judged : Judged result) :
    Judged (under step result) := fun error same => judged error (under_eq_error_iff.mp same)

/-- What ends a list behind what passes is its first item, or one of the others behind a first that
passes. -/
theorem exists_first_cons_iff {passes ends : β → Prop} {first : β} {items : List β} :
    (∃ before item after, first :: items = before ++ item :: after ∧
        (∀ other ∈ before, passes other) ∧ ends item) ↔
      ends first ∨ passes first ∧ ∃ before item after, items = before ++ item :: after ∧
        (∀ other ∈ before, passes other) ∧ ends item := by
  constructor
  · rintro ⟨before, item, after, same, passed, ended⟩
    cases before with
    | nil =>
      cases same
      exact .inl ended
    | cons other before =>
      cases same
      obtain ⟨firstPassed, passed⟩ := List.forall_mem_cons.mp passed
      exact .inr ⟨firstPassed, before, item, after, rfl, passed, ended⟩
  · rintro (ended | ⟨firstPassed, before, item, after, rfl, passed, ended⟩)
    · exact ⟨[], first, items, rfl, by simp, ended⟩
    · exact ⟨first :: before, item, after, rfl,
        List.forall_mem_cons.mpr ⟨firstPassed, passed⟩, ended⟩

/-- The first error of another kind is the outcome. -/
theorem collect_eq_error_iff {check : β → Except Refusal α} {items : List β} {error : Error} :
    collect check items = .error (.error error) ↔
      ∃ before item after, items = before ++ item :: after ∧
        (∀ other ∈ before, Judged (check other)) ∧ check item = .error (.error error) := by
  induction items with
  | nil => simp [collect]
  | cons item items ih =>
    rw [exists_first_cons_iff, ← ih]
    rcases checked : check item with (found | other) | value
    · rcases rest : collect check items with (others | other) | others <;>
        simp [collect, checked, rest, Judged]
    · simp [collect, checked, Judged]
    · simp [collect, checked, map_eq_error_iff, Judged]

/-- Where an item gives a value or else ends the check, the items give values or end it. -/
theorem mapM_cases {check : β → Except Refusal α} {odd : β → Prop} {raised : Error → Prop}
    (each : ∀ item, (¬ odd item ∧ ∃ value, check item = .ok value) ∨
      (odd item ∧ ∃ error, raised error ∧ check item = .error (.error error)))
    (items : List β) :
    ((¬ ∃ item ∈ items, odd item) ∧ ∃ values, items.mapM check = .ok values) ∨
      ((∃ item ∈ items, odd item) ∧
        ∃ error, raised error ∧ items.mapM check = .error (.error error)) := by
  induction items with
  | nil => exact .inl ⟨by simp, [], rfl⟩
  | cons item items ih =>
    rw [List.mapM_cons]
    obtain ⟨plain, value, checked⟩ | ⟨isOdd, error, isRaised, checked⟩ := each item
    · rw [checked]
      obtain ⟨others, values, rest⟩ | ⟨others, error, isRaised, rest⟩ := ih
      · rw [rest]
        exact .inl ⟨by simpa [plain] using others, _, rfl⟩
      · rw [rest]
        exact .inr ⟨by simpa [plain] using others, error, isRaised, rfl⟩
    · rw [checked]
      exact .inr ⟨⟨item, List.mem_cons_self, isOdd⟩, error, isRaised, rfl⟩

theorem judged_collect {check : β → Except Refusal α} {items : List β}
    (judged : ∀ item, Judged (check item)) : Judged (collect check items) := by
  intro error ended
  obtain ⟨-, item, -, -, -, ends⟩ := collect_eq_error_iff.mp ended
  exact judged item error ends

theorem Decided.judged {result : Except Refusal α} (decided : Decided result) :
    Judged result := by
  obtain ⟨value, rfl⟩ | ⟨kind, message, rfl⟩ := decided
  · exact judged_ok value
  · exact judged_refuse kind message

instance judges_of_decides {check : Check α} [Decides check] : Judges check where
  judged datum := (Decides.decided datum).judged

instance judges_map {check : Check α} {f : α → β} [Judges check] :
    Judges (fun datum => (check datum).map f) where
  judged datum := judged_map f (Judges.judged datum)

instance judges_optional {check : Check α} [Judges check] : Judges (optional check) where
  judged datum := by
    unfold optional
    split
    · exact judged_ok _
    · exact judged_map _ (Judges.judged _)

instance judges_list {check : Check α} [Judges check] : Judges (list check) where
  judged datum := by
    unfold list elements
    split
    · exact judged_collect fun _ => judged_under (Judges.judged _)
    · exact judged_refuse _ _

/-- A table of values ends with the first error of another kind among them. -/
theorem dictionary_eq_error_iff {check : Check α} {datum : Datum} {error : Error} :
    dictionary check datum = .error (.error error) ↔
      ∃ before name value after, datum = .table (before ++ (name, value) :: after) ∧
        (∀ other ∈ before, Judged (check other.2)) ∧ check value = .error (.error error) := by
  cases datum with
  | table members =>
    simp only [dictionary, collect_eq_error_iff, map_eq_error_iff, under_eq_error_iff, Judged,
      Datum.table.injEq, Prod.exists, ne_eq]
  | _ => simp [dictionary, refuse]

/-- Every value of an admitted table is admitted. -/
theorem exists_of_dictionary_eq_ok {check : Check α} {members : List (String × Datum)}
    {values : List (String × α)} (admitted : dictionary check (.table members) = .ok values)
    {member : String × Datum} (inTable : member ∈ members) :
    ∃ value, check member.2 = .ok value := by
  have paired := dictionary_eq_ok_iff.mp admitted
  clear admitted
  induction paired with
  | nil => cases inTable
  | cons first _ ih =>
    cases inTable with
    | head => exact ⟨_, first.2⟩
    | tail _ later => exact ih later

namespace Fields

instance finishes_pure {value : α} : Finishes (pure value : Fields α) where
  finishes found := ⟨(value, found), rfl⟩

instance finishes_bind {fields : Fields α} {next : α → Fields β} [first : Finishes fields]
    [second : ∀ value, Finishes (next value)] : Finishes (fields >>= next) where
  finishes found := by
    obtain ⟨⟨value, between⟩, ran⟩ := first.finishes found
    obtain ⟨result, ranOn⟩ := (second value).finishes between
    exact ⟨result, (except_bind_eq_ok_iff _ _ _).mpr ⟨_, ran, ranOn⟩⟩

/-- Fields that are read to the last one leave the outcome to those behind them. -/
theorem run_bind_later {fields : Fields α} {next : α → Fields β} [first : Finishes fields]
    {found : List Violation} {refusal : Refusal} {reason : Prop}
    (later : ∀ value between, (next value).run between = .error refusal ↔ reason) :
    (fields >>= next).run found = .error refusal ↔ reason := by
  obtain ⟨⟨value, between⟩, ran⟩ := first.finishes found
  have bound : (fields >>= next).run found = (next value).run between := by
    change (fields.run found >>= fun result => (next result.1).run result.2) = _
    rw [ran]
    rfl
  rw [bound, later]

/-- Fields with such fields behind them decide the outcome. -/
theorem run_bind_first {fields : Fields α} {next : α → Fields β}
    [later : ∀ value, Finishes (next value)] {found : List Violation} {refusal : Refusal} :
    (fields >>= next).run found = .error refusal ↔ fields.run found = .error refusal := by
  refine (except_bind_eq_error_iff (fields.run found)
    (fun result => (next result.1).run result.2) refusal).trans ?_
  refine or_iff_left ?_
  rintro ⟨⟨value, between⟩, -, ended⟩
  obtain ⟨result, finished⟩ := (later value).finishes between
  rw [finished] at ended
  cases ended

theorem run_note_eq_error_iff [Inhabited α] {step : String} {result : Except Refusal α}
    {found : List Violation} {refusal : Refusal} :
    (note step result).run found = .error refusal ↔
      ∃ error, result = .error (.error error) ∧ refusal = .error error := by
  rcases result with (items | error) | value
  · have noted : (note step (.error (.violations items) : Except Refusal α)).run found =
        .ok (default, found ++ items.map (·.under step)) := rfl
    simp [noted]
  · have noted : (note step (.error (.error error) : Except Refusal α)).run found =
        .error (.error error) := rfl
    simp [noted, eq_comm]
  · have noted : (note step (.ok value : Except Refusal α)).run found = .ok (value, found) := rfl
    simp [noted]

theorem run_fieldOr_eq_error_iff [Inhabited α] {members : List (String × Datum)} {name : String}
    {fallback : α} {check : Check α} {found : List Violation} {refusal : Refusal} :
    (fieldOr members name fallback check).run found = .error refusal ↔
      ∃ datum error, members.lookup name = some datum ∧ check datum = .error (.error error) ∧
        refusal = .error error := by
  unfold fieldOr
  cases members.lookup name with
  | none =>
    have kept : (pure fallback : Fields α).run found = .ok (fallback, found) := rfl
    simp [kept]
  | some datum => simp [run_note_eq_error_iff]

instance finishes_note [Inhabited α] {step : String} {kind message : String} :
    Finishes (note step (refuse kind message) : Fields α) where
  finishes _ := ⟨_, rfl⟩

instance finishes_fieldOr [Inhabited α] {members : List (String × Datum)} {name : String}
    {fallback : α} {check : Check α} [Judges check] :
    Finishes (fieldOr members name fallback check) where
  finishes found := by
    cases ran : (fieldOr members name fallback check).run found with
    | ok result => exact ⟨result, rfl⟩
    | error refusal =>
      obtain ⟨datum, error, -, ended, -⟩ := run_fieldOr_eq_error_iff.mp ran
      exact absurd ended (Judges.judged datum error)

instance finishes_forM {items : List β} {visit : β → Fields Unit}
    [∀ item, Finishes (visit item)] : Finishes (items.forM visit) := by
  induction items with
  | nil => exact finishes_pure
  | cons item items ih => exact finishes_bind

instance finishes_nothingElse {members : List (String × Datum)} {names : List String} :
    Finishes (nothingElse members names) := finishes_forM

end Fields

theorem model_eq_error_iff {name : String} {fields : List (String × Datum) → Fields α}
    {datum : Datum} {error : Error} :
    model name fields datum = .error (.error error) ↔
      ∃ members, datum = .table members ∧ (fields members).run [] = .error (.error error) := by
  cases datum with
  | table members =>
    rcases ran : (fields members).run [] with refusal | ⟨admitted, _ | ⟨item, items⟩⟩ <;>
      simp [model, ran]
  | _ => simp [model, refuse]

instance judges_model {name : String} {fields : List (String × Datum) → Fields α}
    [finishes : ∀ members, (fields members).Finishes] : Judges (model name fields) where
  judged datum := by
    intro error ended
    obtain ⟨members, -, ran⟩ := model_eq_error_iff.mp ended
    obtain ⟨result, finished⟩ := (finishes members).finishes []
    rw [finished] at ran
    cases ran

end Check

namespace SettingsLayer

/-- A list with an item that is no text. -/
def OddList (datum : Datum) : Prop :=
  ∃ items, datum = .list items ∧ ∃ item ∈ items, ∀ value, item ≠ .text value

/-- The error for a value of some kind in place of a text. -/
def IsNotText (error : Error) : Prop :=
  ∃ kind operation, error = .unforeseen (.notText kind operation)

/-- The text that an item of a search path is taken for. -/
def itemText : Check String
  | .text value => .ok value
  | item => .error (.error (.unforeseen (.notText item.kind "strip")))

theorem checkSearchPath_list (items : List Datum) :
    checkSearchPath (.list items) = (items.mapM itemText).map SearchPath.ofItems := by
  rfl

theorem itemText_cases (item : Datum) :
    ((¬ ∀ value, item ≠ .text value) ∧ ∃ value, itemText item = .ok value) ∨
      ((∀ value, item ≠ .text value) ∧
        ∃ error, IsNotText error ∧ itemText item = .error (.error error)) := by
  cases item with
  | text value => exact .inl ⟨fun odd => odd value rfl, value, rfl⟩
  | _ => exact .inr ⟨nofun, _, ⟨_, _, rfl⟩, rfl⟩

/-- A search path ends the check only if it is a list with an item that is no text. -/
theorem checkSearchPath_cases (datum : Datum) :
    (¬ OddList datum ∧ Judged (checkSearchPath datum)) ∨
      (OddList datum ∧
        ∃ error, IsNotText error ∧ checkSearchPath datum = .error (.error error)) := by
  cases datum with
  | list items =>
    simp only [OddList, Datum.list.injEq, exists_eq_left', checkSearchPath_list]
    obtain ⟨plain, values, read⟩ | ⟨isOdd, error, isNotText, read⟩ :=
      mapM_cases itemText_cases items
    · rw [read]
      exact .inl ⟨plain, judged_ok _⟩
    · rw [read]
      exact .inr ⟨isOdd, error, isNotText, rfl⟩
  | text value => exact .inl ⟨nofun, judged_ok _⟩
  | _ => exact .inl ⟨nofun, judged_refuse _ _⟩

theorem run_connectionFields_eq_error_iff {members : List (String × Datum)}
    {found : List Violation} {refusal : Refusal} :
    (connectionFields members).run found = .error refusal ↔
      ∃ datum error, members.lookup "search_path" = some datum ∧
        checkSearchPath datum = .error (.error error) ∧ refusal = .error error := by
  unfold connectionFields
  refine Fields.run_bind_later fun host _ => Fields.run_bind_later fun port _ =>
    Fields.run_bind_later fun dbname _ => Fields.run_bind_later fun user _ =>
    Fields.run_bind_later fun password _ => Fields.run_bind_later fun sslmode _ => ?_
  rw [Fields.run_bind_first, Fields.run_fieldOr_eq_error_iff]
  simp only [map_eq_error_iff]

end SettingsLayer

namespace Profile

open ConnectionUrl (IsBadValue IsConfigFailure Malformed SchemeKnown)
open SettingsLayer (IsNotText OddList)

/-- The URL of the table is one for another program. -/
def ForeignUrl (members : List (String × Datum)) : Prop :=
  ∃ url, members.lookup "dsn" = some (.text url) ∧ url ≠ "" ∧ ¬ Malformed url ∧ ¬ SchemeKnown url

/-- What stands for the URL of the table is no text. -/
def OddUrl (members : List (String × Datum)) : Prop :=
  ∃ given, members.lookup "dsn" = some given ∧ given.isGiven = true ∧ ∀ url, given ≠ .text url

/-- The table has no URL, or one that can be read. -/
def UrlRead (members : List (String × Datum)) : Prop :=
  ∀ given, members.lookup "dsn" = some given → given.isGiven = true →
    ∃ url, given = .text url ∧ ¬ Malformed url ∧ SchemeKnown url

/-- A profile with a URL for another program. -/
def Foreign (datum : Datum) : Prop := ∃ members, datum = .table members ∧ ForeignUrl members

/-- A profile that has something else in place of a text: in place of its URL, or, once the URL
has been read, of an item of its search path. -/
def Odd (datum : Datum) : Prop :=
  ∃ members, datum = .table members ∧
    (OddUrl members ∨
      UrlRead members ∧ ∃ path, members.lookup "search_path" = some path ∧ OddList path)

theorem withUrl_of_noText {members : List (String × Datum)} {given : Datum}
    (found : members.lookup "dsn" = some given) (noText : ∀ url, given ≠ .text url) :
    withUrl members =
      if given.isGiven then .error (.error (.unforeseen (.notText given.kind "decode")))
      else .ok members := by
  unfold withUrl
  rw [found]
  cases given with
  | text url => exact absurd rfl (noText url)
  | _ => rfl

/-- What filling a table from its URL comes to. -/
theorem withUrl_cases (members : List (String × Datum)) :
    (¬ ForeignUrl members ∧ ¬ OddUrl members ∧ UrlRead members ∧
        ∃ filled, withUrl members = .ok filled) ∨
      (¬ ForeignUrl members ∧ ¬ OddUrl members ∧ ¬ UrlRead members ∧
        ∃ items, withUrl members = .error (.violations items)) ∨
      (ForeignUrl members ∧ ¬ OddUrl members ∧ ¬ UrlRead members ∧
        ∃ error, IsConfigFailure error ∧ withUrl members = .error (.error error)) ∨
      (¬ ForeignUrl members ∧ OddUrl members ∧
        ∃ error, IsNotText error ∧ withUrl members = .error (.error error)) := by
  unfold ForeignUrl OddUrl UrlRead
  cases found : members.lookup "dsn" with
  | none =>
    have unfilled : withUrl members = .ok members := by
      simp only [withUrl, found]
    exact .inl ⟨nofun, nofun, nofun, members, unfilled⟩
  | some given =>
    simp only [Option.some.injEq, exists_eq_left', forall_eq']
    by_cases noText : ∀ url, given ≠ .text url
    · rw [withUrl_of_noText found noText]
      have notForeign : ¬ ∃ url, given = .text url ∧ url ≠ "" ∧ ¬ Malformed url ∧
          ¬ SchemeKnown url := fun ⟨url, same, _⟩ => noText url same
      by_cases isGiven : given.isGiven = true
      · rw [if_pos isGiven]
        exact .inr (.inr (.inr ⟨notForeign, ⟨isGiven, noText⟩, _, ⟨_, _, rfl⟩, rfl⟩))
      · rw [if_neg isGiven]
        exact .inl ⟨notForeign, fun odd => isGiven odd.1, fun is => absurd is isGiven, _, rfl⟩
    · push Not at noText
      obtain ⟨url, rfl⟩ := noText
      simp only [Datum.text.injEq, Datum.isGiven, exists_eq_left', withUrl, found]
      by_cases blank : url = ""
      · subst blank
        exact .inl ⟨by simp, by simp, by simp, _, rfl⟩
      · have written : url.isEmpty = false := by simpa using blank
        rw [written]
        obtain ⟨wellFormed, known, fields, read⟩ | ⟨malformed, _, ⟨message, rfl⟩, read⟩ |
          ⟨wellFormed, unknown, error, ⟨message, violations, rfl⟩, read⟩ :=
          ConnectionUrl.fields_cases url
        · rw [read]
          exact .inl ⟨by simp [known], by simp, by simp [wellFormed, known], _, rfl⟩
        · rw [read]
          exact .inr (.inl ⟨by simp [malformed], by simp, by simp [malformed], _, rfl⟩)
        · rw [read]
          exact .inr (.inr (.inl ⟨⟨blank, wellFormed, unknown⟩, by simp, by simp [unknown], _,
            ⟨message, violations, rfl⟩, rfl⟩))

/-- A table filled from its URL has its own search path. -/
theorem lookup_searchPath_of_withUrl {members filled : List (String × Datum)}
    (filling : withUrl members = .ok filled) :
    filled.lookup "search_path" = members.lookup "search_path" := by
  obtain ⟨rfl, -⟩ | ⟨url, fields, -, -, -, lookups⟩ := withUrl_eq_ok filling
  · rfl
  · have fromUrl : (urlMembers fields).lookup "search_path" = none :=
      urlMembers_lookup fields .searchPath
    rw [lookups, fromUrl, Option.or_none]

/-- A table ends the check for its URL, or once it is filled for its search path. -/
theorem check_eq_error_iff {members : List (String × Datum)} {error : Error} :
    Profile.check (.table members) = .error (.error error) ↔
      withUrl members = .error (.error error) ∨
        (∃ filled, withUrl members = .ok filled) ∧
          ∃ path, members.lookup "search_path" = some path ∧
            SettingsLayer.checkSearchPath path = .error (.error error) := by
  refine (except_bind_eq_error_iff _ _ _).trans (or_congr_right ?_)
  rw [exists_and_right.symm]
  refine exists_congr fun filled => and_congr_right fun filling => ?_
  rw [model_eq_error_iff]
  simp only [Datum.table.injEq, exists_eq_left', Fields.run_bind_first,
    SettingsLayer.run_connectionFields_eq_error_iff, lookup_searchPath_of_withUrl filling,
    Refusal.error.injEq, exists_eq_right_right']

/-- What checking a profile comes to. -/
theorem check_cases (datum : Datum) :
    (¬ Foreign datum ∧ ¬ Odd datum ∧ Judged (Profile.check datum)) ∨
      (Foreign datum ∧ ¬ Odd datum ∧
        ∃ error, IsConfigFailure error ∧ Profile.check datum = .error (.error error)) ∨
      (¬ Foreign datum ∧ Odd datum ∧
        ∃ error, IsNotText error ∧ Profile.check datum = .error (.error error)) := by
  unfold Foreign Odd Judged
  cases datum with
  | table members =>
    simp only [Datum.table.injEq, exists_eq_left', ne_eq, check_eq_error_iff]
    obtain ⟨ours, noOdd, urlRead, filled, filling⟩ | ⟨ours, noOdd, unread, items, refused⟩ |
      ⟨foreign, noOdd, unread, error, failure, ended⟩ | ⟨ours, isOdd, error, isNotText, ended⟩ :=
      withUrl_cases members
    · simp only [ours, noOdd, urlRead, filling]
      cases found : members.lookup "search_path" with
      | none => exact .inl (by simp)
      | some path =>
        obtain ⟨plain, judged⟩ | ⟨isOdd, error, isNotText, ended⟩ :=
          SettingsLayer.checkSearchPath_cases path
        · exact .inl ⟨id, by simpa using plain, by simpa [Judged] using judged⟩
        · exact .inr (.inr ⟨id, by simpa using isOdd, error, isNotText, by simpa using ended⟩)
    · exact .inl ⟨ours, by simp [noOdd, unread], by simp [refused]⟩
    · exact .inr (.inl ⟨foreign, by simp [noOdd, unread], error, failure, .inl ended⟩)
    · exact .inr (.inr ⟨ours, .inl isOdd, error, isNotText, .inl ended⟩)
  | _ => exact .inl ⟨nofun, nofun, judged_refuse _ _⟩

theorem judged_check_iff {datum : Datum} :
    Judged (Profile.check datum) ↔ ¬ Foreign datum ∧ ¬ Odd datum := by
  obtain ⟨ours, plain, judged⟩ | ⟨foreign, -, error, -, ended⟩ | ⟨-, isOdd, error, -, ended⟩ :=
    check_cases datum
  · exact iff_of_true judged ⟨ours, plain⟩
  · exact iff_of_false (fun judged => judged error ended) fun both => both.1 foreign
  · exact iff_of_false (fun judged => judged error ended) fun both => both.2 isOdd

/-- A profile that is admitted has no other names than those of a profile. -/
theorem known_of_check_eq_ok {members : List (String × Datum)} {profile : Profile}
    (checked : Profile.check (.table members) = .ok profile) :
    ∀ member ∈ members, member.1 ∈ names := by
  obtain ⟨filled, filling, known, -⟩ := check_eq_ok checked
  intro member inTable
  have inFilled : filled.lookup member.1 ≠ none := by
    have listed : members.lookup member.1 ≠ none := by
      rw [ne_eq, List.lookup_eq_none_iff]
      exact fun absent => by simpa using absent member inTable
    obtain ⟨rfl, -⟩ | ⟨url, fields, -, -, -, lookups⟩ := withUrl_eq_ok filling
    · exact listed
    · rw [lookups]
      simp [listed]
  by_contra unlisted
  exact inFilled (lookup_eq_none_of_unlisted known unlisted)

end Profile

instance GenSettings.judges_check : Judges GenSettings.check := by
  unfold GenSettings.check GenSettings.fields
  infer_instance

namespace AppConfig

open ConnectionUrl (IsConfigFailure)
open SettingsLayer (IsNotText)

/-- The first profile that is odd or for another program is odd. -/
def OddProfiles (members : List (String × Datum)) : Prop :=
  ∃ before name profile after,
    members.lookup "profiles" = some (.table (before ++ (name, profile) :: after)) ∧
      Profile.Odd profile ∧ ∀ other ∈ before, ¬ Profile.Foreign other.2 ∧ ¬ Profile.Odd other.2

/-- A table ends the check only for one of its profiles, the first that does. -/
theorem check_eq_error_iff {members : List (String × Datum)} {error : Error} :
    AppConfig.check (.table members) = .error (.error error) ↔
      ∃ before name profile after,
        members.lookup "profiles" = some (.table (before ++ (name, profile) :: after)) ∧
          (∀ other ∈ before, Judged (Profile.check other.2)) ∧
            Profile.check profile = .error (.error error) := by
  unfold AppConfig.check
  rw [model_eq_error_iff]
  simp only [Datum.table.injEq, exists_eq_left']
  refine (Fields.run_bind_later fun timeout _ => Fields.run_bind_later fun format _ =>
    Fields.run_bind_later fun defaultProfile _ => Fields.run_bind_first.trans
      Fields.run_fieldOr_eq_error_iff).trans ?_
  simp only [dictionary_eq_error_iff, Refusal.error.injEq, exists_eq_right_right']
  constructor
  · rintro ⟨datum, found, before, name, profile, after, rfl, judged, ended⟩
    exact ⟨before, name, profile, after, found, judged, ended⟩
  · rintro ⟨before, name, profile, after, found, judged, ended⟩
    exact ⟨_, found, before, name, profile, after, rfl, judged, ended⟩

/-- What checking the table of a config file comes to. -/
theorem check_cases (members : List (String × Datum)) :
    (¬ OddProfiles members ∧ (Judged (AppConfig.check (.table members)) ∨
        ∃ error, IsConfigFailure error ∧
          AppConfig.check (.table members) = .error (.error error))) ∨
      (OddProfiles members ∧
        ∃ error, IsNotText error ∧ AppConfig.check (.table members) = .error (.error error)) := by
  by_cases odd : OddProfiles members
  · refine .inr ⟨odd, ?_⟩
    obtain ⟨before, name, profile, after, found, isOdd, fine⟩ := odd
    have judgedBefore (other) (inside : other ∈ before) := Profile.judged_check_iff.mpr
      (fine other inside)
    obtain ⟨-, plain, -⟩ | ⟨-, plain, -⟩ | ⟨-, -, error, isNotText, ended⟩ :=
      Profile.check_cases profile
    · exact absurd isOdd plain
    · exact absurd isOdd plain
    · exact ⟨error, isNotText,
        check_eq_error_iff.mpr ⟨before, name, profile, after, found, judgedBefore, ended⟩⟩
  · refine .inl ⟨odd, ?_⟩
    by_cases judged : Judged (AppConfig.check (.table members))
    · exact .inl judged
    simp only [Judged, not_forall, not_not] at judged
    obtain ⟨error, ended⟩ := judged
    obtain ⟨before, name, profile, after, found, judgedBefore, endedProfile⟩ :=
      check_eq_error_iff.mp ended
    have fine (other) (inside : other ∈ before) := Profile.judged_check_iff.mp
      (judgedBefore other inside)
    obtain ⟨-, -, judged⟩ | ⟨-, -, failure, isFailure, same⟩ | ⟨-, isOdd, -⟩ :=
      Profile.check_cases profile
    · exact absurd endedProfile (judged error)
    · exact .inr ⟨failure, isFailure,
        check_eq_error_iff.mpr ⟨before, name, profile, after, found, judgedBefore, same⟩⟩
    · exact absurd ⟨before, name, profile, after, found, isOdd, fine⟩ odd

/-- Loading does not foresee what the document says. -/
def Surprises (document : String) : Prop :=
  (∃ digits, Toml.parse document = .error (.longNumber digits)) ∨
    ∃ members, Toml.parse document = .ok members ∧ OddProfiles members

theorem ofDocument_cases (path : FilePath) (document : String) :
    (¬ Surprises document ∧ ((∃ config, ofDocument path document = .ok config) ∨
        ∃ error, IsConfigFailure error ∧ ofDocument path document = .error error)) ∨
      (Surprises document ∧
        ∃ cause, ofDocument path document = .error (.unforeseen cause)) := by
  unfold Surprises ofDocument
  rcases parsed : Toml.parse document with (- | digits) | members
  · exact .inl ⟨by simp, .inr ⟨_, ⟨_, _, rfl⟩, rfl⟩⟩
  · exact .inr ⟨.inl ⟨digits, rfl⟩, _, rfl⟩
  · simp only [Except.ok.injEq, exists_eq_left', reduceCtorEq, exists_false, false_or]
    obtain ⟨plain, judged | ⟨_, ⟨message, violations, rfl⟩, ended⟩⟩ |
      ⟨isOdd, _, ⟨kind, operation, rfl⟩, ended⟩ := check_cases members
    · refine .inl ⟨plain, ?_⟩
      rcases checked : AppConfig.check (.table members) with (items | error) | config
      · simp only [validate, checked]
        exact .inr ⟨_, ⟨_, _, rfl⟩, rfl⟩
      · exact absurd checked (judged error)
      · simp only [validate, checked]
        exact .inl ⟨_, rfl⟩
    · simp only [validate, ended]
      exact .inl ⟨plain, .inr ⟨_, ⟨_, _, rfl⟩, rfl⟩⟩
    · simp only [validate, ended]
      exact .inr ⟨isOdd, _, rfl⟩

/-- The names at the top of a config file. -/
def names : List String :=
  ["statement_timeout", "default_format", "default_profile", "profiles", "gen"]

/-- The names of the table for generating. -/
def genNames : List String := ["query_globs", "schema_globs", "output_dir", "keep_going"]

/-- A table has a name that means nothing there: at the top, for generating, or in a profile. -/
inductive UnknownKey (members : List (String × Datum)) : Prop
  | top {member : String × Datum} (inTable : member ∈ members) (unknown : member.1 ∉ names)
  | gen {table : List (String × Datum)} {member : String × Datum}
      (found : members.lookup "gen" = some (.table table)) (inTable : member ∈ table)
      (unknown : member.1 ∉ genNames)
  | profile {profiles table : List (String × Datum)} {name : String} {member : String × Datum}
      (found : members.lookup "profiles" = some (.table profiles))
      (isProfile : (name, .table table) ∈ profiles) (inTable : member ∈ table)
      (unknown : member.1 ∉ Profile.names)

/-- Nothing is admitted with an unknown key. -/
theorem ReadFrom.not_unknownKey {members : List (String × Datum)} {config : AppConfig}
    (reads : ReadFrom members config) : ¬ UnknownKey members := by
  rintro (⟨inTable, unknown⟩ | ⟨found, inTable, unknown⟩ | ⟨found, isProfile, inTable, unknown⟩)
  · exact unknown (reads.known _ inTable)
  · have gen := reads.gen
    unfold Fields.ReadsOr at gen
    rw [found] at gen
    exact unknown ((GenSettings.check_eq_ok_iff.mp gen).known _ inTable)
  · have profiles := reads.profiles
    unfold Fields.ReadsOr at profiles
    rw [found] at profiles
    obtain ⟨entry, checked⟩ := exists_of_dictionary_eq_ok profiles isProfile
    exact unknown (Profile.known_of_check_eq_ok checked _ inTable)

/-- What loading does not foresee: bytes that are no text, and what a text can say. -/
def SurprisesIn (content : Bytes) : Prop :=
  (∃ defect, decodeUtf8 content = .error defect) ∨
    ∃ text, decodeUtf8 content = .ok text ∧ Surprises (String.ofList text)

end AppConfig

namespace FileTree

open AppConfig (SurprisesIn)
open ConnectionUrl (IsConfigFailure)

variable {tree : FileTree} {home : FilePath} {environment : Environment}
  {explicit : Option FilePath} {content : Bytes}

/-- Loading is reading the document of the file. -/
theorem loadConfig_of_read
    (read : tree.read (AppConfig.location home environment explicit) = .ok content) :
    tree.loadConfig home environment explicit =
      textOfBytes content >>= fun text =>
        AppConfig.ofDocument (AppConfig.location home environment explicit) (String.ofList text) := by
  have present : tree.holds (AppConfig.location home environment explicit) = true := by
    unfold FileTree.read at read
    unfold holds status?
    split at read <;> simp_all
  have bytes : tree.readBytes (AppConfig.location home environment explicit) = .ok content := by
    simp only [readBytes, read]
  simp only [loadConfig, present, bytes]
  rfl

/-- A config file loads or fails with a config failure, unless its content is one of those that
loading does not foresee. -/
theorem loadConfig_cases
    (read : tree.read (AppConfig.location home environment explicit) = .ok content) :
    (¬ SurprisesIn content ∧ ((∃ config, tree.loadConfig home environment explicit = .ok config) ∨
        ∃ error, IsConfigFailure error ∧
          tree.loadConfig home environment explicit = .error error)) ∨
      (SurprisesIn content ∧
        ∃ cause, tree.loadConfig home environment explicit = .error (.unforeseen cause)) := by
  rw [loadConfig_of_read read]
  unfold SurprisesIn textOfBytes
  cases decodeUtf8 content with
  | error defect => exact .inr ⟨.inl ⟨defect, rfl⟩, _, rfl⟩
  | ok text =>
    simp only [reduceCtorEq, exists_false, false_or, Except.ok.injEq, exists_eq_left']
    exact AppConfig.ofDocument_cases _ (String.ofList text)

/-- Nothing with an unknown key loads. -/
theorem loadConfig_ne_ok_of_unknownKey
    (read : tree.read (AppConfig.location home environment explicit) = .ok content)
    {text : List Char} (decoded : decodeUtf8 content = .ok text)
    {members : List (String × Datum)}
    (parsed : Toml.parse (String.ofList text) = .ok members)
    (unknown : AppConfig.UnknownKey members) (config : AppConfig) :
    tree.loadConfig home environment explicit ≠ .ok config := by
  rw [loadConfig_of_read read]
  simp only [textOfBytes, decoded]
  intro loaded
  obtain ⟨others, written, parsedOther, checked, -⟩ := AppConfig.ofDocument_eq_ok_iff.mp loaded
  rw [Toml.parse?, parsed] at parsedOther
  cases parsedOther
  exact (AppConfig.check_eq_ok_iff.mp checked).not_unknownKey unknown

/-- Loading an existing config file gives a config or fails: with a config failure and its exit
status, or unforeseen with the general status.  It fails unforeseen exactly if the file is no text,
has a whole number of too many digits, or has a profile with something else in place of a text and
no URL for another program before it.  A table with an unknown key never loads, and fails with a
config failure but for such a profile. -/
theorem loadConfig_failures
    (read : tree.read (AppConfig.location home environment explicit) = .ok content) :
    ((∃ config, tree.loadConfig home environment explicit = .ok config) ∨
        ∃ error, tree.loadConfig home environment explicit = .error error ∧
          ((∃ message violations, error = .failure (.config message violations)) ∧
              error.exitStatus = 7 ∨
            (∃ cause, error = .unforeseen cause) ∧ error.exitStatus = 1)) ∧
      ((∃ cause, tree.loadConfig home environment explicit = .error (.unforeseen cause)) ↔
        SurprisesIn content) ∧
      ∀ text members, decodeUtf8 content = .ok text →
        Toml.parse (String.ofList text) = .ok members → AppConfig.UnknownKey members →
          (∀ config, tree.loadConfig home environment explicit ≠ .ok config) ∧
            (¬ AppConfig.OddProfiles members → ∃ message violations,
              tree.loadConfig home environment explicit =
                .error (.failure (.config message violations))) := by
  have unloaded (text) (members) (decoded : decodeUtf8 content = .ok text)
      (parsed : Toml.parse (String.ofList text) = .ok members)
      (unknown : AppConfig.UnknownKey members) :=
    loadConfig_ne_ok_of_unknownKey read decoded parsed unknown
  obtain ⟨plain, ⟨config, loaded⟩ | ⟨_, ⟨message, violations, rfl⟩, failed⟩⟩ |
    ⟨surprise, cause, failed⟩ := loadConfig_cases read
  · rw [loaded]
    refine ⟨.inl ⟨config, rfl⟩, ⟨nofun, fun surprise => absurd surprise plain⟩, ?_⟩
    intro text members decoded parsed unknown
    exact absurd loaded (unloaded text members decoded parsed unknown config)
  · rw [failed]
    refine ⟨.inr ⟨_, rfl, .inl ⟨⟨message, violations, rfl⟩, rfl⟩⟩,
      ⟨nofun, fun surprise => absurd surprise plain⟩, ?_⟩
    intro text members decoded parsed unknown
    exact ⟨nofun, fun _ => ⟨message, violations, rfl⟩⟩
  · rw [failed]
    refine ⟨.inr ⟨_, rfl, .inr ⟨⟨cause, rfl⟩, rfl⟩⟩, ⟨fun _ => surprise, fun _ => ⟨cause, rfl⟩⟩, ?_⟩
    intro text members decoded parsed unknown
    refine ⟨nofun, fun plain => absurd ?_ plain⟩
    obtain ⟨defect, undecoded⟩ | ⟨_, decoded', ⟨digits, unparsed⟩ | ⟨_, parsed', odd⟩⟩ := surprise
    · rw [decoded] at undecoded
      cases undecoded
    · cases decoded.symm.trans decoded'
      rw [parsed] at unparsed
      cases unparsed
    · cases decoded.symm.trans decoded'
      cases parsed.symm.trans parsed'
      exact odd

def keyDocument (key : String) : String := "[profiles.shelf]\n" ++ key ++ " = 5\n"

def keyTable (key : String) : List (String × Datum) :=
  [("profiles", .table [("shelf", .table [(key, .integer 5)])])]

/-- The key of a table that has nothing else. -/
def soleKey? : List (String × Datum) → Option String
  | [("profiles", .table [("shelf", .table [(key, .integer 5)])])] => some key
  | _ => none

theorem soleKey?_eq_some {members : List (String × Datum)} {key : String}
    (found : soleKey? members = some key) : members = keyTable key := by
  unfold soleKey? at found
  split at found
  · cases found
    rfl
  · cases found

def keyPath : FilePath := ⟨0, ["shelf.toml"]⟩

/-- A tree with nothing but the config file. -/
def keyShelf (content : Bytes) : FileTree where
  entries := [(["shelf.toml"], .file content)]

def keyLocation : FilePath := AppConfig.location ⟨1, []⟩ [] (some keyPath)

theorem keyShelf_read (content : Bytes) : (keyShelf content).read keyLocation = .ok content := by
  cbv

def keyContent (key : String) : Bytes := encodeUtf8 (keyDocument key).toList

theorem keyDocument_parsed {key : String}
    (parsed : (Toml.parse? (String.ofList (keyDocument key).toList)).bind soleKey? = some key) :
    Toml.parse (String.ofList (keyDocument key).toList) = .ok (keyTable key) := by
  obtain ⟨members, isParsed, found⟩ := Option.bind_eq_some_iff.mp parsed
  rw [soleKey?_eq_some found] at isParsed
  exact toOption_eq_some_iff.mp isParsed

theorem misspelt_not_odd : ¬ AppConfig.OddProfiles (keyTable "hots") := by
  rintro ⟨before, name, profile, after, found, ⟨members, rfl, odd⟩, -⟩
  cases before with
  | nil =>
    cases found
    rcases odd with ⟨given, isUrl, -⟩ | ⟨-, path, isPath, -⟩
    · simp [List.lookup] at isUrl
    · simp [List.lookup] at isPath
  | cons first before => simp [keyTable] at found

/-- A misspelt key is a config failure. -/
theorem loadConfig_failures_misspelt :
    (keyShelf (keyContent "hots")).read keyLocation = .ok (keyContent "hots") ∧
      ∃ message violations, (keyShelf (keyContent "hots")).loadConfig ⟨1, []⟩ [] (some keyPath) =
        .error (.failure (.config message violations)) := by
  have read := keyShelf_read (keyContent "hots")
  have decoded : decodeUtf8 (keyContent "hots") = .ok (keyDocument "hots").toList := by
    decide +kernel
  have parsed : Toml.parse (String.ofList (keyDocument "hots").toList) = .ok (keyTable "hots") :=
    keyDocument_parsed (by decide +kernel)
  have unknown : AppConfig.UnknownKey (keyTable "hots") :=
    .profile rfl List.mem_cons_self List.mem_cons_self (by decide)
  exact ⟨read, ((loadConfig_failures read).2.2 _ _ decoded parsed unknown).2 misspelt_not_odd⟩

/-- A number for a URL is not foreseen. -/
theorem loadConfig_unforeseen_url :
    ∃ cause, (keyShelf (keyContent "dsn")).loadConfig ⟨1, []⟩ [] (some keyPath) =
      .error (.unforeseen cause) := by
  have decoded : decodeUtf8 (keyContent "dsn") = .ok (keyDocument "dsn").toList := by
    decide +kernel
  have odd : AppConfig.OddProfiles (keyTable "dsn") :=
    ⟨[], "shelf", .table [("dsn", .integer 5)], [], rfl,
      ⟨_, rfl, .inl ⟨.integer 5, rfl, rfl, nofun⟩⟩, nofun⟩
  have surprises : SurprisesIn (keyContent "dsn") :=
    .inr ⟨_, decoded, .inr ⟨_, keyDocument_parsed (by decide +kernel), odd⟩⟩
  obtain ⟨plain, -⟩ | ⟨-, failed⟩ := loadConfig_cases (keyShelf_read (keyContent "dsn"))
  · exact absurd surprises plain
  · exact failed

end FileTree

end QueryTyping
