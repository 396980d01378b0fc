import Mathlib.Data.List.Forall2
import QueryTyping.Proofs.Conversation
import QueryTyping.Validation

/-!
# What is admitted

A model is admitted when each of its fields is, and a field only adds to the
violations found before it, so nothing that went wrong is forgotten.  So the
admission of a table says of every field what it was read from.

The two facts behind this are classes, found for a model from the form of its
definition: fields keep the violations found (`Fields.Keeps`), and a check that
refuses says why (`Explains`).  Most checks of a single value only ever refuse
that value (`Decides`).
-/

namespace QueryTyping.Check

variable {α β : Type}

/-- A refusal names a violation, or it is an error of another kind. -/
def Explained (result : Except Refusal α) : Prop := result ≠ .error (.violations [])

class Explains (check : Check α) : Prop where
  explained (datum : Datum) : Explained (check datum)

/-- A value, or a refusal of the datum itself. -/
def Decided (result : Except Refusal α) : Prop :=
  (∃ value, result = .ok value) ∨ ∃ kind message, result = refuse kind message

class Decides (check : Check α) : Prop where
  decided (datum : Datum) : Decided (check datum)

/-- Whatever was found stays, and only an error of another kind ends the fields at once. -/
class Fields.Keeps (fields : Fields α) : Prop where
  keeps {found after : List Violation} {value : α} (run : fields.run found = .ok (value, after)) :
    ∃ more, after = found ++ more
  ends (found : List Violation) : Explained (fields.run found)

/-- The fields find nothing wrong. -/
def Fields.Admits (fields : Fields α) (value : α) : Prop := fields.run [] = .ok (value, [])

theorem explained_ok (value : α) : Explained (.ok value) := by simp [Explained]

theorem explained_refuse (kind message : String) :
    Explained (refuse kind message : Except Refusal α) := by simp [Explained, refuse]

theorem explained_breaks (message : String) : Explained (breaks message : Except Refusal α) :=
  explained_refuse _ _

theorem decided_ok (value : α) : Decided (.ok value) := .inl ⟨value, rfl⟩

theorem decided_refuse (kind message : String) :
    Decided (refuse kind message : Except Refusal α) := .inr ⟨kind, message, rfl⟩

theorem decided_breaks (message : String) : Decided (breaks message : Except Refusal α) :=
  decided_refuse _ _

theorem decided_bind {result : Except Refusal α} {next : α → Except Refusal β}
    (first : Decided result) (second : ∀ value, Decided (next value)) :
    Decided (result >>= next) := by
  obtain ⟨value, rfl⟩ | ⟨kind, message, rfl⟩ := first
  · exact second value
  · exact decided_refuse kind message

theorem Decided.explained {result : Except Refusal α} (decided : Decided result) :
    Explained result := by
  obtain ⟨value, rfl⟩ | ⟨kind, message, rfl⟩ := decided
  · exact explained_ok value
  · exact explained_refuse kind message

theorem explained_bind {result : Except Refusal α} {next : α → Except Refusal β}
    (first : Explained result) (second : ∀ value, Explained (next value)) :
    Explained (result >>= next) := by
  cases result with
  | error refusal => simpa [Explained, bind, Except.bind] using first
  | ok value => exact second value

theorem explained_map {result : Except Refusal α} (f : α → β) (explained : Explained result) :
    Explained (result.map f) := by
  cases result with
  | error refusal => simpa [Explained, Except.map] using explained
  | ok value => exact explained_ok _

theorem explained_mapM {check : β → Except Refusal α} (items : List β)
    (explained : ∀ item, Explained (check item)) : Explained (items.mapM check) := by
  induction items with
  | nil => exact explained_ok []
  | cons item items ih =>
    rw [List.mapM_cons]
    exact explained_bind (explained item) fun _ => explained_bind ih fun _ => explained_ok _

theorem under_eq_ok_iff {step : String} {result : Except Refusal α} {value : α} :
    under step result = .ok value ↔ result = .ok value := by
  rcases result with (items | error) | other <;> simp [under]

theorem explained_under {step : String} {result : Except Refusal α} (explained : Explained result) :
    Explained (under step result) := by
  rcases result with (items | error) | other
  · simpa [Explained, under] using explained
  · simp [Explained, under]
  · exact explained_ok _

theorem collect_eq_ok_iff {check : β → Except Refusal α} {items : List β} {values : List α} :
    collect check items = .ok values ↔
      List.Forall₂ (fun item value => check item = .ok value) items values := by
  induction items generalizing values with
  | nil => simp [collect, eq_comm]
  | cons item items ih =>
    rw [List.forall₂_cons_left_iff]
    rcases checked : check item with (found | error) | value
    · rcases rest : collect check items with (others | error) | others <;>
        simp [collect, checked, rest]
    · simp [collect, checked]
    · simp only [collect, checked, Except.ok.injEq, ← ih]
      rcases rest : collect check items with refusal | others
      · simp [Except.map]
      · simp [Except.map, eq_comm]

theorem explained_collect {check : β → Except Refusal α} {items : List β}
    (explained : ∀ item, Explained (check item)) : Explained (collect check items) := by
  induction items with
  | nil => exact explained_ok _
  | cons item items ih =>
    have first := explained item
    rcases checked : check item with (found | error) | value
    · rw [checked] at first
      rcases rest : collect check items with (others | error) | others <;>
        simp_all [collect, Explained]
    · simp [collect, checked, Explained]
    · simp only [collect, checked]
      exact explained_map _ ih

instance decides_text : Decides text where
  decided datum := by
    cases datum
    case text => exact decided_ok _
    all_goals exact decided_refuse _ _

instance decides_integer : Decides integer where
  decided datum := by
    unfold integer
    split
    · exact decided_ok _
    · exact decided_ok _
    · split
      · exact decided_ok _
      · split <;> exact decided_refuse _ _
    · split
      · exact decided_ok _
      · exact decided_refuse _ _
    · exact decided_refuse _ _

instance decides_number : Decides number where
  decided datum := by
    unfold number
    split
    · exact decided_ok _
    · split
      · exact decided_refuse _ _
      · exact decided_ok _
    · exact decided_ok _
    · split
      · exact decided_ok _
      · exact decided_refuse _ _
    · exact decided_refuse _ _

instance decides_truth : Decides truth where
  decided datum := by
    have whole (n : Int) : Decided (truth.ofWhole n) := by
      unfold truth.ofWhole
      split
      · exact decided_ok _
      · exact decided_ok _
      · exact decided_refuse _ _
    unfold truth
    split
    · exact decided_ok _
    · exact whole _
    · split
      · exact whole _
      · exact decided_refuse _ _
    · split
      · exact decided_ok _
      · exact decided_refuse _ _
    · exact decided_refuse _ _

instance explains_of_decides {check : Check α} [Decides check] : Explains check where
  explained datum := (Decides.decided datum).explained

instance explains_optional {check : Check α} [Explains check] : Explains (optional check) where
  explained datum := by
    unfold optional
    split
    · exact explained_ok _
    · exact explained_map _ (Explains.explained _)

theorem explained_elements {check : Check α} [Explains check] (items : List Datum) :
    Explained (elements check items) :=
  explained_collect fun _ => explained_under (Explains.explained _)

instance explains_list {check : Check α} [Explains check] : Explains (list check) where
  explained datum := by
    unfold list
    split
    · exact explained_elements _
    · exact explained_refuse _ _

instance explains_dictionary {check : Check α} [Explains check] : Explains (dictionary check) where
  explained datum := by
    unfold dictionary
    split
    · exact explained_collect fun _ => explained_map _ (explained_under (Explains.explained _))
    · exact explained_refuse _ _

namespace Fields

instance keeps_pure {value : α} : Keeps (pure value : Fields α) where
  keeps := by
    rintro found after other ⟨⟩
    exact ⟨[], (List.append_nil found).symm⟩
  ends _ := explained_ok _

instance keeps_bind {fields : Fields α} {next : α → Fields β} [Keeps fields]
    [∀ value, Keeps (next value)] : Keeps (fields >>= next) where
  keeps := by
    intro found after value run
    obtain ⟨⟨middle, between⟩, first, second⟩ := (except_bind_eq_ok_iff _ _ _).mp run
    obtain ⟨early, rfl⟩ := Keeps.keeps first
    obtain ⟨late, rfl⟩ := Keeps.keeps second
    exact ⟨early ++ late, List.append_assoc found early late⟩
  ends found := explained_bind (Keeps.ends found) fun (value, between) => Keeps.ends between

instance keeps_note [Inhabited α] {step : String} {result : Except Refusal α} :
    Keeps (note step result) where
  keeps := by
    intro found after value run
    unfold note at run
    split at run
    · cases run
      exact ⟨[], (List.append_nil found).symm⟩
    · cases run
      exact ⟨_, rfl⟩
    · cases run
  ends found := by
    unfold note
    split
    · exact explained_ok _
    · exact explained_ok _
    next refusal other _ =>
      have thrown : (throw refusal : Fields α).run found = .error refusal := rfl
      rw [thrown]
      rintro ⟨⟩
      exact other [] rfl

instance keeps_fieldOr [Inhabited α] {members : List (String × Datum)} {name : String}
    {fallback : α} {check : Check α} : Keeps (fieldOr members name fallback check) := by
  unfold fieldOr
  split <;> infer_instance

theorem admits_pure_iff {value other : α} :
    Admits (pure value : Fields α) other ↔ value = other := by
  constructor
  · rintro ⟨⟩
    rfl
  · rintro rfl
    rfl

theorem admits_bind_iff {fields : Fields α} {next : α → Fields β}
    [keepsNext : ∀ value, Keeps (next value)] {value : β} :
    Admits (fields >>= next) value ↔ ∃ middle, Admits fields middle ∧ Admits (next middle) value := by
  constructor
  · intro run
    obtain ⟨⟨middle, between⟩, first, second⟩ := (except_bind_eq_ok_iff _ _ _).mp run
    obtain ⟨more, nothing⟩ := (keepsNext middle).keeps second
    obtain ⟨rfl, -⟩ := List.append_eq_nil_iff.mp nothing.symm
    exact ⟨middle, first, second⟩
  · rintro ⟨middle, first, second⟩
    exact (except_bind_eq_ok_iff _ _ _).mpr ⟨(middle, []), first, second⟩

theorem admits_note_iff [Inhabited α] {step : String} {result : Except Refusal α} {value : α}
    (explained : Explained result) : Admits (note step result) value ↔ result = .ok value := by
  rcases result with (items | error) | other
  · have noted : (note step (.error (.violations items) : Except Refusal α)).run [] =
        .ok (default, items.map (·.under step)) := rfl
    have some : items ≠ [] := by
      rintro rfl
      exact explained rfl
    simp [Admits, noted, some]
  · have noted : (note step (.error (.error error) : Except Refusal α)).run [] =
        .error (.error error) := rfl
    simp [Admits, noted]
  · exact admits_pure_iff.trans (by simp)

/-- What a table gives under a name, or else the fallback. -/
def ReadsOr (members : List (String × Datum)) (name : String) (fallback : α) (check : Check α)
    (value : α) : Prop :=
  match members.lookup name with
  | some datum => check datum = .ok value
  | none => value = fallback

/-- Tables that agree on a name give the same under it. -/
theorem ReadsOr.unique {members others : List (String × Datum)} {name : String}
    {fallback value other : α} {check : Check α} (reads : ReadsOr members name fallback check value)
    (readsOther : ReadsOr others name fallback check other)
    (same : members.lookup name = others.lookup name) : value = other := by
  unfold ReadsOr at reads readsOther
  rw [same] at reads
  split at reads
  next datum found =>
    rw [found] at readsOther
    exact Except.ok.inj (reads.symm.trans readsOther)
  next absent =>
    rw [absent] at readsOther
    exact reads.trans readsOther.symm

theorem admits_fieldOr_iff [Inhabited α] {members : List (String × Datum)} {name : String}
    {fallback value : α} {check : Check α} [Explains check] :
    Admits (fieldOr members name fallback check) value ↔
      ReadsOr members name fallback check value := by
  unfold fieldOr ReadsOr
  cases members.lookup name with
  | none => simp [admits_pure_iff, eq_comm]
  | some datum => exact admits_note_iff (Explains.explained datum)

/-- The value is the one that a table gives under a name, if it gives one: null is none. -/
structure Gives (members : List (String × Datum)) (name : String) (check : Check α)
    (given : Option α) : Prop where
  eq_some_iff (value : α) :
    given = some value ↔ ∃ datum, members.lookup name = some datum ∧ check datum = .ok value
  admitted (datum : Datum) (found : members.lookup name = some datum) (isGiven : datum ≠ .null) :
    ∃ value, check datum = .ok value

theorem ReadsOr.gives {members : List (String × Datum)} {name : String} {check : Check α}
    {given : Option α}
    (reads : ReadsOr members name none (fun datum => (check datum).map some) given) :
    Gives members name check given := by
  unfold ReadsOr at reads
  cases found : members.lookup name with
  | none =>
    rw [found] at reads
    constructor <;> simp [found, reads]
  | some datum =>
    rw [found] at reads
    rcases checked : check datum with refusal | admitted
    · simp [checked, Except.map] at reads
    · have same : given = some admitted := by simpa [checked, Except.map, eq_comm] using reads
      constructor
      · simp [found, same, checked]
      · rintro other otherFound -
        rw [found] at otherFound
        cases otherFound
        exact ⟨admitted, checked⟩

theorem ReadsOr.gives_optional {members : List (String × Datum)} {name : String} {check : Check α}
    {given : Option α} (refusesNull : ∀ value, check .null ≠ .ok value)
    (reads : ReadsOr members name none (optional check) given) :
    Gives members name check given := by
  by_cases null : members.lookup name = some .null
  · have same : given = none := by
      simpa [ReadsOr, null, optional, eq_comm] using reads
    constructor
    · simp [null, same, refusesNull]
    · intro datum found isGiven
      rw [null] at found
      cases found
      exact absurd rfl isGiven
  · apply ReadsOr.gives
    unfold ReadsOr at reads ⊢
    cases found : members.lookup name with
    | none => simpa [found] using reads
    | some datum =>
      have isGiven : datum ≠ .null := by
        rintro rfl
        exact null found
      simpa only [found, optional] using reads

instance keeps_forM {items : List β} {visit : β → Fields Unit} [∀ item, Keeps (visit item)] :
    Keeps (items.forM visit) := by
  induction items with
  | nil => exact keeps_pure
  | cons item items ih => exact keeps_bind

instance keeps_nothingElse {members : List (String × Datum)} {names : List String} :
    Keeps (nothingElse members names) := keeps_forM

theorem admits_forM_iff {items : List β} {visit : β → Fields Unit} [∀ item, Keeps (visit item)] :
    Admits (items.forM visit) () ↔ ∀ item ∈ items, Admits (visit item) () := by
  induction items with
  | nil => simp [admits_pure_iff]
  | cons item items ih =>
    have step : Admits ((item :: items).forM visit) () ↔
        ∃ middle, Admits (visit item) middle ∧ Admits (items.forM visit) () := admits_bind_iff
    rw [step, List.forall_mem_cons, ih]
    exact ⟨fun ⟨(), both⟩ => both, fun both => ⟨(), both⟩⟩

/-- A table has no names beyond those that are allowed. -/
theorem admits_nothingElse_iff {members : List (String × Datum)} {names : List String} :
    Admits (nothingElse members names) () ↔ ∀ member ∈ members, member.1 ∈ names := by
  have refused (member : String × Datum) : ¬ Admits
      (note member.1 (refuse "extra_forbidden" "Extra inputs are not permitted") : Fields Unit)
      () := by
    rw [admits_note_iff (explained_refuse _ _)]
    simp [refuse]
  rw [nothingElse, admits_forM_iff]
  simp [refused]

end Fields

theorem dictionary_eq_ok_iff {check : Check α} {members : List (String × Datum)}
    {values : List (String × α)} :
    dictionary check (.table members) = .ok values ↔
      List.Forall₂ (fun member value => member.1 = value.1 ∧ check member.2 = .ok value.2)
        members values := by
  have entry (member : String × Datum) (value : String × α) :
      ((under member.1 (check member.2)).map fun admitted => (member.1, admitted)) = .ok value ↔
        member.1 = value.1 ∧ check member.2 = .ok value.2 := by
    rcases checked : check member.2 with (found | error) | admitted
    · simp [under, Except.map]
    · simp [under, Except.map]
    · simp [under, Except.map, Prod.ext_iff]
  simp only [dictionary, collect_eq_ok_iff, entry]

/-- An entry of a dictionary is the admitted entry of its table. -/
theorem lookup_dictionary {check : Check α} {members : List (String × Datum)}
    {values : List (String × α)} (admitted : dictionary check (.table members) = .ok values)
    (name : String) (value : α) :
    values.lookup name = some value ↔
      ∃ datum, members.lookup name = some datum ∧ check datum = .ok value := by
  have paired := dictionary_eq_ok_iff.mp admitted
  clear admitted
  induction paired with
  | nil => simp
  | @cons member entry members values first others ih =>
    obtain ⟨key, datum⟩ := member
    obtain ⟨_, value'⟩ := entry
    obtain ⟨rfl, checked⟩ := first
    by_cases same : name = key
    · simp_all
    · have other : (name == key) = false := by simpa using same
      simp only [List.lookup_cons, other]
      exact ih

theorem model_eq_ok_iff {name : String} {fields : List (String × Datum) → Fields α}
    {members : List (String × Datum)} {value : α} :
    model name fields (.table members) = .ok value ↔ (fields members).Admits value := by
  rcases ran : (fields members).run [] with refusal | ⟨admitted, _ | ⟨item, items⟩⟩ <;>
    simp [model, Fields.Admits, ran]

theorem validate_eq_ok_iff {name : String} {check : Check α} {datum : Datum}
    {value : α} : validate name check datum = .ok value ↔ check datum = .ok value := by
  rcases checked : check datum with (items | error) | admitted <;> simp [validate, checked]

instance explains_model {name : String} {fields : List (String × Datum) → Fields α}
    [∀ members, (fields members).Keeps] : Explains (model name fields) where
  explained datum := by
    unfold model
    split
    next members =>
      have ends : Explained ((fields members).run []) := Fields.Keeps.ends []
      rcases ran : (fields members).run [] with refusal | ⟨admitted, _ | ⟨item, items⟩⟩ <;>
        simp_all [Explained]
    · exact explained_refuse _ _

end QueryTyping.Check
