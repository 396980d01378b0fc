import Mathlib.Data.Set.Card
import Mathlib.Order.Interval.Finset.Nat
import QueryTyping.Proofs.Rereading
import QueryTyping.Proofs.Segmentation

/-!
# What placeholders stand for

A placeholder is a dollar sign and all the digits that follow it, outside of protected
text.  The placeholders of a prepared statement stand for its markers as long as it
has no dollar sign of its own before a digit, and no marker before one: the first
would be read as the placeholder of some parameter, the second as that of another one
(`parseText_placeholders`).

Nothing is checked of that: a statement with such a dollar sign or marker is accepted
as it is (`stray_placeholders`).
-/

namespace QueryTyping.QueryFile

open QueryTyping.Text

/-- A dollar sign and all the digits after it, outside of protected text. -/
structure PlaceholderAt (sql before digits after : List Char) : Prop where
  outside : Outside sql before ('$' :: (digits ++ after))
  nonempty : digits ≠ []
  decimal : ∀ c ∈ digits, c.isDigit = true
  maximal : ∀ c ∈ after.head?, c.isDigit = false

/-- The number of a placeholder. -/
def placeholderNumber (digits : List Char) : Nat := Nat.ofDigitChars 10 digits 0

/-- The placeholder stands where a marker of the statement stood, and has the number of the
parameter that the marker names. -/
def StandsForMarker (lexemes : List Lexeme) (before digits : List Char) : Prop :=
  ∃ first name text later, lexemes = first ++ .marker name text :: later ∧
    before = preparedTexts (parameters lexemes) first ∧
    1 ≤ placeholderNumber digits ∧
    (parameters lexemes)[placeholderNumber digits - 1]? = some name

/-- No digit follows a marker, or a dollar sign of the statement's own. -/
def Undigited (lexemes : List Lexeme) : Prop :=
  ∀ before lexeme c run later, lexemes = before ++ lexeme :: .plain (c :: run) :: later →
    (lexeme = .lone '$' ∨ ∃ name text, lexeme = .marker name text) → c.isDigit = false

theorem placeholderNumber_digits (params : List (List Char)) (name : List Char) :
    placeholderNumber (placeholderDigits params name) = params.idxOf name + 1 :=
  Nat.ofDigitChars_ten_toDigits

/-- More digits make a greater number. -/
theorem placeholderNumber_lt_append {digits more : List Char}
    (positive : 0 < placeholderNumber digits) (nonempty : more ≠ []) :
    placeholderNumber digits < placeholderNumber (digits ++ more) := by
  have grows (number : Nat) (more : List Char) : number ≤ Nat.ofDigitChars 10 more number := by
    induction more generalizing number with
    | nil => simp
    | cons c more ih =>
      rw [Nat.ofDigitChars_cons]
      exact (by omega : number ≤ _).trans (ih _)
  obtain ⟨c, more, rfl⟩ := List.exists_cons_of_ne_nil nonempty
  rw [placeholderNumber, placeholderNumber, Nat.ofDigitChars_append, Nat.ofDigitChars_cons]
  refine lt_of_lt_of_le ?_ (grows _ more)
  rw [placeholderNumber] at positive
  omega

theorem nodup_eraseDups {α : Type} [BEq α] [LawfulBEq α] (items : List α) :
    items.eraseDups.Nodup := by
  induction bound : items.length using Nat.strong_induction_on generalizing items with
  | _ size ih =>
    cases items with
    | nil => exact List.nodup_nil
    | cons item items =>
      have shorter : (items.filter fun other => !other == item).length < size := by
        rw [← bound]
        exact Nat.lt_succ_of_le (List.length_filter_le _ _)
      have fresh : item ∉ (items.filter fun other => !other == item).eraseDups := by simp
      rw [List.eraseDups_cons]
      exact List.nodup_cons.mpr ⟨fresh, ih _ shorter _ rfl⟩

theorem idxOf_of_getElem? {names : List (List Char)} (nodup : names.Nodup) {index : Nat}
    {name : List Char} (found : names[index]? = some name) : names.idxOf name = index := by
  obtain ⟨bound, rfl⟩ := List.getElem?_eq_some_iff.mp found
  exact nodup.idxOf_getElem index bound

theorem nodup_parameters (lexemes : List Lexeme) : (parameters lexemes).Nodup :=
  nodup_eraseDups _

theorem isDigit_of_isBlank {c : Char} (blank : isBlank c = true) : c.isDigit = false := by
  rw [Bool.eq_false_iff]
  intro digit
  have bounds : 48 ≤ c.toNat ∧ c.toNat ≤ 57 := Char.isDigit_iff_toNat.mp digit
  simp only [isBlank, Bool.or_eq_true, Bool.and_eq_true, decide_eq_true_eq, beq_iff_eq] at blank
  omega

/-- Trimming takes no placeholder away. -/
theorem placeholderAt_append_iff {sql before digits after blanks : List Char}
    (blank : ∀ c ∈ blanks, isBlank c = true) :
    PlaceholderAt (sql ++ blanks) before digits (after ++ blanks) ↔
      PlaceholderAt sql before digits after := by
  have undollared : '$' ∉ blanks := fun dollar => nomatch blank '$' dollar
  have ends : (∀ c ∈ (after ++ blanks).head?, c.isDigit = false) ↔
      ∀ c ∈ after.head?, c.isDigit = false := by
    cases after with
    | nil =>
      refine iff_of_true (fun c first => ?_) (by simp)
      exact isDigit_of_isBlank (blank c (List.mem_of_head? first))
    | cons => exact Iff.rfl
  have places : Outside (sql ++ blanks) before ('$' :: (digits ++ (after ++ blanks))) ↔
      Outside sql before ('$' :: (digits ++ after)) := by
    rw [← List.append_assoc, ← List.cons_append]
    exact outside_append_iff (List.cons_ne_nil _ _) undollared
  constructor
  · rintro ⟨outside, nonempty, decimal, maximal⟩
    exact ⟨places.mp outside, nonempty, decimal, ends.mp maximal⟩
  · rintro ⟨outside, nonempty, decimal, maximal⟩
    exact ⟨places.mpr outside, nonempty, decimal, ends.mpr maximal⟩

/-- The digits of a placeholder reach up to the first other character. -/
theorem exists_more_digits {digits after known rest : List Char}
    (maximal : ∀ c ∈ after.head?, c.isDigit = false) (decimal : ∀ c ∈ known, c.isDigit = true)
    (same : digits ++ after = known ++ rest) :
    ∃ more, digits = known ++ more ∧ rest = more ++ after := by
  rcases List.append_eq_append_iff.mp same with ⟨more, cut, tail⟩ | ⟨more, cut, tail⟩
  · cases more with
    | nil => exact ⟨[], by simpa using cut.symm, tail.symm⟩
    | cons c more =>
      have digit := decimal c (by simp [cut])
      rw [maximal c (by rw [tail]; rfl)] at digit
      cases digit
  · exact ⟨more, cut, tail⟩

section Statement

variable {params : List (List Char)} {behind after : List Char} {lexemes before later : List Lexeme}
  {lexeme : Lexeme}

/-- Prepared text begins with a digit where the statement has plain text with one. -/
theorem exists_plain_of_digit {c : Char} {rest : List Char} (lexed : Lexed behind later after)
    (digit : c.isDigit = true) (first : preparedTexts params later = c :: rest) :
    ∃ run others, later = .plain (c :: run) :: others := by
  cases lexed with
  | nil => cases first
  | @cons _ _ lexeme others form _ _ =>
    rw [preparedTexts_cons] at first
    rcases lexeme.marker_or_unmarked with ⟨name, text, rfl⟩ | unmarked
    · obtain ⟨rfl, -⟩ := List.cons.inj first
      cases digit
    · rw [Lexeme.prepared_eq_text unmarked] at first
      obtain ⟨text, rfl⟩ := form.exists_plain (isSpecial_of_isDigit digit) first
      obtain ⟨d, run, rfl⟩ := List.exists_cons_of_ne_nil form.1
      obtain ⟨rfl, -⟩ := List.cons.inj first
      exact ⟨run, others, rfl⟩

/-- A placeholder is that of a marker, with the digits behind it, or a dollar sign of the
statement's own with the digits behind it. -/
theorem PlaceholderAt.exists_origin {front digits rest : List Char} (neutral : Neutral behind)
    (lexed : Lexed behind lexemes after) (apart : SetApart lexemes)
    (placeholder : PlaceholderAt (preparedTexts params lexemes) front digits rest) :
    ∃ before lexeme later, lexemes = before ++ lexeme :: later ∧
      front = preparedTexts params before ∧
      (lexeme = .lone '$' ∧ preparedTexts params later = digits ++ rest ∨
        ∃ name text more, lexeme = .marker name text ∧
          digits = placeholderDigits params name ++ more ∧
          preparedTexts params later = more ++ rest) := by
  obtain ⟨outside, nonempty, decimal, maximal⟩ := placeholder
  obtain ⟨before, lexeme, later, run, more, rfl, prepared, filled, rfl, cut, atStart⟩ :=
    outside.liesIn neutral lexed apart (List.cons_ne_nil _ _)
  obtain ⟨c, more, rfl⟩ := List.exists_cons_of_ne_nil filled
  have tail : digits ++ rest = more ++ preparedTexts params later := (List.cons.inj cut).2
  obtain rfl : '$' = c := (List.cons.inj cut).1
  obtain ⟨-, others⟩ := lexed_append_iff.mp lexed
  cases others with
  | cons form ends lexedLater =>
    cases lexeme with
    | marker name text =>
      have decimalOwn := isDigit_placeholderDigits params name
      rw [Lexeme.prepared, placeholder_eq] at prepared
      cases run with
      | nil =>
        obtain ⟨-, rfl⟩ := List.cons.inj prepared
        obtain ⟨more, split, rest⟩ := exists_more_digits maximal decimalOwn tail
        exact ⟨before, _, later, rfl, List.append_nil _, .inr ⟨name, text, more, rfl, split, rest⟩⟩
      | cons d run =>
        have digit := decimalOwn '$' (by simp [(List.cons.inj prepared).2])
        cases digit
    | lone d =>
      obtain ⟨rfl, rfl, rfl⟩ : run = [] ∧ d = '$' ∧ [] = more := eq_of_singleton prepared
      exact ⟨before, _, later, rfl, List.append_nil _, .inl ⟨rfl, tail.symm⟩⟩
    | semicolon =>
      obtain ⟨-, same, -⟩ := eq_of_singleton prepared
      cases same
    | plain text =>
      have written : text = run ++ '$' :: more := prepared
      cases form.2 '$' (by simp [written])
    | lineComment | blockComment | quoted | dollarQuoted =>
      -- A token that begins with the dollar sign would be a dollar quote.
      obtain rfl := atStart trivial
      obtain ⟨d, digits, rfl⟩ := List.exists_cons_of_ne_nil nonempty
      have opens := form.opensToken trivial (preparedTexts params later)
      rw [← Lexeme.prepared_eq_text rfl params, prepared, List.nil_append, List.cons_append, ← tail]
        at opens
      exact absurd opens (not_opensToken_of_digit (decimal d List.mem_cons_self) _)

/-- Where a dollar sign comes to stand before digits, there is a placeholder. -/
theorem placeholderAt_of_split {known : List Char} (neutral : Neutral behind)
    (lexed : Lexed behind (before ++ lexeme :: later) after)
    (apart : SetApart (before ++ lexeme :: later))
    (prepared : lexeme.prepared params = '$' :: known) (decimal : ∀ c ∈ known, c.isDigit = true)
    (nonempty : known ++ (preparedTexts params later).takeWhile Char.isDigit ≠ []) :
    PlaceholderAt (preparedTexts params (before ++ lexeme :: later)) (preparedTexts params before)
      (known ++ (preparedTexts params later).takeWhile Char.isDigit)
      ((preparedTexts params later).dropWhile Char.isDigit) := by
  refine ⟨?_, nonempty, ?_, head?_dropWhile_eq_false _ _⟩
  · have rest : preparedTexts params (lexeme :: later) =
        '$' :: (known ++ preparedTexts params later) := by
      rw [preparedTexts_cons, prepared, List.cons_append]
    rw [List.append_assoc, List.takeWhile_append_dropWhile, ← rest]
    exact outside_of_split neutral lexed apart
  · intro c member
    rcases List.mem_append.mp member with own | more
    · exact decimal c own
    · exact all_takeWhile _ _ c more

/-- A place in the prepared text is the beginning of one lexeme. -/
theorem split_unique {first rest : List Lexeme} {other : Lexeme}
    (lexed : Lexed behind (before ++ lexeme :: later) after)
    (same : before ++ lexeme :: later = first ++ other :: rest)
    (place : preparedTexts params before = preparedTexts params first) : lexeme = other := by
  have nonempty {start more : List Lexeme} {l : Lexeme} (member : l ∈ before ++ lexeme :: later)
      (empty : preparedTexts params start = preparedTexts params (start ++ l :: more)) : False := by
    obtain ⟨_, form⟩ := lexed.exists_form member
    rw [preparedTexts_append, List.self_eq_append_right, preparedTexts_cons] at empty
    exact form.prepared_ne_nil params (List.append_eq_nil_iff.mp empty).1
  rcases List.append_eq_append_iff.mp same with ⟨more, rfl, tail⟩ | ⟨more, rfl, tail⟩
  · cases more with
    | nil => exact (List.cons.inj tail).1
    | cons l more => exact (nonempty (by rw [same]; simp) place).elim
  · cases more with
    | nil => exact (List.cons.inj tail).1.symm
    | cons l more => exact (nonempty (by simp) place.symm).elim

/-- The placeholders of the SQL are the markers of the statement. -/
def StandForMarkers (lexemes : List Lexeme) (sql : List Char) : Prop :=
  ∀ front digits rest, PlaceholderAt sql front digits rest → StandsForMarker lexemes front digits

theorem standsForMarker_of_marker {name text : List Char} (later : List Lexeme) :
    StandsForMarker (before ++ .marker name text :: later)
      (preparedTexts (parameters (before ++ .marker name text :: later)) before)
      (placeholderDigits (parameters (before ++ .marker name text :: later)) name) := by
  refine ⟨before, name, text, later, rfl, rfl, ?_, ?_⟩
  · rw [placeholderNumber_digits]
    omega
  · rw [placeholderNumber_digits, Nat.add_sub_cancel]
    have member : .marker name text ∈ before ++ .marker name text :: later :=
      List.mem_append_right _ List.mem_cons_self
    exact List.getElem?_idxOf (mem_parameters_iff.mpr ⟨text, member⟩)

theorem standForMarkers_of_undigited (neutral : Neutral behind) (lexed : Lexed behind lexemes after)
    (apart : SetApart lexemes) (undigited : Undigited lexemes) :
    StandForMarkers lexemes (assembled lexemes) := by
  intro front digits rest placeholder
  obtain ⟨before, lexeme, later, rfl, rfl, origin⟩ :=
    placeholder.exists_origin neutral lexed apart
  obtain ⟨-, others⟩ := lexed_append_iff.mp lexed
  cases others with
  | cons form ends lexedLater =>
    rcases origin with ⟨rfl, cut⟩ | ⟨name, text, more, rfl, rfl, cut⟩
    · obtain ⟨c, digits, rfl⟩ := List.exists_cons_of_ne_nil placeholder.nonempty
      have digit := placeholder.decimal c List.mem_cons_self
      obtain ⟨run, others, rfl⟩ := exists_plain_of_digit lexedLater digit cut
      rw [undigited before _ c run others rfl (.inl rfl)] at digit
      cases digit
    · cases more with
      | nil =>
        rw [List.append_nil]
        exact standsForMarker_of_marker later
      | cons c more =>
        have digit := placeholder.decimal c (by simp)
        obtain ⟨run, others, rfl⟩ := exists_plain_of_digit lexedLater digit cut
        rw [undigited before _ c run others rfl (.inr ⟨name, text, rfl⟩)] at digit
        cases digit

theorem undigited_of_standForMarkers (neutral : Neutral behind) (lexed : Lexed behind lexemes after)
    (apart : SetApart lexemes) (stand : StandForMarkers lexemes (assembled lexemes)) :
    Undigited lexemes := by
  intro before lexeme c run later same kind
  subst same
  by_contra undigited
  have digit : c.isDigit = true := by simpa using undigited
  have more : (preparedTexts (parameters (before ++ lexeme :: .plain (c :: run) :: later))
      (.plain (c :: run) :: later)).takeWhile Char.isDigit ≠ [] := by
    rw [preparedTexts_cons, Lexeme.prepared_eq_text rfl, Lexeme.text, List.cons_append,
      List.takeWhile_cons_of_pos digit]
    exact List.cons_ne_nil _ _
  rcases kind with rfl | ⟨name, text, rfl⟩
  · -- The dollar sign has the place of no marker.
    obtain ⟨first, name, text, rest, split, place, -⟩ := stand _ _ _
      (placeholderAt_of_split neutral lexed apart rfl (by simp) more)
    cases split_unique lexed split place
  · -- The placeholder has a greater number than its marker.
    have decimal := isDigit_placeholderDigits
      (parameters (before ++ .marker name text :: .plain (c :: run) :: later)) name
    obtain ⟨first, other, otherText, rest, split, place, positive, found⟩ := stand _ _ _
      (placeholderAt_of_split neutral lexed apart (placeholder_eq _ name) decimal
        (List.append_ne_nil_of_right_ne_nil _ more))
    cases split_unique lexed split place
    have index := idxOf_of_getElem? (nodup_parameters _) found
    have number := placeholderNumber_digits
      (parameters (before ++ .marker name text :: .plain (c :: run) :: later)) name
    have greater := placeholderNumber_lt_append (by rw [number]; omega) more
    rw [number, index] at greater
    omega

/-- The numbers of the placeholders in the SQL. -/
def placeholderNumbers (sql : List Char) : Set Nat :=
  {number | ∃ front digits rest, PlaceholderAt sql front digits rest ∧
    placeholderNumber digits = number}

/-- If no digit follows a marker, each marker has a placeholder of its parameter's number. -/
theorem exists_placeholder_of_undigited {name text : List Char} (neutral : Neutral behind)
    (lexed : Lexed behind lexemes after) (apart : SetApart lexemes) (undigited : Undigited lexemes)
    (member : .marker name text ∈ lexemes) :
    (parameters lexemes).idxOf name + 1 ∈ placeholderNumbers (assembled lexemes) := by
  obtain ⟨before, later, rfl⟩ := List.append_of_mem member
  have placeholder := placeholderAt_of_split neutral lexed apart
    (placeholder_eq (parameters (before ++ .marker name text :: later)) name)
    (isDigit_placeholderDigits _ name)
    (List.append_ne_nil_of_left_ne_nil (placeholderDigits_ne_nil _ name) _)
  have ends : (preparedTexts (parameters (before ++ .marker name text :: later)) later).takeWhile
      Char.isDigit = [] := by
    obtain ⟨-, others⟩ := lexed_append_iff.mp lexed
    cases others with
    | cons _ _ lexedLater =>
      cases first : preparedTexts (parameters (before ++ .marker name text :: later)) later with
      | nil => rfl
      | cons c rest =>
        refine List.takeWhile_cons_of_neg fun digit => ?_
        obtain ⟨run, others, rfl⟩ := exists_plain_of_digit lexedLater digit first
        rw [undigited before _ c run others rfl (.inr ⟨name, text, rfl⟩)] at digit
        cases digit
  refine ⟨_, _, _, placeholder, ?_⟩
  rw [ends, List.append_nil, placeholderNumber_digits]

theorem placeholderNumbers_assembled (neutral : Neutral behind) (lexed : Lexed behind lexemes after)
    (apart : SetApart lexemes) (undigited : Undigited lexemes) :
    placeholderNumbers (assembled lexemes) = Set.Icc 1 (parameters lexemes).length := by
  ext number
  constructor
  · rintro ⟨front, digits, rest, placeholder, rfl⟩
    obtain ⟨_, _, _, _, _, _, positive, found⟩ :=
      standForMarkers_of_undigited neutral lexed apart undigited front digits rest placeholder
    have bound := (List.getElem?_eq_some_iff.mp found).1
    exact ⟨positive, by omega⟩
  · rintro ⟨positive, bound⟩
    have inside : number - 1 < (parameters lexemes).length := by omega
    obtain ⟨text, member⟩ := mem_parameters_iff.mp (List.getElem_mem inside)
    have placed := exists_placeholder_of_undigited neutral lexed apart undigited member
    rw [(nodup_parameters lexemes).idxOf_getElem _ inside, Nat.sub_add_cancel positive] at placed
    exact placed

end Statement

theorem exists_blanks_of_trim {sql : List Char} (unblank : ∀ c ∈ sql.head?, isBlank c = false) :
    ∃ blanks, (∀ c ∈ blanks, isBlank c = true) ∧ sql = trim sql ++ blanks := by
  have left : trimLeft sql = sql := by
    cases sql with
    | nil => rfl
    | cons c rest => simp [trimLeft, unblank c rfl]
  refine ⟨(sql.reverse.takeWhile isBlank).reverse, ?_, ?_⟩
  · intro c member
    exact all_takeWhile isBlank _ c (List.mem_reverse.mp member)
  · rw [trim, left, trimRight, dropRightWhile, ← List.reverse_append,
      List.takeWhile_append_dropWhile, List.reverse_reverse]

/-- A placeholder does not reach into white space at the end. -/
theorem PlaceholderAt.exists_after {sql front digits rest blanks : List Char}
    (placeholder : PlaceholderAt (sql ++ blanks) front digits rest)
    (blank : ∀ c ∈ blanks, isBlank c = true) : ∃ after, rest = after ++ blanks := by
  have whole : front ++ '$' :: digits ++ rest = sql ++ blanks := by
    rw [← placeholder.outside.append_eq]
    simp
  rcases List.append_eq_append_iff.mp whole with ⟨after, -, same⟩ | ⟨tail, same, cut⟩
  · exact ⟨after, same⟩
  · rcases List.eq_nil_or_concat' tail with rfl | ⟨init, c, rfl⟩
    · exact ⟨[], cut.symm⟩
    · obtain ⟨start, d, ending⟩ :=
        (List.eq_nil_or_concat' digits).resolve_left placeholder.nonempty
      have last : d = c := by
        rw [ending] at same
        have reversed := congrArg List.head? (congrArg List.reverse same)
        simpa using reversed
      have digit := placeholder.decimal d (by simp [ending])
      rw [isDigit_of_isBlank (blank d (by simp [cut, last]))] at digit
      cases digit

theorem placeholderAt_trim_iff {sql front digits : List Char}
    (unblank : ∀ c ∈ sql.head?, isBlank c = false) :
    (∃ rest, PlaceholderAt (trim sql) front digits rest) ↔
      ∃ rest, PlaceholderAt sql front digits rest := by
  obtain ⟨blanks, blank, whole⟩ := exists_blanks_of_trim unblank
  constructor
  · rintro ⟨rest, placeholder⟩
    rw [whole]
    exact ⟨_, (placeholderAt_append_iff blank).mpr placeholder⟩
  · rintro ⟨rest, placeholder⟩
    rw [whole] at placeholder
    obtain ⟨after, rfl⟩ := placeholder.exists_after blank
    exact ⟨after, (placeholderAt_append_iff blank).mp placeholder⟩

/-- Prepared text begins with no white space. -/
theorem IsStatement.head?_assembled {lexemes : List Lexeme} (isStatement : IsStatement lexemes) :
    ∀ c ∈ (assembled lexemes).head?, isBlank c = false := by
  obtain ⟨behind, after, -, opens, lexed⟩ := isStatement
  intro c first
  rcases head?_preparedTexts lexed first with same | ⟨-, rfl⟩
  · exact opens.unblank c same
  · decide

theorem IsStatement.placeholderAt_iff {lexemes : List Lexeme} {query : SourceQuery}
    (isStatement : IsStatement lexemes) (prepares : Prepares lexemes query)
    {front digits : List Char} :
    (∃ rest, PlaceholderAt query.preparedSql.toList front digits rest) ↔
      ∃ rest, PlaceholderAt (assembled lexemes) front digits rest := by
  rw [prepares.sql, String.toList_ofList]
  exact placeholderAt_trim_iff isStatement.head?_assembled

/-- The placeholders of a query stand for the markers of its statement precisely if no digit
follows a marker or a dollar sign. -/
theorem IsStatement.standForMarkers_iff {lexemes : List Lexeme} {query : SourceQuery}
    (isStatement : IsStatement lexemes) (prepares : Prepares lexemes query)
    (apart : SetApart lexemes) :
    StandForMarkers lexemes query.preparedSql.toList ↔ Undigited lexemes := by
  obtain ⟨behind, after, neutral, -, lexed⟩ := id isStatement
  constructor
  · intro stand
    refine undigited_of_standForMarkers neutral lexed apart fun front digits rest placeholder => ?_
    obtain ⟨rest, placeholder⟩ := (isStatement.placeholderAt_iff prepares).mpr ⟨rest, placeholder⟩
    exact stand front digits rest placeholder
  · intro undigited front digits rest placeholder
    obtain ⟨rest, placeholder⟩ := (isStatement.placeholderAt_iff prepares).mp ⟨rest, placeholder⟩
    exact standForMarkers_of_undigited neutral lexed apart undigited front digits rest placeholder

/-- Then there are as many of them as parameters. -/
theorem IsStatement.ncard_placeholderNumbers {lexemes : List Lexeme} {query : SourceQuery}
    (isStatement : IsStatement lexemes) (prepares : Prepares lexemes query)
    (apart : SetApart lexemes) (undigited : Undigited lexemes) :
    (placeholderNumbers query.preparedSql.toList).ncard = query.paramNames.length := by
  obtain ⟨behind, after, neutral, -, lexed⟩ := id isStatement
  have trimmed : placeholderNumbers query.preparedSql.toList =
      placeholderNumbers (assembled lexemes) := by
    ext number
    constructor
    · rintro ⟨front, digits, rest, placeholder, rfl⟩
      obtain ⟨rest, placeholder⟩ := (isStatement.placeholderAt_iff prepares).mp ⟨rest, placeholder⟩
      exact ⟨front, digits, rest, placeholder, rfl⟩
    · rintro ⟨front, digits, rest, placeholder, rfl⟩
      obtain ⟨rest, placeholder⟩ := (isStatement.placeholderAt_iff prepares).mpr ⟨rest, placeholder⟩
      exact ⟨front, digits, rest, placeholder, rfl⟩
  rw [trimmed, placeholderNumbers_assembled neutral lexed apart undigited, prepares.params,
    List.length_map, ← Finset.coe_Icc, Set.ncard_coe_finset, Nat.card_Icc, Nat.add_sub_cancel]

/-- In an accepted text the placeholders of a query stand for the markers of its statement, and
there are as many of them as parameters, as long as markers are set apart from dollar signs and
strings, and no digit follows a marker or a dollar sign. -/
theorem parseText_placeholders {source text : String} {queries : List SourceQuery}
    {slices : List (List Lexeme)} (accepted : parseText source text = .ok queries)
    (segmented : Segmented [] text.toList slices) :
    List.Forall₂ (fun lexemes query => Prepares lexemes query ∧ (SetApart lexemes →
      (StandForMarkers lexemes query.preparedSql.toList ↔ Undigited lexemes) ∧
      (Undigited lexemes →
        (placeholderNumbers query.preparedSql.toList).ncard = query.paramNames.length)))
      slices queries := by
  rw [parseText_eq_ok_iff, parse_eq_remaining, Between.remaining_eq_ok_iff] at accepted
  obtain ⟨readings, last, scans, ended, rfl⟩ := accepted
  obtain rfl := segmented.unique (scans.segmented ended) rfl
  rw [List.forall₂_map_left_iff, List.forall₂_map_right_iff, List.forall₂_same]
  intro reading member
  obtain ⟨isStatement, prepares⟩ := scans.statements (clear_start _) reading member
  exact ⟨prepares, fun apart => ⟨isStatement.standForMarkers_iff prepares apart,
    isStatement.ncard_placeholderNumbers prepares apart⟩⟩

/-- A statement with two markers of one name. -/
def findText : String := "-- name: Find :one\nSELECT pgq.arg('ID') = pgq.arg('ID')"

/-- The marker of the parameter of `findText`. -/
def idMarker : Lexeme := .marker "ID".toList "pgq.arg('ID')".toList

/-- The lexemes of the statement in `findText`. -/
def findLexemes : List Lexeme :=
  [.plain "SELECT ".toList, idMarker, .plain " = ".toList, idMarker]

/-- The query of `findText`. -/
def findQuery : SourceQuery := ⟨"Find", "SELECT $1 = $1", ["ID"], .one, ["-- name: Find :one"]⟩

theorem findText_segmented : Segmented [] findText.toList [findLexemes] := by
  have annotated : (Piece.lineComment "-- name: Find :one".toList).HasForm :=
    ⟨" name: Find :one".toList, by decide, by decide⟩
  have isMarker : idMarker.HasForm false :=
    ⟨[], [], rfl, by simp, by simp, by simp, by simp⟩
  have opens : OpensStatement (texts findLexemes ++ []) := by
    constructor <;> simp [findLexemes, Lexeme.text, isBlank]
  have selects : (Lexeme.plain "SELECT ".toList).HasForm false :=
    ⟨by simp, by simp [isSpecial]⟩
  have equals : (Lexeme.plain " = ".toList).HasForm false := ⟨by simp, by simp [isSpecial]⟩
  have lexed (behind : List Char) : Lexed behind findLexemes [] :=
    .cons selects (by rintro c ⟨⟩; rfl) <| .cons isMarker trivial <|
      .cons equals (by rintro c ⟨⟩; rfl) <| .cons isMarker trivial (.nil _ _)
  have unended : ∀ lexeme ∈ findLexemes, ';' ∉ lexeme.text := by decide
  have ends : EndsStatement findLexemes [] :=
    .inr ⟨rfl, fun lexeme member semicolon => absurd semicolon (unended lexeme member)⟩
  have statement (behind : List Char) : Segmented behind (texts findLexemes ++ []) [findLexemes] :=
    @Segmented.slice _ [] [] findLexemes [] (.nil _) opens (lexed _) ends
      (@Segmented.tail _ [] (.nil _))
  exact .cons annotated (by rintro c ⟨⟩; rfl)
    (.cons Piece.newline_hasForm (by rintro c ⟨⟩; decide) (statement _))

theorem findLexemes_setApart : SetApart findLexemes := by
  constructor
  · intro before between name text later same
    have dollar : .lone '$' ∈ findLexemes := by simp [same]
    simp [findLexemes, idMarker] at dollar
  · intro before name text c body later same
    have quoted : .quoted ('\'' :: body) ∈ findLexemes := by simp [same]
    simp [findLexemes, idMarker] at quoted

theorem findLexemes_undigited : Undigited findLexemes := by
  intro before lexeme c run later same _
  have plain : .plain (c :: run) ∈ findLexemes := by simp [same]
  simp only [findLexemes, idMarker, List.mem_cons, Lexeme.plain.injEq, List.not_mem_nil, or_false,
    reduceCtorEq, false_or] at plain
  rcases plain with first | second
  · obtain ⟨rfl, -⟩ := List.cons.inj first
    rfl
  · obtain ⟨rfl, -⟩ := List.cons.inj second
    rfl

theorem parseText_placeholders_one_name :
    parseText "find.sql" findText = .ok [findQuery] ∧ Segmented [] findText.toList [findLexemes] ∧
      StandForMarkers findLexemes findQuery.preparedSql.toList ∧
      (placeholderNumbers findQuery.preparedSql.toList).ncard = 1 := by
  have accepted : parseText "find.sql" findText = .ok [findQuery] :=
    parseText_eq_ok_iff.mpr (by decide +kernel)
  have read := parseText_placeholders accepted findText_segmented
  rw [List.forall₂_cons] at read
  obtain ⟨stand, count⟩ := read.1.2 findLexemes_setApart
  exact ⟨accepted, findText_segmented, stand.mpr findLexemes_undigited,
    count findLexemes_undigited⟩

/-- A statement with a dollar sign of its own before a digit, and a marker before one. -/
def strayText : String := "-- name: Find :one\nSELECT $2, pgq.arg('Name')0"

/-- The query of `strayText`. -/
def strayQuery : SourceQuery :=
  ⟨"Find", "SELECT $2, $10", ["Name"], .one, ["-- name: Find :one"]⟩

theorem stray_placeholders :
    parseText "find.sql" strayText = .ok [strayQuery] ∧
      2 ∈ placeholderNumbers strayQuery.preparedSql.toList ∧
      10 ∈ placeholderNumbers strayQuery.preparedSql.toList ∧
      ¬ ∀ number ∈ placeholderNumbers strayQuery.preparedSql.toList,
        1 ≤ number ∧ number ≤ strayQuery.paramNames.length := by
  have accepted : parseText "find.sql" strayText = .ok [strayQuery] :=
    parseText_eq_ok_iff.mpr (by decide +kernel)
  have unspecial (first : List Char) {run rest : List Char}
      (plain : ∀ c ∈ run, isSpecial c = false)
      (outside : Outside "SELECT $2, $10".toList first (run ++ rest)) :
      Outside "SELECT $2, $10".toList (first ++ run) rest := by
    refine outside.chars fun before c more same => not_opensToken_of_unspecial ?_ _
    exact plain c (by simp [same])
  have first : Outside "SELECT $2, $10".toList "SELECT ".toList "$2, $10".toList :=
    @unspecial [] "SELECT ".toList _ (by simp [isSpecial]) .start
  have second : Outside "SELECT $2, $10".toList "SELECT $2, ".toList "$10".toList :=
    @unspecial "SELECT $".toList ['2', ',', ' '] _ (by simp [isSpecial])
      (.char (not_opensToken_of_digit rfl _) first)
  have two : 2 ∈ placeholderNumbers strayQuery.preparedSql.toList :=
    ⟨_, ['2'], ", $10".toList, ⟨first, by simp, by simp, by simp⟩, rfl⟩
  have ten : 10 ∈ placeholderNumbers strayQuery.preparedSql.toList :=
    ⟨_, ['1', '0'], [], ⟨second, by simp, by simp, by simp⟩, rfl⟩
  refine ⟨accepted, two, ten, fun bounded => ?_⟩
  have bound := (bounded 2 two).2
  simp [strayQuery] at bound

end QueryTyping.QueryFile
