import QueryTyping.Proofs.ProtectedText

/-!
# The form of a lexeme

Two things around a lexeme matter to its form: whether a string has escapes, which
the text behind decides, and how the text ahead begins, which keeps the lexeme from
being longer.

Reading is exact for this grammar (`Lexeme.next_eq_ok_iff`): it gives a lexeme and
the text after it precisely if the lexeme has its form and ends there.
-/

namespace QueryTyping.QueryFile

open QueryTyping.Text

/-- What a lexeme looks like.  `escapes` says whether a string that begins here has escapes. -/
def Lexeme.HasForm (escapes : Bool) : Lexeme → Prop
  | .plain text => text ≠ [] ∧ ∀ c ∈ text, isSpecial c = false
  | .marker name text => IsMarker name text
  | .semicolon => True
  | .lineComment text => ∃ body, text = '-' :: '-' :: body ∧ '\n' ∉ body
  | .blockComment text => ∃ body, text = '/' :: '*' :: body ∧ ClosesComment body
  | .quoted text =>
    (∃ body, text = '\'' :: body ∧ ClosesQuote '\'' escapes body) ∨
      ∃ body, text = '"' :: body ∧ ClosesQuote '"' false body
  | .dollarQuoted text => ∃ tag body, text = tag ++ body ∧ IsDollarTag tag ∧ ClosesMark tag body
  | .lone c => c = '$' ∨ c = '/' ∨ c = '-' ∨ c = 'p'

/-- The text ahead does not make a longer or another lexeme of this one. -/
def Lexeme.EndsBefore (after : List Char) : Lexeme → Prop
  | .plain _ => ∀ c ∈ after.head?, isSpecial c = true
  | .lineComment _ => ∀ c ∈ after.head?, c = '\n'
  | .quoted text => after.head? ≠ text.head?
  | .lone c =>
    (c = '$' → dollarTag after = none) ∧ (c = '/' → after.head? ≠ some '*') ∧
      (c = '-' → after.head? ≠ some '-') ∧ (c = 'p' → marker? ('p' :: after) = none)
  | .marker _ _ | .semicolon | .blockComment _ | .dollarQuoted _ => True

variable {before rest after : List Char} {c : Char} {lexeme : Lexeme}

theorem protected?_hasForm (special : isSpecial c = true) (unended : c ≠ ';')
    (unmarked : marker? (c :: rest) = none)
    (read : protected? before c rest = .ok (lexeme, after)) :
    lexeme.HasForm (opensEscapes before) ∧ lexeme.EndsBefore after := by
  unfold protected? at read
  split at read
  next others =>
    simp only [Except.ok.injEq, Prod.mk.injEq] at read
    obtain ⟨rfl, rfl⟩ := read
    exact ⟨⟨_, rfl, newline_notMem_takeWhile others⟩, head?_dropWhile_line others⟩
  next others =>
    split at read
    next body ahead cut =>
      simp only [Except.ok.injEq, Prod.mk.injEq] at read
      obtain ⟨rfl, rfl⟩ := read
      exact ⟨⟨body, rfl, (closeComment_eq_some_iff.mp cut).1⟩, trivial⟩
    next => cases read
  next =>
    split at read
    next body ahead cut =>
      simp only [Except.ok.injEq, Prod.mk.injEq] at read
      obtain ⟨rfl, rfl⟩ := read
      obtain ⟨closes, single, -⟩ := (closeQuote_eq_some_iff (by decide)).mp cut
      exact ⟨.inl ⟨body, rfl, closes⟩, single⟩
    next => cases read
  next =>
    split at read
    next body ahead cut =>
      simp only [Except.ok.injEq, Prod.mk.injEq] at read
      obtain ⟨rfl, rfl⟩ := read
      obtain ⟨closes, single, -⟩ := (closeQuote_eq_some_iff (by decide)).mp cut
      exact ⟨.inr ⟨body, rfl, closes⟩, single⟩
    next => cases read
  next =>
    split at read
    next tag body opened =>
      obtain ⟨isTag, -⟩ := dollarTag_eq_some_iff.mp opened
      split at read
      next text ahead cut =>
        simp only [Except.ok.injEq, Prod.mk.injEq] at read
        obtain ⟨rfl, rfl⟩ := read
        exact ⟨⟨tag, text, rfl, isTag, ((closeMark_eq_some_iff isTag.ne_nil).mp cut).1⟩, trivial⟩
      next => cases read
    next untagged =>
      simp only [Except.ok.injEq, Prod.mk.injEq] at read
      obtain ⟨rfl, rfl⟩ := read
      exact ⟨.inl rfl, fun _ => untagged, by simp, by simp, by simp⟩
  next unquoted unnamed undollared uncommented unclosed =>
    simp only [Except.ok.injEq, Prod.mk.injEq] at read
    obtain ⟨rfl, rfl⟩ := read
    have form : c = '$' ∨ c = '/' ∨ c = '-' ∨ c = 'p' := by
      simp only [isSpecial, Bool.or_eq_true, decide_eq_true_eq] at special
      tauto
    refine ⟨form, fun dollar => absurd dollar undollared, fun slash first => ?_,
      fun dash first => ?_, fun letter => letter ▸ unmarked⟩
    · obtain ⟨others, rfl⟩ := List.head?_eq_some_iff.mp first
      exact unclosed others slash rfl
    · obtain ⟨others, rfl⟩ := List.head?_eq_some_iff.mp first
      exact uncommented others dash rfl

/-- A lexeme of its own that some special character opens. -/
def Lexeme.IsProtected : Lexeme → Prop
  | .lineComment _ | .blockComment _ | .quoted _ | .dollarQuoted _ => True
  | .plain _ | .marker _ _ | .semicolon | .lone _ => False

theorem protected?_lone_of_endsBefore (form : Lexeme.HasForm (opensEscapes before) (.lone c))
    (ends : Lexeme.EndsBefore after (.lone c)) :
    protected? before c after = .ok (.lone c, after) := by
  obtain ⟨untagged, unstarred, undashed, -⟩ := ends
  rcases form with rfl | rfl | rfl | rfl
  · simp [protected?, untagged rfl]
  · unfold protected?
    split <;> simp_all
  · unfold protected?
    split <;> simp_all
  · unfold protected?
    split <;> simp_all

theorem protected?_of_hasForm (isProtected : lexeme.IsProtected)
    (form : lexeme.HasForm (opensEscapes before)) (ends : lexeme.EndsBefore after)
    (text : lexeme.text ++ after = c :: rest) :
    protected? before c rest = .ok (lexeme, after) := by
  cases lexeme with
  | plain | marker | semicolon | lone => cases isProtected
  | lineComment text =>
    obtain ⟨body, rfl, lineless⟩ := form
    simp only [Lexeme.text, List.cons_append, List.cons.injEq] at text
    obtain ⟨rfl, rfl⟩ := text
    obtain ⟨line, others⟩ := cut_line lineless ends
    simp only [protected?]
    rw [line, others]
  | blockComment text =>
    obtain ⟨body, rfl, closes⟩ := form
    simp only [Lexeme.text, List.cons_append, List.cons.injEq] at text
    obtain ⟨rfl, rfl⟩ := text
    simp only [protected?]
    rw [closeComment_of_closes closes]
  | quoted text =>
    rcases form with ⟨body, rfl, closes⟩ | ⟨body, rfl, closes⟩
    · simp only [Lexeme.text, List.cons_append, List.cons.injEq] at text
      obtain ⟨rfl, rfl⟩ := text
      simp only [protected?]
      rw [closeQuote_of_closes (by decide) closes ends]
    · simp only [Lexeme.text, List.cons_append, List.cons.injEq] at text
      obtain ⟨rfl, rfl⟩ := text
      simp only [protected?]
      rw [closeQuote_of_closes (by decide) closes ends]
  | dollarQuoted text =>
    obtain ⟨tag, body, rfl, isTag, closes⟩ := form
    have dollar : c = '$' := by
      obtain ⟨name, rfl, -⟩ := isTag
      exact (List.cons.inj text).1.symm
    subst dollar
    have opened : dollarTag rest = some (tag, body ++ after) := by
      rw [dollarTag_eq_some_iff, ← text]
      exact ⟨isTag, (List.append_assoc tag body after).symm⟩
    have closed : closeMark tag (body ++ after) = some (body, after) :=
      (closeMark_eq_some_iff isTag.ne_nil).mpr ⟨closes, rfl⟩
    simp only [protected?, opened, closed]

theorem Lexeme.opener_of_isProtected {escapes : Bool} (isProtected : lexeme.IsProtected)
    (form : lexeme.HasForm escapes) (text : lexeme.text ++ after = c :: rest) :
    c = '-' ∨ c = '/' ∨ c = '\'' ∨ c = '"' ∨ c = '$' := by
  cases lexeme with
  | plain | marker | semicolon | lone => cases isProtected
  | lineComment =>
    obtain ⟨body, rfl, -⟩ := form
    exact .inl (List.cons.inj text).1.symm
  | blockComment =>
    obtain ⟨body, rfl, -⟩ := form
    exact .inr (.inl (List.cons.inj text).1.symm)
  | quoted =>
    rcases form with ⟨body, rfl, -⟩ | ⟨body, rfl, -⟩
    · exact .inr (.inr (.inl (List.cons.inj text).1.symm))
    · exact .inr (.inr (.inr (.inl (List.cons.inj text).1.symm)))
  | dollarQuoted =>
    obtain ⟨tag, body, rfl, ⟨name, rfl, -⟩, -⟩ := form
    exact .inr (.inr (.inr (.inr (List.cons.inj text).1.symm)))

theorem Lexeme.isSpecial_of_isProtected {escapes : Bool} (isProtected : lexeme.IsProtected)
    (form : lexeme.HasForm escapes) (text : lexeme.text ++ after = c :: rest) :
    isSpecial c = true := by
  rcases opener_of_isProtected isProtected form text with rfl | rfl | rfl | rfl | rfl <;> rfl

theorem Lexeme.nextSpecial_of_isProtected (isProtected : lexeme.IsProtected)
    (form : lexeme.HasForm (opensEscapes before)) (ends : lexeme.EndsBefore after)
    (text : lexeme.text ++ after = c :: rest) :
    Lexeme.nextSpecial before c rest = .ok (lexeme, after) := by
  have opener := opener_of_isProtected isProtected form text
  have unmarked : marker? (c :: rest) = none := by
    apply marker?_cons_eq_none
    rcases opener with rfl | rfl | rfl | rfl | rfl <;> decide
  have unended : c ≠ ';' := by
    rcases opener with rfl | rfl | rfl | rfl | rfl <;> decide
  unfold Lexeme.nextSpecial
  rw [unmarked]
  simp only [unended, if_false]
  exact protected?_of_hasForm isProtected form ends text

theorem Lexeme.nextSpecial_eq_ok_iff (special : isSpecial c = true) :
    Lexeme.nextSpecial before c rest = .ok (lexeme, after) ↔
      lexeme.HasForm (opensEscapes before) ∧ lexeme.EndsBefore after ∧
        lexeme.text ++ after = c :: rest := by
  constructor
  · intro read
    have text := (Lexeme.nextSpecial_append read).1
    unfold Lexeme.nextSpecial at read
    split at read
    next found marked =>
      cases read
      obtain ⟨name, marker, rfl, isMarker, same⟩ := marker?_eq_some_iff.mp marked
      exact ⟨isMarker, trivial, same⟩
    next unmarked =>
      split at read
      next =>
        simp only [Except.ok.injEq, Prod.mk.injEq] at read
        obtain ⟨rfl, rfl⟩ := read
        exact ⟨trivial, trivial, text⟩
      next unended =>
        obtain ⟨form, ends⟩ := protected?_hasForm special unended unmarked read
        exact ⟨form, ends, text⟩
  · rintro ⟨form, ends, text⟩
    cases lexeme with
    | plain run =>
      obtain ⟨d, run, rfl⟩ := List.exists_cons_of_ne_nil form.1
      obtain ⟨rfl, -⟩ := List.cons.inj text
      rw [form.2 d List.mem_cons_self] at special
      cases special
    | marker name marker =>
      have marked := marker?_eq_some_iff.mpr ⟨name, marker, rfl, form, text⟩
      unfold Lexeme.nextSpecial
      rw [marked]
    | semicolon =>
      obtain ⟨rfl, rfl⟩ := List.cons.inj text
      unfold Lexeme.nextSpecial
      rw [marker?_cons_eq_none (by decide)]
      rfl
    | lone d =>
      simp only [Lexeme.text, List.singleton_append, List.cons.injEq] at text
      obtain ⟨rfl, rfl⟩ := text
      have unmarked : marker? (d :: after) = none := by
        by_cases letter : d = 'p'
        · subst letter
          exact ends.2.2.2 rfl
        · exact marker?_cons_eq_none letter after
      have unended : d ≠ ';' := by
        rcases form with rfl | rfl | rfl | rfl <;> decide
      unfold Lexeme.nextSpecial
      simp only [unmarked, unended, if_false]
      exact protected?_lone_of_endsBefore form ends
    | lineComment | blockComment | quoted | dollarQuoted =>
      exact nextSpecial_of_isProtected trivial form ends text

/-- Reading gives a lexeme and the text after it exactly if the lexeme has its form and ends
there. -/
theorem Lexeme.next_eq_ok_iff :
    Lexeme.next before c rest = .ok (lexeme, after) ↔
      lexeme.HasForm (opensEscapes before) ∧ lexeme.EndsBefore after ∧
        lexeme.text ++ after = c :: rest := by
  unfold Lexeme.next
  by_cases special : isSpecial c = true
  · rw [if_pos special]
    exact Lexeme.nextSpecial_eq_ok_iff special
  · rw [if_neg special]
    rw [Bool.not_eq_true] at special
    constructor
    · intro read
      simp only [Except.ok.injEq, Prod.mk.injEq] at read
      obtain ⟨rfl, rfl⟩ := read
      refine ⟨⟨List.cons_ne_nil _ _, fun d member => ?_⟩, fun d first => ?_, ?_⟩
      · rcases List.mem_cons.mp member with rfl | member
        · exact special
        · simpa using all_takeWhile _ rest d member
      · simpa using head?_dropWhile_eq_false _ rest d first
      · simp [Lexeme.text]
    · rintro ⟨form, ends, text⟩
      cases lexeme with
      | plain run =>
        obtain ⟨nonempty, plain⟩ := form
        obtain ⟨d, run, rfl⟩ := List.exists_cons_of_ne_nil nonempty
        obtain ⟨rfl, rfl⟩ := List.cons.inj text
        have inside : ∀ c ∈ run, (!isSpecial c) = true := by
          intro c member
          rw [plain c (List.mem_cons_of_mem d member)]
          rfl
        have outside : ∀ c ∈ after.head?, (!isSpecial c) = false := by
          intro c first
          rw [ends c first]
          rfl
        change Except.ok (Lexeme.plain (d :: (run ++ after).takeWhile fun d => !isSpecial d),
          (run ++ after).dropWhile fun d => !isSpecial d) = _
        rw [takeWhile_run inside outside, dropWhile_run inside outside]
      | marker name marker =>
        obtain ⟨left, right, rfl, -⟩ := form
        obtain ⟨rfl, -⟩ := List.cons.inj text
        cases special
      | semicolon =>
        obtain ⟨rfl, -⟩ := List.cons.inj text
        cases special
      | lone d =>
        obtain ⟨rfl, -⟩ := List.cons.inj text
        rcases form with rfl | rfl | rfl | rfl <;> cases special
      | lineComment | blockComment | quoted | dollarQuoted =>
        rw [isSpecial_of_isProtected (by exact trivial) form text] at special
        cases special

theorem Lexeme.HasForm.ne_nil {lexeme : Lexeme} {escapes : Bool} (form : lexeme.HasForm escapes) :
    lexeme.text ≠ [] := by
  cases lexeme with
  | plain text => exact form.1
  | marker name text => exact IsMarker.ne_nil form
  | semicolon | lone => exact List.cons_ne_nil _ _
  | lineComment | blockComment =>
    obtain ⟨body, rfl, -⟩ := form
    exact List.cons_ne_nil _ _
  | quoted =>
    rcases form with ⟨body, rfl, -⟩ | ⟨body, rfl, -⟩ <;> exact List.cons_ne_nil _ _
  | dollarQuoted =>
    obtain ⟨tag, body, rfl, isTag, -⟩ := form
    exact List.append_ne_nil_of_left_ne_nil isTag.ne_nil body

/-- A text has one first lexeme. -/
theorem Lexeme.eq_of_hasForm {behind first second : List Char} {one other : Lexeme}
    (form : one.HasForm (opensEscapes behind)) (ends : one.EndsBefore first)
    (otherForm : other.HasForm (opensEscapes behind)) (otherEnds : other.EndsBefore second)
    (same : one.text ++ first = other.text ++ second) : one = other := by
  obtain ⟨c, rest, text⟩ := List.exists_cons_of_ne_nil form.ne_nil
  rw [text, List.cons_append] at same
  have read : Lexeme.next behind c (rest ++ first) = .ok (one, first) := by
    rw [Lexeme.next_eq_ok_iff, text]
    exact ⟨form, ends, rfl⟩
  have again : Lexeme.next behind c (rest ++ first) = .ok (other, second) :=
    Lexeme.next_eq_ok_iff.mpr ⟨otherForm, otherEnds, same.symm⟩
  rw [read] at again
  cases again
  rfl

end QueryTyping.QueryFile
