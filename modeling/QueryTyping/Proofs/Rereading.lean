import QueryTyping.Proofs.Relocation

/-!
# Reading prepared SQL

SQL is read from its beginning: strings, quoted identifiers, comments and dollar
quotes are skipped as a whole, all other characters stand outside of them
(`Outside`).

The prepared text of a statement falls into the same pieces as the statement
(`outside_of_split`, `Outside.liesIn`), provided that no marker stands where
its placeholder would become part of a token (`SetApart`): behind a dollar sign and a
name, where a dollar quote would open, or before `e` and a string, which would lose
its escapes.
-/

namespace QueryTyping.QueryFile

open QueryTyping.Text

/-- The text behind does not end within a word, unless the line ends here. -/
def Between.Clear (between : Between) : Prop :=
  Neutral between.here.behind ∨ ∀ c ∈ between.here.ahead.head?, c = '\n'

section Clear

variable {between last : Between} {reading : Reading} {readings : List Reading} {stop : Cursor}

theorem clear_start (text : List Char) : (Between.start text).Clear := .inl neutral_nil

theorem Between.clear_skip {piece : Piece} {after : List Char} (form : piece.HasForm)
    (ends : piece.EndsBefore after) : (between.skip piece after).Clear := by
  have behind : (between.skip piece after).here.behind =
      piece.text.reverse ++ between.here.behind := Cursor.advance_behind _ _ _
  rw [Between.Clear, behind]
  cases piece with
  | blanks text =>
    obtain ⟨init, c, rfl⟩ := (List.eq_nil_or_concat' text).resolve_left form.1
    have blank : isBlank c = true := form.2 c (by simp)
    refine .inl ?_
    simpa [Piece.text] using neutral_of_isBlank blank (init.reverse ++ between.here.behind)
  | lineComment => exact .inr ends
  | blockComment =>
    obtain ⟨body, rfl, closes⟩ := form
    obtain ⟨init, rfl⟩ := closes.exists_slash
    refine .inl ?_
    simpa [Piece.text] using neutral_of_small (c := '/') (by decide)
      (init.reverse ++ ['*', '/'] ++ between.here.behind)
  | semicolon =>
    have listed : (0x3b, 0x3b) ∈ separators := by decide
    exact .inl (neutral_of_separator (c := ';') listed (by decide) _)

theorem Terminated.exists_init {lexemes : List Lexeme} {after : List Char}
    (terminated : Terminated lexemes after) (ended : .semicolon ∈ lexemes) :
    ∃ init, lexemes = init ++ [.semicolon] := by
  induction terminated with
  | atEnd => cases ended
  | semicolon => exact ⟨[], rfl⟩
  | @cons _ lexeme lexemes other _ ih =>
    rcases List.mem_cons.mp ended with same | later
    · exact absurd same.symm other
    · obtain ⟨init, rfl⟩ := ih later
      exact ⟨lexeme :: init, rfl⟩

theorem Between.Reads.clear_next (reads : between.Reads reading stop) :
    (between.next reading stop).Clear := by
  obtain ⟨-, -, terminated, stopped⟩ := lexed_of_statementLexemes reads.lexed
  by_cases ended : stop.ahead = []
  · refine .inr ?_
    rw [Between.next, ended]
    rintro c ⟨⟩
  · obtain ⟨init, lexemes⟩ := terminated.exists_init (terminated.semicolon_mem ended)
    have listed : (0x3b, 0x3b) ∈ separators := by decide
    have behind : stop.behind = ';' :: ((texts init).reverse ++ between.here.behind) := by
      rw [stopped, Cursor.advance_behind, lexemes]
      simp [Lexeme.text]
    refine .inl ?_
    rw [Between.next, behind]
    exact neutral_of_separator listed (by decide) _

theorem Between.Clear.neutral (clear : between.Clear) (opens : OpensStatement between.here.ahead) :
    Neutral between.here.behind := by
  refine clear.resolve_right fun newline => ?_
  obtain ⟨c, rest, ahead⟩ := List.exists_cons_of_ne_nil opens.nonempty
  rw [ahead] at newline
  have unblank := opens.unblank c (by rw [ahead]; rfl)
  rw [newline c rfl] at unblank
  cases unblank

/-- The lexemes of a statement that can be read: behind the text before it, which ends no word. -/
def IsStatement (lexemes : List Lexeme) : Prop :=
  ∃ behind after, Neutral behind ∧ OpensStatement (texts lexemes ++ after) ∧
    Lexed behind lexemes after

theorem Scans.statements (scans : Scans between readings last) (clear : between.Clear) :
    ∀ reading ∈ readings, IsStatement reading.lexemes ∧ Prepares reading.lexemes reading.query := by
  induction scans with
  | done => simp
  | gap form ends _ _ ih => exact ih (Between.clear_skip form ends)
  | @statement between _ reading _ stop opens reads _ ih =>
    refine List.forall_mem_cons.mpr ⟨⟨?_, reads.prepares⟩, ih reads.clear_next⟩
    obtain ⟨lexed, ahead, -, -⟩ := lexed_of_statementLexemes reads.lexed
    exact ⟨between.here.behind, stop.ahead, clear.neutral opens, ahead ▸ opens, lexed⟩

end Clear

/-- A string, a quoted identifier, a comment or a dollar quote begins the text. -/
def OpensToken (text : List Char) : Prop :=
  ['\''] <+: text ∨ ['"'] <+: text ∨ ['-', '-'] <+: text ∨ ['/', '*'] <+: text ∨
    ∃ tag, IsDollarTag tag ∧ tag <+: text

/-- Reading the SQL from its beginning comes to the place behind `before`, where `rest` is left,
outside of strings, quoted identifiers, dollar quotes and comments. -/
inductive Outside (sql : List Char) : List Char → List Char → Prop
  | start : Outside sql [] sql
  | token {before rest : List Char} {token : Lexeme} (isProtected : token.IsProtected)
    (form : token.HasForm (opensEscapes before.reverse)) (ends : token.EndsBefore rest)
    (outside : Outside sql before (token.text ++ rest)) : Outside sql (before ++ token.text) rest
  | char {before rest : List Char} {c : Char} (unopened : ¬ OpensToken (c :: rest))
    (outside : Outside sql before (c :: rest)) : Outside sql (before ++ [c]) rest

theorem Lexeme.HasForm.opensToken {token : Lexeme} {escapes : Bool}
    (form : token.HasForm escapes) (isProtected : token.IsProtected) (after : List Char) :
    OpensToken (token.text ++ after) := by
  cases token with
  | plain | marker | semicolon | lone => cases isProtected
  | lineComment =>
    obtain ⟨body, rfl, -⟩ := form
    exact .inr (.inr (.inl ⟨body ++ after, rfl⟩))
  | blockComment =>
    obtain ⟨body, rfl, -⟩ := form
    exact .inr (.inr (.inr (.inl ⟨body ++ after, rfl⟩)))
  | quoted =>
    rcases form with ⟨body, rfl, -⟩ | ⟨body, rfl, -⟩
    · exact .inl ⟨body ++ after, rfl⟩
    · exact .inr (.inl ⟨body ++ after, rfl⟩)
  | dollarQuoted =>
    obtain ⟨tag, body, rfl, isTag, -⟩ := form
    exact .inr (.inr (.inr (.inr ⟨tag, isTag, ⟨body ++ after, by simp [Lexeme.text]⟩⟩)))

theorem opensToken_cons_iff {c : Char} {rest : List Char} :
    OpensToken (c :: rest) ↔
      c = '\'' ∨ c = '"' ∨ (c = '-' ∧ rest.head? = some '-') ∨ (c = '/' ∧ rest.head? = some '*') ∨
        (c = '$' ∧ ∃ name more, IsDollarTag ('$' :: name ++ ['$']) ∧
          rest = name ++ '$' :: more) := by
  have second (d : Char) : [d] <+: rest ↔ rest.head? = some d := by
    cases rest with
    | nil => simp
    | cons e rest => simp [eq_comm]
  have dollar : (∃ tag, IsDollarTag tag ∧ tag <+: c :: rest) ↔
      c = '$' ∧ ∃ name more, IsDollarTag ('$' :: name ++ ['$']) ∧ rest = name ++ '$' :: more := by
    constructor
    · rintro ⟨_, ⟨name, rfl, tag⟩, ⟨more, same⟩⟩
      obtain ⟨rfl, rest⟩ := List.cons.inj same
      exact ⟨rfl, name, more, ⟨name, rfl, tag⟩, by simpa using rest.symm⟩
    · rintro ⟨rfl, name, more, isTag, rfl⟩
      exact ⟨_, isTag, ⟨more, by simp⟩⟩
  rw [OpensToken, dollar]
  simp only [List.cons_prefix_cons, List.nil_prefix, and_true, second, eq_comm]

/-- A character that opens nothing begins no token. -/
theorem not_opensToken_of_unspecial {c : Char} (unspecial : isSpecial c = false)
    (rest : List Char) : ¬ OpensToken (c :: rest) := by
  rw [opensToken_cons_iff]
  rintro (rfl | rfl | ⟨rfl, -⟩ | ⟨rfl, -⟩ | ⟨rfl, -⟩) <;> cases unspecial

/-- A dollar sign before a digit begins no dollar quote. -/
theorem not_opensToken_of_digit {c : Char} (digit : c.isDigit = true) (rest : List Char) :
    ¬ OpensToken ('$' :: c :: rest) := by
  rw [opensToken_cons_iff]
  rintro (same | same | ⟨same, -⟩ | ⟨same, -⟩ | ⟨-, name, more, ⟨_, tag, -, undigited⟩, cut⟩)
  iterate 4 cases same
  obtain rfl := List.append_cancel_right (List.cons.inj tag).2
  cases name with
  | nil =>
    cases cut
    cases digit
  | cons d name =>
    obtain ⟨rfl, -⟩ := List.cons.inj cut
    rw [undigited c rfl] at digit
    cases digit

/-- Characters that begin no token are passed one after the other. -/
theorem Outside.chars {sql before run rest : List Char} (outside : Outside sql before (run ++ rest))
    (unopened : ∀ first c more, run = first ++ c :: more → ¬ OpensToken (c :: (more ++ rest))) :
    Outside sql (before ++ run) rest := by
  induction run generalizing before with
  | nil => rwa [List.append_nil]
  | cons c run ih =>
    have passed := Outside.char (unopened [] c run rfl) outside
    have others := ih passed fun first d more same =>
      unopened (c :: first) d more (by rw [same]; rfl)
    rwa [List.append_assoc] at others

theorem Outside.append_eq {sql before rest : List Char} (outside : Outside sql before rest) :
    before ++ rest = sql := by
  induction outside with
  | start => rfl
  | token _ _ _ _ ih => rw [List.append_assoc, ih]
  | char _ _ ih => rw [List.append_assoc, List.singleton_append, ih]

theorem OpensToken.append {text : List Char} (opens : OpensToken text) (more : List Char) :
    OpensToken (text ++ more) := by
  have longer {start : List Char} (begins : start <+: text) : start <+: text ++ more :=
    begins.trans (List.prefix_append text more)
  rcases opens with quote | quote | dashes | slash | ⟨tag, isTag, dollar⟩
  · exact .inl (longer quote)
  · exact .inr (.inl (longer quote))
  · exact .inr (.inr (.inl (longer dashes)))
  · exact .inr (.inr (.inr (.inl (longer slash))))
  · exact .inr (.inr (.inr (.inr ⟨tag, isTag, longer dollar⟩)))

theorem not_opensToken_append {c : Char} {rest more : List Char} (continues : rest ≠ [])
    (unopened : ¬ OpensToken (c :: rest)) (undollared : '$' ∉ more) :
    ¬ OpensToken (c :: (rest ++ more)) := by
  rw [opensToken_cons_iff] at unopened ⊢
  rw [List.head?_append_of_ne_nil _ continues]
  rintro (same | same | same | same | ⟨rfl, name, others, isTag, cut⟩)
  · exact unopened (.inl same)
  · exact unopened (.inr (.inl same))
  · exact unopened (.inr (.inr (.inl same)))
  · exact unopened (.inr (.inr (.inr (.inl same))))
  · rcases List.append_eq_append_iff.mp cut with ⟨tail, -, same⟩ | ⟨tail, rfl, same⟩
    · exact undollared (same ▸ List.mem_append_right _ List.mem_cons_self)
    · cases tail with
      | nil =>
        have written : '$' :: others = more := same
        exact undollared (written ▸ List.mem_cons_self)
      | cons d tail =>
        obtain ⟨rfl, -⟩ := List.cons.inj same
        exact unopened (.inr (.inr (.inr (.inr ⟨rfl, name, tail, isTag, rfl⟩))))

theorem Lexeme.IsProtected.endsBefore_append_iff {token : Lexeme} (isProtected : token.IsProtected)
    {rest : List Char} (continues : rest ≠ []) (more : List Char) :
    token.EndsBefore (rest ++ more) ↔ token.EndsBefore rest := by
  cases token with
  | plain | marker | semicolon | lone => cases isProtected
  | lineComment | quoted =>
    simp only [Lexeme.EndsBefore, List.head?_append_of_ne_nil _ continues]
  | blockComment | dollarQuoted => exact Iff.rfl

/-- Places within a text do not hang on what follows it, unless a dollar sign does. -/
theorem outside_append_iff {sql front rest more : List Char} (continues : rest ≠ [])
    (undollared : '$' ∉ more) :
    Outside (sql ++ more) front (rest ++ more) ↔ Outside sql front rest := by
  constructor
  · intro outside
    generalize whole : rest ++ more = ahead at outside
    induction outside generalizing rest with
    | start =>
      obtain rfl := List.append_cancel_right whole
      exact .start
    | @token front ahead token isProtected form ends outside ih =>
      subst whole
      have before := ih (List.append_ne_nil_of_right_ne_nil _ continues)
        (List.append_assoc token.text rest more)
      exact .token isProtected form ((isProtected.endsBefore_append_iff continues more).mp ends)
        before
    | @char front ahead c unopened outside ih =>
      subst whole
      exact .char (fun opens => unopened (opens.append more)) (ih (List.cons_ne_nil c rest) rfl)
  · intro outside
    induction outside with
    | start => exact .start
    | @token front rest token isProtected form ends outside ih =>
      have before := ih (List.append_ne_nil_of_right_ne_nil _ continues)
      rw [List.append_assoc] at before
      exact .token isProtected form ((isProtected.endsBefore_append_iff continues more).mpr ends)
        before
    | @char front rest c unopened outside ih =>
      exact .char (not_opensToken_append continues unopened undollared)
        (ih (List.cons_ne_nil c rest))

/-- The digits of a placeholder. -/
def placeholderDigits (params : List (List Char)) (name : List Char) : List Char :=
  Nat.toDigits 10 (params.idxOf name + 1)

theorem placeholder_eq (params : List (List Char)) (name : List Char) :
    placeholder params name = '$' :: placeholderDigits params name := by
  rw [placeholder, Nat.toString_eq_ofList_toDigits, String.toList_ofList, placeholderDigits]

theorem placeholderDigits_ne_nil (params : List (List Char)) (name : List Char) :
    placeholderDigits params name ≠ [] :=
  Nat.toDigits_ne_nil

theorem isDigit_placeholderDigits (params : List (List Char)) (name : List Char) :
    ∀ c ∈ placeholderDigits params name, c.isDigit = true :=
  fun _ member => Nat.isDigit_of_mem_toDigits (by decide) (by decide) member

theorem Lexeme.HasForm.prepared_ne_nil {lexeme : Lexeme} {escapes : Bool}
    (form : lexeme.HasForm escapes) (params : List (List Char)) : lexeme.prepared params ≠ [] := by
  rcases lexeme.marker_or_unmarked with ⟨name, text, rfl⟩ | unmarked
  · exact List.cons_ne_nil _ _
  · rw [Lexeme.prepared_eq_text unmarked]
    exact form.ne_nil

/-- No marker stands where its placeholder would become part of a token. -/
structure SetApart (lexemes : List Lexeme) : Prop where
  /-- Not behind a dollar sign and a name, where `$name$` would open a dollar quote. -/
  dollar : ∀ before between name text later,
    lexemes = before ++ .lone '$' :: (between ++ .marker name text :: later) →
      ¬ IsDollarTag ('$' :: texts between ++ ['$'])
  /-- Not before an `e` and a string: behind a digit the string would have no escapes. -/
  escape : ∀ before name text c body later,
    lexemes = before ++ .marker name text :: .plain [c] :: .quoted ('\'' :: body) :: later →
      c ≠ 'e' ∧ c ≠ 'E'

section Sync

variable {params : List (List Char)} {behind after : List Char} {lexemes before later : List Lexeme}
  {lexeme : Lexeme}

/-- Prepared text begins as the statement does, or with the placeholder of a marker. -/
theorem head?_preparedTexts (lexed : Lexed behind later after) {c : Char}
    (first : c ∈ (preparedTexts params later).head?) :
    (texts later ++ after).head? = some c ∨ (texts later ++ after).head? = some 'p' ∧ c = '$' := by
  cases lexed with
  | nil => cases first
  | @cons _ _ lexeme later form ends others =>
    rw [preparedTexts_cons] at first
    rw [texts_cons, List.append_assoc, List.head?_append_of_ne_nil _ form.ne_nil]
    rcases lexeme.marker_or_unmarked with ⟨name, text, rfl⟩ | unmarked
    · obtain ⟨left, right, rfl, -⟩ := form
      cases first
      exact .inr ⟨rfl, rfl⟩
    · rw [Lexeme.prepared_eq_text unmarked, List.head?_append_of_ne_nil _ form.ne_nil] at first
      exact .inl first

/-- A protected token ends where it ended in the statement. -/
theorem Lexeme.IsProtected.endsBefore_prepared (isProtected : lexeme.IsProtected) {escapes : Bool}
    (form : lexeme.HasForm escapes) (ends : lexeme.EndsBefore (texts later ++ after))
    (lexed : Lexed behind later after) : lexeme.EndsBefore (preparedTexts params later) := by
  cases lexeme with
  | plain | marker | semicolon | lone => cases isProtected
  | blockComment | dollarQuoted => trivial
  | lineComment =>
    intro c first
    rcases head?_preparedTexts lexed first with same | ⟨marked, rfl⟩
    · exact ends c same
    · cases ends 'p' marked
  | quoted text =>
    intro same
    have quote : text.head? = some '\'' ∨ text.head? = some '"' := by
      rcases form with ⟨body, rfl, -⟩ | ⟨body, rfl, -⟩
      · exact .inl rfl
      · exact .inr rfl
    obtain ⟨c, opener⟩ : ∃ c, text.head? = some c := quote.elim (fun h => ⟨_, h⟩) fun h => ⟨_, h⟩
    rcases head?_preparedTexts lexed (same.trans opener) with unchanged | ⟨-, rfl⟩
    · exact ends (unchanged.trans opener.symm)
    · rcases quote with quote | quote <;> simp [quote] at opener

theorem opensEscapes_cons_congr {c : Char} {one other : List Char}
    (same : one.head? = other.head?) : opensEscapes (c :: one) = opensEscapes (c :: other) := by
  cases one with
  | nil =>
    cases other with
    | nil => rfl
    | cons => cases same
  | cons d one =>
    cases other with
    | nil => cases same
    | cons e other =>
      cases same
      rfl

theorem opensEscapes_of_ne {c : Char} (small : c ≠ 'e') (capital : c ≠ 'E') (before : List Char) :
    opensEscapes (c :: before) = false := by
  simp [opensEscapes, small, capital]

theorem Lexed.exists_form (lexed : Lexed behind lexemes after) (member : lexeme ∈ lexemes) :
    ∃ escapes, lexeme.HasForm escapes := by
  induction lexed with
  | nil => cases member
  | cons form _ _ ih =>
    rcases List.mem_cons.mp member with rfl | later
    · exact ⟨_, form⟩
    · exact ih later

/-- Only plain text begins with a character that opens nothing. -/
theorem Lexeme.HasForm.exists_plain {escapes : Bool} {c : Char} {rest : List Char}
    (form : lexeme.HasForm escapes) (unspecial : isSpecial c = false)
    (first : lexeme.text ++ after = c :: rest) : ∃ text, lexeme = .plain text := by
  cases lexeme with
  | plain text => exact ⟨text, rfl⟩
  | marker =>
    obtain ⟨left, right, rfl, -⟩ := form
    obtain ⟨rfl, -⟩ := List.cons.inj first
    cases unspecial
  | semicolon =>
    obtain ⟨rfl, -⟩ := List.cons.inj first
    cases unspecial
  | lone d =>
    obtain ⟨rfl, -⟩ := List.cons.inj first
    rcases form with rfl | rfl | rfl | rfl <;> cases unspecial
  | lineComment | blockComment | quoted | dollarQuoted =>
    have opener := Lexeme.opener_of_isProtected (by exact trivial) form first
    rcases opener with rfl | rfl | rfl | rfl | rfl <;> cases unspecial

/-- The last character of what comes before is that of the statement, but behind a marker. -/
theorem head?_reverse_prepared {init : List Lexeme} (lexed : Lexed behind (init ++ [lexeme]) after)
    (unmarked : lexeme.parameter? = none) :
    (preparedTexts params (init ++ [lexeme])).reverse.head? =
      ((texts (init ++ [lexeme])).reverse ++ behind).head? := by
  obtain ⟨escapes, form⟩ := lexed.exists_form (List.mem_append_right _ (List.mem_singleton_self _))
  have nonempty : lexeme.text.reverse ≠ [] := by simpa using form.ne_nil
  simp only [preparedTexts_append, preparedTexts_cons, preparedTexts_nil, List.append_nil,
    Lexeme.prepared_eq_text unmarked, texts_append, texts_cons, texts_nil, List.reverse_append,
    List.append_assoc, List.head?_append_of_ne_nil _ nonempty]

/-- A marker ends with a parenthesis. -/
theorem opensEscapes_marker {init : List Lexeme} {name text : List Char}
    (isMarker : IsMarker name text) (behind : List Char) :
    opensEscapes ((texts (init ++ [.marker name text])).reverse ++ behind) = false := by
  obtain ⟨left, right, rfl, -⟩ := isMarker
  have parenthesis := opensEscapes_of_ne (c := ')') (by decide) (by decide)
    ((markerOpening ++ left ++ ['\''] ++ name ++ ['\''] ++ right).reverse ++
      ((texts init).reverse ++ behind))
  simpa [Lexeme.text] using parenthesis

/-- A placeholder ends with a digit. -/
theorem opensEscapes_placeholder (init : List Lexeme) (name text : List Char) :
    opensEscapes (preparedTexts params (init ++ [.marker name text])).reverse = false := by
  obtain ⟨digits, d, ending⟩ :=
    (List.eq_nil_or_concat' (placeholderDigits params name)).resolve_left
      (placeholderDigits_ne_nil params name)
  have digit : d.isDigit = true := isDigit_placeholderDigits params name d (by simp [ending])
  have wordless (c : Char) (undigited : c.isDigit = false) : d ≠ c := by
    rintro rfl
    rw [digit] at undigited
    cases undigited
  have behindDigit := opensEscapes_of_ne (wordless 'e' rfl) (wordless 'E' rfl)
    (digits.reverse ++ '$' :: (preparedTexts params init).reverse)
  simpa [Lexeme.prepared, placeholder_eq, ending] using behindDigit

/-- A string has escapes in the prepared text if it has them in the statement. -/
theorem opensEscapes_prepared {body : List Char} (neutral : Neutral behind)
    (lexed : Lexed behind before after)
    (apart : SetApart (before ++ .quoted ('\'' :: body) :: later)) :
    opensEscapes (preparedTexts params before).reverse =
      opensEscapes ((texts before).reverse ++ behind) := by
  rcases List.eq_nil_or_concat' before with rfl | ⟨init, last, rfl⟩
  · exact opensEscapes_of_neutral neutral_nil neutral []
  · obtain ⟨escapes, form⟩ :=
      lexed.exists_form (List.mem_append_right _ (List.mem_singleton_self last))
    rcases last.marker_or_unmarked with ⟨name, text, rfl⟩ | unmarked
    · rw [opensEscapes_placeholder, opensEscapes_marker form]
    · obtain ⟨start, c, text⟩ := (List.eq_nil_or_concat' last.text).resolve_left form.ne_nil
      have reversed : (preparedTexts params (init ++ [last])).reverse =
          c :: (start.reverse ++ (preparedTexts params init).reverse) := by
        simp [Lexeme.prepared_eq_text unmarked, text]
      have reversedTexts : (texts (init ++ [last])).reverse ++ behind =
          c :: (start.reverse ++ ((texts init).reverse ++ behind)) := by
        simp [text]
      rw [reversed, reversedTexts]
      by_cases other : c ≠ 'e' ∧ c ≠ 'E'
      · rw [opensEscapes_of_ne other.1 other.2, opensEscapes_of_ne other.1 other.2]
      · have escaping : c = 'e' ∨ c = 'E' := by tauto
        rcases List.eq_nil_or_concat' start with rfl | ⟨start, d, rfl⟩
        · -- An `e` by itself: the character before it is looked at too.
          have unspecial : isSpecial c = false := by rcases escaping with rfl | rfl <;> rfl
          obtain ⟨_, rfl⟩ := form.exists_plain unspecial ((List.append_nil _).trans text)
          obtain rfl : _ = [c] := text
          rcases List.eq_nil_or_concat' init with rfl | ⟨init, previous, rfl⟩
          · exact opensEscapes_of_neutral neutral_nil neutral [c]
          · refine opensEscapes_cons_congr ?_
            rcases previous.marker_or_unmarked with ⟨name, marker, rfl⟩ | unmarkedBefore
            · have apart := apart.escape init name marker c body later (by simp)
              exact absurd apart other
            · exact head?_reverse_prepared (lexed_append_iff.mp lexed).1 unmarkedBefore
        · refine opensEscapes_cons_congr ?_
          simp

/-- A dollar sign that prepared text has behind a name is one of the statement, or that of a
placeholder. -/
theorem exists_dollar_of_prepared {name rest : List Char} (tagged : ∀ c ∈ name, isTagChar c = true)
    (prepared : preparedTexts params later = name ++ '$' :: rest) :
    (∃ more, texts later = name ++ '$' :: more) ∨
      ∃ between marked text others, later = between ++ .marker marked text :: others ∧
        texts between = name := by
  induction later generalizing name with
  | nil => simp at prepared
  | cons lexeme later ih =>
    rw [preparedTexts_cons] at prepared
    rcases lexeme.marker_or_unmarked with ⟨marked, text, rfl⟩ | unmarked
    · cases name with
      | nil => exact .inr ⟨[], marked, text, later, rfl, rfl⟩
      | cons c name =>
        obtain ⟨rfl, -⟩ := List.cons.inj prepared
        cases tagged '$' List.mem_cons_self
    · rw [Lexeme.prepared_eq_text unmarked] at prepared
      have inside : ∀ more, name = lexeme.text ++ more →
          preparedTexts params later = more ++ '$' :: rest →
          (∃ more, texts (lexeme :: later) = name ++ '$' :: more) ∨
            ∃ between marked text others,
              lexeme :: later = between ++ .marker marked text :: others ∧
                texts between = name := by
        rintro more rfl cut
        rcases ih (fun c member => tagged c (List.mem_append_right _ member)) cut with
          ⟨others, same⟩ | ⟨between, marked, text, others, rfl, rfl⟩
        · exact .inl ⟨others, by rw [texts_cons, same, List.append_assoc]⟩
        · exact .inr ⟨lexeme :: between, marked, text, others, rfl, rfl⟩
      rcases List.append_eq_append_iff.mp prepared with ⟨more, same, cut⟩ | ⟨more, same, cut⟩
      · exact inside more same cut
      · cases more with
        | nil => exact inside [] (by simpa using same.symm) cut.symm
        | cons d more =>
          obtain ⟨rfl, -⟩ := List.cons.inj cut
          exact .inl ⟨more ++ texts later, by rw [texts_cons, same]; simp⟩

theorem isSpecial_of_isDigit {c : Char} (digit : c.isDigit = true) : isSpecial c = false := by
  rw [Bool.eq_false_iff]
  intro special
  simp only [isSpecial, Bool.or_eq_true, decide_eq_true_eq] at special
  rcases special with (((((rfl | rfl) | rfl) | rfl) | rfl) | rfl) | rfl <;> cases digit

theorem eq_of_singleton {c d : Char} {run more : List Char} (same : [c] = run ++ d :: more) :
    run = [] ∧ c = d ∧ [] = more := by
  cases run with
  | nil =>
    cases same
    exact ⟨rfl, rfl, rfl⟩
  | cons e run => simp at same

/-- Outside of protected tokens nothing opens one in the prepared text either. -/
theorem not_opensToken_prepared {run more : List Char} {c : Char} {escapes : Bool}
    (form : lexeme.HasForm escapes) (ends : lexeme.EndsBefore (texts later ++ after))
    (lexed : Lexed behind later after) (apart : SetApart (before ++ lexeme :: later))
    (unprotected : ¬ lexeme.IsProtected) (prepared : lexeme.prepared params = run ++ c :: more) :
    ¬ OpensToken (c :: (more ++ preparedTexts params later)) := by
  cases lexeme with
  | lineComment | blockComment | quoted | dollarQuoted => exact absurd trivial unprotected
  | plain text =>
    have same : text = run ++ c :: more := prepared
    exact not_opensToken_of_unspecial (form.2 c (by simp [same])) _
  | semicolon =>
    obtain ⟨rfl, rfl, rfl⟩ : run = [] ∧ ';' = c ∧ [] = more := eq_of_singleton prepared
    rw [opensToken_cons_iff]
    simp
  | marker name text =>
    rw [Lexeme.prepared, placeholder_eq] at prepared
    have decimal := isDigit_placeholderDigits params name
    cases run with
    | nil =>
      obtain ⟨rfl, rfl⟩ := List.cons.inj prepared
      obtain ⟨d, digits, same⟩ := List.exists_cons_of_ne_nil (placeholderDigits_ne_nil params name)
      rw [same] at decimal ⊢
      exact not_opensToken_of_digit (decimal d List.mem_cons_self) _
    | cons d run =>
      have same := (List.cons.inj prepared).2
      have digit := decimal c (by simp [same])
      exact not_opensToken_of_unspecial (isSpecial_of_isDigit digit) _
  | lone d =>
    obtain ⟨rfl, rfl, rfl⟩ : run = [] ∧ d = c ∧ [] = more := eq_of_singleton prepared
    obtain ⟨untagged, unstarred, undashed, -⟩ := ends
    rw [opensToken_cons_iff, List.nil_append]
    have unchanged {c : Char} (undollared : c ≠ '$')
        (first : (preparedTexts params later).head? = some c) :
        (texts later ++ after).head? = some c := by
      rcases head?_preparedTexts lexed first with same | ⟨-, dollar⟩
      · exact same
      · exact absurd dollar undollared
    rintro (rfl | rfl | ⟨rfl, dash⟩ | ⟨rfl, star⟩ | ⟨rfl, name, rest, isTag, cut⟩)
    · rcases form with same | same | same | same <;> cases same
    · rcases form with same | same | same | same <;> cases same
    · exact undashed rfl (unchanged (by decide) dash)
    · exact unstarred rfl (unchanged (by decide) star)
    · obtain ⟨_, same, tagged, -⟩ := id isTag
      obtain rfl := List.append_cancel_right (List.cons.inj same).2
      rcases exists_dollar_of_prepared tagged cut with
        ⟨others, written⟩ | ⟨between, marked, text, others, rfl, rfl⟩
      · have found : dollarTag (texts later ++ after) =
            some ('$' :: name ++ ['$'], others ++ after) :=
          dollarTag_eq_some_iff.mpr ⟨isTag, by simp [written]⟩
        rw [untagged rfl] at found
        cases found
      · exact apart.dollar before between marked text others rfl isTag

/-- A protected token keeps its form and its end in the prepared text. -/
theorem hasForm_prepared (neutral : Neutral behind)
    (lexed : Lexed behind (before ++ lexeme :: later) after)
    (apart : SetApart (before ++ lexeme :: later)) (isProtected : lexeme.IsProtected) :
    lexeme.HasForm (opensEscapes (preparedTexts params before).reverse) ∧
      lexeme.EndsBefore (preparedTexts params later) := by
  obtain ⟨lexedBefore, rest⟩ := lexed_append_iff.mp lexed
  cases rest with
  | cons form ends others =>
    refine ⟨form.congr fun quote => ?_, isProtected.endsBefore_prepared form ends others⟩
    obtain ⟨body, text⟩ := List.head?_eq_some_iff.mp quote
    have string : lexeme = .quoted ('\'' :: body) := by
      cases lexeme with
      | plain | marker | semicolon | lone => cases isProtected
      | quoted => exact congrArg Lexeme.quoted text
      | lineComment | blockComment =>
        obtain ⟨_, rfl, -⟩ := form
        cases (List.cons.inj text).1
      | dollarQuoted =>
        obtain ⟨_, _, rfl, ⟨_, rfl, -⟩, -⟩ := form
        cases (List.cons.inj text).1
    subst string
    exact (opensEscapes_prepared neutral lexedBefore apart).symm

/-- Reading the prepared text comes to the beginning of each lexeme. -/
theorem outside_of_split (neutral : Neutral behind) (lexed : Lexed behind (before ++ later) after)
    (apart : SetApart (before ++ later)) :
    Outside (preparedTexts params (before ++ later)) (preparedTexts params before)
      (preparedTexts params later) := by
  induction before using List.reverseRecOn generalizing later with
  | nil => exact .start
  | append_singleton init last ih =>
    rw [List.append_assoc, List.singleton_append] at lexed apart ⊢
    have outside := ih lexed apart
    rw [preparedTexts_cons] at outside
    obtain ⟨-, rest⟩ := lexed_append_iff.mp lexed
    have whole : preparedTexts params (init ++ [last]) =
        preparedTexts params init ++ last.prepared params := by simp
    rw [whole]
    by_cases isProtected : last.IsProtected
    · obtain ⟨form, ends⟩ := hasForm_prepared neutral lexed apart isProtected
      rw [Lexeme.prepared_eq_text isProtected.unmarked] at outside ⊢
      exact .token isProtected form ends outside
    · cases rest with
      | cons form ends others =>
        exact outside.chars fun _ _ _ same =>
          not_opensToken_prepared form ends others apart isProtected same

/-- The place behind `front` lies in the prepared text of a lexeme, and at its beginning if it is
protected. -/
def LiesIn (params : List (List Char)) (lexemes : List Lexeme) (front rest : List Char) : Prop :=
  ∃ before lexeme later run more, lexemes = before ++ lexeme :: later ∧
    lexeme.prepared params = run ++ more ∧ more ≠ [] ∧
    front = preparedTexts params before ++ run ∧ rest = more ++ preparedTexts params later ∧
    (lexeme.IsProtected → run = [])

theorem Lexed.liesIn (lexed : Lexed behind (before ++ later) after)
    (continues : preparedTexts params later ≠ []) :
    LiesIn params (before ++ later) (preparedTexts params before) (preparedTexts params later) := by
  cases later with
  | nil => exact absurd rfl continues
  | cons lexeme later =>
    obtain ⟨_, form⟩ := lexed.exists_form (List.mem_append_right _ List.mem_cons_self)
    exact ⟨before, lexeme, later, [], lexeme.prepared params, rfl, rfl, form.prepared_ne_nil params,
      (List.append_nil _).symm, rfl, fun _ => rfl⟩

/-- Where a protected token can be read, the statement has it. -/
theorem LiesIn.pass_token {front rest : List Char} {token : Lexeme} (neutral : Neutral behind)
    (lexed : Lexed behind lexemes after) (apart : SetApart lexemes)
    (lies : LiesIn params lexemes front (token.text ++ rest)) (isProtected : token.IsProtected)
    (form : token.HasForm (opensEscapes front.reverse)) (ends : token.EndsBefore rest)
    (continues : rest ≠ []) : LiesIn params lexemes (front ++ token.text) rest := by
  obtain ⟨before, lexeme, later, run, more, rfl, prepared, nonempty, rfl, cut, atStart⟩ := lies
  obtain ⟨-, others⟩ := lexed_append_iff.mp lexed
  by_cases other : lexeme.IsProtected
  · obtain rfl := atStart other
    obtain ⟨lexemeForm, lexemeEnds⟩ :
        lexeme.HasForm (opensEscapes (preparedTexts params before).reverse) ∧
          lexeme.EndsBefore (preparedTexts params later) :=
      hasForm_prepared neutral lexed apart other
    rw [List.append_nil] at form
    rw [Lexeme.prepared_eq_text other.unmarked, List.nil_append] at prepared
    subst prepared
    obtain rfl := Lexeme.eq_of_hasForm form ends lexemeForm lexemeEnds cut
    obtain rfl := List.append_cancel_left cut
    rw [List.append_cons] at lexed ⊢
    have next := lexed.liesIn continues
    simpa [Lexeme.prepared_eq_text other.unmarked] using next
  · -- No other lexeme has a place where a token opens.
    obtain ⟨c, more, rfl⟩ := List.exists_cons_of_ne_nil nonempty
    cases others with
    | cons lexemeForm lexemeEnds lexedLater =>
      have opens := form.opensToken isProtected rest
      rw [cut] at opens
      exact absurd opens
        (not_opensToken_prepared lexemeForm lexemeEnds lexedLater apart other prepared)

theorem LiesIn.pass_char {front rest : List Char} {c : Char} (lexed : Lexed behind lexemes after)
    (lies : LiesIn params lexemes front (c :: rest)) (unopened : ¬ OpensToken (c :: rest))
    (continues : rest ≠ []) : LiesIn params lexemes (front ++ [c]) rest := by
  obtain ⟨before, lexeme, later, run, more, rfl, prepared, nonempty, rfl, cut, atStart⟩ := lies
  obtain ⟨-, others⟩ := lexed_append_iff.mp lexed
  have other : ¬ lexeme.IsProtected := by
    intro isProtected
    obtain rfl := atStart isProtected
    rw [Lexeme.prepared_eq_text isProtected.unmarked, List.nil_append] at prepared
    cases others with
    | cons lexemeForm _ _ =>
      rw [cut, ← prepared] at unopened
      exact unopened (lexemeForm.opensToken isProtected _)
  obtain ⟨d, more, rfl⟩ := List.exists_cons_of_ne_nil nonempty
  obtain ⟨rfl, rfl⟩ := List.cons.inj cut
  by_cases last : more = []
  · subst last
    rw [List.append_cons] at lexed ⊢
    have next := lexed.liesIn continues
    simpa [prepared] using next
  · exact ⟨before, lexeme, later, run ++ [c], more, rfl, by simp [prepared], last, by simp, rfl,
      fun isProtected => absurd isProtected other⟩

/-- Reading the prepared text comes to no place within a protected token. -/
theorem Outside.liesIn (neutral : Neutral behind) (lexed : Lexed behind lexemes after)
    (apart : SetApart lexemes) {front rest : List Char}
    (outside : Outside (preparedTexts params lexemes) front rest) (continues : rest ≠ []) :
    LiesIn params lexemes front rest := by
  induction outside with
  | start => exact @Lexed.liesIn _ _ _ [] _ lexed continues
  | @token front rest token isProtected form ends outside ih =>
    have lies := ih (List.append_ne_nil_of_left_ne_nil form.ne_nil rest)
    exact lies.pass_token neutral lexed apart isProtected form ends continues
  | @char front rest c unopened outside ih =>
    exact (ih (List.cons_ne_nil c rest)).pass_char lexed unopened continues

end Sync

end QueryTyping.QueryFile
