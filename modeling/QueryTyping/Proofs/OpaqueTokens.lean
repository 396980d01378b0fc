import QueryTyping.Proofs.Lockstep

/-!
# Strings and comments are opaque

Nothing that stands in a string, a quoted identifier, a dollar quote or a comment of
a statement reaches the rest of its file.  With another token of the same kind in its
place the text is read as before: the same queries, whose SQL has the one token in
place of the other (`parseText_replace`).

Up to the token both texts are read in lockstep, since both tokens begin with the
same character.  Behind it the same text stands, and what is left of the token for a
quote to look back at is its last character, which is never part of a word.
-/

namespace QueryTyping.QueryFile

open QueryTyping.Text

/-- Tokens of one kind.  Strings and quoted identifiers differ in their quote; whether a string
has escapes hangs on the text before it, which tokens in one place share. -/
def Lexeme.SameKind : Lexeme → Lexeme → Prop
  | .lineComment _, .lineComment _ => True
  | .blockComment _, .blockComment _ => True
  | .quoted text, .quoted other => text.head? = other.head?
  | .dollarQuoted _, .dollarQuoted _ => True
  | _, _ => False

section Tokens

variable {token other : Lexeme} {escapes otherEscapes : Bool} {behind after : List Char}

theorem Lexeme.SameKind.isProtected (kind : token.SameKind other) : token.IsProtected := by
  cases token with
  | plain | marker | semicolon | lone => cases kind
  | lineComment | blockComment | quoted | dollarQuoted => trivial

theorem Lexeme.SameKind.symm (kind : token.SameKind other) : other.SameKind token := by
  cases token <;> cases other <;> first | exact kind | exact Eq.symm kind

/-- Tokens of one kind begin with the same character. -/
theorem Lexeme.SameKind.head?_text (kind : token.SameKind other) (form : token.HasForm escapes)
    (otherForm : other.HasForm otherEscapes) : token.text.head? = other.text.head? := by
  cases token <;> cases other <;> try exact kind.elim
  · obtain ⟨_, rfl, -⟩ := form
    obtain ⟨_, rfl, -⟩ := otherForm
    rfl
  · obtain ⟨_, rfl, -⟩ := form
    obtain ⟨_, rfl, -⟩ := otherForm
    rfl
  · exact kind
  · obtain ⟨_, _, rfl, ⟨_, rfl, -⟩, -⟩ := form
    obtain ⟨_, _, rfl, ⟨_, rfl, -⟩, -⟩ := otherForm
    rfl

/-- A protected token begins with one of these characters. -/
theorem Lexeme.HasForm.exists_opener (form : token.HasForm escapes)
    (isProtected : token.IsProtected) :
    ∃ c rest, token.text = c :: rest ∧ c ∈ ['-', '/', '\'', '"', '$'] := by
  obtain ⟨c, rest, text⟩ := List.exists_cons_of_ne_nil form.ne_nil
  refine ⟨c, rest, text, ?_⟩
  have opener := Lexeme.opener_of_isProtected isProtected form
    ((List.append_nil token.text).trans text)
  simpa using opener

theorem Lexeme.SameKind.sameStart (kind : token.SameKind other) (form : token.HasForm escapes)
    (otherForm : other.HasForm otherEscapes) (after : List Char) :
    SameStart (token.text ++ after) (other.text ++ after) := by
  obtain ⟨c, rest, text, opener⟩ := form.exists_opener kind.isProtected
  have first := kind.head?_text form otherForm
  rw [text] at first
  obtain ⟨others, otherText⟩ := List.head?_eq_some_iff.mp first.symm
  refine .inr ⟨c, rest ++ after, others ++ after, by rw [text]; rfl, by rw [otherText]; rfl, ?_⟩
  have untagged : ∀ c ∈ ['-', '/', '\'', '"', '$'], isTagChar c = false := by simp [isTagChar]
  exact untagged c opener

/-- A protected token other than a line comment ends with one of these characters. -/
theorem Lexeme.HasForm.exists_closer (form : token.HasForm escapes)
    (isProtected : token.IsProtected) (open_ : ∀ text, token ≠ .lineComment text) :
    ∃ init c, token.text = init ++ [c] ∧ c ∈ ['/', '\'', '"', '$'] := by
  cases token with
  | plain | marker | semicolon | lone => cases isProtected
  | lineComment text => exact absurd rfl (open_ text)
  | blockComment =>
    obtain ⟨body, rfl, closes⟩ := form
    obtain ⟨init, rfl⟩ := closes.exists_slash
    exact ⟨'/' :: '*' :: init, '/', rfl, by decide⟩
  | quoted =>
    rcases form with ⟨body, rfl, closes⟩ | ⟨body, rfl, closes⟩
    · obtain ⟨init, rfl⟩ := closes.exists_quote
      exact ⟨'\'' :: init, '\'', rfl, by decide⟩
    · obtain ⟨init, rfl⟩ := closes.exists_quote
      exact ⟨'"' :: init, '"', rfl, by decide⟩
  | dollarQuoted =>
    obtain ⟨tag, body, rfl, ⟨name, rfl, -⟩, ⟨before, rfl⟩, -⟩ := form
    exact ⟨'$' :: name ++ ['$'] ++ before ++ '$' :: name, '$', by simp [Lexeme.text], by decide⟩

/-- The last character of a token is no part of a word, unless the token is a line comment. -/
theorem Lexeme.HasForm.neutral (form : token.HasForm escapes) (isProtected : token.IsProtected)
    (open_ : ∀ text, token ≠ .lineComment text) (behind : List Char) :
    Neutral (token.text.reverse ++ behind) := by
  obtain ⟨init, c, text, closer⟩ := form.exists_closer isProtected open_
  have small : ∀ c ∈ ['/', '\'', '"', '$'], c.toNat < 0x30 := by simp
  rw [text, List.reverse_append, List.append_assoc]
  exact neutral_of_small (small c closer) _

/-- At the end of a line nothing on it matters to the quotes ahead. -/
theorem looksAlike_of_newline {behind other : List Char} (ends : ∀ c ∈ after.head?, c = '\n') :
    LooksAlike after behind other := by
  rintro read rest rfl
  cases read with
  | nil => cases ends _ rfl
  | cons c read =>
    obtain rfl : c = '\n' := ends c rfl
    have newline (behind : List Char) : Neutral ('\n' :: behind) := neutral_of_small (by decide) _
    have alike := opensEscapes_of_neutral (newline behind) (newline other) read.reverse
    simpa using alike

/-- What is ahead of a token is read alike behind any token of its kind. -/
theorem Lexeme.SameKind.looksAlike (kind : token.SameKind other) (form : token.HasForm escapes)
    (otherForm : other.HasForm escapes) (ends : token.EndsBefore after) (behind : List Char) :
    LooksAlike after (token.text.reverse ++ behind) (other.text.reverse ++ behind) := by
  by_cases comment : ∃ text, token = .lineComment text
  · obtain ⟨text, rfl⟩ := comment
    exact looksAlike_of_newline ends
  · have closed : ∀ text, token ≠ .lineComment text := fun text same => comment ⟨text, same⟩
    have otherClosed : ∀ text, other ≠ .lineComment text := by
      rintro text rfl
      cases token with
      | lineComment text => exact closed text rfl
      | plain | marker | semicolon | lone | blockComment | quoted | dollarQuoted => cases kind
    exact looksAlike_of_neutral (form.neutral kind.isProtected closed behind)
      (otherForm.neutral kind.symm.isProtected otherClosed behind) after

end Tokens

theorem mem_dropWhile {p : Char → Bool} {s : List Char} {c : Char} (member : c ∈ s)
    (kept : p c = false) : c ∈ s.dropWhile p := by
  rw [← List.takeWhile_append_dropWhile (p := p) (l := s)] at member
  rcases List.mem_append.mp member with dropped | rest
  · rw [all_takeWhile p s c dropped] at kept
    cases kept
  · exact rest

theorem mem_dropRightWhile {p : Char → Bool} {s : List Char} {c : Char} (member : c ∈ s)
    (kept : p c = false) : c ∈ dropRightWhile p s :=
  List.mem_reverse.mpr (mem_dropWhile (List.mem_reverse.mpr member) kept)

theorem mem_trim {s : List Char} {c : Char} (member : c ∈ s) (kept : isBlank c = false) :
    c ∈ trim s :=
  mem_dropRightWhile (mem_dropWhile member kept) kept

/-- A statement with a character that is no white space and no semicolon is not empty. -/
theorem isEmptyStatement_eq_false {sql : List Char} {c : Char} (member : c ∈ sql)
    (unblank : isBlank c = false) (unended : c ≠ ';') : isEmptyStatement (trim sql) = false := by
  have inside : c ∈ trim (dropRightWhile (· = ';') (trim sql)) :=
    mem_trim (mem_dropRightWhile (mem_trim member unblank) (decide_eq_false unended)) unblank
  rw [isEmptyStatement, List.isEmpty_eq_false_iff]
  exact List.ne_nil_of_mem inside

/-- A beginning is prepared the same whatever follows. -/
theorem preparedTexts_of_append (first second : List Lexeme) :
    preparedTexts (parameters (first ++ second)) first = assembled first := by
  obtain ⟨more, params⟩ := parameters_append first second
  refine List.flatMap_congr fun lexeme member => ?_
  rcases lexeme.marker_or_unmarked with ⟨name, text, rfl⟩ | unmarked
  · rw [Lexeme.prepared, Lexeme.prepared, placeholder, placeholder, params,
      List.idxOf_append_of_mem (mem_parameters_iff.mpr ⟨text, member⟩)]
  · rw [Lexeme.prepared_eq_text unmarked, Lexeme.prepared_eq_text unmarked]

/-- A token that is no marker is prepared as it stands. -/
theorem assembled_token {read later : List Lexeme} {token : Lexeme}
    (isProtected : token.IsProtected) :
    assembled (read ++ token :: later) = assembled read ++ token.text ++
      preparedTexts (parameters (read ++ token :: later)) later := by
  rw [assembled, preparedTexts_append, preparedTexts_of_append, preparedTexts_cons,
    Lexeme.prepared_eq_text isProtected.unmarked, List.append_assoc]

theorem parameters_token {read later : List Lexeme} {token other : Lexeme}
    (isProtected : token.IsProtected) (otherProtected : other.IsProtected) :
    parameters (read ++ token :: later) = parameters (read ++ other :: later) := by
  simp only [parameters, List.filterMap_append, List.filterMap_cons, isProtected.unmarked,
    otherProtected.unmarked]

variable {place last : Between} {readings : List Reading} {read : List Lexeme}
  {token other : Lexeme} {after : List Char}

/-- Where a statement begins, a scan to the end reads it. -/
theorem Scans.exists_reads (scans : Scans place readings last) (ended : last.here.ahead = [])
    (opens : OpensStatement place.here.ahead) :
    ∃ reading later stop, readings = reading :: later ∧ place.Reads reading stop ∧
      Scans (place.next reading stop) later last := by
  cases scans with
  | done => exact absurd ended opens.nonempty
  | gap form _ ahead _ =>
    rw [ahead] at opens
    exact absurd opens (form.not_opensStatement _)
  | @statement _ _ reading later stop _ reads others =>
    exact ⟨reading, later, stop, rfl, reads, others⟩

/-- The statement has the lexemes that lead to the token, the token, and others. -/
theorem Reaches.exists_lexemes {start : Between} {reading : Reading} {stop : Cursor}
    (reaches : Reaches start readings place read token after) (reads : place.Reads reading stop) :
    ∃ later, reading.lexemes = read ++ token :: later ∧ after = texts later ++ stop.ahead := by
  obtain ⟨lexed, ahead, terminated, -⟩ := lexed_of_statementLexemes reads.lexed
  have whole : texts reading.lexemes ++ stop.ahead = texts (read ++ [token]) ++ after := by
    rw [← ahead, reaches.ahead]
    simp
  have cut : ∃ later, reading.lexemes = read ++ token :: later := by
    rcases lexed.prefix_or_prefix_of_same reaches.lexed whole with before | ⟨later, same⟩
    · rcases List.prefix_concat_iff.mp before with same | ⟨more, rfl⟩
      · exact ⟨[], same⟩
      · -- A statement that ends before the token would have its semicolon there.
        have unended : .semicolon ∉ reading.lexemes :=
          fun ended => reaches.unended (List.mem_append_left more ended)
        have finished : stop.ahead = [] := by
          by_contra continues
          exact unended (terminated.semicolon_mem continues)
        rw [finished, texts_append, texts_append, List.append_assoc, List.append_assoc,
          List.append_cancel_left_eq] at whole
        have empty := (List.append_eq_nil_iff.mp whole.symm).2
        exact absurd (by simpa using empty) reaches.ahead_ne_nil
    · exact ⟨later, by simpa using same.symm⟩
  obtain ⟨later, lexemes⟩ := cut
  refine ⟨later, lexemes, ?_⟩
  rw [lexemes, List.append_cons, texts_append, List.append_assoc] at whole
  exact (List.append_cancel_left whole).symm

/-- Another token of its kind in place of the one leaves the other lexemes as they are. -/
theorem Lexed.replace {behind ahead : List Char} {later : List Lexeme}
    (lexed : Lexed behind (read ++ token :: later) ahead)
    (otherLexed : Lexed behind (read ++ [other]) (texts later ++ ahead))
    (kind : token.SameKind other) :
    Lexed behind (read ++ other :: later) ahead ∧
      LooksAlike ahead ((texts (read ++ token :: later)).reverse ++ behind)
        ((texts (read ++ other :: later)).reverse ++ behind) := by
  obtain ⟨-, rest⟩ := lexed_append_iff.mp lexed
  obtain ⟨before, otherRest⟩ := lexed_append_iff.mp otherLexed
  cases rest with
  | cons form ends others =>
    cases otherRest with
    | cons otherForm otherEnds _ =>
      have alike := kind.looksAlike form otherForm ends ((texts read).reverse ++ behind)
      refine ⟨lexed_append_iff.mpr ⟨?_, .cons otherForm ?_ (others.relocate alike)⟩, ?_⟩
      · simpa using before
      · simpa using otherEnds
      · simpa using alike.advance

theorem Terminated.replace {ahead : List Char} {later : List Lexeme}
    (terminated : Terminated (read ++ token :: later) ahead) (kind : token.SameKind other) :
    Terminated (read ++ other :: later) ahead := by
  have unended : other ≠ .semicolon := by
    rintro rfl
    exact kind.symm.isProtected
  induction read with
  | nil =>
    cases terminated with
    | semicolon => exact absurd kind.isProtected id
    | cons _ others => exact .cons unended others
  | cons lexeme read ih =>
    rw [List.cons_append] at terminated ⊢
    generalize rest : read ++ token :: later = lexemes at terminated ih
    cases terminated with
    | semicolon => simp at rest
    | cons different others => exact .cons different (ih others)

/-- The query with other SQL. -/
def withSql (query : SourceQuery) (sql : List Char) : SourceQuery :=
  { query with preparedSql := String.ofList (trim sql) }

/-- With another token of its kind in place of the one a statement is read as before. -/
theorem Between.Reads.replace {reading : Reading} {stop : Cursor} {later : List Lexeme}
    (reads : place.Reads reading stop) (lexemes : reading.lexemes = read ++ token :: later)
    (otherLexed : Lexed place.here.behind (read ++ [other]) (texts later ++ stop.ahead))
    (kind : token.SameKind other) :
    let otherPlace := place.withAhead (texts read ++ (other.text ++ (texts later ++ stop.ahead)))
    let otherReading : Reading :=
      ⟨read ++ other :: later, withSql reading.query (assembled (read ++ other :: later))⟩
    ∃ otherStop, otherPlace.Reads otherReading otherStop ∧
      Relocated (place.next reading stop) (otherPlace.next otherReading otherStop) := by
  intro otherPlace otherReading
  obtain ⟨lexed, ahead, terminated, stopped⟩ := lexed_of_statementLexemes reads.lexed
  rw [lexemes] at lexed terminated
  obtain ⟨replaced, alike⟩ := lexed.replace otherLexed kind
  have whole : otherPlace.here.ahead = texts (read ++ other :: later) ++ stop.ahead := by
    simp [otherPlace, Between.withAhead]
  have params : reading.query.paramNames =
      (parameters (read ++ other :: later)).map String.ofList := by
    rw [reads.prepares.params, lexemes, parameters_token kind.isProtected kind.symm.isProtected]
  obtain ⟨-, isToken⟩ := lexed_append_iff.mp otherLexed
  have form : ∃ c rest, other.text = c :: rest ∧ c ∈ ['-', '/', '\'', '"', '$'] := by
    cases isToken with
    | cons form _ _ => exact form.exists_opener kind.symm.isProtected
  refine ⟨otherPlace.here.advance (texts (read ++ other :: later)) stop.ahead,
    { annotated := reads.annotated
      fresh := reads.fresh
      lexed := statementLexemes_of_lexed replaced whole (terminated.replace kind)
      prepares := ⟨rfl, params⟩
      documented := reads.documented
      nonempty := ?_ }, rfl, rfl, ?_⟩
  · obtain ⟨c, rest, text, opener⟩ := form
    have kept : ∀ c ∈ ['-', '/', '\'', '"', '$'], isBlank c = false ∧ c ≠ ';' := by
      simp [isBlank]
    have member : c ∈ assembled (read ++ other :: later) := by
      rw [assembled_token kind.symm.isProtected, text]
      simp
    exact isEmptyStatement_eq_false member (kept c opener).1 (kept c opener).2
  · have behind : stop.behind = (texts (read ++ token :: later)).reverse ++ place.here.behind := by
      rw [stopped, Cursor.advance_behind, lexemes]
    rw [Between.next, Between.next, behind, Cursor.advance_behind]
    exact alike

/-- Where the same text is ahead and the same names are declared, the same queries are read. -/
theorem Relocated.remaining_eq_ok {between otherPlace : Between} {queries : List SourceQuery}
    (moved : Relocated between otherPlace) (declared : otherPlace.declared = between.declared)
    (read : between.remaining = .ok queries) : otherPlace.remaining = .ok queries := by
  obtain ⟨readings, last, scans, ended, rfl⟩ := Between.remaining_eq_ok_iff.mp read
  obtain ⟨otherLast, otherScans, movedLast⟩ :=
    scans.relocate moved fun _ _ fresh => declared ▸ fresh
  exact Between.remaining_eq_ok_iff.mpr
    ⟨readings, otherLast, otherScans, movedLast.ahead.trans ended, rfl⟩

/-- Of the text `before ++ token.text ++ after` the scan reads whole statements, the lexemes `read`
of the next one, and then the token, which begins behind `before`. -/
def ReadsAt (before : List Char) (readings : List Reading) (read : List Lexeme) (token : Lexeme)
    (after : List Char) : Prop :=
  ∃ place, Reaches (.start (before ++ (token.text ++ after))) readings place read token after

/-- With another token of its kind in place of the one the text is accepted too, and gives the same
queries but for the SQL of the one that holds the token. -/
theorem parseText_replace {source : String} {before after : List Char} {token other : Lexeme}
    {queries : List SourceQuery} {readings otherReadings : List Reading}
    {read otherRead : List Lexeme}
    (accepted : parseText source (String.ofList (before ++ (token.text ++ after))) = .ok queries)
    (reads : ReadsAt before readings read token after) (kind : token.SameKind other)
    (otherReads : ReadsAt before otherReadings otherRead other after) :
    ∃ query later back,
      queries = readings.map Reading.query ++ query :: later ∧
        query.preparedSql = String.ofList (trim (assembled read ++ token.text ++ back)) ∧
        parseText source (String.ofList (before ++ (other.text ++ after))) =
          .ok (readings.map Reading.query ++
            withSql query (assembled read ++ other.text ++ back) :: later) := by
  obtain ⟨place, reaches⟩ := reads
  obtain ⟨otherPlace, otherReaches⟩ := otherReads
  -- Both texts are read alike up to the token.
  have same : SameStart (token.text ++ after) (other.text ++ after) :=
    kind.sameStart reaches.token_hasForm otherReaches.token_hasForm after
  have otherStart : Between.start (before ++ (other.text ++ after)) =
      (Between.start (before ++ (token.text ++ after))).withAhead
        (before ++ (other.text ++ after)) := rfl
  rw [otherStart] at otherReaches
  obtain ⟨sameReadings, sameRead, samePlace⟩ := reaches.lockstep otherReaches rfl same
  subst otherReadings otherRead otherPlace
  -- The statement with the token, and what is read behind it.
  rw [parseText_eq_ok_iff, parse_eq_remaining, String.toList_ofList] at accepted
  obtain ⟨queries, remaining, rfl⟩ := reaches.scans.remaining_eq_ok accepted
  obtain ⟨rest, last, scans, ended, rfl⟩ := Between.remaining_eq_ok_iff.mp remaining
  obtain ⟨reading, later, stop, rfl, reads, others⟩ := scans.exists_reads ended reaches.opens
  obtain ⟨more, lexemes, rfl⟩ := reaches.exists_lexemes reads
  -- The other text goes on in the same way.
  obtain ⟨otherStop, replaced, moved⟩ := reads.replace lexemes otherReaches.lexed kind
  have rest : (place.next reading stop).remaining = .ok (later.map Reading.query) :=
    Between.remaining_eq_ok_iff.mpr ⟨later, last, others, ended, rfl⟩
  refine ⟨reading.query, later.map Reading.query,
    preparedTexts (parameters (read ++ token :: more)) more, rfl, ?_, ?_⟩
  · rw [reads.prepares.sql, lexemes, assembled_token kind.isProtected]
  · rw [parseText_eq_ok_iff, parse_eq_remaining, String.toList_ofList, otherStart,
      otherReaches.scans.remaining, Between.remaining_of_reads otherReaches.opens replaced,
      moved.remaining_eq_ok rfl rest, assembled_token kind.symm.isProtected,
      parameters_token kind.symm.isProtected kind.isProtected]
    rfl

/-- A statement up to where a string stands in it. -/
def beforeString : List Char := "-- name: Find :one".toList ++ '\n' :: "SELECT ".toList

theorem readsAt_string {body : List Char} (closes : ClosesQuote '\'' false body) :
    ReadsAt beforeString [] [.plain "SELECT ".toList] (.quoted ('\'' :: body)) [';'] := by
  have comment : (Piece.lineComment "-- name: Find :one".toList).HasForm :=
    ⟨" name: Find :one".toList, by decide, by decide⟩
  have scans := @Scans.gap (.start (beforeString ++ ('\'' :: body ++ [';']))) _ _ _
    ('\n' :: "SELECT ".toList ++ ('\'' :: body ++ [';'])) comment (by rintro c ⟨⟩; rfl)
      (List.append_assoc _ _ _) <|
      @Scans.gap _ _ _ _ ("SELECT ".toList ++ ('\'' :: body ++ [';']))
        Piece.newline_hasForm (by rintro c ⟨⟩; decide) rfl (.done _)
  have endsBefore : (Lexeme.plain "SELECT ".toList).EndsBefore ('\'' :: body ++ [';']) := by
    rintro c ⟨⟩
    rfl
  have endsQuote : (Lexeme.quoted ('\'' :: body)).EndsBefore [';'] := by simp [Lexeme.EndsBefore]
  have opens : OpensStatement ("SELECT ".toList ++ ('\'' :: body ++ [';'])) := by
    refine ⟨by simp, ?_, by simp, by simp, by simp⟩
    rintro c ⟨⟩
    decide
  exact ⟨_, scans, opens, .cons ⟨by simp, by simp [isSpecial]⟩ endsBefore
    (.cons (.inl ⟨body, rfl, closes⟩) endsQuote (.nil _ _)), rfl, by simp⟩

/-- A string. -/
def shortString : Lexeme := .quoted ['\'', 'a', '\'']

/-- A string with a semicolon, a quote and a placeholder in it. -/
def trickyString : Lexeme := .quoted ['\'', ';', '\'', '\'', '$', '1', '\'']

/-- The query of the statement with `shortString`. -/
def stringQuery : SourceQuery := ⟨"Find", "SELECT 'a';", [], .one, ["-- name: Find :one"]⟩

theorem parseText_replace_string :
    parseText "find.sql" (String.ofList (beforeString ++ (shortString.text ++ [';']))) =
        .ok [stringQuery] ∧
      ∃ query later back, [stringQuery] = List.map Reading.query [] ++ query :: later ∧
        query.preparedSql = String.ofList
          (trim (assembled [.plain "SELECT ".toList] ++ shortString.text ++ back)) ∧
        parseText "find.sql" (String.ofList (beforeString ++ (trickyString.text ++ [';']))) =
          .ok (List.map Reading.query [] ++
            withSql query (assembled [.plain "SELECT ".toList] ++ trickyString.text ++ back) ::
              later) := by
  have accepted : parseText "find.sql"
      (String.ofList (beforeString ++ (shortString.text ++ [';']))) = .ok [stringQuery] :=
    parseText_eq_ok_iff.mpr (by decide +kernel)
  have reads : ReadsAt beforeString [] [.plain "SELECT ".toList] shortString [';'] :=
    readsAt_string (.other (by decide) (by decide) .close)
  have otherReads : ReadsAt beforeString [] [.plain "SELECT ".toList] trickyString [';'] :=
    readsAt_string (.other (by decide) (by decide) (.doubled (.other (by decide) (by decide)
      (.other (by decide) (by decide) .close))))
  have kind : shortString.SameKind trickyString := rfl
  exact ⟨accepted, parseText_replace accepted reads kind otherReads⟩

end QueryTyping.QueryFile
