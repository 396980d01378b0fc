import QueryTyping.Proofs.Relocation
import QueryTyping.Proofs.Segmentation

/-!
# Query files one after another
-/

namespace QueryTyping.QueryFile

open QueryTyping.Text

section LessText

variable {behind after ahead more : List Char} {lexemes : List Lexeme} {lexeme : Lexeme}

theorem dollarTag_eq_none_of_append (untagged : dollarTag (ahead ++ more) = none) :
    dollarTag ahead = none := by
  rw [Option.eq_none_iff_forall_ne_some]
  intro cut found
  obtain ⟨isTag, same⟩ := dollarTag_eq_some_iff.mp found
  have longer : dollarTag (ahead ++ more) = some (cut.1, cut.2 ++ more) := by
    rw [dollarTag_eq_some_iff, ← List.append_assoc, same]
    exact ⟨isTag, rfl⟩
  rw [untagged] at longer
  cases longer

theorem marker?_eq_none_of_append (unmarked : marker? (ahead ++ more) = none) :
    marker? ahead = none := by
  rw [Option.eq_none_iff_forall_ne_some]
  intro cut found
  obtain ⟨name, text, -, isMarker, same⟩ := marker?_eq_some_iff.mp found
  have longer : marker? (ahead ++ more) = some (.marker name text, cut.2 ++ more) := by
    rw [marker?_eq_some_iff]
    exact ⟨name, text, rfl, isMarker, by rw [← List.append_assoc, same]⟩
  rw [unmarked] at longer
  cases longer

/-- A lexeme that ends before a text ends before each beginning of it. -/
theorem Lexeme.EndsBefore.of_append {escapes : Bool} (form : lexeme.HasForm escapes)
    (ends : lexeme.EndsBefore (ahead ++ more)) : lexeme.EndsBefore ahead := by
  have first : ∀ c, ahead.head? = some c → (ahead ++ more).head? = some c := by
    intro c same
    rw [List.head?_append, same]
    rfl
  cases lexeme with
  | plain | lineComment =>
    intro c same
    exact ends c (first c same)
  | quoted text =>
    intro same
    obtain ⟨c, opener⟩ : ∃ c, text.head? = some c := by
      rw [← Option.isSome_iff_exists, List.isSome_head?]
      exact form.ne_nil
    have unended : (ahead ++ more).head? ≠ text.head? := ends
    rw [opener] at same unended
    exact unended (first c same)
  | lone c =>
    obtain ⟨untagged, unstarred, undashed, unmarked⟩ := ends
    refine ⟨fun dollar => dollarTag_eq_none_of_append (untagged dollar), fun slash star => ?_,
      fun dash other => ?_, fun letter => marker?_eq_none_of_append (unmarked letter)⟩
    · exact unstarred slash (first '*' star)
    · exact undashed dash (first '-' other)
  | marker | semicolon | blockComment | dollarQuoted => trivial

/-- With less text after them all lexemes are as before. -/
theorem Lexed.of_append (lexed : Lexed behind lexemes (after ++ more)) :
    Lexed behind lexemes after := by
  generalize whole : after ++ more = ahead at lexed
  induction lexed with
  | nil => exact .nil _ _
  | cons form ends _ ih =>
    subst whole
    rw [← List.append_assoc] at ends
    exact .cons form (ends.of_append form) (ih rfl)

/-- With nothing after them all lexemes are as before. -/
theorem Lexed.alone (lexed : Lexed behind lexemes after) : Lexed behind lexemes [] :=
  @Lexed.of_append behind [] after lexemes lexed

theorem Terminated.of_text (terminated : Terminated lexemes after) : Terminated lexemes [] := by
  induction terminated with
  | atEnd => exact .atEnd
  | semicolon => exact .semicolon []
  | cons other _ ih => exact .cons other ih

theorem OpensStatement.of_append {text : List Char} (opens : OpensStatement (text ++ more))
    (nonempty : text ≠ []) : OpensStatement text := by
  obtain ⟨-, unblank, unended, undashed, unstarred⟩ := opens
  rw [List.head?_append_of_ne_nil _ nonempty] at unblank unended
  have longer : text <+: text ++ more := List.prefix_append text more
  exact ⟨nonempty, unblank, unended, fun dashes => undashed (dashes.trans longer),
    fun star => unstarred (star.trans longer)⟩

end LessText

theorem isSpecial_of_isBlank {c : Char} (blank : isBlank c = true) : isSpecial c = false := by
  rw [Bool.eq_false_iff]
  intro special
  simp only [isSpecial, Bool.or_eq_true, decide_eq_true_eq] at special
  rcases special with (((((rfl | rfl) | rfl) | rfl) | rfl) | rfl) | rfl <;>
    exact absurd blank (by decide)

/-- Two texts that continue in different characters where one of them ends: the longer one holds
the other's continuation. -/
theorem exists_of_append_cons_eq {first second rest others : List Char} {c d : Char}
    (different : c ≠ d) (same : first ++ c :: rest = second ++ d :: others) :
    (∃ more, second = first ++ c :: more ∧ rest = more ++ d :: others) ∨
      ∃ more, first = second ++ d :: more ∧ others = more ++ c :: rest := by
  rcases List.append_eq_append_iff.mp same with ⟨more, rfl, tail⟩ | ⟨more, rfl, tail⟩
  · cases more with
    | nil => exact absurd (List.cons.inj tail).1 different
    | cons e more =>
      obtain ⟨rfl, rfl⟩ := List.cons.inj tail
      exact .inl ⟨more, rfl, rfl⟩
  · cases more with
    | nil => exact absurd (List.cons.inj tail).1.symm different
    | cons e more =>
      obtain ⟨rfl, rfl⟩ := List.cons.inj tail
      exact .inr ⟨more, rfl, rfl⟩

/-- A lexeme that begins with a single quote has another one. -/
theorem Lexeme.HasForm.quote_mem {lexeme : Lexeme} {escapes : Bool} {rest : List Char}
    (form : lexeme.HasForm escapes) (text : lexeme.text = '\'' :: rest) : '\'' ∈ rest := by
  cases lexeme with
  | quoted =>
    rcases form with ⟨body, rfl, closes⟩ | ⟨body, rfl, -⟩
    · obtain ⟨-, rfl⟩ := List.cons.inj text
      exact closes.quote_mem
    · cases (List.cons.inj text).1
  | plain run =>
    rw [Lexeme.text] at text
    subst text
    cases form.2 '\'' List.mem_cons_self
  | marker name marker =>
    obtain ⟨left, right, rfl, -⟩ := form
    cases (List.cons.inj text).1
  | semicolon => cases (List.cons.inj text).1
  | lineComment | blockComment =>
    obtain ⟨body, rfl, -⟩ := form
    cases (List.cons.inj text).1
  | dollarQuoted =>
    obtain ⟨tag, body, rfl, ⟨name, rfl, -⟩, -⟩ := form
    cases (List.cons.inj text).1
  | lone c =>
    obtain ⟨rfl, -⟩ := List.cons.inj text
    rcases form with same | same | same | same <;> cases same

/-- A text that is cut off within the name of a marker holds no statement that ends: the quote
before the name stays open. -/
theorem not_lexed_of_unfinished_marker {behind after later : List Char} {lexemes : List Lexeme}
    {name : List Char} (isMarker : IsMarker name ('p' :: (texts lexemes ++ ';' :: later)))
    (lexed : Lexed behind lexemes (';' :: after)) : False := by
  obtain ⟨left, right, same, blankLeft, blankRight, -, quoteless⟩ := isMarker
  -- Up to its first quote the marker opens nothing.
  have opening : ∃ run, run ≠ [] ∧ (∀ c ∈ run, isSpecial c = false) ∧
      markerOpening ++ left = 'p' :: run := by
    refine ⟨['g', 'q', '.', 'a', 'r', 'g', '('] ++ left, by simp, fun c member => ?_, rfl⟩
    have fixed : ∀ c ∈ ['g', 'q', '.', 'a', 'r', 'g', '('], isSpecial c = false := by
      simp [isSpecial]
    rcases List.mem_append.mp member with named | blank
    · exact fixed c named
    · exact isSpecial_of_isBlank (blankLeft c blank)
  obtain ⟨run, nonempty, plain, opening⟩ := opening
  have whole : texts lexemes ++ ';' :: later =
      run ++ '\'' :: (name ++ '\'' :: (right ++ [')'])) := by
    rw [opening] at same
    simpa using same
  -- The semicolon stands in the name, behind the first quote and before the second.
  have place : ∃ first, texts lexemes = run ++ '\'' :: first ∧ '\'' ∉ first := by
    rcases exists_of_append_cons_eq (by decide) whole with ⟨more, rfl, -⟩ | ⟨first, split, rest⟩
    · cases plain ';' (List.mem_append_right _ List.mem_cons_self)
    · refine ⟨first, split, ?_⟩
      rcases exists_of_append_cons_eq (by decide) rest with ⟨more, rfl, tail⟩ | ⟨more, rfl, -⟩
      · have blank : ';' ∈ right ++ [')'] := tail ▸ List.mem_append_right _ List.mem_cons_self
        rcases List.mem_append.mp blank with blank | last
        · cases blankRight ';' blank
        · simp at last
      · exact fun quoted => quoteless (List.mem_append_left _ quoted)
  obtain ⟨first, split, unquoted⟩ := place
  cases lexed with
  | nil => simp at split
  | @cons _ _ lexeme lexemes form ends others =>
    have opens : lexeme = .plain run := by
      have endsAtQuote : (Lexeme.plain run).EndsBefore ('\'' :: (first ++ ';' :: after)) := by
        rintro c ⟨⟩
        rfl
      refine Lexeme.eq_of_hasForm form ends ⟨nonempty, plain⟩ endsAtQuote ?_
      rw [← List.append_assoc, ← texts_cons, split]
      simp [Lexeme.text]
    subst opens
    have quoted : texts lexemes = '\'' :: first := List.append_cancel_left split
    cases others with
    | nil => simp at quoted
    | @cons _ _ lexeme lexemes form ends others =>
      obtain ⟨c, body, text⟩ := List.exists_cons_of_ne_nil form.ne_nil
      rw [texts_cons, text, List.cons_append] at quoted
      obtain ⟨rfl, rfl⟩ := List.cons.inj quoted
      exact unquoted (List.mem_append_left _ (form.quote_mem text))

theorem semicolon_mem_texts {lexemes : List Lexeme} (ended : .semicolon ∈ lexemes) :
    ';' ∈ texts lexemes :=
  List.mem_flatMap.mpr ⟨_, ended, List.mem_singleton_self _⟩

/-- After text with a semicolon, more text does not change where a lexeme ends. -/
theorem Lexeme.EndsBefore.append {lexeme : Lexeme} {ahead : List Char}
    (ends : lexeme.EndsBefore ahead) (stops : ';' ∈ ahead) {more : List Char}
    (unmarked : lexeme = .lone 'p' → marker? ('p' :: (ahead ++ more)) = none) :
    lexeme.EndsBefore (ahead ++ more) := by
  have first : (ahead ++ more).head? = ahead.head? :=
    List.head?_append_of_ne_nil _ (List.ne_nil_of_mem stops)
  cases lexeme with
  | plain | lineComment | quoted =>
    simp only [Lexeme.EndsBefore, first] at ends ⊢
    exact ends
  | lone c =>
    obtain ⟨untagged, unstarred, undashed, -⟩ := ends
    refine ⟨fun dollar => ?_, first ▸ unstarred, first ▸ undashed, fun letter => ?_⟩
    · rw [dollarTag_append_of_stops ⟨';', stops, by decide⟩, untagged dollar]
      rfl
    · exact unmarked (letter ▸ rfl)
  | marker | semicolon | blockComment | dollarQuoted => trivial

/-- Where a statement ends ahead, more text does not complete a marker. -/
theorem marker?_append_eq_none {behind after : List Char} {lexemes : List Lexeme}
    (lexed : Lexed behind lexemes after) (ended : .semicolon ∈ lexemes)
    (unmarked : marker? ('p' :: (texts lexemes ++ after)) = none) (more : List Char) :
    marker? ('p' :: (texts lexemes ++ after ++ more)) = none := by
  rw [Option.eq_none_iff_forall_ne_some]
  rintro ⟨lexeme, rest⟩ longer
  obtain ⟨name, text, -, isMarker, same⟩ := marker?_eq_some_iff.mp longer
  rw [← List.cons_append] at same
  rcases List.append_eq_append_iff.mp same with ⟨tail, shorter, -⟩ | ⟨tail, longer, -⟩
  · rw [marker?_eq_some_iff.mpr ⟨name, text, rfl, isMarker, shorter.symm⟩] at unmarked
    cases unmarked
  · obtain ⟨first, second, rfl⟩ := List.append_of_mem ended
    obtain ⟨lexed, -⟩ := lexed_append_iff.mp lexed
    have unfinished :
        IsMarker name ('p' :: (texts first ++ ';' :: (texts second ++ after ++ tail))) := by
      rw [longer] at isMarker
      simpa [Lexeme.text] using isMarker
    exact not_lexed_of_unfinished_marker unfinished lexed

/-- What ends with a semicolon is read alike before any text. -/
theorem Lexed.append_text {behind after : List Char} {lexemes : List Lexeme}
    (lexed : Lexed behind lexemes after) (terminated : Terminated lexemes after)
    (ended : .semicolon ∈ lexemes) (more : List Char) : Lexed behind lexemes (after ++ more) := by
  induction terminated generalizing behind with
  | atEnd => cases ended
  | semicolon => exact .cons trivial trivial (.nil _ _)
  | @cons after lexeme lexemes other terminated ih =>
    have later : .semicolon ∈ lexemes := by
      rcases List.mem_cons.mp ended with same | later
      · exact absurd same.symm other
      · exact later
    cases lexed with
    | cons form ends others =>
      have stops : ';' ∈ texts lexemes ++ after :=
        List.mem_append_left _ (semicolon_mem_texts later)
      have unmarked : lexeme = .lone 'p' →
          marker? ('p' :: (texts lexemes ++ after ++ more)) = none := by
        rintro rfl
        exact marker?_append_eq_none others later (ends.2.2.2 rfl) more
      refine .cons form ?_ (ih others later)
      rw [← List.append_assoc]
      exact ends.append stops unmarked

theorem Terminated.append_text {lexemes : List Lexeme} {after : List Char}
    (terminated : Terminated lexemes after) (ended : .semicolon ∈ lexemes) (more : List Char) :
    Terminated lexemes (after ++ more) := by
  induction terminated with
  | atEnd => cases ended
  | semicolon => exact .semicolon _
  | cons other terminated ih =>
    rcases List.mem_cons.mp ended with same | later
    · exact absurd same.symm other
    · exact .cons other (ih later)

variable {between last : Between} {reading : Reading} {readings : List Reading} {stop : Cursor}

/-- A statement that ends with a semicolon is read alike before any text. -/
theorem Between.Reads.append_text (reads : between.Reads reading stop)
    (ended : .semicolon ∈ reading.lexemes) (more : List Char) :
    (between.withAhead (between.here.ahead ++ more)).Reads reading
      ⟨stop.behind, stop.line, stop.ahead ++ more⟩ := by
  obtain ⟨lexed, ahead, terminated, stopped⟩ := lexed_of_statementLexemes reads.lexed
  have longer : (between.withAhead (between.here.ahead ++ more)).here.ahead =
      texts reading.lexemes ++ (stop.ahead ++ more) := by
    rw [← List.append_assoc, ← ahead]
    rfl
  have read : statementLexemes (between.withAhead (between.here.ahead ++ more)).here =
      .ok (reading.lexemes, ⟨stop.behind, stop.line, stop.ahead ++ more⟩) := by
    rw [stopped]
    exact statementLexemes_of_lexed (lexed.append_text terminated ended more) longer
      (terminated.append_text ended more)
  exact ⟨reads.annotated, reads.fresh, read, reads.prepares, reads.documented, reads.nonempty⟩

theorem Scans.eq_of_ended (scans : Scans between readings last) (ended : between.here.ahead = []) :
    readings = [] ∧ last = between := by
  cases scans with
  | done => exact ⟨rfl, rfl⟩
  | gap form _ ahead _ =>
    rw [ended] at ahead
    exact absurd (List.append_eq_nil_iff.mp ahead.symm).1 form.ne_nil
  | statement opens _ _ => exact absurd ended opens.nonempty

/-- Where a statement begins that has a semicolon, it begins also before more text. -/
theorem OpensStatement.append {text : List Char} (opens : OpensStatement text) (stops : ';' ∈ text)
    (more : List Char) : OpensStatement (text ++ more) := by
  obtain ⟨nonempty, unblank, unended, undashed, unstarred⟩ := opens
  obtain ⟨c, rest, rfl⟩ := List.exists_cons_of_ne_nil nonempty
  have unfinished : rest ≠ [] := by
    rintro rfl
    rw [List.mem_singleton] at stops
    exact unended (stops ▸ rfl)
  obtain ⟨d, rest, rfl⟩ := List.exists_cons_of_ne_nil unfinished
  refine ⟨by simp, unblank, unended, ?_, ?_⟩
  · simpa using undashed
  · simpa using unstarred

/-- Before a blank line a piece ends where it ended, unless it is white space itself. -/
theorem Piece.EndsBefore.append {piece : Piece} {ahead more : List Char}
    (ends : piece.EndsBefore ahead) (first : more.head? = some '\n')
    (goesOn : ahead ≠ [] ∨ ∀ text, piece ≠ .blanks text) : piece.EndsBefore (ahead ++ more) := by
  cases piece with
  | blanks text =>
    have nonempty : ahead ≠ [] := goesOn.resolve_right fun other => other text rfl
    intro c member
    rw [List.head?_append_of_ne_nil _ nonempty] at member
    exact ends c member
  | lineComment text =>
    intro c member
    cases ahead with
    | nil =>
      rw [List.nil_append, first] at member
      exact (Option.some.inj member).symm
    | cons d ahead => exact ends c member
  | blockComment | semicolon => trivial

/-- White space with a blank line in it leaves no comment behind. -/
theorem Scans.blankLine {run rest : List Char} (nonempty : run ≠ [])
    (blank : ∀ c ∈ run, isBlank c = true) (lines : 1 < run.count '\n')
    (unblank : ∀ c ∈ rest.head?, isBlank c = false) (ahead : between.here.ahead = run ++ rest) :
    Scans between [] ⟨between.declared, [], between.here.advance run rest⟩ := by
  have form : (Piece.blanks run).HasForm := ⟨nonempty, blank⟩
  have gap : Scans between [] (between.skip (.blanks run) rest) :=
    .gap form unblank ahead (.done _)
  have detached : (Piece.blanks run).attach between.comments = [] := if_pos lines
  rwa [Between.skip, detached] at gap

/-- A scan that comes to the end of its text outside a statement goes on over a blank line, which
leaves no comment behind. -/
theorem Scans.append_gap {run rest : List Char} (scans : Scans between readings last)
    (ended : last.here.ahead = [])
    (closed : ∀ reading ∈ readings.getLast?, .semicolon ∈ reading.lexemes)
    (blank : ∀ c ∈ run, isBlank c = true) (first : run.head? = some '\n')
    (lines : 1 < run.count '\n') (unblank : ∀ c ∈ rest.head?, isBlank c = false) :
    Scans (between.withAhead (between.here.ahead ++ (run ++ rest))) readings
      ⟨last.declared, [], between.here.advance (between.here.ahead ++ run) rest⟩ := by
  have nonempty : run ≠ [] := by
    rintro rfl
    cases first
  induction scans with
  | done between =>
    rw [ended]
    exact .blankLine nonempty blank lines unblank rfl
  | @gap between last readings piece after form ends ahead others ih =>
    have goesOn := ih ended closed
    rw [ahead]
    by_cases merged : after = [] ∧ ∃ text, piece = .blanks text
    · -- White space at the end and the blank line are one piece.
      obtain ⟨rfl, text, rfl⟩ := merged
      obtain ⟨rfl, rfl⟩ := others.eq_of_ended rfl
      have severalLines : 1 < (text ++ run).count '\n' := by
        rw [List.count_append]
        omega
      have whole : ∀ c ∈ text ++ run, isBlank c = true := by
        intro c member
        exact (List.mem_append.mp member).elim (form.2 c) (blank c)
      rw [List.append_nil]
      exact .blankLine (List.append_ne_nil_of_left_ne_nil form.1 run) whole severalLines unblank
        (List.append_assoc text run rest).symm
    · have further : after ≠ [] ∨ ∀ text, piece ≠ .blanks text := by
        by_contra neither
        push Not at neither
        exact merged neither
      have endsAgain : piece.EndsBefore (after ++ (run ++ rest)) := by
        refine ends.append ?_ further
        rw [List.head?_append_of_ne_nil _ nonempty, first]
      have gap := @Scans.gap (between.withAhead (piece.text ++ after ++ (run ++ rest))) _ _ piece _
        form endsAgain (List.append_assoc _ _ _) goesOn
      rwa [Between.skip, Cursor.advance_ahead, Cursor.advance_advance,
        ← List.append_assoc piece.text after run] at gap
  | @statement between last reading readings stop opens reads others ih =>
    obtain ⟨-, ahead, terminated, stopped⟩ := lexed_of_statementLexemes reads.lexed
    have isClosed : .semicolon ∈ reading.lexemes := by
      by_cases continues : stop.ahead = []
      · obtain ⟨rfl, -⟩ := others.eq_of_ended continues
        exact closed reading rfl
      · exact terminated.semicolon_mem continues
    have laterClosed : ∀ reading ∈ readings.getLast?, .semicolon ∈ reading.lexemes := by
      intro later member
      refine closed later ?_
      cases readings with
      | nil => cases member
      | cons second readings => rwa [List.getLast?_cons_cons]
    have read := reads.append_text isClosed (run ++ rest)
    have goesOn := ih ended laterClosed
    have opensAgain : OpensStatement (between.here.ahead ++ (run ++ rest)) := by
      refine opens.append ?_ (run ++ rest)
      rw [ahead]
      exact List.mem_append_left _ (semicolon_mem_texts isClosed)
    have statement := @Scans.statement (between.withAhead (between.here.ahead ++ (run ++ rest)))
      _ _ _ _ opensAgain read goesOn
    rwa [Between.next, stopped, Cursor.advance_ahead, Cursor.advance_advance,
      ← List.append_assoc (texts reading.lexemes), ← ahead] at statement

/-- The scan comes to the end of the text outside a statement: its last statement, if it has one,
ends with a semicolon. -/
def EndsOutside (text : List Char) : Prop :=
  ∃ readings last, Scans (.start text) readings last ∧ last.here.ahead = [] ∧
    ∀ reading ∈ readings.getLast?, .semicolon ∈ reading.lexemes

/-- A scan is cut at each statement it reads. -/
theorem Scans.split {first later : List Reading}
    (scans : Scans between (first ++ reading :: later) last) :
    ∃ middle stop, Scans between first middle ∧ OpensStatement middle.here.ahead ∧
      middle.Reads reading stop := by
  generalize whole : first ++ reading :: later = readings at scans
  induction scans generalizing first with
  | done => simp at whole
  | gap form ends ahead _ ih =>
    obtain ⟨middle, stop, before, opens, reads⟩ := ih whole
    exact ⟨middle, stop, .gap form ends ahead before, opens, reads⟩
  | @statement between last read readings stop opens reads _ ih =>
    cases first with
    | nil =>
      cases whole
      exact ⟨between, stop, .done between, opens, reads⟩
    | cons head first =>
      obtain ⟨rfl, rest⟩ := List.cons.inj whole
      obtain ⟨middle, middleStop, before, middleOpens, middleReads⟩ := ih rest
      exact ⟨middle, middleStop, .statement opens reads before, middleOpens, middleReads⟩

/-- A declared name was declared before, or by a statement of the scan. -/
theorem Scans.declares {name : String} {line : Nat} (scans : Scans between readings last)
    (found : last.declared.lookup name = some line) :
    between.declared.lookup name = some line ∨
      ∃ first middle reading stop, Scans between first middle ∧
        OpensStatement middle.here.ahead ∧ middle.Reads reading stop ∧
        reading.query.name = name ∧ middle.here.line = line := by
  induction scans with
  | done => exact .inl found
  | gap form ends ahead _ ih =>
    rcases ih found with before | ⟨first, middle, reading, stop, scans, declares⟩
    · exact .inl before
    · exact .inr ⟨first, middle, reading, stop, .gap form ends ahead scans, declares⟩
  | @statement between last read readings stop opens reads _ ih =>
    rcases ih found with before | ⟨first, middle, reading, place, scans, declares⟩
    · rw [Between.next, List.lookup_cons] at before
      split at before
      next same =>
        refine .inr ⟨[], between, read, stop, .done between, opens, reads, ?_, ?_⟩
        · exact (eq_of_beq same).symm
        · exact Option.some.inj before
      next => exact .inl before
    · exact .inr ⟨read :: first, middle, reading, place, .statement opens reads scans, declares⟩

/-- Statements of other names leave a name as it was. -/
theorem Scans.lookup_eq {name : String} (scans : Scans between readings last)
    (others : ∀ reading ∈ readings, name ≠ reading.query.name) :
    last.declared.lookup name = between.declared.lookup name := by
  induction scans with
  | done => rfl
  | gap _ _ _ _ ih => exact ih others
  | statement _ _ _ ih =>
    obtain ⟨different, others⟩ := List.forall_mem_cons.mp others
    rw [ih others, Between.next, List.lookup_cons, beq_false_of_ne different]

/-- The line on which text goes on after this text. -/
def lineAfter (text : List Char) : Nat := 1 + text.count '\n'

/-- A statement with this name begins in the text after `before`. -/
def Declares (text : List Char) (name : String) (before : List Char) : Prop :=
  ∃ readings between reading stop, Scans (.start text) readings between ∧
    OpensStatement between.here.ahead ∧ between.Reads reading stop ∧
    reading.query.name = name ∧ text = before ++ between.here.ahead

/-- A statement whose name is declared already is refused. -/
theorem Between.remaining_of_declared {name : String} {kind : ResultKind} {line : Nat}
    (opens : OpensStatement between.here.ahead)
    (annotated : annotation between.comments = .ok (name, kind))
    (declared : between.declared.lookup name = some line) :
    between.remaining = .error ⟨between.here.line, .duplicateName name line⟩ := by
  rw [remaining_of_statement opens, statement]
  simp only [annotated, declared]

/-- The place behind the white space that a text begins with. -/
def Between.unindented (text : List Char) : Between :=
  ⟨[], [], (Cursor.start text).advance (text.takeWhile isBlank) (text.dropWhile isBlank)⟩

theorem scans_unindented (text : List Char) : Scans (.start text) [] (.unindented text) := by
  have cut : text = text.takeWhile isBlank ++ text.dropWhile isBlank :=
    List.takeWhile_append_dropWhile.symm
  by_cases unblank : text.takeWhile isBlank = []
  · rw [unblank, List.nil_append] at cut
    rw [Between.unindented, unblank, ← cut]
    exact .done _
  · have form : (Piece.blanks (text.takeWhile isBlank)).HasForm :=
      ⟨unblank, all_takeWhile isBlank text⟩
    have gap : Scans (.start text) []
        ((Between.start text).skip (.blanks (text.takeWhile isBlank)) (text.dropWhile isBlank)) :=
      .gap form (head?_dropWhile_eq_false isBlank text) cut (.done _)
    have detached : (Piece.blanks (text.takeWhile isBlank)).attach [] = [] := ite_self _
    rwa [Between.skip, Between.start, detached] at gap

/-- A text that is accepted is read to its end from behind its white space. -/
theorem scans_of_accepted {text : String} {queries : List SourceQuery}
    (accepted : parse text = .ok queries) :
    ∃ readings last, Scans (.unindented text.toList) readings last ∧ last.here.ahead = [] ∧
      queries = readings.map Reading.query := by
  rw [← Between.remaining_eq_ok_iff, ← accepted, parse_eq_remaining,
    (scans_unindented text.toList).remaining]
  cases (Between.unindented text.toList).remaining <;> rfl

/-- The place in `first` and a second text, a blank line between them, where the second one begins
behind its white space. -/
def Between.joined (declared : List (String × Nat)) (first second : List Char) : Between :=
  ⟨declared, [], (Cursor.start first).advance
    (first ++ '\n' :: '\n' :: second.takeWhile isBlank) (second.dropWhile isBlank)⟩

/-- Of the first text only its names reach the second. -/
theorem relocated_joined (declared : List (String × Nat)) (first second : List Char) :
    Relocated (.unindented second) (.joined declared first second) := by
  refine ⟨rfl, rfl, ?_⟩
  have alike := looksAlike_of_neutral neutral_nil
    (neutral_of_small (c := '\n') (by decide) ('\n' :: first.reverse))
    (second.takeWhile isBlank ++ second.dropWhile isBlank)
  simpa [Between.unindented, Between.joined, Cursor.start] using alike.advance

/-- The scan of the first text is one of both. -/
theorem Scans.joined {first : List Char} (scans : Scans (.start first) readings last)
    (ended : last.here.ahead = [])
    (closed : ∀ reading ∈ readings.getLast?, .semicolon ∈ reading.lexemes) (second : List Char) :
    Scans (.start (first ++ '\n' :: '\n' :: second)) readings
      (.joined last.declared first second) := by
  have blank : ∀ c ∈ '\n' :: '\n' :: second.takeWhile isBlank, isBlank c = true := by
    intro c member
    rcases List.mem_cons.mp member with rfl | member
    · decide
    · rcases List.mem_cons.mp member with rfl | member
      · decide
      · exact all_takeWhile isBlank second c member
  have longer := scans.append_gap ended closed blank rfl (by simp)
    (head?_dropWhile_eq_false isBlank second)
  rwa [List.cons_append, List.cons_append, List.takeWhile_append_dropWhile] at longer

/-- The line of a place is one more than the newlines before it. -/
theorem Scans.line_eq {text before : List Char} (scans : Scans (.start text) readings last)
    (cut : text = before ++ last.here.ahead) : last.here.line = lineAfter before := by
  obtain ⟨passed, same, moved⟩ := scans.passes
  obtain rfl : passed = before := List.append_cancel_right (same.symm.trans cut)
  rw [moved]
  rfl

section Joined

variable {first second : List Char} {later : List Reading}

/-- If the names of the second text are new, all its statements are read. -/
theorem Scans.remaining_joined_of_fresh (scans : Scans (.start first) readings last)
    (laterScans : Scans (.unindented second) later between) (ended : between.here.ahead = [])
    (disjoint : ∀ reading ∈ readings, ∀ other ∈ later, other.query.name ≠ reading.query.name) :
    (Between.joined last.declared first second).remaining = .ok (later.map Reading.query) := by
  have fresh : ∀ other ∈ later, last.declared.lookup other.query.name = none :=
    fun other member => scans.lookup_eq_none_iff.mpr
      ⟨rfl, fun reading known => disjoint reading known other member⟩
  obtain ⟨place, moved, relocated⟩ := laterScans.relocate
    (relocated_joined last.declared first second) fun other member _ => fresh other member
  exact Between.remaining_eq_ok_iff.mpr ⟨later, place, moved, relocated.ahead.trans ended, rfl⟩

/-- The first statement of the second text with a name of the first text is refused. -/
theorem Scans.remaining_joined_of_declared {others : List Reading}
    (scans : Scans (.start first) readings last) (ended : last.here.ahead = [])
    (closed : ∀ reading ∈ readings.getLast?, .semicolon ∈ reading.lexemes)
    (laterScans : Scans (.unindented second) (later ++ reading :: others) between)
    (disjoint : ∀ known ∈ readings, ∀ other ∈ later, other.query.name ≠ known.query.name)
    (known : ∃ known ∈ readings, reading.query.name = known.query.name) :
    ∃ inFirst inSecond, Declares first reading.query.name inFirst ∧
      Declares second reading.query.name inSecond ∧
      (Between.joined last.declared first second).remaining =
        .error ⟨lineAfter (first ++ '\n' :: '\n' :: inSecond),
          .duplicateName reading.query.name (lineAfter inFirst)⟩ := by
  have fresh : ∀ other ∈ later, last.declared.lookup other.query.name = none :=
    fun other member => scans.lookup_eq_none_iff.mpr
      ⟨rfl, fun reading known => disjoint reading known other member⟩
  obtain ⟨middle, stop, toMiddle, opens, reads⟩ := laterScans.split
  obtain ⟨place, moved, relocated⟩ := toMiddle.relocate
    (relocated_joined last.declared first second) fun other member _ => fresh other member
  -- The name is that of a statement of the first text, and of no later one.
  obtain ⟨line, found⟩ : ∃ line, last.declared.lookup reading.query.name = some line := by
    rw [← Option.ne_none_iff_exists']
    intro unknown
    obtain ⟨first, member, same⟩ := known
    exact (scans.lookup_eq_none_iff.mp unknown).2 first member same
  have declared : place.declared.lookup reading.query.name = some line := by
    rw [moved.lookup_eq (toMiddle.lookup_eq_none_iff.mp reads.fresh).2]
    exact found
  rcases scans.declares found with impossible |
    ⟨_, origin, _, _, before, begins, declares, named, rfl⟩
  · cases impossible
  obtain ⟨inFirst, cutFirst, -⟩ := before.passes
  have toSecond := (scans_unindented second).trans toMiddle
  obtain ⟨inSecond, cutSecond, -⟩ := toSecond.passes
  refine ⟨inFirst, inSecond, ⟨_, origin, _, _, before, begins, declares, named, cutFirst⟩,
    ⟨_, middle, reading, stop, toSecond, opens, reads, rfl, cutSecond⟩, ?_⟩
  have cut : first ++ '\n' :: '\n' :: second =
      first ++ '\n' :: '\n' :: inSecond ++ place.here.ahead := by
    rw [relocated.ahead, List.append_assoc, List.cons_append, List.cons_append, ← cutSecond]
    rfl
  have refused := Between.remaining_of_declared (relocated.ahead ▸ opens)
    (relocated.comments ▸ reads.annotated) declared
  rw [moved.remaining, refused, before.line_eq cutFirst,
    ((scans.joined ended closed second).trans moved).line_eq cut]
  rfl

end Joined

/-- Texts with a blank line between them are read one after the other.  If they share no name the
queries of both are found, and else the first statement of the second text whose name the first
one declares is refused. -/
theorem parseText_append {source firstSource secondSource first second : String}
    {queries others : List SourceQuery} (accepted : parseText firstSource first = .ok queries)
    (otherAccepted : parseText secondSource second = .ok others)
    (outside : EndsOutside first.toList) :
    ((∀ query ∈ queries, ∀ other ∈ others, other.name ≠ query.name) →
      parseText source (first ++ "\n\n" ++ second) = .ok (queries ++ others)) ∧
    ∀ before other after, others = before ++ other :: after →
      (∀ fresh ∈ before, ∀ query ∈ queries, fresh.name ≠ query.name) →
      (∃ query ∈ queries, other.name = query.name) →
      ∃ inFirst inSecond, Declares first.toList other.name inFirst ∧
        Declares second.toList other.name inSecond ∧
        parseText source (first ++ "\n\n" ++ second) =
          .error (.input (LocatedFault.message source
            ⟨lineAfter (first.toList ++ '\n' :: '\n' :: inSecond),
              .duplicateName other.name (lineAfter inFirst)⟩)) := by
  obtain ⟨readings, last, scans, ended, closed⟩ := outside
  have read : parse first = .ok (readings.map Reading.query) :=
    Between.remaining_eq_ok_iff.mpr ⟨readings, last, scans, ended, rfl⟩
  rw [parseText_eq_ok_iff, read] at accepted
  cases accepted
  obtain ⟨later, lastLater, laterScans, laterEnded, rfl⟩ :=
    scans_of_accepted (parseText_eq_ok_iff.mp otherAccepted)
  have whole : (first ++ "\n\n" ++ second).toList =
      first.toList ++ '\n' :: '\n' :: second.toList := by
    simp
  have joined : parse (first ++ "\n\n" ++ second) =
      (Between.joined last.declared first.toList second.toList).remaining.map
        fun queries => readings.map Reading.query ++ queries := by
    rw [parse_eq_remaining, whole, (scans.joined ended closed second.toList).remaining]
  refine ⟨fun disjoint => ?_, fun before other after same fresh known => ?_⟩
  · rw [parseText_eq_ok_iff, joined, scans.remaining_joined_of_fresh laterScans laterEnded]
    · rfl
    · intro reading known other member
      exact disjoint _ (List.mem_map_of_mem known) _ (List.mem_map_of_mem member)
  · obtain ⟨before, rest, rfl, rfl, cut⟩ := List.map_eq_append_iff.mp same
    obtain ⟨other, after, rfl, rfl, rfl⟩ := List.map_eq_cons_iff.mp cut
    obtain ⟨_, declaredBy, named⟩ := known
    obtain ⟨reading, member, rfl⟩ := List.mem_map.mp declaredBy
    obtain ⟨inFirst, inSecond, declared, declaredAgain, refused⟩ :=
      scans.remaining_joined_of_declared ended closed laterScans
        (fun reading known other member =>
          fresh _ (List.mem_map_of_mem member) _ (List.mem_map_of_mem known))
        ⟨reading, member, named⟩
    refine ⟨inFirst, inSecond, declared, declaredAgain, ?_⟩
    rw [parseText, joined, refused]
    rfl

/-- A file that ends in a comment after its only statement. -/
def closedFile : String := "-- name: Find :many\nSELECT 1;-- more"

/-- The query of `closedFile`. -/
def closedQuery : SourceQuery :=
  ⟨"Find", "SELECT 1;", [], .many, ["-- name: Find :many"]⟩

theorem closedFile_endsOutside : EndsOutside closedFile.toList := by
  have annotated : (Piece.lineComment "-- name: Find :many".toList).HasForm :=
    ⟨" name: Find :many".toList, by decide, by decide⟩
  have comment : (Piece.lineComment "-- more".toList).HasForm :=
    ⟨" more".toList, by decide, by decide⟩
  have lexed (behind after : List Char) :
      Lexed behind [.plain "SELECT 1".toList, .semicolon] after :=
    .cons ⟨by simp, by simp [isSpecial]⟩ (by rintro c ⟨⟩; rfl)
      (.cons trivial trivial (.nil _ _))
  have opens : OpensStatement "SELECT 1;-- more".toList := by constructor <;> simp [isBlank]
  have reads (behind : List Char) (line : Nat) :
      Between.Reads ⟨[], ["-- name: Find :many".toList], behind, line, "SELECT 1;-- more".toList⟩
        ⟨[.plain "SELECT 1".toList, .semicolon], closedQuery⟩
        (Cursor.advance ⟨behind, line, []⟩ "SELECT 1;".toList "-- more".toList) :=
    { annotated := (by decide : annotation ["-- name: Find :many".toList] = .ok ("Find", .many))
      fresh := rfl
      lexed := statementLexemes_of_lexed (lexed behind _) rfl (.cons (by decide) (.semicolon _))
      prepares := ⟨by decide, by decide⟩
      documented := rfl
      nonempty := by decide }
  have scans := @Scans.gap (.start closedFile.toList) _ _ _ ('\n' :: "SELECT 1;-- more".toList)
    annotated (by rintro c ⟨⟩; rfl) rfl <|
      @Scans.gap _ _ _ _ "SELECT 1;-- more".toList Piece.newline_hasForm
        (by rintro c ⟨⟩; decide) rfl <|
        .statement opens (reads _ _) <|
          @Scans.gap _ _ _ _ [] comment (by rintro c ⟨⟩) rfl (.done _)
  exact ⟨_, _, scans, rfl, by rintro reading ⟨⟩; decide⟩

/-- A file with a name of its own. -/
def clearFile : String := "-- name: Clear :exec\nDELETE FROM t;"

/-- The query of `clearFile`. -/
def clearQuery : SourceQuery := ⟨"Clear", "DELETE FROM t;", [], .exec, ["-- name: Clear :exec"]⟩

/-- The query of `clearFile`, and another one by the name of `closedQuery`. -/
def againFile : String := clearFile ++ "\n-- name: Find :one\nSELECT 2"

/-- The second query of `againFile`. -/
def againQuery : SourceQuery := ⟨"Find", "SELECT 2", [], .one, ["-- name: Find :one"]⟩

theorem parseText_append_closed_file :
    parseText "closed.sql" closedFile = .ok [closedQuery] ∧ EndsOutside closedFile.toList ∧
      parseText "clear.sql" clearFile = .ok [clearQuery] ∧
      parseText "again.sql" againFile = .ok [clearQuery, againQuery] ∧
      parseText "all.sql" (closedFile ++ "\n\n" ++ clearFile) = .ok [closedQuery, clearQuery] ∧
      ∃ inFirst inSecond, Declares closedFile.toList "Find" inFirst ∧
        Declares againFile.toList "Find" inSecond ∧
        parseText "all.sql" (closedFile ++ "\n\n" ++ againFile) =
          .error (.input (LocatedFault.message "all.sql"
            ⟨lineAfter (closedFile.toList ++ '\n' :: '\n' :: inSecond),
              .duplicateName "Find" (lineAfter inFirst)⟩)) := by
  have accepted : parseText "closed.sql" closedFile = .ok [closedQuery] :=
    parseText_eq_ok_iff.mpr (by decide +kernel)
  have clearAccepted : parseText "clear.sql" clearFile = .ok [clearQuery] :=
    parseText_eq_ok_iff.mpr (by decide +kernel)
  have againAccepted : parseText "again.sql" againFile = .ok [clearQuery, againQuery] :=
    parseText_eq_ok_iff.mpr (by decide +kernel)
  refine ⟨accepted, closedFile_endsOutside, clearAccepted, againAccepted, ?_, ?_⟩
  · exact (parseText_append accepted clearAccepted closedFile_endsOutside).1 (by decide)
  · exact (parseText_append accepted againAccepted closedFile_endsOutside).2 [clearQuery] againQuery
      [] rfl (by decide) (by decide)

end QueryTyping.QueryFile
