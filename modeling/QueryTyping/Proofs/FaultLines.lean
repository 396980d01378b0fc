import QueryTyping.Proofs.Concatenation

/-!
# The lines of faults

The line of a fault is one more than the newlines before its culprit: the statement that
is not annotated as it should be, that has no SQL, or whose name is taken, and else the
string, dollar quote or comment that never ends, within a statement or between two.
A text is refused exactly if it has such a culprit (`parseText_fault_line`).
-/

namespace QueryTyping.QueryFile

open QueryTyping.Text

/-- No quote in the text closes what was opened before it. -/
def Unclosed (quote : Char) (escapes : Bool) (body : List Char) : Prop :=
  ∀ text after, ClosesQuote quote escapes text → body = text ++ after → after.head? = some quote

/-- The text begins with a token that never ends.  What lies behind is given backwards. -/
inductive LeftOpen (behind : List Char) : Unterminated → List Char → Prop
  | string {body : List Char} (unclosed : Unclosed '\'' (opensEscapes behind) body) :
    LeftOpen behind .quotedString ('\'' :: body)
  | identifier {body : List Char} (unclosed : Unclosed '"' false body) :
    LeftOpen behind .quotedString ('"' :: body)
  | dollarQuote {tag body : List Char} (isTag : IsDollarTag tag) (unclosed : ¬ tag <:+: body) :
    LeftOpen behind .dollarQuoted (tag ++ body)
  | comment {body : List Char}
    (unclosed : ∀ text after, ClosesComment text → body ≠ text ++ after) :
    LeftOpen behind .blockComment ('/' :: '*' :: body)

theorem closeComment_eq_none_iff {s : List Char} :
    closeComment 1 s = none ↔ ∀ text after, ClosesComment text → s ≠ text ++ after := by
  rw [Option.eq_none_iff_forall_ne_some]
  constructor
  · rintro uncut text after closes rfl
    exact uncut _ (closeComment_of_closes closes after)
  · rintro unclosed ⟨text, after⟩ cut
    obtain ⟨closes, same⟩ := closeComment_eq_some_iff.mp cut
    exact unclosed text after closes same.symm

theorem closeQuote_eq_none_iff {quote : Char} {escapes : Bool} {s : List Char}
    (plain : quote ≠ '\\') : closeQuote quote escapes s = none ↔ Unclosed quote escapes s := by
  rw [Option.eq_none_iff_forall_ne_some]
  constructor
  · rintro uncut text after closes rfl
    by_contra single
    exact uncut _ (closeQuote_of_closes plain closes single)
  · rintro unclosed ⟨text, after⟩ cut
    obtain ⟨closes, single, same⟩ := (closeQuote_eq_some_iff plain).mp cut
    exact single (unclosed text after closes same.symm)

theorem prepend_eq_none_iff {text : List Char} {cut : Option Cut} :
    prepend text cut = none ↔ cut = none := by
  cases cut <;> simp [prepend]

theorem closeMark_eq_none_iff {mark s : List Char} (marked : mark ≠ []) :
    closeMark mark s = none ↔ ¬ mark <:+: s := by
  induction s with
  | nil => simpa [closeMark] using marked
  | cons c rest ih =>
    rw [closeMark, List.infix_cons_iff]
    cases found : stripStart? mark (c :: rest) with
    | some after =>
      have begins : mark <+: c :: rest := ⟨after, stripStart?_eq_some found⟩
      simp [begins]
    | none =>
      have elsewhere : ¬ mark <+: c :: rest := by
        rintro ⟨after, same⟩
        rw [stripStart?_eq_some_iff.mpr same] at found
        cases found
      simp only [prepend_eq_none_iff, ih, elsewhere, false_or]

section Open

variable {before rest : List Char} {c : Char} {unterminated : Unterminated}

theorem leftOpen_of_protected? (failed : protected? before c rest = .error unterminated) :
    LeftOpen before unterminated (c :: rest) := by
  unfold protected? at failed
  split at failed
  · cases failed
  · split at failed
    · cases failed
    next uncut =>
      cases failed
      exact .comment (closeComment_eq_none_iff.mp uncut)
  · split at failed
    · cases failed
    next uncut =>
      cases failed
      exact .string ((closeQuote_eq_none_iff (by decide)).mp uncut)
  · split at failed
    · cases failed
    next uncut =>
      cases failed
      exact .identifier ((closeQuote_eq_none_iff (by decide)).mp uncut)
  · split at failed
    next tag body opened =>
      obtain ⟨isTag, same⟩ := dollarTag_eq_some_iff.mp opened
      split at failed
      · cases failed
      next uncut =>
        cases failed
        rw [← same]
        exact .dollarQuote isTag ((closeMark_eq_none_iff isTag.ne_nil).mp uncut)
    · cases failed
  · cases failed

theorem LeftOpen.protected?_eq_error (leftOpen : LeftOpen before unterminated (c :: rest)) :
    protected? before c rest = .error unterminated := by
  generalize whole : c :: rest = text at leftOpen
  cases leftOpen with
  | string unclosed =>
    cases whole
    simp only [protected?, (closeQuote_eq_none_iff (by decide)).mpr unclosed]
  | identifier unclosed =>
    cases whole
    simp only [protected?, (closeQuote_eq_none_iff (by decide)).mpr unclosed]
  | @dollarQuote tag body isTag unclosed =>
    obtain rfl : c = '$' := by
      obtain ⟨name, rfl, -⟩ := isTag
      exact (List.cons.inj whole).1
    have opened : dollarTag rest = some (tag, body) :=
      dollarTag_eq_some_iff.mpr ⟨isTag, whole.symm⟩
    simp only [protected?, opened, (closeMark_eq_none_iff isTag.ne_nil).mpr unclosed]
  | comment unclosed =>
    cases whole
    simp only [protected?, closeComment_eq_none_iff.mpr unclosed]

theorem LeftOpen.opener (leftOpen : LeftOpen before unterminated (c :: rest)) :
    c ∈ ['\'', '"', '$', '/'] := by
  generalize whole : c :: rest = text at leftOpen
  cases leftOpen with
  | string | identifier | comment =>
    cases whole
    decide
  | dollarQuote isTag =>
    obtain ⟨name, rfl, -⟩ := isTag
    cases whole
    decide

theorem LeftOpen.ne_nil {text : List Char} (leftOpen : LeftOpen before unterminated text) :
    text ≠ [] := by
  cases leftOpen with
  | string | identifier | comment => exact List.cons_ne_nil _ _
  | dollarQuote isTag => exact List.append_ne_nil_of_left_ne_nil isTag.ne_nil _

/-- Reading a lexeme fails exactly where a token never ends. -/
theorem Lexeme.next_eq_error_iff :
    Lexeme.next before c rest = .error unterminated ↔ LeftOpen before unterminated (c :: rest) := by
  constructor
  · intro failed
    unfold Lexeme.next Lexeme.nextSpecial at failed
    split at failed
    · split at failed
      · cases failed
      · split at failed
        · cases failed
        · exact leftOpen_of_protected? failed
    · cases failed
  · intro leftOpen
    have openers : ∀ c ∈ ['\'', '"', '$', '/'], isSpecial c = true ∧ c ≠ 'p' ∧ c ≠ ';' := by
      simp [isSpecial]
    obtain ⟨special, unmarked, unended⟩ := openers c leftOpen.opener
    rw [Lexeme.next, if_pos special, Lexeme.nextSpecial, marker?_cons_eq_none unmarked]
    simp only [unended, if_false]
    exact leftOpen.protected?_eq_error

end Open

section Statement

variable {here : Cursor} {read : List Lexeme} {lexeme : Lexeme} {c : Char}
  {rest after : List Char} {unterminated : Unterminated}

theorem statementLexemes_of_error (ahead : here.ahead = c :: rest)
    (failed : Lexeme.next here.behind c rest = .error unterminated) :
    statementLexemes here = .error ⟨here.line, openFault unterminated⟩ := by
  rw [statementLexemes_of_cons ahead, failed]

/-- The lexemes of a statement lead to a token that never ends. -/
structure Cursor.LeadsTo (here : Cursor) (read : List Lexeme) (unterminated : Unterminated)
    (rest : List Char) : Prop where
  lexed : Lexed here.behind read rest
  ahead : here.ahead = texts read ++ rest
  unended : .semicolon ∉ read
  leftOpen : LeftOpen ((texts read).reverse ++ here.behind) unterminated rest

theorem exists_leadsTo_of_error {located : LocatedFault}
    (failed : statementLexemes here = .error located) :
    ∃ read unterminated rest, here.LeadsTo read unterminated rest ∧
      located = ⟨here.line + (texts read).count '\n', openFault unterminated⟩ := by
  fun_induction statementLexemes here with
  | case1 => cases failed
  | case2 here c rest ahead unterminated next =>
    cases failed
    exact ⟨[], unterminated, c :: rest,
      ⟨.nil _ _, ahead, List.not_mem_nil, Lexeme.next_eq_error_iff.mp next⟩, rfl⟩
  | case3 => cases failed
  | case4 here c rest ahead lexeme after other next fault others ih =>
    cases failed
    obtain ⟨read, unterminated, rest, ⟨lexed, whole, unended, leftOpen⟩, rfl⟩ := ih others
    obtain ⟨form, ends, text⟩ := Lexeme.next_eq_ok_iff.mp next
    rw [Cursor.advance_ahead] at whole
    rw [Cursor.advance_behind] at lexed leftOpen
    subst whole
    refine ⟨lexeme :: read, unterminated, rest, ⟨.cons form ends lexed, ?_, ?_, ?_⟩, ?_⟩
    · rw [ahead, ← text, texts_cons, List.append_assoc]
    · exact List.not_mem_cons_of_ne_of_not_mem (Ne.symm other) unended
    · rwa [texts_cons, List.reverse_append, List.append_assoc]
    · rw [Cursor.advance_line, texts_cons, List.count_append, Nat.add_assoc]
  | case5 => cases failed

theorem Cursor.LeadsTo.statementLexemes_eq (leads : here.LeadsTo read unterminated rest) :
    statementLexemes here =
      .error ⟨here.line + (texts read).count '\n', openFault unterminated⟩ := by
  obtain ⟨lexed, ahead, unended, leftOpen⟩ := leads
  induction read generalizing here with
  | nil =>
    obtain ⟨c, rest, rfl⟩ := List.exists_cons_of_ne_nil leftOpen.ne_nil
    exact statementLexemes_of_error ahead (Lexeme.next_eq_error_iff.mpr leftOpen)
  | cons lexeme read ih =>
    obtain ⟨other, unended⟩ := List.ne_and_not_mem_of_not_mem_cons unended
    cases lexed with
    | cons form ends lexed =>
      obtain ⟨c, more, text⟩ := List.exists_cons_of_ne_nil form.ne_nil
      have next : Lexeme.next here.behind c (more ++ (texts read ++ rest)) =
          .ok (lexeme, texts read ++ rest) := by
        rw [Lexeme.next_eq_ok_iff, text]
        exact ⟨form, ends, rfl⟩
      have start : here.ahead = c :: (more ++ (texts read ++ rest)) := by
        rw [ahead, texts_cons, text, List.append_assoc]
        rfl
      have others := @ih (here.advance lexeme.text (texts read ++ rest)) (by simpa using lexed)
        rfl unended (by simpa using leftOpen)
      rw [statementLexemes_of_lexeme start next (Ne.symm other), others, Cursor.advance_line,
        texts_cons, List.count_append, Nat.add_assoc]
      rfl

end Statement

section Scans

variable {between last : Between} {readings : List Reading} {comments : List (List Char)}
  {here : Cursor} {c : Char} {rest : List Char} {located : LocatedFault}

/-- Between statements only a comment can be left open. -/
theorem gapStep_eq_error_iff :
    gapStep comments here c rest = some (.error located) ↔
      LeftOpen here.behind .blockComment (c :: rest) ∧ located = ⟨here.line, .openComment⟩ := by
  constructor
  · intro failed
    unfold gapStep at failed
    split at failed
    · cases failed
    · split at failed
      · cases failed
      · split at failed
        · cases failed
        next uncut =>
          cases failed
          exact ⟨.comment (closeComment_eq_none_iff.mp uncut), rfl⟩
      · cases failed
      · cases failed
  · rintro ⟨leftOpen, rfl⟩
    generalize whole : c :: rest = text at leftOpen
    cases leftOpen with
    | comment unclosed =>
      cases whole
      unfold gapStep
      rw [if_neg (by decide)]
      simp only [closeComment_eq_none_iff.mpr unclosed]

/-- A scan comes to a comment that never ends, or to a statement that is refused. -/
inductive Between.Fails (between : Between) : LocatedFault → Prop
  | comment (leftOpen : LeftOpen between.here.behind .blockComment between.here.ahead) :
    Fails between ⟨between.here.line, .openComment⟩
  | statement {located : LocatedFault} (opens : OpensStatement between.here.ahead)
    (refused : statement between.declared between.comments between.here = .error located) :
    Fails between located

theorem Between.Fails.remaining_eq (fails : between.Fails located) :
    between.remaining = .error located := by
  cases fails with
  | comment leftOpen =>
    obtain ⟨c, rest, ahead⟩ := List.exists_cons_of_ne_nil leftOpen.ne_nil
    have step : gapStep between.comments between.here c rest =
        some (.error ⟨between.here.line, .openComment⟩) :=
      gapStep_eq_error_iff.mpr ⟨ahead ▸ leftOpen, rfl⟩
    rw [Between.remaining, queriesFrom_of_cons ahead, step]
  | statement opens refused => rw [Between.remaining_of_statement opens, refused]

theorem Between.remaining_eq_error_iff :
    between.remaining = .error located ↔
      ∃ readings place, Scans between readings place ∧ place.Fails located := by
  constructor
  · intro failed
    obtain ⟨declared, comments, here⟩ := between
    unfold Between.remaining at failed
    simp only at failed
    fun_induction queriesFrom declared comments here with
    | case1 => cases failed
    | case2 declared comments here c rest ahead fault step =>
      cases failed
      obtain ⟨leftOpen, rfl⟩ := gapStep_eq_error_iff.mp step
      have fails : Between.Fails ⟨declared, comments, here⟩ ⟨here.line, .openComment⟩ :=
        .comment (ahead ▸ leftOpen)
      exact ⟨[], _, .done _, fails⟩
    | case3 declared comments here c rest ahead attached next step ih =>
      obtain ⟨readings, place, scans, fails⟩ := ih failed
      obtain ⟨piece, form, ends, text, moved, rfl⟩ := exists_piece_of_gapStep step
      refine ⟨readings, place, .gap form ends (ahead.trans text) ?_, fails⟩
      rwa [Between.skip, ← moved]
    | case4 declared comments here c rest ahead step fault refused =>
      cases failed
      have opens : OpensStatement here.ahead := ahead ▸ gapStep_eq_none_iff.mp step
      exact ⟨[], _, .done ⟨declared, comments, here⟩, .statement opens refused⟩
    | case5 declared comments here c rest ahead step query stop read fault later ih =>
      cases failed
      obtain ⟨readings, place, scans, fails⟩ := ih later
      obtain ⟨lexemes, reads⟩ : ∃ lexemes, Between.Reads ⟨declared, comments, here⟩
          ⟨lexemes, query⟩ stop := statement_eq_ok_iff.mp read
      have opens : OpensStatement here.ahead := ahead ▸ gapStep_eq_none_iff.mp step
      exact ⟨⟨lexemes, query⟩ :: readings, place, .statement opens reads scans, fails⟩
    | case6 => cases failed
  · rintro ⟨readings, place, scans, fails⟩
    rw [scans.remaining, fails.remaining_eq]
    rfl

/-- A declared name was declared before, or by a statement that the scan read on its way. -/
theorem Scans.exists_declaring {name : String} {line : Nat} (scans : Scans between readings last)
    (found : last.declared.lookup name = some line) :
    between.declared.lookup name = some line ∨
      ∃ first middle reading stop later, readings = first ++ reading :: later ∧
        Scans between first middle ∧ OpensStatement middle.here.ahead ∧
        middle.Reads reading stop ∧ Scans (middle.next reading stop) later last ∧
        reading.query.name = name ∧ middle.here.line = line := by
  induction scans with
  | done => exact .inl found
  | gap form ends ahead _ ih =>
    rcases ih found with before | ⟨first, middle, reading, stop, later, rfl, scans, declares⟩
    · exact .inl before
    · exact .inr ⟨first, middle, reading, stop, later, rfl, .gap form ends ahead scans, declares⟩
  | @statement between last read readings stop opens reads others ih =>
    rcases ih found with before | ⟨first, middle, reading, place, later, rfl, scans, declares⟩
    · rw [Between.next, List.lookup_cons] at before
      split at before
      next same =>
        refine .inr ⟨[], between, read, stop, readings, rfl, .done between, opens, reads, others,
          (eq_of_beq same).symm, Option.some.inj before⟩
      next => exact .inl before
    · exact .inr ⟨read :: first, middle, reading, place, later, rfl,
        .statement opens reads scans, declares⟩

/-- A declared name stays declared where it was. -/
theorem Scans.lookup_eq_some {name : String} {line : Nat} (scans : Scans between readings last)
    (declared : between.declared.lookup name = some line) :
    last.declared.lookup name = some line := by
  induction scans with
  | done => exact declared
  | gap _ _ _ _ ih => exact ih declared
  | @statement between _ reading _ stop _ reads _ ih =>
    have different : name ≠ reading.query.name := by
      rintro rfl
      rw [reads.fresh] at declared
      cases declared
    refine ih ?_
    rw [Between.next, List.lookup_cons, beq_false_of_ne different]
    exact declared

end Scans

/-- A scan of the text comes to a statement behind `before`. -/
structure ComesTo (text before : List Char) (readings : List Reading) (place : Between) : Prop where
  scans : Scans (.start text) readings place
  cut : text = before ++ place.here.ahead
  opens : OpensStatement place.here.ahead

/-- What is wrong with the text begins behind `before`. -/
inductive Culprit (text : List Char) : List Char → Fault → Prop
  /-- A statement without a valid annotation. -/
  | unannotated {before : List Char} {readings : List Reading} {place : Between} {fault : Fault}
    (comes : ComesTo text before readings place)
    (invalid : annotation place.comments = .error fault) : Culprit text before fault
  /-- A statement with the name of an earlier one, which is reported on the line it begins on. -/
  | duplicate {before earlier : List Char} {readings later : List Reading} {origin place : Between}
    {reading : Reading} {stop : Cursor} {kind : ResultKind}
    (declares : ComesTo text earlier readings origin) (reads : origin.Reads reading stop)
    (goesOn : Scans (origin.next reading stop) later place)
    (comes : ComesTo text before (readings ++ reading :: later) place)
    (annotated : annotation place.comments = .ok (reading.query.name, kind)) :
    Culprit text before (.duplicateName reading.query.name (lineAfter earlier))
  /-- A statement of semicolons and white space. -/
  | noSql {before after : List Char} {readings : List Reading} {place : Between} {name : String}
    {kind : ResultKind} {lexemes : List Lexeme} (comes : ComesTo text before readings place)
    (annotated : annotation place.comments = .ok (name, kind))
    (fresh : ∀ reading ∈ readings, name ≠ reading.query.name)
    (lexed : Lexed place.here.behind lexemes after)
    (ahead : place.here.ahead = texts lexemes ++ after) (terminated : Terminated lexemes after)
    (empty : isEmptyStatement (trim (assembled lexemes)) = true) :
    Culprit text before (.noSql name)
  /-- A token within a statement that never ends. -/
  | token {before rest : List Char} {readings : List Reading} {place : Between} {name : String}
    {kind : ResultKind} {read : List Lexeme} {unterminated : Unterminated}
    (comes : ComesTo text before readings place)
    (annotated : annotation place.comments = .ok (name, kind))
    (fresh : ∀ reading ∈ readings, name ≠ reading.query.name)
    (leads : place.here.LeadsTo read unterminated rest) :
    Culprit text (before ++ texts read) (openFault unterminated)
  /-- A comment between statements that never ends. -/
  | comment {before : List Char} {readings : List Reading} {place : Between}
    (scans : Scans (.start text) readings place) (cut : text = before ++ place.here.ahead)
    (leftOpen : LeftOpen place.here.behind .blockComment place.here.ahead) :
    Culprit text before .openComment

section Culprits

variable {text before : List Char} {readings : List Reading} {place : Between} {fault : Fault}
  {located : LocatedFault}

theorem ComesTo.line_eq (comes : ComesTo text before readings place) :
    place.here.line = lineAfter before :=
  comes.scans.line_eq comes.cut

theorem ComesTo.fresh_iff (comes : ComesTo text before readings place) {name : String} :
    place.declared.lookup name = none ↔ ∀ reading ∈ readings, name ≠ reading.query.name := by
  rw [comes.scans.lookup_eq_none_iff]
  exact and_iff_right rfl

theorem lineAfter_append (first second : List Char) :
    lineAfter (first ++ second) = lineAfter first + second.count '\n' := by
  rw [lineAfter, lineAfter, List.count_append, Nat.add_assoc]

/-- A refused statement is the culprit, or holds it. -/
theorem ComesTo.exists_culprit (comes : ComesTo text before readings place)
    (refused : statement place.declared place.comments place.here = .error located) :
    ∃ before, Culprit text before located.fault ∧ located.line = lineAfter before := by
  unfold statement at refused
  split at refused
  next fault invalid =>
    cases refused
    exact ⟨before, .unannotated comes invalid, comes.line_eq⟩
  next name kind annotated =>
    split at refused
    next line declared =>
      cases refused
      rcases comes.scans.exists_declaring declared with impossible |
        ⟨first, origin, reading, stop, later, rfl, toOrigin, opens, reads, goesOn, rfl, rfl⟩
      · cases impossible
      · obtain ⟨earlier, cut, -⟩ := toOrigin.passes
        have declares : ComesTo text earlier first origin := ⟨toOrigin, cut, opens⟩
        rw [declares.line_eq]
        exact ⟨before, .duplicate declares reads goesOn comes annotated, comes.line_eq⟩
    next undeclared =>
      have fresh := comes.fresh_iff.mp undeclared
      split at refused
      next fault failed =>
        cases refused
        obtain ⟨read, unterminated, rest, leads, rfl⟩ := exists_leadsTo_of_error failed
        refine ⟨before ++ texts read, .token comes annotated fresh leads, ?_⟩
        rw [lineAfter_append, comes.line_eq]
      next lexemes stop lexed =>
        simp only [placeholders_eq] at refused
        split at refused
        next empty =>
          cases refused
          obtain ⟨lexed, ahead, terminated, -⟩ := lexed_of_statementLexemes lexed
          exact ⟨before, .noSql comes annotated fresh lexed ahead terminated empty, comes.line_eq⟩
        next => cases refused

/-- The scan of a text fails at its culprit, on the line of its first character. -/
theorem Culprit.exists_fails (culprit : Culprit text before fault) :
    ∃ readings place, Scans (.start text) readings place ∧
      place.Fails ⟨lineAfter before, fault⟩ := by
  cases culprit with
  | @unannotated _ readings place _ comes invalid =>
    refine ⟨readings, place, comes.scans, .statement comes.opens ?_⟩
    rw [statement, invalid, comes.line_eq]
  | @duplicate _ earlier _ _ origin place reading stop kind declares reads goesOn comes annotated =>
    have declared : place.declared.lookup reading.query.name = some (lineAfter earlier) := by
      refine goesOn.lookup_eq_some ?_
      rw [Between.next, List.lookup_cons_self, declares.line_eq]
    refine ⟨_, place, comes.scans, .statement comes.opens ?_⟩
    rw [statement, annotated]
    simp only [declared, comes.line_eq]
  | @noSql _ after readings place name kind lexemes comes annotated fresh lexed ahead terminated
      empty =>
    have undeclared := comes.fresh_iff.mpr fresh
    refine ⟨readings, place, comes.scans, .statement comes.opens ?_⟩
    rw [assembled] at empty
    rw [statement, annotated]
    simp only [undeclared, statementLexemes_of_lexed lexed ahead terminated, placeholders_eq, empty,
      if_true, comes.line_eq]
  | @token before _ readings place name kind read unterminated comes annotated fresh leads =>
    have undeclared := comes.fresh_iff.mpr fresh
    refine ⟨readings, place, comes.scans, .statement comes.opens ?_⟩
    rw [statement, annotated]
    simp only [undeclared, leads.statementLexemes_eq, lineAfter_append, comes.line_eq]
  | @comment _ readings place scans cut leftOpen =>
    rw [← scans.line_eq cut]
    exact ⟨readings, place, scans, .comment leftOpen⟩

theorem parse_eq_error_iff {text : String} :
    parse text = .error located ↔
      ∃ before, Culprit text.toList before located.fault ∧ located.line = lineAfter before := by
  rw [parse_eq_remaining, Between.remaining_eq_error_iff]
  constructor
  · rintro ⟨readings, place, scans, fails⟩
    obtain ⟨before, cut, -⟩ := scans.passes
    cases fails with
    | comment leftOpen => exact ⟨before, .comment scans cut leftOpen, scans.line_eq cut⟩
    | statement opens refused => exact ComesTo.exists_culprit ⟨scans, cut, opens⟩ refused
  · rintro ⟨before, culprit, line⟩
    obtain ⟨readings, place, scans, fails⟩ := culprit.exists_fails
    rw [← line] at fails
    exact ⟨readings, place, scans, fails⟩

end Culprits

theorem parseText_eq_error_iff {source text : String} {failure : Failure} :
    parseText source text = .error failure ↔
      ∃ located, parse text = .error located ∧ failure = .input (located.message source) := by
  unfold parseText
  cases parse text <;> simp [eq_comm]

/-- A text is refused exactly for a culprit in it, and the failure names the source, one more than
the newlines before the first character of the culprit, and what is wrong with it. -/
theorem parseText_fault_line (source text : String) (failure : Failure) :
    parseText source text = .error failure ↔
      ∃ before fault, Culprit text.toList before fault ∧
        failure = .input (source ++ ":" ++ toString (lineAfter before) ++ ": " ++
          fault.message) := by
  rw [parseText_eq_error_iff]
  constructor
  · rintro ⟨located, failed, rfl⟩
    obtain ⟨before, culprit, line⟩ := parse_eq_error_iff.mp failed
    refine ⟨before, located.fault, culprit, ?_⟩
    rw [LocatedFault.message, line]
  · rintro ⟨before, fault, culprit, rfl⟩
    exact ⟨⟨lineAfter before, fault⟩, parse_eq_error_iff.mpr ⟨before, culprit, rfl⟩, rfl⟩

/-- A name that is declared again, behind a statement of three lines. -/
example :
    parse "-- name: Twice :one\nSELECT '\n\n';\n-- name: Twice :exec\nDELETE FROM t" =
      .error ⟨6, .duplicateName "Twice" 2⟩ := by
  decide +kernel

end QueryTyping.QueryFile
