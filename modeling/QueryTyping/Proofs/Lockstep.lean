import QueryTyping.Proofs.Relocation

/-!
# Two texts that begin alike

Two texts agree up to some place, and go on from there with the same character.  As
long as both are read whole lexemes at a time, reading takes the same steps in both
up to that place (`Reaches.lockstep`).

A lexeme ends where it does for reasons that lie within the common part or in the
character after it, with one exception: whether a `p` begins a parameter marker may
be decided further on.  There the other text is asked, which has a longer lexeme or
a `p` alone as well.
-/

namespace QueryTyping.QueryFile

open QueryTyping.Text

/-- The texts are the same, or begin with the same character, which is no part of a dollar tag. -/
def SameStart (first second : List Char) : Prop :=
  first = second ∨
    ∃ c rest others, first = c :: rest ∧ second = c :: others ∧ isTagChar c = false

namespace SameStart

variable {first second : List Char}

theorem symm (same : SameStart first second) : SameStart second first := by
  rcases same with rfl | ⟨c, rest, others, rfl, rfl, untagged⟩
  · exact .inl rfl
  · exact .inr ⟨c, others, rest, rfl, rfl, untagged⟩

theorem head?_append (same : SameStart first second) (text : List Char) :
    (text ++ first).head? = (text ++ second).head? := by
  rcases same with rfl | ⟨c, rest, others, rfl, rfl, -⟩
  · rfl
  · cases text <;> rfl

theorem dollarTag_append (same : SameStart first second) {text : List Char}
    (untagged : dollarTag (text ++ first) = none) : dollarTag (text ++ second) = none := by
  rcases same with rfl | ⟨c, rest, others, rfl, rfl, untaggedChar⟩
  · exact untagged
  · have stops : ∃ d ∈ text ++ [c], isTagChar d = false :=
      ⟨c, List.mem_append_right _ (List.mem_singleton_self c), untaggedChar⟩
    rw [← List.singleton_append, ← List.append_assoc] at untagged ⊢
    rw [dollarTag_append_of_stops stops, Option.map_eq_none_iff] at untagged
    rw [dollarTag_append_of_stops stops, untagged]
    rfl

theorem piece_endsBefore (same : SameStart first second) {piece : Piece} {text : List Char}
    (ends : piece.EndsBefore (text ++ first)) : piece.EndsBefore (text ++ second) := by
  cases piece with
  | blanks | lineComment =>
    simp only [Piece.EndsBefore, same.head?_append text] at ends ⊢
    exact ends
  | blockComment | semicolon => trivial

theorem lexeme_endsBefore (same : SameStart first second) {lexeme : Lexeme} {text : List Char}
    (other : lexeme ≠ .lone 'p') (ends : lexeme.EndsBefore (text ++ first)) :
    lexeme.EndsBefore (text ++ second) := by
  cases lexeme with
  | plain | lineComment | quoted =>
    simp only [Lexeme.EndsBefore, same.head?_append text] at ends ⊢
    exact ends
  | lone c =>
    obtain ⟨untagged, unstarred, undashed, -⟩ := ends
    rw [same.head?_append text] at unstarred undashed
    refine ⟨fun dollar => same.dollarTag_append (untagged dollar), unstarred, undashed, ?_⟩
    rintro rfl
    exact absurd rfl other
  | marker | semicolon | blockComment | dollarQuoted => trivial

/-- The texts have the same first lexeme if it does not reach beyond their common part. -/
theorem lexeme_eq (same : SameStart first second) {behind text others : List Char}
    {one other : Lexeme} (form : one.HasForm (opensEscapes behind))
    (ends : one.EndsBefore (text ++ first)) (otherForm : other.HasForm (opensEscapes behind))
    (otherEnds : other.EndsBefore (others ++ second))
    (common : one.text ++ text = other.text ++ others) : one = other := by
  by_cases letter : one = .lone 'p'
  · by_cases otherLetter : other = .lone 'p'
    · rw [letter, otherLetter]
    · refine Lexeme.eq_of_hasForm form ends otherForm
        (same.symm.lexeme_endsBefore otherLetter otherEnds) ?_
      rw [← List.append_assoc, common, List.append_assoc]
  · refine Lexeme.eq_of_hasForm form (same.lexeme_endsBefore letter ends) otherForm otherEnds ?_
    rw [← List.append_assoc, common, List.append_assoc]

end SameStart

variable {first second : List Char}

/-- Of the lexemes of both texts one list goes on where the other stops. -/
theorem Lexed.prefix_or_prefix {behind text others : List Char} {one other : List Lexeme}
    (lexed : Lexed behind one (text ++ first)) (otherLexed : Lexed behind other (others ++ second))
    (same : SameStart first second) (common : texts one ++ text = texts other ++ others) :
    one <+: other ∨ other <+: one := by
  generalize whole : text ++ first = after at lexed
  induction lexed generalizing other with
  | nil => exact .inl (List.nil_prefix)
  | @cons behind after lexeme one form ends rest ih =>
    subst whole
    cases otherLexed with
    | nil => exact .inr (List.nil_prefix)
    | @cons _ _ otherLexeme other otherForm otherEnds otherRest =>
      rw [texts_cons, texts_cons, List.append_assoc, List.append_assoc] at common
      rw [← List.append_assoc] at ends otherEnds
      obtain rfl := same.lexeme_eq form ends otherForm otherEnds common
      refine (ih otherRest (List.append_cancel_left common) rfl).imp ?_ ?_
      · exact (List.prefix_cons_inj lexeme).mpr
      · exact (List.prefix_cons_inj lexeme).mpr

/-- Of two lists of lexemes of one text one goes on where the other stops. -/
theorem Lexed.prefix_or_prefix_of_same {behind after otherAfter : List Char}
    {one other : List Lexeme} (lexed : Lexed behind one after)
    (otherLexed : Lexed behind other otherAfter)
    (same : texts one ++ after = texts other ++ otherAfter) : one <+: other ∨ other <+: one := by
  rw [← List.append_nil after] at lexed
  rw [← List.append_nil otherAfter] at otherLexed
  exact lexed.prefix_or_prefix otherLexed (.inl rfl) same

/-- Lexemes are told from no lexemes by their text. -/
theorem Lexed.eq_nil {behind after : List Char} {lexemes : List Lexeme}
    (lexed : Lexed behind lexemes after) (empty : texts lexemes = []) : lexemes = [] := by
  cases lexed with
  | nil => rfl
  | cons form _ _ => exact absurd (List.append_eq_nil_iff.mp empty).1 form.ne_nil

/-- The lexemes that make up less of the common text come first in the others. -/
theorem Lexed.prefix_of_texts {behind text : List Char} {one other : List Lexeme}
    (lexed : Lexed behind one (text ++ first)) (otherLexed : Lexed behind other second)
    (same : SameStart first second) (common : texts one ++ text = texts other) : one <+: other := by
  have whole : texts one ++ text = texts other ++ [] := by rw [common, List.append_nil]
  have otherLexed : Lexed behind other ([] ++ second) := otherLexed
  rcases lexed.prefix_or_prefix otherLexed same whole with before | ⟨more, rfl⟩
  · exact before
  · rw [texts_append, List.append_assoc, List.append_right_eq_self] at common
    have empty := (lexed_append_iff.mp lexed).2.eq_nil (List.append_eq_nil_iff.mp common).1
    rw [empty, List.append_nil]

/-- The common text has the same lexemes in both texts. -/
theorem Lexed.eq_of_texts {behind : List Char} {one other : List Lexeme}
    (lexed : Lexed behind one first) (otherLexed : Lexed behind other second)
    (same : SameStart first second) (common : texts one = texts other) : one = other := by
  have whole : texts one ++ [] = texts other := by rw [common, List.append_nil]
  have lexed : Lexed behind one ([] ++ first) := lexed
  obtain ⟨more, rfl⟩ := lexed.prefix_of_texts otherLexed same whole
  rw [texts_append, List.self_eq_append_right] at common
  rw [(lexed_append_iff.mp otherLexed).2.eq_nil common, List.append_nil]

/-- Only the whole of a statement ends with its semicolon. -/
theorem Terminated.eq_of_prefix {one other : List Lexeme} {after otherAfter : List Char}
    (terminated : Terminated one after) (ended : .semicolon ∈ one)
    (otherTerminated : Terminated other otherAfter) (before : one <+: other) : one = other := by
  induction terminated generalizing other with
  | atEnd => cases ended
  | semicolon =>
    obtain ⟨more, rfl⟩ := before
    cases otherTerminated with
    | semicolon => rfl
    | cons different _ => exact absurd rfl different
  | @cons after lexeme lexemes different terminated ih =>
    have later : .semicolon ∈ lexemes := by
      rcases List.mem_cons.mp ended with same | later
      · exact absurd same.symm different
      · exact later
    cases otherTerminated with
    | atEnd => exact absurd before (by simp)
    | semicolon => exact absurd (List.cons_prefix_cons.mp before).1 different
    | cons _ otherTerminated =>
      obtain ⟨rfl, rest⟩ := List.cons_prefix_cons.mp before
      rw [ih later otherTerminated rest]

theorem Piece.HasForm.not_opensStatement {piece : Piece} (form : piece.HasForm)
    (after : List Char) : ¬ OpensStatement (piece.text ++ after) := by
  rintro ⟨-, unblank, unended, undashed, unstarred⟩
  cases piece with
  | blanks text =>
    obtain ⟨c, rest, rfl⟩ := List.exists_cons_of_ne_nil form.1
    have blank := form.2 c List.mem_cons_self
    rw [unblank c rfl] at blank
    cases blank
  | lineComment =>
    obtain ⟨body, rfl, -⟩ := form
    exact undashed ⟨body ++ after, rfl⟩
  | blockComment =>
    obtain ⟨body, rfl, -⟩ := form
    exact unstarred ⟨body ++ after, rfl⟩
  | semicolon => exact unended rfl

/-- A text has one first piece. -/
theorem Piece.same_of_hasForm {piece other : Piece} {after otherAfter : List Char}
    (form : piece.HasForm) (ends : piece.EndsBefore after) (otherForm : other.HasForm)
    (otherEnds : other.EndsBefore otherAfter)
    (same : piece.text ++ after = other.text ++ otherAfter) (comments : List (List Char)) :
    piece.text = other.text ∧ piece.attach comments = other.attach comments := by
  obtain ⟨c, rest, text⟩ := List.exists_cons_of_ne_nil form.ne_nil
  have read : gapStep comments (.start []) c (rest ++ after) =
      some (.ok (piece.attach comments, Cursor.advance (.start []) piece.text after)) :=
    gapStep_of_piece form ends (by rw [text]; rfl)
  have again : gapStep comments (.start []) c (rest ++ after) =
      some (.ok (other.attach comments, Cursor.advance (.start []) other.text otherAfter)) :=
    gapStep_of_piece otherForm otherEnds (by rw [← same, text]; rfl)
  rw [read] at again
  simp only [Option.some.injEq, Except.ok.injEq, Prod.mk.injEq] at again
  have ahead := congrArg Cursor.ahead again.2
  simp only [Cursor.advance_ahead] at ahead
  subst ahead
  exact ⟨List.append_cancel_right same, again.1⟩

/-- A statement and its comments determine its query. -/
theorem Between.Reads.query_eq {between other : Between} {lexemes : List Lexeme}
    {query otherQuery : SourceQuery} {stop otherStop : Cursor}
    (reads : between.Reads ⟨lexemes, query⟩ stop)
    (otherReads : other.Reads ⟨lexemes, otherQuery⟩ otherStop)
    (comments : other.comments = between.comments) : query = otherQuery := by
  obtain ⟨annotated, -, -, ⟨sql, params⟩, documented, -⟩ := reads
  obtain ⟨otherAnnotated, -, -, ⟨otherSql, otherParams⟩, otherDocumented, -⟩ := otherReads
  rw [comments, annotated] at otherAnnotated
  obtain ⟨name, preparedSql, paramNames, resultKind, doc⟩ := query
  obtain ⟨otherName, otherPreparedSql, otherParamNames, otherKind, otherDoc⟩ := otherQuery
  simp only [Except.ok.injEq, Prod.mk.injEq] at otherAnnotated
  simp only at sql params documented otherSql otherParams otherDocumented
  obtain ⟨rfl, rfl⟩ := otherAnnotated
  rw [sql, otherSql, params, otherParams, documented, otherDocumented, comments]

/-- The scan comes over whole statements to one of which it reads some lexemes and then the
token. -/
structure Reaches (start : Between) (readings : List Reading) (place : Between)
    (read : List Lexeme) (token : Lexeme) (after : List Char) : Prop where
  scans : Scans start readings place
  opens : OpensStatement place.here.ahead
  lexed : Lexed place.here.behind (read ++ [token]) after
  ahead : place.here.ahead = texts read ++ (token.text ++ after)
  unended : .semicolon ∉ read

namespace Reaches

variable {start place otherPlace : Between} {readings otherReadings : List Reading}
  {read otherRead : List Lexeme} {token otherToken : Lexeme} {after otherAfter : List Char}

theorem lexed_read (reaches : Reaches start readings place read token after) :
    Lexed place.here.behind read (token.text ++ after) := by
  simpa using (lexed_append_iff.mp reaches.lexed).1

theorem token_hasForm (reaches : Reaches start readings place read token after) :
    token.HasForm (opensEscapes ((texts read).reverse ++ place.here.behind)) := by
  cases (lexed_append_iff.mp reaches.lexed).2 with
  | cons form _ _ => exact form

theorem ahead_ne_nil (reaches : Reaches start readings place read token after) :
    token.text ++ after ≠ [] :=
  List.append_ne_nil_of_left_ne_nil reaches.token_hasForm.ne_nil after

/-- The text before the token that a scan has yet to pass. -/
theorem exists_common (reaches : Reaches start readings place read token after) :
    ∃ common, start.here.ahead = common ++ (token.text ++ after) := by
  obtain ⟨passed, ahead, -⟩ := reaches.scans.passes
  exact ⟨passed ++ texts read, by rw [ahead, reaches.ahead, List.append_assoc]⟩

/-- A piece of a gap lies within the text before the token. -/
theorem exists_more {piece : Piece} {common rest : List Char}
    (reaches : Reaches (start.skip piece rest) readings place read token after)
    (whole : common ++ (token.text ++ after) = piece.text ++ rest) :
    ∃ more, rest = more ++ (token.text ++ after) ∧ common = piece.text ++ more := by
  obtain ⟨more, cut⟩ := reaches.exists_common
  rw [Between.skip, Cursor.advance_ahead] at cut
  subst cut
  exact ⟨more, rfl, List.append_cancel_right (whole.trans (List.append_assoc _ _ _).symm)⟩

/-- Where one text has a statement up to the token, the other has no shorter one. -/
theorem not_reads {between : Between} {reading : Reading} {stop : Cursor} {rest : List Char}
    (reaches : Reaches start readings place read token after)
    (same : SameStart (otherToken.text ++ otherAfter) (token.text ++ after))
    (reads : between.Reads reading stop) (behind : between.here.behind = place.here.behind)
    (ahead : between.here.ahead = texts read ++ (otherToken.text ++ otherAfter))
    (stopped : stop.ahead = rest ++ (otherToken.text ++ otherAfter))
    (continues : otherToken.text ++ otherAfter ≠ []) : False := by
  obtain ⟨lexed, whole, terminated, -⟩ := lexed_of_statementLexemes reads.lexed
  rw [behind, stopped] at lexed
  have common : texts reading.lexemes ++ rest = texts read := by
    rw [whole, stopped, ← List.append_assoc] at ahead
    exact List.append_cancel_right ahead
  have before := lexed.prefix_of_texts reaches.lexed_read same common
  have ended : .semicolon ∈ reading.lexemes :=
    terminated.semicolon_mem (stopped ▸ List.append_ne_nil_of_right_ne_nil rest continues)
  exact reaches.unended (before.subset ended)

/-- Where the statement with the token begins in one text, it begins in the other. -/
theorem stays (reaches : Reaches place [] place read token after)
    (otherReaches : Reaches (place.withAhead (texts read ++ (otherToken.text ++ otherAfter)))
      otherReadings otherPlace otherRead otherToken otherAfter)
    (same : SameStart (token.text ++ after) (otherToken.text ++ otherAfter)) :
    otherReadings = [] ∧ otherRead = read ∧
      otherPlace = place.withAhead (texts read ++ (otherToken.text ++ otherAfter)) := by
  obtain ⟨scans, opens, lexed, ahead, unended⟩ := id otherReaches
  cases scans with
  | done =>
    have common : texts read = texts otherRead := List.append_cancel_right ahead
    exact ⟨rfl, otherReaches.lexed_read.eq_of_texts reaches.lexed_read same.symm common.symm, rfl⟩
  | gap form ends whole others =>
    -- No piece of a gap stands where a statement begins.
    obtain ⟨more, -, before⟩ := exists_more ⟨others, opens, lexed, ahead, unended⟩ whole
    refine absurd reaches.opens ?_
    rw [reaches.ahead, before, List.append_assoc]
    exact form.not_opensStatement _
  | statement _ reads others =>
    obtain ⟨common, stopped⟩ := exists_common ⟨others, opens, lexed, ahead, unended⟩
    exact (reaches.not_reads same.symm reads rfl rfl stopped otherReaches.ahead_ne_nil).elim

end Reaches

theorem Between.withAhead_self {between : Between} {ahead : List Char}
    (same : between.here.ahead = ahead) : between.withAhead ahead = between := by
  subst same
  rfl

/-- A statement that ends within the common text is the same in both texts. -/
theorem SameStart.reads_eq {between : Between} {reading otherReading : Reading}
    {stop otherStop : Cursor} {common more others : List Char} (same : SameStart first second)
    (reads : between.Reads reading stop)
    (otherReads : (between.withAhead (common ++ second)).Reads otherReading otherStop)
    (ahead : between.here.ahead = common ++ first) (stopped : stop.ahead = more ++ first)
    (otherStopped : otherStop.ahead = others ++ second) (continues : first ≠ [])
    (otherContinues : second ≠ []) :
    otherReading = reading ∧ otherStop = ⟨stop.behind, stop.line, more ++ second⟩ := by
  obtain ⟨lexed, whole, terminated, moved⟩ := lexed_of_statementLexemes reads.lexed
  obtain ⟨otherLexed, otherWhole, otherTerminated, otherMoved⟩ :=
    lexed_of_statementLexemes otherReads.lexed
  have cut : common = texts reading.lexemes ++ more := by
    rw [ahead, stopped, ← List.append_assoc] at whole
    exact List.append_cancel_right whole
  have otherCut : common = texts otherReading.lexemes ++ others := by
    rw [otherStopped, ← List.append_assoc] at otherWhole
    exact List.append_cancel_right otherWhole
  have ended : .semicolon ∈ reading.lexemes :=
    terminated.semicolon_mem (stopped ▸ List.append_ne_nil_of_right_ne_nil more continues)
  have otherEnded : .semicolon ∈ otherReading.lexemes :=
    otherTerminated.semicolon_mem
      (otherStopped ▸ List.append_ne_nil_of_right_ne_nil others otherContinues)
  have lexemes : otherReading.lexemes = reading.lexemes := by
    rw [stopped] at lexed
    rw [otherStopped] at otherLexed
    rcases lexed.prefix_or_prefix otherLexed same (cut.symm.trans otherCut) with before | before
    · exact (terminated.eq_of_prefix ended otherTerminated before).symm
    · exact otherTerminated.eq_of_prefix otherEnded terminated before
  obtain ⟨lexemesRead, query⟩ := reading
  obtain ⟨otherLexemes, otherQuery⟩ := otherReading
  simp only at lexemes cut otherCut
  subst lexemes
  obtain rfl : more = others := List.append_cancel_left (cut.symm.trans otherCut)
  refine ⟨by rw [otherReads.query_eq reads rfl], ?_⟩
  rw [otherMoved, moved, otherStopped]
  rfl

/-- The same with the texts exchanged. -/
theorem Reaches.stays_other {start place : Between} {readings : List Reading}
    {read otherRead : List Lexeme} {token otherToken : Lexeme} {after otherAfter common : List Char}
    (reaches : Reaches start readings place read token after)
    (otherReaches : Reaches (start.withAhead (common ++ (otherToken.text ++ otherAfter))) []
      (start.withAhead (common ++ (otherToken.text ++ otherAfter))) otherRead otherToken otherAfter)
    (ahead : start.here.ahead = common ++ (token.text ++ after))
    (same : SameStart (token.text ++ after) (otherToken.text ++ otherAfter)) :
    [] = readings ∧ otherRead = read ∧
      start.withAhead (common ++ (otherToken.text ++ otherAfter)) =
        place.withAhead (texts read ++ (otherToken.text ++ otherAfter)) := by
  obtain rfl : common = texts otherRead := List.append_cancel_right otherReaches.ahead
  rw [← Between.withAhead_self ahead] at reaches
  obtain ⟨rfl, rfl, rfl⟩ := otherReaches.stays reaches same.symm
  exact ⟨rfl, rfl, rfl⟩

/-- Up to a token that begins with the same character both texts are read alike. -/
theorem Reaches.lockstep {start place otherPlace : Between} {readings otherReadings : List Reading}
    {read otherRead : List Lexeme} {token otherToken : Lexeme} {after otherAfter common : List Char}
    (reaches : Reaches start readings place read token after)
    (otherReaches : Reaches (start.withAhead (common ++ (otherToken.text ++ otherAfter)))
      otherReadings otherPlace otherRead otherToken otherAfter)
    (ahead : start.here.ahead = common ++ (token.text ++ after))
    (same : SameStart (token.text ++ after) (otherToken.text ++ otherAfter)) :
    otherReadings = readings ∧ otherRead = read ∧
      otherPlace = place.withAhead (texts read ++ (otherToken.text ++ otherAfter)) := by
  have continues := reaches.ahead_ne_nil
  have otherContinues := otherReaches.ahead_ne_nil
  obtain ⟨scans, opens, lexed, placeAhead, unended⟩ := reaches
  induction scans generalizing common otherReadings with
  | done place =>
    obtain rfl : common = texts read := List.append_cancel_right (ahead.symm.trans placeAhead)
    exact Reaches.stays ⟨.done place, opens, lexed, placeAhead, unended⟩ otherReaches same
  | @gap between last readings piece rest form ends whole others ih =>
    have later : Reaches (between.skip piece rest) readings last read token after :=
      ⟨others, opens, lexed, placeAhead, unended⟩
    obtain ⟨more, rfl, rfl⟩ := later.exists_more (ahead.symm.trans whole)
    obtain ⟨otherScans, otherOpens, otherLexed, otherAhead, otherUnended⟩ := id otherReaches
    cases otherScans with
    | done =>
      exact Reaches.stays_other ⟨.gap form ends whole others, opens, lexed, placeAhead, unended⟩
        otherReaches ahead same
    | @gap _ _ _ otherPiece otherRest otherForm otherEnds otherWhole otherOthers =>
      have otherLater : Reaches _ otherReadings otherPlace otherRead otherToken otherAfter :=
        ⟨otherOthers, otherOpens, otherLexed, otherAhead, otherUnended⟩
      obtain ⟨otherMore, rfl, cut⟩ := otherLater.exists_more otherWhole
      obtain ⟨text, attached⟩ := Piece.same_of_hasForm form (same.piece_endsBefore ends) otherForm
        otherEnds ((List.append_assoc _ _ _).symm.trans otherWhole) between.comments
      obtain rfl : more = otherMore := by
        rw [text] at cut
        exact List.append_cancel_left cut
      have skipped : (between.withAhead (piece.text ++ more ++ (otherToken.text ++ otherAfter))).skip
          otherPiece (more ++ (otherToken.text ++ otherAfter)) =
            (between.skip piece (more ++ (token.text ++ after))).withAhead
              (more ++ (otherToken.text ++ otherAfter)) := by
        rw [Between.skip, ← text]
        simp only [Between.withAhead, ← attached]
        rfl
      rw [skipped] at otherLater
      exact ih otherLater rfl opens lexed placeAhead
    | statement otherBegins _ _ =>
      refine absurd otherBegins ?_
      rw [Between.withAhead, List.append_assoc]
      exact form.not_opensStatement _
  | @statement between last reading readings stop begins reads others ih =>
    have later : Reaches (between.next reading stop) readings last read token after :=
      ⟨others, opens, lexed, placeAhead, unended⟩
    obtain ⟨more, stopped⟩ := later.exists_common
    obtain ⟨otherScans, otherOpens, otherLexed, otherAhead, otherUnended⟩ := id otherReaches
    cases otherScans with
    | done =>
      exact Reaches.stays_other ⟨.statement begins reads others, opens, lexed, placeAhead, unended⟩
        otherReaches ahead same
    | gap otherForm _ otherWhole otherOthers =>
      have otherLater : Reaches _ otherReadings otherPlace otherRead otherToken otherAfter :=
        ⟨otherOthers, otherOpens, otherLexed, otherAhead, otherUnended⟩
      obtain ⟨otherMore, -, before⟩ := otherLater.exists_more otherWhole
      refine absurd begins ?_
      rw [ahead, before, List.append_assoc]
      exact otherForm.not_opensStatement _
    | statement _ otherReads otherOthers =>
      have otherLater : Reaches _ _ otherPlace otherRead otherToken otherAfter :=
        ⟨otherOthers, otherOpens, otherLexed, otherAhead, otherUnended⟩
      obtain ⟨otherMore, otherStopped⟩ := otherLater.exists_common
      obtain ⟨rfl, rfl⟩ := same.reads_eq reads otherReads ahead stopped otherStopped continues
        otherContinues
      obtain ⟨rfl, rfl, rfl⟩ := ih otherLater stopped opens lexed placeAhead
      exact ⟨rfl, rfl, rfl⟩

end QueryTyping.QueryFile
