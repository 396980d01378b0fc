import QueryTyping.Proofs.OpaqueTokens
import QueryTyping.Proofs.Rereading
import QueryTyping.Proofs.Segmentation

/-!
# Annotations of nothing

A statement is read only where one begins, so what is read always has SQL, and no text
is refused for a statement that has none (`parse_ne_noSql`).  An annotation with a
semicolon where its statement should begin is read over as part of the gap: the text
is accepted or refused just as what stands behind the semicolon is
(`parseText_annotated_nothing`).
-/

namespace QueryTyping.QueryFile

open QueryTyping.Text

theorem annotation_ne_noSql (comments : List (List Char)) (query : String) :
    annotation comments ≠ .error (.noSql query) := by
  intro refused
  unfold annotation at refused
  split at refused
  · cases refused
  next name kind? _ =>
    split at refused
    · cases refused
    · cases kind? with
      | none => cases refused
      | some word =>
        simp only at refused
        split at refused <;> cases refused

theorem statementLexemes_ne_noSql (here : Cursor) (line : Nat) (query : String) :
    statementLexemes here ≠ .error ⟨line, .noSql query⟩ := by
  intro refused
  fun_induction statementLexemes here with
  | case1 => cases refused
  | case2 here c rest ahead unterminated next => cases unterminated <;> cases refused
  | case3 => cases refused
  | case4 here c rest ahead lexeme after other next fault unread ih =>
    cases refused
    exact ih unread
  | case5 => cases refused

theorem Terminated.eq_nil {after : List Char} (terminated : Terminated [] after) : after = [] := by
  cases terminated
  rfl

/-- A statement that is read begins with a character of its SQL. -/
theorem statementLexemes_contentful {here stop : Cursor} {lexemes : List Lexeme}
    (opens : OpensStatement here.ahead) (read : statementLexemes here = .ok (lexemes, stop)) :
    isEmptyStatement (trim (assembled lexemes)) = false := by
  obtain ⟨lexed, ahead, terminated, -⟩ := lexed_of_statementLexemes read
  cases lexemes with
  | nil => exact absurd (ahead.trans terminated.eq_nil) opens.nonempty
  | cons lexeme later =>
    obtain ⟨_, form⟩ := lexed.exists_form List.mem_cons_self
    have nonempty : assembled (lexeme :: later) ≠ [] := by
      rw [assembled, preparedTexts_cons]
      exact fun empty => form.prepared_ne_nil _ (List.append_eq_nil_iff.mp empty).1
    obtain ⟨c, rest, text⟩ := List.exists_cons_of_ne_nil nonempty
    have first : c ∈ (assembled (lexeme :: later)).head? := by rw [text]; rfl
    have kept : isBlank c = false ∧ c ≠ ';' := by
      rcases head?_preparedTexts lexed first with same | ⟨-, rfl⟩
      · rw [← ahead] at same
        exact ⟨opens.unblank c same, fun ended => opens.unended (ended ▸ same)⟩
      · decide
    exact isEmptyStatement_eq_false (List.mem_of_mem_head? first) kept.1 kept.2

theorem statement_ne_noSql {declared : List (String × Nat)} {comments : List (List Char)}
    {here : Cursor} (opens : OpensStatement here.ahead) (line : Nat) (query : String) :
    statement declared comments here ≠ .error ⟨line, .noSql query⟩ := by
  intro refused
  unfold statement at refused
  split at refused
  next fault unannotated =>
    cases refused
    exact annotation_ne_noSql comments query unannotated
  · split at refused
    · cases refused
    · split at refused
      next fault unread =>
        cases refused
        exact statementLexemes_ne_noSql here line query unread
      next lexemes stop read =>
        have contentful := statementLexemes_contentful opens read
        rw [assembled] at contentful
        simp only [placeholders_eq, contentful] at refused
        cases refused

theorem gapStep_ne_noSql (comments : List (List Char)) (here : Cursor) (c : Char)
    (rest : List Char) (line : Nat) (query : String) :
    gapStep comments here c rest ≠ some (.error ⟨line, .noSql query⟩) := by
  intro refused
  unfold gapStep at refused
  split at refused
  · cases refused
  · split at refused
    · cases refused
    · split at refused <;> cases refused
    · cases refused
    · cases refused

theorem Between.remaining_ne_noSql (between : Between) (line : Nat) (query : String) :
    between.remaining ≠ .error ⟨line, .noSql query⟩ := by
  obtain ⟨declared, comments, here⟩ := between
  unfold Between.remaining
  intro refused
  simp only at refused
  fun_induction queriesFrom declared comments here with
  | case1 => cases refused
  | case2 declared comments here c rest ahead fault step =>
    cases refused
    exact gapStep_ne_noSql comments here c rest line query step
  | case3 _ _ _ _ _ _ _ _ _ ih => exact ih refused
  | case4 declared comments here c rest ahead step fault unread =>
    cases refused
    exact statement_ne_noSql (ahead ▸ gapStep_eq_none_iff.mp step) line query unread
  | case5 declared comments here c rest ahead step query stop read fault unread ih =>
    cases refused
    exact ih unread
  | case6 => cases refused

/-- No text is refused for a statement without SQL. -/
theorem parse_ne_noSql (text : String) (line : Nat) (query : String) :
    parse text ≠ .error ⟨line, .noSql query⟩ :=
  (Between.start text.toList).remaining_ne_noSql line query

/-- After the pieces of a gap. -/
def Between.skipAll (between : Between) (pieces : List Piece) (after : List Char) : Between :=
  ⟨between.declared, pieces.foldl Piece.attach between.comments,
    between.here.advance (gapText pieces) after⟩

/-- A gap is read over. -/
theorem Between.remaining_of_gaps {between : Between} {pieces : List Piece} {after : List Char}
    (gap : Gap pieces after) (ahead : between.here.ahead = gapText pieces ++ after) :
    between.remaining = (between.skipAll pieces after).remaining := by
  induction gap generalizing between with
  | nil after =>
    obtain ⟨declared, comments, here⟩ := between
    obtain rfl : here.ahead = after := ahead
    rw [Between.skipAll]
    exact congrArg (fun here => Between.remaining ⟨declared, comments, here⟩) here.advance_nil.symm
  | @cons piece pieces after form ends _ ih =>
    have first : between.here.ahead = piece.text ++ (gapText pieces ++ after) :=
      ahead.trans (List.append_assoc _ _ _)
    rw [Between.remaining_of_gap form ends first, ih rfl]
    simp [Between.skipAll, Between.skip, Cursor.advance_advance, gapText]

/-- The comments in front of the piece stay attached to what comes after it. -/
def Piece.KeepsComments : Piece → Prop
  | blanks text => text.count '\n' ≤ 1
  | blockComment _ => True
  | lineComment _ | semicolon => False

theorem attach_of_keepsComments {pieces : List Piece}
    (keeps : ∀ piece ∈ pieces, piece.KeepsComments) (comments : List (List Char)) :
    pieces.foldl Piece.attach comments = comments := by
  induction pieces generalizing comments with
  | nil => rfl
  | cons piece pieces ih =>
    obtain ⟨keepsOne, keepsOthers⟩ := List.forall_mem_cons.mp keeps
    have kept : piece.attach comments = comments := by
      cases piece with
      | blanks text => exact if_neg (Nat.not_lt.mpr keepsOne)
      | blockComment => rfl
      | lineComment | semicolon => exact keepsOne.elim
    rw [List.foldl_cons, kept, ih keepsOthers]

/-- Ahead is an annotation, and up to a semicolon nothing to annotate: white space without a blank
line, and block comments. -/
structure AnnotatesNothing (ahead comment : List Char) (pieces : List Piece) (rest : List Char)
    (name : String) (kind : ResultKind) : Prop where
  ahead : ahead = comment ++ (gapText pieces ++ ';' :: rest)
  form : (Piece.lineComment comment).HasForm
  ends : (Piece.lineComment comment).EndsBefore (gapText pieces ++ ';' :: rest)
  annotates : annotation [comment] = .ok (name, kind)
  gap : Gap pieces (';' :: rest)
  keeps : ∀ piece ∈ pieces, piece.KeepsComments

theorem annotation_concat (comments : List (List Char)) (comment : List Char) :
    annotation (comments ++ [comment]) = annotation [comment] := by
  unfold annotation
  rw [List.getLast?_concat]
  rfl

section Nothing

variable {between : Between} {comment rest : List Char} {pieces : List Piece} {name : String}
  {kind : ResultKind}

/-- Right before the semicolon the annotation is still that of the next statement. -/
theorem AnnotatesNothing.annotated
    (nothing : AnnotatesNothing between.here.ahead comment pieces rest name kind) :
    annotation (between.skipAll (.lineComment comment :: pieces) (';' :: rest)).comments =
      .ok (name, kind) := by
  rw [Between.skipAll, List.foldl_cons, attach_of_keepsComments nothing.keeps, Piece.attach,
    annotation_concat]
  exact nothing.annotates

/-- The annotation is read over with its semicolon: it declares nothing, and is left behind. -/
theorem AnnotatesNothing.remaining
    (nothing : AnnotatesNothing between.here.ahead comment pieces rest name kind) :
    between.remaining = Between.remaining ⟨between.declared, [],
      between.here.advance (comment ++ (gapText pieces ++ [';'])) rest⟩ := by
  have ended : Gap [.semicolon] rest := .cons trivial trivial (.nil rest)
  have gap : Gap (.lineComment comment :: (pieces ++ [.semicolon])) rest := by
    refine .cons nothing.form ?_ (nothing.gap.append ended)
    rw [gapText_append, List.append_assoc]
    exact nothing.ends
  have text : gapText (.lineComment comment :: (pieces ++ [.semicolon])) =
      comment ++ (gapText pieces ++ [';']) :=
    congrArg (comment ++ ·) (gapText_append pieces [.semicolon])
  have ahead : between.here.ahead =
      gapText (.lineComment comment :: (pieces ++ [.semicolon])) ++ rest := by
    rw [nothing.ahead, text, List.append_assoc, List.append_assoc]
    rfl
  rw [Between.remaining_of_gaps gap ahead, Between.skipAll, text]
  simp [Piece.attach]

end Nothing

/-- Where an annotation of nothing stands between the statements of a text, nothing becomes of it:
the text is refused exactly if it is refused for what stands behind the semicolon, with the same
fault, and else gives the queries that stand before the annotation and those behind it.  In no text
is a statement without SQL the fault. -/
theorem parseText_annotated_nothing {source text : String} {readings : List Reading}
    {between : Between} {comment rest : List Char} {pieces : List Piece} {name : String}
    {kind : ResultKind} (scans : Scans (.start text.toList) readings between)
    (nothing : AnnotatesNothing between.here.ahead comment pieces rest name kind) :
    let past : Between := ⟨between.declared, [],
      between.here.advance (comment ++ (gapText pieces ++ [';'])) rest⟩
    annotation (between.skipAll (.lineComment comment :: pieces) (';' :: rest)).comments =
        .ok (name, kind) ∧
      (∀ failure, parseText source text = .error failure ↔
        ∃ fault, past.remaining = .error fault ∧ failure = .input (fault.message source)) ∧
      (∀ queries, parseText source text = .ok queries ↔
        ∃ later, past.remaining = .ok later ∧
          queries = readings.map Reading.query ++ later) ∧
      ∀ line query, parse text ≠ .error ⟨line, .noSql query⟩ := by
  intro past
  have parsed : parse text =
      past.remaining.map fun later => readings.map Reading.query ++ later := by
    rw [parse_eq_remaining, scans.remaining, nothing.remaining]
  refine ⟨nothing.annotated, fun failure => ?_, fun queries => ?_, parse_ne_noSql text⟩
  · unfold parseText
    rw [parsed]
    cases past.remaining <;> simp [Except.map, eq_comm]
  · rw [parseText_eq_ok_iff, parsed]
    cases past.remaining <;> simp [Except.map, eq_comm]

theorem find_annotatesNothing {pieces : List Piece} {rest : List Char}
    (gap : Gap (.blanks ['\n'] :: pieces) (';' :: rest))
    (keeps : ∀ piece ∈ pieces, piece.KeepsComments) :
    AnnotatesNothing
      ("-- name: Find :one".toList ++ (gapText (.blanks ['\n'] :: pieces) ++ ';' :: rest))
      "-- name: Find :one".toList (.blanks ['\n'] :: pieces) rest "Find" .one where
  ahead := rfl
  form := ⟨" name: Find :one".toList, rfl, by decide⟩
  ends _ first := (Option.some.inj first).symm
  annotates := by decide
  gap := gap
  keeps := List.forall_mem_cons.mpr ⟨Nat.le_refl 1, keeps⟩

/-- An annotation of nothing before an annotated statement. -/
def nothingAndLast : String :=
  "-- name: Find :one\n/* to do */\n;\n-- name: Last :exec\nDELETE FROM t"

/-- The queries of `nothingAndLast`. -/
def lastQuery : List SourceQuery := [⟨"Last", "DELETE FROM t", [], .exec, ["-- name: Last :exec"]⟩]

theorem nothingAndLast_annotatesNothing :
    AnnotatesNothing nothingAndLast.toList "-- name: Find :one".toList
      [.blanks ['\n'], .blockComment "/* to do */".toList, .blanks ['\n']]
      "\n-- name: Last :exec\nDELETE FROM t".toList "Find" .one := by
  have cut : closeComment 1 " to do */".toList = some (" to do */".toList, []) := rfl
  have comment : (Piece.blockComment "/* to do */".toList).HasForm :=
    ⟨_, rfl, (closeComment_eq_some_iff.mp cut).1⟩
  have last : Gap [.blanks ['\n']] (';' :: "\n-- name: Last :exec\nDELETE FROM t".toList) :=
    .cons Piece.newline_hasForm (fun _ first => Option.some.inj first ▸ rfl) (.nil _)
  refine find_annotatesNothing (.cons Piece.newline_hasForm ?_ (.cons comment trivial last)) ?_
  · exact fun _ first => Option.some.inj first ▸ rfl
  · simp [Piece.KeepsComments]

theorem parseText_nothing_and_last :
    AnnotatesNothing nothingAndLast.toList "-- name: Find :one".toList
        [.blanks ['\n'], .blockComment "/* to do */".toList, .blanks ['\n']]
        "\n-- name: Last :exec\nDELETE FROM t".toList "Find" .one ∧
      parseText "author.sql" nothingAndLast = .ok lastQuery := by
  refine ⟨nothingAndLast_annotatesNothing, ?_⟩
  obtain ⟨-, -, accepted, -⟩ := @parseText_annotated_nothing "author.sql" _ _ _ _ _ _ _ _
    (.done (.start nothingAndLast.toList)) nothingAndLast_annotatesNothing
  exact (accepted _).mpr ⟨lastQuery, by decide +kernel, rfl⟩

/-- A lone annotation with a semicolon. -/
def onlyNothing : String := "-- name: Find :one\n;"

/-- Its annotation is valid and has no statement, and yet the text is accepted, as one without
queries. -/
theorem lone_annotation_dropped :
    AnnotatesNothing onlyNothing.toList "-- name: Find :one".toList [.blanks ['\n']] [] "Find"
        .one ∧
      parseText "<string>" onlyNothing = .ok [] := by
  have gap : Gap [.blanks ['\n']] [';'] :=
    .cons Piece.newline_hasForm (fun _ first => Option.some.inj first ▸ rfl) (.nil _)
  exact ⟨find_annotatesNothing gap (List.forall_mem_nil _),
    parseText_eq_ok_iff.mpr (by decide +kernel)⟩

end QueryTyping.QueryFile
