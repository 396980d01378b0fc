import QueryTyping.Proofs.StatementLexemes
import QueryTyping.QueryFile

/-!
# The scan of a query file

Between two statements stand pieces of a gap: white space, comments and stray
semicolons.  Each piece is as long as it can be, and says what becomes of the
comments in front of it.

A scan is a sequence of such pieces and of statements (`Scans`).  The queries of a
text are those of the scan that comes to its end (`queriesFrom_eq_ok_iff`), and a
scan that has come part of the way leaves the rest of the text to be read on from
there, also where that fails (`Scans.queriesFrom`).
-/

namespace QueryTyping.QueryFile

open QueryTyping.Text

/-- A piece of a gap. -/
inductive Piece where
  | blanks (text : List Char)
  | lineComment (text : List Char)
  | blockComment (text : List Char)
  | semicolon
  deriving DecidableEq, Repr

namespace Piece

def text : Piece → List Char
  | blanks text => text
  | lineComment text => text
  | blockComment text => text
  | semicolon => [';']

/-- What a piece looks like. -/
def HasForm : Piece → Prop
  | blanks text => text ≠ [] ∧ ∀ c ∈ text, isBlank c = true
  | lineComment text => ∃ body, text = '-' :: '-' :: body ∧ '\n' ∉ body
  | blockComment text => ∃ body, text = '/' :: '*' :: body ∧ ClosesComment body
  | semicolon => True

/-- The text ahead does not make the piece longer. -/
def EndsBefore (after : List Char) : Piece → Prop
  | blanks _ => ∀ c ∈ after.head?, isBlank c = false
  | lineComment _ => ∀ c ∈ after.head?, c = '\n'
  | blockComment _ | semicolon => True

/-- The comments that belong to the next statement after this piece. -/
def attach (comments : List (List Char)) : Piece → List (List Char)
  | blanks text => if text.count '\n' > 1 then [] else comments
  | lineComment text => comments ++ [text]
  | blockComment _ => comments
  | semicolon => []

theorem HasForm.ne_nil {piece : Piece} (form : piece.HasForm) : piece.text ≠ [] := by
  cases piece with
  | blanks => exact form.1
  | lineComment | blockComment =>
    obtain ⟨body, rfl, -⟩ := form
    exact List.cons_ne_nil _ _
  | semicolon => exact List.cons_ne_nil _ _

theorem newline_hasForm : (blanks ['\n']).HasForm :=
  ⟨List.cons_ne_nil _ _, fun _ member => List.mem_singleton.mp member ▸ rfl⟩

end Piece

/-- The text begins with none of the pieces of a gap. -/
structure OpensStatement (text : List Char) : Prop where
  nonempty : text ≠ []
  unblank : ∀ c ∈ text.head?, isBlank c = false
  unended : text.head? ≠ some ';'
  undashed : ¬ ['-', '-'] <+: text
  unstarred : ¬ ['/', '*'] <+: text

section GapStep

variable {comments attached : List (List Char)} {here next : Cursor} {c : Char} {rest : List Char}

/-- What a step passes over is one of the pieces. -/
theorem exists_piece_of_gapStep
    (step : gapStep comments here c rest = some (.ok (attached, next))) :
    ∃ piece : Piece, piece.HasForm ∧ piece.EndsBefore next.ahead ∧
      c :: rest = piece.text ++ next.ahead ∧ next = here.advance piece.text next.ahead ∧
      attached = piece.attach comments := by
  unfold gapStep at step
  split at step
  next blank =>
    simp only [Option.some.injEq, Except.ok.injEq, Prod.mk.injEq] at step
    obtain ⟨rfl, rfl⟩ := step
    refine ⟨.blanks (c :: rest.takeWhile isBlank), ⟨List.cons_ne_nil _ _, fun d member => ?_⟩,
      head?_dropWhile_eq_false isBlank rest, ?_, rfl, rfl⟩
    · rcases List.mem_cons.mp member with rfl | member
      · exact blank
      · exact all_takeWhile isBlank rest d member
    · simp [Piece.text]
  next =>
    split at step
    next others _ =>
      simp only [Option.some.injEq, Except.ok.injEq, Prod.mk.injEq] at step
      obtain ⟨rfl, rfl⟩ := step
      refine ⟨.lineComment ('-' :: '-' :: others.takeWhile (· ≠ '\n')),
        ⟨_, rfl, newline_notMem_takeWhile others⟩, head?_dropWhile_line others, ?_, rfl, rfl⟩
      simp [Piece.text]
    next others =>
      split at step
      next body after cut =>
        simp only [Option.some.injEq, Except.ok.injEq, Prod.mk.injEq] at step
        obtain ⟨rfl, rfl⟩ := step
        obtain ⟨closes, text⟩ := closeComment_eq_some_iff.mp cut
        exact ⟨.blockComment ('/' :: '*' :: body), ⟨body, rfl, closes⟩, trivial,
          by simp [Piece.text, text], rfl, rfl⟩
      next => cases step
    next =>
      simp only [Option.some.injEq, Except.ok.injEq, Prod.mk.injEq] at step
      obtain ⟨rfl, rfl⟩ := step
      exact ⟨.semicolon, trivial, trivial, rfl, rfl, rfl⟩
    next => cases step

/-- A step passes over a piece that is ahead. -/
theorem gapStep_of_piece {piece : Piece} {after : List Char} (form : piece.HasForm)
    (ends : piece.EndsBefore after) (text : c :: rest = piece.text ++ after) :
    gapStep comments here c rest =
      some (.ok (piece.attach comments, here.advance piece.text after)) := by
  cases piece with
  | blanks run =>
    obtain ⟨nonempty, blank⟩ := form
    obtain ⟨d, run, rfl⟩ := List.exists_cons_of_ne_nil nonempty
    obtain ⟨rfl, rfl⟩ := List.cons.inj text
    have others : ∀ d ∈ run, isBlank d = true :=
      fun d member => blank d (List.mem_cons_of_mem c member)
    unfold gapStep
    rw [if_pos (blank c List.mem_cons_self)]
    change some (Except.ok (if (c :: (run ++ after).takeWhile isBlank).count '\n' > 1 then []
      else comments, here.advance (c :: (run ++ after).takeWhile isBlank)
        ((run ++ after).dropWhile isBlank))) = _
    rw [takeWhile_run others ends, dropWhile_run others ends]
    rfl
  | lineComment =>
    obtain ⟨body, rfl, lineless⟩ := form
    obtain ⟨rfl, rfl⟩ := List.cons.inj text
    obtain ⟨line, others⟩ := cut_line lineless ends
    change some (Except.ok (comments ++ ['-' :: '-' :: (body ++ after).takeWhile (· ≠ '\n')],
      here.advance ('-' :: '-' :: (body ++ after).takeWhile (· ≠ '\n'))
        ((body ++ after).dropWhile (· ≠ '\n')))) = _
    rw [line, others]
    rfl
  | blockComment =>
    obtain ⟨body, rfl, closes⟩ := form
    simp only [Piece.text, List.cons_append, List.cons.injEq] at text
    obtain ⟨rfl, rfl⟩ := text
    unfold gapStep
    rw [if_neg (by decide)]
    simp only [closeComment_of_closes closes]
    rfl
  | semicolon =>
    obtain ⟨rfl, rfl⟩ := List.cons.inj text
    rfl

theorem gapStep_eq_none_iff : gapStep comments here c rest = none ↔ OpensStatement (c :: rest) := by
  constructor
  · intro step
    unfold gapStep at step
    split at step
    · cases step
    next unblank =>
      split at step
      · cases step
      · split at step <;> cases step
      · cases step
      next unended undashed unstarred =>
        refine ⟨List.cons_ne_nil c rest, fun d first => ?_, fun first => ?_, ?_, ?_⟩
        · cases first
          exact Bool.eq_false_iff.mpr unblank
        · cases first
          exact unended rfl
        · rintro ⟨others, same⟩
          obtain ⟨rfl, rfl⟩ := List.cons.inj same
          exact undashed others rfl rfl
        · rintro ⟨others, same⟩
          obtain ⟨rfl, rfl⟩ := List.cons.inj same
          exact unstarred others rfl rfl
  · rintro ⟨-, unblank, unended, undashed, unstarred⟩
    unfold gapStep
    rw [if_neg (by rw [unblank c rfl]; decide)]
    split
    · exact absurd ⟨_, rfl⟩ undashed
    · exact absurd ⟨_, rfl⟩ unstarred
    · exact absurd rfl unended
    · rfl

end GapStep

/-- The prepared text of a statement with these lexemes. -/
def assembled (lexemes : List Lexeme) : List Char := preparedTexts (parameters lexemes) lexemes

/-- The query asks for the parameters of the lexemes, and its SQL is their text with placeholders
for the markers. -/
structure Prepares (lexemes : List Lexeme) (query : SourceQuery) : Prop where
  sql : query.preparedSql = String.ofList (trim (assembled lexemes))
  params : query.paramNames = (parameters lexemes).map String.ofList

/-- What is known between two statements: the names declared so far with their lines, the
comments of the next statement, and the place. -/
structure Between where
  declared : List (String × Nat)
  comments : List (List Char)
  here : Cursor

/-- The beginning of a text. -/
def Between.start (text : List Char) : Between := ⟨[], [], Cursor.start text⟩

/-- A statement as it was read. -/
structure Reading where
  lexemes : List Lexeme
  query : SourceQuery

/-- The statement that begins here is read. -/
structure Between.Reads (between : Between) (reading : Reading) (stop : Cursor) : Prop where
  annotated : annotation between.comments = .ok (reading.query.name, reading.query.resultKind)
  fresh : between.declared.lookup reading.query.name = none
  lexed : statementLexemes between.here = .ok (reading.lexemes, stop)
  prepares : Prepares reading.lexemes reading.query
  documented : reading.query.doc = between.comments.map String.ofList
  nonempty : isEmptyStatement (trim (assembled reading.lexemes)) = false

/-- After a statement its name is declared, and no comment is left. -/
def Between.next (between : Between) (reading : Reading) (stop : Cursor) : Between :=
  ⟨(reading.query.name, between.here.line) :: between.declared, [], stop⟩

/-- After a piece of a gap. -/
def Between.skip (between : Between) (piece : Piece) (after : List Char) : Between :=
  ⟨between.declared, piece.attach between.comments, between.here.advance piece.text after⟩

/-- From one place to a later one by pieces of gaps and whole statements. -/
inductive Scans : Between → List Reading → Between → Prop
  | done (between : Between) : Scans between [] between
  | gap {between last : Between} {readings : List Reading} {piece : Piece} {after : List Char}
    (form : piece.HasForm) (ends : piece.EndsBefore after)
    (ahead : between.here.ahead = piece.text ++ after)
    (others : Scans (between.skip piece after) readings last) : Scans between readings last
  | statement {between last : Between} {reading : Reading} {readings : List Reading}
    {stop : Cursor} (opens : OpensStatement between.here.ahead) (reads : between.Reads reading stop)
    (others : Scans (between.next reading stop) readings last) :
    Scans between (reading :: readings) last

theorem statement_eq_ok_iff {between : Between} {query : SourceQuery} {stop : Cursor} :
    statement between.declared between.comments between.here = .ok (query, stop) ↔
      ∃ lexemes, between.Reads ⟨lexemes, query⟩ stop := by
  constructor
  · intro read
    unfold statement at read
    split at read
    · cases read
    next name kind annotated =>
      split at read
      · cases read
      next fresh =>
        split at read
        · cases read
        next lexemes past lexed =>
          simp only [placeholders_eq] at read
          split at read
          · cases read
          next nonempty =>
            simp only [Except.ok.injEq, Prod.mk.injEq] at read
            obtain ⟨rfl, rfl⟩ := read
            exact ⟨lexemes, annotated, fresh, lexed, ⟨rfl, rfl⟩, rfl,
              Bool.eq_false_iff.mpr nonempty⟩
  · rintro ⟨lexemes, annotated, fresh, lexed, ⟨sql, params⟩, documented, nonempty⟩
    obtain ⟨name, preparedSql, paramNames, kind, doc⟩ := query
    simp only at annotated fresh lexed sql params documented nonempty
    subst sql params documented
    unfold statement
    simp only [annotated, fresh, lexed, placeholders_eq]
    rw [if_neg (by rw [assembled] at nonempty; rw [nonempty]; decide)]
    rfl

section Remaining

variable {between last : Between} {readings : List Reading} {reading : Reading} {stop : Cursor}
  {c : Char} {rest : List Char}

/-- The next step between statements decides how the rest is read. -/
theorem queriesFrom_of_cons {declared : List (String × Nat)} {comments : List (List Char)}
    {here : Cursor} (ahead : here.ahead = c :: rest) :
    queriesFrom declared comments here =
      match gapStep comments here c rest with
      | some (.error fault) => .error fault
      | some (.ok (attached, next)) => queriesFrom declared attached next
      | none =>
        match statement declared comments here with
        | .error fault => .error fault
        | .ok (query, stop) =>
          match queriesFrom ((query.name, here.line) :: declared) [] stop with
          | .error fault => .error fault
          | .ok queries => .ok (query :: queries) := by
  rw [queriesFrom]
  split
  next ended =>
    rw [ahead] at ended
    cases ended
  next d others same =>
    rw [ahead] at same
    cases same
    split
    next step => simp only [step]
    next step => simp only [step]
    next step =>
      split
      next read => simp only [step, read]
      next query stop read =>
        cases later : queriesFrom ((query.name, here.line) :: declared) [] stop <;>
          simp only [step, read, later]

/-- The queries that are read from here on. -/
def Between.remaining (between : Between) : Except LocatedFault (List SourceQuery) :=
  queriesFrom between.declared between.comments between.here

theorem Between.remaining_of_nil (ended : between.here.ahead = []) :
    between.remaining = .ok [] := by
  unfold Between.remaining queriesFrom
  split
  · rfl
  next c rest ahead =>
    rw [ended] at ahead
    cases ahead

theorem Between.remaining_of_gap {piece : Piece} {after : List Char} (form : piece.HasForm)
    (ends : piece.EndsBefore after) (ahead : between.here.ahead = piece.text ++ after) :
    between.remaining = (between.skip piece after).remaining := by
  obtain ⟨c, rest, text⟩ := List.exists_cons_of_ne_nil form.ne_nil
  have step : gapStep between.comments between.here c (rest ++ after) =
      some (.ok (piece.attach between.comments, between.here.advance piece.text after)) :=
    gapStep_of_piece form ends (by rw [text]; rfl)
  rw [text, List.cons_append] at ahead
  rw [Between.remaining, queriesFrom_of_cons ahead, step]
  rfl

/-- Where a statement begins, what remains hangs on whether it can be read. -/
theorem Between.remaining_of_statement (opens : OpensStatement between.here.ahead) :
    between.remaining =
      match statement between.declared between.comments between.here with
      | .error fault => .error fault
      | .ok (query, stop) =>
        match queriesFrom ((query.name, between.here.line) :: between.declared) [] stop with
        | .error fault => .error fault
        | .ok queries => .ok (query :: queries) := by
  obtain ⟨c, rest, ahead⟩ := List.exists_cons_of_ne_nil opens.nonempty
  have step : gapStep between.comments between.here c rest = none :=
    gapStep_eq_none_iff.mpr (ahead ▸ opens)
  rw [Between.remaining, queriesFrom_of_cons ahead, step]

theorem Between.remaining_of_reads (opens : OpensStatement between.here.ahead)
    (reads : between.Reads reading stop) :
    between.remaining =
      (between.next reading stop).remaining.map fun queries => reading.query :: queries := by
  rw [remaining_of_statement opens, statement_eq_ok_iff.mpr ⟨_, reads⟩]
  simp only [Between.remaining, Between.next]
  cases queriesFrom ((reading.query.name, between.here.line) :: between.declared) [] stop <;> rfl

/-- A scan that has come part of the way leaves the rest to be read on from there. -/
theorem Scans.remaining (scans : Scans between readings last) :
    between.remaining =
      last.remaining.map fun queries => readings.map Reading.query ++ queries := by
  induction scans with
  | done between => cases between.remaining <;> rfl
  | gap form ends ahead others ih => rw [Between.remaining_of_gap form ends ahead, ih]
  | @statement between last reading readings stop opens reads others ih =>
    rw [Between.remaining_of_reads opens reads, ih]
    cases last.remaining <;> rfl

theorem Scans.remaining_eq_ok {queries : List SourceQuery} (scans : Scans between readings last)
    (read : between.remaining = .ok queries) :
    ∃ later, last.remaining = .ok later ∧ queries = readings.map Reading.query ++ later := by
  rw [scans.remaining] at read
  cases remaining : last.remaining with
  | error fault =>
    rw [remaining] at read
    cases read
  | ok later =>
    rw [remaining] at read
    cases read
    exact ⟨later, rfl, rfl⟩

/-- The queries of a text are those of the scan that comes to its end. -/
theorem Between.remaining_eq_ok_iff {queries : List SourceQuery} :
    between.remaining = .ok queries ↔
      ∃ readings last, Scans between readings last ∧ last.here.ahead = [] ∧
        queries = readings.map Reading.query := by
  constructor
  · intro read
    obtain ⟨declared, comments, here⟩ := between
    unfold Between.remaining at read
    simp only at read
    fun_induction queriesFrom declared comments here generalizing queries with
    | case1 declared comments here ended =>
      cases read
      exact ⟨[], _, .done _, ended, rfl⟩
    | case2 => cases read
    | case3 declared comments here c rest ahead attached next step ih =>
      obtain ⟨readings, last, scans, ended, same⟩ := ih read
      obtain ⟨piece, form, ends, text, moved, rfl⟩ := exists_piece_of_gapStep step
      refine ⟨readings, last, .gap form ends (ahead.trans text) ?_, ended, same⟩
      rwa [Between.skip, ← moved]
    | case4 => cases read
    | case5 => cases read
    | case6 declared comments here c rest ahead step query stop read_one queries read_others ih =>
      cases read
      obtain ⟨readings, last, scans, ended, rfl⟩ := ih read_others
      obtain ⟨lexemes, reads⟩ : ∃ lexemes, Between.Reads ⟨declared, comments, here⟩
          ⟨lexemes, query⟩ stop := statement_eq_ok_iff.mp read_one
      have opens : OpensStatement here.ahead := ahead ▸ gapStep_eq_none_iff.mp step
      exact ⟨⟨lexemes, query⟩ :: readings, last, .statement opens reads scans, ended, rfl⟩
  · rintro ⟨readings, last, scans, ended, rfl⟩
    rw [scans.remaining, last.remaining_of_nil ended]
    simp [Except.map]

end Remaining

theorem parse_eq_remaining (text : String) : parse text = (Between.start text.toList).remaining :=
  rfl

theorem parseText_eq_ok_iff {source text : String} {queries : List SourceQuery} :
    parseText source text = .ok queries ↔ parse text = .ok queries := by
  unfold parseText
  cases parse text <;> simp

end QueryTyping.QueryFile
