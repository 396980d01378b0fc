import QueryTyping.Proofs.FileScan

/-!
# Runs of plain characters

Characters that open nothing are taken in runs.  A scanner is given here with the way it
reads a lexeme left open, so that it can also try every character for itself: as the
beginning of a marker, as a semicolon, and as the opening of a token.

Both ways make the same of every text, faults and their lines included
(`parseText_characterwise`).  The lexemes differ, a run against its characters, but they
are prepared alike, and the same text lies behind the next one.
-/

namespace QueryTyping.QueryFile

open QueryTyping.Text

/-- A way to read the next lexeme, which loses nothing of the text and makes progress. -/
structure LexemeReader where
  next : List Char → Char → List Char → Except Unterminated (Lexeme × List Char)
  next_append {before rest after : List Char} {c : Char} {lexeme : Lexeme} :
    next before c rest = .ok (lexeme, after) → lexeme.text ++ after = c :: rest ∧ lexeme.text ≠ []

namespace LexemeReader

/-- A run of characters that open nothing is taken in one piece. -/
def inRuns : LexemeReader := ⟨Lexeme.next, Lexeme.next_append⟩

/-- Every character is tried for itself. -/
def characterwise : LexemeReader := ⟨Lexeme.nextSpecial, Lexeme.nextSpecial_append⟩

variable (reader : LexemeReader)

theorem next_length {before rest after : List Char} {c : Char} {lexeme : Lexeme}
    (read : reader.next before c rest = .ok (lexeme, after)) :
    after.length < (c :: rest).length := by
  obtain ⟨text, nonempty⟩ := reader.next_append read
  have lengths := congrArg List.length text
  have positive := List.length_pos_iff.mpr nonempty
  simp only [List.length_append] at lengths
  omega

/-- The lexemes of a statement up to and including its semicolon, and the place after it. -/
def lexemesAt (here : Cursor) : Except LocatedFault (List Lexeme × Cursor) :=
  match _hahead : here.ahead with
  | [] => .ok ([], here)
  | c :: rest =>
    match _hnext : reader.next here.behind c rest with
    | .error unterminated => .error ⟨here.line, openFault unterminated⟩
    | .ok (.semicolon, after) => .ok ([.semicolon], here.advance [';'] after)
    | .ok (lexeme, after) =>
      match lexemesAt (here.advance lexeme.text after) with
      | .error fault => .error fault
      | .ok (lexemes, stop) => .ok (lexeme :: lexemes, stop)
termination_by here.ahead.length
decreasing_by
  rw [_hahead]
  exact reader.next_length _hnext

/-- The statement that starts here, and the place after it. -/
def statementAt (declared : List (String × Nat)) (comments : List (List Char)) (here : Cursor) :
    Except LocatedFault (SourceQuery × Cursor) :=
  match annotation comments with
  | .error fault => .error ⟨here.line, fault⟩
  | .ok (name, kind) =>
    match declared.lookup name with
    | some firstLine => .error ⟨here.line, .duplicateName name firstLine⟩
    | none =>
      match reader.lexemesAt here with
      | .error fault => .error fault
      | .ok (lexemes, stop) =>
        let (text, params) := placeholders [] lexemes
        let sql := trim text
        if isEmptyStatement sql then .error ⟨here.line, .noSql name⟩
        else
          .ok (⟨name, String.ofList sql, params.map String.ofList, kind,
            comments.map String.ofList⟩, stop)

section Steps

variable {reader} {here stop : Cursor} {lexeme : Lexeme} {lexemes : List Lexeme} {c : Char}
  {rest after : List Char}

theorem lexemesAt_of_nil (ended : here.ahead = []) : reader.lexemesAt here = .ok ([], here) := by
  unfold lexemesAt
  split
  · rfl
  next ahead =>
    rw [ended] at ahead
    cases ahead

/-- The next lexeme decides how the rest is read. -/
theorem lexemesAt_of_cons (ahead : here.ahead = c :: rest) :
    reader.lexemesAt here =
      match reader.next here.behind c rest with
      | .error unterminated => .error ⟨here.line, openFault unterminated⟩
      | .ok (lexeme, after) =>
        if lexeme = .semicolon then .ok ([.semicolon], here.advance [';'] after)
        else
          (reader.lexemesAt (here.advance lexeme.text after)).map
            fun read => (lexeme :: read.1, read.2) := by
  rw [lexemesAt]
  split
  next ended =>
    rw [ended] at ahead
    cases ahead
  next d others same =>
    rw [ahead] at same
    cases same
    split
    next failed => rw [failed]
    next ended =>
      rw [ended]
      exact (if_pos rfl).symm
    next lexeme after other read =>
      rw [read]
      refine Eq.trans ?_ (if_neg other).symm
      cases reader.lexemesAt (here.advance lexeme.text after) <;> rfl

theorem lexemesAt_of_error {unterminated : Unterminated} (ahead : here.ahead = c :: rest)
    (next : reader.next here.behind c rest = .error unterminated) :
    reader.lexemesAt here = .error ⟨here.line, openFault unterminated⟩ := by
  rw [lexemesAt_of_cons ahead, next]

theorem lexemesAt_of_semicolon (ahead : here.ahead = c :: rest)
    (next : reader.next here.behind c rest = .ok (.semicolon, after)) :
    reader.lexemesAt here = .ok ([.semicolon], here.advance [';'] after) := by
  rw [lexemesAt_of_cons ahead, next]
  exact if_pos rfl

/-- A lexeme stands in front of those that are read behind it. -/
theorem lexemesAt_of_lexeme (ahead : here.ahead = c :: rest)
    (next : reader.next here.behind c rest = .ok (lexeme, after)) (other : lexeme ≠ .semicolon) :
    reader.lexemesAt here =
      (reader.lexemesAt (here.advance lexeme.text after)).map
        fun read => (lexeme :: read.1, read.2) := by
  rw [lexemesAt_of_cons ahead, next]
  exact if_neg other

theorem lexemesAt_length_le (read : reader.lexemesAt here = .ok (lexemes, stop)) :
    stop.ahead.length ≤ here.ahead.length := by
  fun_induction lexemesAt reader here generalizing lexemes stop with
  | case1 =>
    cases read
    exact Nat.le_refl _
  | case2 => cases read
  | case3 here c rest ahead after next =>
    cases read
    rw [ahead]
    exact Nat.le_of_lt (reader.next_length next)
  | case4 => cases read
  | case5 here c rest ahead lexeme after other next lexemes stop others ih =>
    cases read
    have shorter := reader.next_length next
    have bound : stop.ahead.length ≤ after.length := ih others
    rw [ahead]
    omega

theorem lexemesAt_length (ahead : here.ahead = c :: rest)
    (read : reader.lexemesAt here = .ok (lexemes, stop)) :
    stop.ahead.length < (c :: rest).length := by
  cases next : reader.next here.behind c rest with
  | error unterminated =>
    rw [lexemesAt_of_error ahead next] at read
    cases read
  | ok found =>
    obtain ⟨lexeme, after⟩ := found
    have shorter := reader.next_length next
    by_cases ended : lexeme = .semicolon
    · subst ended
      rw [lexemesAt_of_semicolon ahead next] at read
      cases read
      exact shorter
    · rw [lexemesAt_of_lexeme ahead next ended] at read
      cases others : reader.lexemesAt (here.advance lexeme.text after) with
      | error =>
        rw [others] at read
        cases read
      | ok found =>
        rw [others] at read
        cases read
        exact Nat.lt_of_le_of_lt (lexemesAt_length_le others) shorter

theorem statementAt_length {declared : List (String × Nat)} {comments : List (List Char)}
    {query : SourceQuery} (ahead : here.ahead = c :: rest)
    (read : reader.statementAt declared comments here = .ok (query, stop)) :
    stop.ahead.length < (c :: rest).length := by
  unfold statementAt at read
  split at read
  · cases read
  · split at read
    · cases read
    · split at read
      · cases read
      next lexed =>
        simp only at read
        split at read
        · cases read
        · cases read
          exact lexemesAt_length ahead lexed

end Steps

/-- The queries of the text ahead, with the comments already attached and the names already
declared. -/
def queriesAt (declared : List (String × Nat)) (comments : List (List Char)) (here : Cursor) :
    Except LocatedFault (List SourceQuery) :=
  match _hahead : here.ahead with
  | [] => .ok []
  | c :: rest =>
    match _hgap : gapStep comments here c rest with
    | some (.error fault) => .error fault
    | some (.ok (comments', next)) => queriesAt declared comments' next
    | none =>
      match _hstatement : reader.statementAt declared comments here with
      | .error fault => .error fault
      | .ok (query, stop) =>
        match queriesAt ((query.name, here.line) :: declared) [] stop with
        | .error fault => .error fault
        | .ok queries => .ok (query :: queries)
termination_by here.ahead.length
decreasing_by
  · rw [_hahead]
    exact gapStep_length _hgap
  · rw [_hahead]
    exact statementAt_length _hahead _hstatement

section Queries

variable {reader} {declared : List (String × Nat)} {comments : List (List Char)} {here : Cursor}

theorem queriesAt_of_nil (ended : here.ahead = []) :
    reader.queriesAt declared comments here = .ok [] := by
  unfold queriesAt
  split
  · rfl
  next ahead =>
    rw [ended] at ahead
    cases ahead

theorem queriesAt_of_cons {c : Char} {rest : List Char} (ahead : here.ahead = c :: rest) :
    reader.queriesAt declared comments here =
      match gapStep comments here c rest with
      | some (.error fault) => .error fault
      | some (.ok (attached, next)) => reader.queriesAt declared attached next
      | none =>
        match reader.statementAt declared comments here with
        | .error fault => .error fault
        | .ok (query, stop) =>
          match reader.queriesAt ((query.name, here.line) :: declared) [] stop with
          | .error fault => .error fault
          | .ok queries => .ok (query :: queries) := by
  rw [queriesAt]
  split
  next ended =>
    rw [ahead] at ended
    cases ended
  next d others same =>
    rw [ahead] at same
    cases same
    split
    next step => rw [step]
    next step => rw [step]
    next step =>
      rw [step]
      split
      next read => rw [read]
      next read => rw [read]

end Queries

/-- The annotated queries of a text that came from `source`. -/
def queriesOf (source text : String) : Except Failure (List SourceQuery) :=
  (reader.queriesAt [] [] (Cursor.start text.toList)).mapError
    fun located => .input (located.message source)

/-- The reader makes other lexemes of a statement, but ones that are prepared alike. -/
structure Regroups (regroup : List Lexeme → List Lexeme) : Prop where
  lexemes (here : Cursor) :
    reader.lexemesAt here = (statementLexemes here).map fun read => (regroup read.1, read.2)
  prepared (lexemes : List Lexeme) : placeholders [] (regroup lexemes) = placeholders [] lexemes

namespace Regroups

variable {reader} {regroup : List Lexeme → List Lexeme} (regroups : reader.Regroups regroup)
include regroups

theorem statementAt_eq (declared : List (String × Nat)) (comments : List (List Char))
    (here : Cursor) :
    reader.statementAt declared comments here = statement declared comments here := by
  unfold statementAt statement
  rw [regroups.lexemes here]
  cases statementLexemes here with
  | error => rfl
  | ok read =>
    obtain ⟨lexemes, stop⟩ := read
    have same := regroups.prepared lexemes
    simp only [Except.map]
    generalize placeholders [] (regroup lexemes) = made at same ⊢
    subst same
    rfl

theorem queriesAt_eq (declared : List (String × Nat)) (comments : List (List Char))
    (here : Cursor) :
    reader.queriesAt declared comments here = queriesFrom declared comments here := by
  fun_induction queriesFrom declared comments here with
  | case1 declared comments here ended => exact queriesAt_of_nil ended
  | case2 declared comments here c rest ahead fault step => rw [queriesAt_of_cons ahead, step]
  | case3 declared comments here c rest ahead attached next step ih =>
    rw [queriesAt_of_cons ahead, step]
    exact ih
  | case4 declared comments here c rest ahead step fault unread =>
    rw [queriesAt_of_cons ahead, step, regroups.statementAt_eq, unread]
  | case5 declared comments here c rest ahead step query stop read fault others ih
  | case6 declared comments here c rest ahead step query stop read queries others ih =>
    rw [queriesAt_of_cons ahead, step, regroups.statementAt_eq, read]
    simp only [ih, others]

theorem queriesOf_eq (source text : String) :
    reader.queriesOf source text = parseText source text := by
  rw [queriesOf, regroups.queriesAt_eq, parseText, parse]
  cases queriesFrom [] [] (Cursor.start text.toList) <;> rfl

end Regroups

theorem inRuns_regroups : inRuns.Regroups id where
  lexemes here := by
    fun_induction QueryFile.statementLexemes here with
    | case1 here ended => exact lexemesAt_of_nil ended
    | case2 here c rest ahead unterminated next => exact lexemesAt_of_error ahead next
    | case3 here c rest ahead after next => exact lexemesAt_of_semicolon ahead next
    | case4 here c rest ahead lexeme after other next fault others ih
    | case5 here c rest ahead lexeme after other next lexemes stop others ih =>
      rw [lexemesAt_of_lexeme ahead next other, ih, others]
      rfl
  prepared _ := rfl

end LexemeReader

/-- A run as its characters, any other lexeme as it is. -/
def Lexeme.characters : Lexeme → List Lexeme
  | .plain text => text.map .lone
  | lexeme => [lexeme]

theorem Lexeme.nextSpecial_of_unspecial {c : Char} (unspecial : isSpecial c = false)
    (before rest : List Char) : Lexeme.nextSpecial before c rest = .ok (.lone c, rest) := by
  simp only [isSpecial, Bool.or_eq_false_iff, decide_eq_false_iff_not] at unspecial
  obtain ⟨⟨⟨⟨⟨⟨unended, _⟩, _⟩, _⟩, _⟩, _⟩, other⟩ := unspecial
  unfold Lexeme.nextSpecial
  rw [marker?_cons_eq_none other]
  simp only [unended, if_false]
  unfold protected?
  split <;> simp_all

namespace LexemeReader

variable {here : Cursor} {lexeme : Lexeme} {c : Char} {run rest after : List Char}

/-- The characters of a run are read one after the other. -/
theorem characterwise_run (unspecial : ∀ c ∈ run, isSpecial c = false)
    (ahead : here.ahead = run ++ after) :
    characterwise.lexemesAt here =
      (characterwise.lexemesAt (here.advance run after)).map
        fun read => (run.map .lone ++ read.1, read.2) := by
  induction run generalizing here with
  | nil =>
    obtain rfl : here.ahead = after := ahead
    rw [here.advance_nil]
    cases characterwise.lexemesAt here <;> rfl
  | cons c run ih =>
    obtain ⟨unspecialOne, unspecialOthers⟩ := List.forall_mem_cons.mp unspecial
    have next : characterwise.next here.behind c (run ++ after) = .ok (.lone c, run ++ after) :=
      Lexeme.nextSpecial_of_unspecial unspecialOne here.behind (run ++ after)
    have passed :
        here.advance ((Lexeme.lone c).text ++ run) after = here.advance (c :: run) after := rfl
    rw [lexemesAt_of_lexeme ahead next (by simp), ih unspecialOthers rfl, Cursor.advance_advance,
      passed]
    cases characterwise.lexemesAt (here.advance (c :: run) after) <;> rfl

/-- Only runs are read otherwise. -/
theorem characterwise_next {before : List Char}
    {read : Except Unterminated (Lexeme × List Char)} (next : Lexeme.next before c rest = read)
    (whole : ∀ run after, read ≠ .ok (.plain run, after)) :
    characterwise.next before c rest = read := by
  unfold Lexeme.next at next
  split at next
  · exact next
  · exact absurd next.symm (whole _ _)

/-- What is read in one piece is read character by character as well, up to the same place. -/
theorem characterwise_lexeme (ahead : here.ahead = c :: rest)
    (next : Lexeme.next here.behind c rest = .ok (lexeme, after)) (other : lexeme ≠ .semicolon) :
    characterwise.lexemesAt here =
      (characterwise.lexemesAt (here.advance lexeme.text after)).map
        fun read => (lexeme.characters ++ read.1, read.2) := by
  cases lexeme with
  | plain run =>
    obtain ⟨⟨-, unspecial⟩, -, text⟩ := Lexeme.next_eq_ok_iff.mp next
    exact characterwise_run unspecial (ahead.trans text.symm)
  | marker | semicolon | lineComment | blockComment | quoted | dollarQuoted | lone =>
    exact lexemesAt_of_lexeme ahead (characterwise_next next (by simp)) other

theorem preparedTexts_characters (params : List (List Char)) (lexemes : List Lexeme) :
    preparedTexts params (lexemes.flatMap Lexeme.characters) = preparedTexts params lexemes := by
  rw [preparedTexts, List.flatMap_assoc, preparedTexts]
  refine List.flatMap_congr fun lexeme _ => ?_
  cases lexeme with
  | plain text =>
    change (text.map Lexeme.lone).flatMap _ = text
    rw [List.flatMap_map]
    exact List.flatMap_singleton' text
  | marker | semicolon | lineComment | blockComment | quoted | dollarQuoted | lone =>
    exact List.append_nil _

theorem parameters_characters (lexemes : List Lexeme) :
    parameters (lexemes.flatMap Lexeme.characters) = parameters lexemes := by
  rw [parameters, List.filterMap_flatMap, parameters, List.filterMap_eq_flatMap_toList]
  refine congrArg List.eraseDups (List.flatMap_congr fun lexeme _ => ?_)
  cases lexeme with
  | plain text =>
    change (text.map Lexeme.lone).filterMap _ = []
    rw [List.filterMap_map]
    simp [Function.comp_def, Lexeme.parameter?]
  | marker | semicolon | lineComment | blockComment | quoted | dollarQuoted | lone => rfl

theorem characterwise_regroups :
    characterwise.Regroups fun lexemes => lexemes.flatMap Lexeme.characters where
  lexemes here := by
    fun_induction QueryFile.statementLexemes here with
    | case1 here ended => exact lexemesAt_of_nil ended
    | case2 here c rest ahead unterminated next =>
      exact lexemesAt_of_error ahead (characterwise_next next (by simp))
    | case3 here c rest ahead after next =>
      exact lexemesAt_of_semicolon ahead (characterwise_next next (by simp))
    | case4 here c rest ahead lexeme after other next fault others ih
    | case5 here c rest ahead lexeme after other next lexemes stop others ih =>
      rw [characterwise_lexeme ahead next other, ih, others]
      rfl
  prepared lexemes := by
    rw [placeholders_eq, placeholders_eq, parameters_characters, preparedTexts_characters]

end LexemeReader

/-- The scanner that takes runs in one piece is that of `parseText`, and the one that tries every
character for itself gives the same queries, or the same failure. -/
theorem parseText_characterwise (source text : String) :
    LexemeReader.inRuns.queriesOf source text = parseText source text ∧
      LexemeReader.characterwise.queriesOf source text = parseText source text :=
  ⟨LexemeReader.inRuns_regroups.queriesOf_eq source text,
    LexemeReader.characterwise_regroups.queriesOf_eq source text⟩

end QueryTyping.QueryFile
