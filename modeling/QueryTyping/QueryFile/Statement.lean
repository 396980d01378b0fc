import QueryTyping.QueryFile.Annotation
import QueryTyping.QueryFile.Lexeme

/-!
# Statements of a query file

A file alternates between gaps and statements.  A gap holds white space,
comments and stray semicolons; its line comments since the last blank line or
semicolon belong to the statement that follows.  A statement runs to its first
semicolon lexeme, or to the end of the text.

Lines are counted from one as the text is consumed, so the line at hand is one
more than the newlines behind.
-/

namespace QueryTyping.QueryFile

open QueryTyping.Text

/-- A place in a text: what lies behind, nearest first, the line, and what lies ahead. -/
structure Cursor where
  behind : List Char
  line : Nat
  ahead : List Char
  deriving Repr

/-- The beginning of a text. -/
def Cursor.start (text : List Char) : Cursor := ⟨[], 1, text⟩

/-- Move over `text`, which leaves `ahead`. -/
def Cursor.advance (here : Cursor) (text ahead : List Char) : Cursor :=
  ⟨text.reverseAux here.behind, here.line + text.count '\n', ahead⟩

@[simp] theorem Cursor.advance_ahead (here : Cursor) (text ahead : List Char) :
    (here.advance text ahead).ahead = ahead := rfl

/-- Where a lexeme that is left open is reported. -/
def openFault : Unterminated → Fault
  | .quotedString => .openString
  | .dollarQuoted => .openDollarQuote
  | .blockComment => .openComment

/-- The lexemes of a statement up to and including its semicolon, and the place after it. -/
def statementLexemes (here : Cursor) : Except LocatedFault (List Lexeme × Cursor) :=
  match _hahead : here.ahead with
  | [] => .ok ([], here)
  | c :: rest =>
    match _hnext : Lexeme.next here.behind c rest with
    | .error unterminated => .error ⟨here.line, openFault unterminated⟩
    | .ok (.semicolon, after) => .ok ([.semicolon], here.advance [';'] after)
    | .ok (lexeme, after) =>
      match statementLexemes (here.advance lexeme.text after) with
      | .error fault => .error fault
      | .ok (lexemes, stop) => .ok (lexeme :: lexemes, stop)
termination_by here.ahead.length
decreasing_by
  rw [_hahead]
  exact Lexeme.next_length _hnext

/-- The number of a parameter, counted from one, and the parameters known afterwards. -/
def parameterNumber (name : List Char) (known : List (List Char)) : Nat × List (List Char) :=
  let index := known.idxOf name
  if index < known.length then (index + 1, known) else (known.length + 1, known ++ [name])

/-- The statement with its markers replaced by placeholders, and all parameters in order. -/
def placeholders : List (List Char) → List Lexeme → List Char × List (List Char)
  | known, [] => ([], known)
  | known, .marker name _ :: rest =>
    let (number, known) := parameterNumber name known
    let (text, all) := placeholders known rest
    ('$' :: (toString number).toList ++ text, all)
  | known, lexeme :: rest =>
    let (text, all) := placeholders known rest
    (lexeme.text ++ text, all)

/-- Whether nothing but semicolons and white space is left at the end of a trimmed statement. -/
def isEmptyStatement (sql : List Char) : Bool :=
  (trim (dropRightWhile (· = ';') sql)).isEmpty

/-- The statement that starts here, and the place after it.  `declared` lists the names of
earlier statements with their lines. -/
def statement (declared : List (String × Nat)) (comments : List (List Char)) (here : Cursor) :
    Except LocatedFault (SourceQuery × Cursor) :=
  match annotation comments with
  | .error fault => .error ⟨here.line, fault⟩
  | .ok (name, kind) =>
    match declared.lookup name with
    | some firstLine => .error ⟨here.line, .duplicateName name firstLine⟩
    | none =>
      match statementLexemes here with
      | .error fault => .error fault
      | .ok (lexemes, stop) =>
        let (text, params) := placeholders [] lexemes
        let sql := trim text
        if isEmptyStatement sql then .error ⟨here.line, .noSql name⟩
        else
          .ok (⟨name, String.ofList sql, params.map String.ofList, kind,
            comments.map String.ofList⟩, stop)

/-- Move over one piece of a gap, with the comments that stay attached; `none` at the start
of a statement. -/
def gapStep (comments : List (List Char)) (here : Cursor) (c : Char) (rest : List Char) :
    Option (Except LocatedFault (List (List Char) × Cursor)) :=
  if isBlank c then
    let run := c :: rest.takeWhile isBlank
    let comments := if run.count '\n' > 1 then [] else comments
    some (.ok (comments, here.advance run (rest.dropWhile isBlank)))
  else
    match c, rest with
    | '-', '-' :: rest =>
      let comment := '-' :: '-' :: rest.takeWhile (· ≠ '\n')
      some (.ok (comments ++ [comment], here.advance comment (rest.dropWhile (· ≠ '\n'))))
    | '/', '*' :: rest =>
      match closeComment 1 rest with
      | some (body, after) => some (.ok (comments, here.advance ('/' :: '*' :: body) after))
      | none => some (.error ⟨here.line, .openComment⟩)
    | ';', rest => some (.ok ([], here.advance [';'] rest))
    | _, _ => none

theorem length_dropWhile_le (p : Char → Bool) (s : List Char) :
    (s.dropWhile p).length ≤ s.length := by
  have h := congrArg List.length (List.takeWhile_append_dropWhile (p := p) (l := s))
  rw [List.length_append] at h
  omega

theorem gapStep_length {comments comments' : List (List Char)} {here next : Cursor} {c : Char}
    {rest : List Char} (h : gapStep comments here c rest = some (.ok (comments', next))) :
    next.ahead.length < (c :: rest).length := by
  unfold gapStep at h
  split at h
  · simp only [Option.some.injEq, Except.ok.injEq, Prod.mk.injEq] at h
    rw [← h.2]
    have := length_dropWhile_le isBlank rest
    simp only [Cursor.advance_ahead, List.length_cons]
    omega
  · split at h
    · rename_i tail _
      simp only [Option.some.injEq, Except.ok.injEq, Prod.mk.injEq] at h
      rw [← h.2]
      have := length_dropWhile_le (· ≠ '\n') tail
      simp only [Cursor.advance_ahead, List.length_cons]
      omega
    · rename_i tail _
      split at h
      · rename_i body after hclose
        simp only [Option.some.injEq, Except.ok.injEq, Prod.mk.injEq] at h
        rw [← h.2]
        have := congrArg List.length (closeComment_append hclose)
        simp only [List.length_append] at this
        simp only [Cursor.advance_ahead, List.length_cons]
        omega
      · simp at h
    · simp only [Option.some.injEq, Except.ok.injEq, Prod.mk.injEq] at h
      rw [← h.2]
      simp
    · simp at h

theorem statementLexemes_length_le {here stop : Cursor} {lexemes : List Lexeme}
    (h : statementLexemes here = .ok (lexemes, stop)) : stop.ahead.length ≤ here.ahead.length := by
  fun_induction statementLexemes here generalizing lexemes stop with
  | case1 here hahead => simp_all
  | case2 => simp at h
  | case3 here c rest hahead after hnext =>
    simp only [Except.ok.injEq, Prod.mk.injEq] at h
    rw [← h.2, hahead, Cursor.advance_ahead]
    exact Nat.le_of_lt (Lexeme.next_length hnext)
  | case4 => simp at h
  | case5 here c rest hahead lexeme after hne hnext lexemes' stop' hrec ih =>
    simp only [Except.ok.injEq, Prod.mk.injEq] at h
    have hle := ih hrec
    rw [Cursor.advance_ahead] at hle
    have hlt := Lexeme.next_length hnext
    rw [← h.2, hahead]
    omega

theorem statementLexemes_length {here stop : Cursor} {lexemes : List Lexeme} {c : Char}
    {rest : List Char} (hahead : here.ahead = c :: rest)
    (h : statementLexemes here = .ok (lexemes, stop)) :
    stop.ahead.length < (c :: rest).length := by
  unfold statementLexemes at h
  split at h
  · rename_i hnil
    simp [hahead] at hnil
  · rename_i c' rest' hahead'
    rw [hahead] at hahead'
    simp only [List.cons.injEq] at hahead'
    obtain ⟨rfl, rfl⟩ := hahead'
    split at h
    · simp at h
    · rename_i after hnext
      simp only [Except.ok.injEq, Prod.mk.injEq] at h
      rw [← h.2, Cursor.advance_ahead]
      exact Lexeme.next_length hnext
    · rename_i lexeme after _ hnext
      split at h
      · simp at h
      · rename_i lexemes' stop' hrec
        simp only [Except.ok.injEq, Prod.mk.injEq] at h
        have hle := statementLexemes_length_le hrec
        rw [Cursor.advance_ahead] at hle
        have hlt := Lexeme.next_length hnext
        rw [← h.2]
        omega

theorem statement_length {declared : List (String × Nat)} {comments : List (List Char)}
    {here stop : Cursor} {query : SourceQuery} {c : Char} {rest : List Char}
    (hahead : here.ahead = c :: rest)
    (h : statement declared comments here = .ok (query, stop)) :
    stop.ahead.length < (c :: rest).length := by
  unfold statement at h
  split at h
  · simp at h
  · split at h
    · simp at h
    · split at h
      · simp at h
      · rename_i hlex
        simp only at h
        split at h
        · simp at h
        · simp only [Except.ok.injEq, Prod.mk.injEq] at h
          rw [← h.2]
          exact statementLexemes_length hahead hlex

/-- The queries of the text ahead, with the comments already attached and the names already
declared. -/
def queriesFrom (declared : List (String × Nat)) (comments : List (List Char)) (here : Cursor) :
    Except LocatedFault (List SourceQuery) :=
  match _hahead : here.ahead with
  | [] => .ok []
  | c :: rest =>
    match _hgap : gapStep comments here c rest with
    | some (.error fault) => .error fault
    | some (.ok (comments', next)) => queriesFrom declared comments' next
    | none =>
      match _hstatement : statement declared comments here with
      | .error fault => .error fault
      | .ok (query, stop) =>
        match queriesFrom ((query.name, here.line) :: declared) [] stop with
        | .error fault => .error fault
        | .ok queries => .ok (query :: queries)
termination_by here.ahead.length
decreasing_by
  · rw [_hahead]
    exact gapStep_length _hgap
  · rw [_hahead]
    exact statement_length _hahead _hstatement

/-- Every annotated query of a text, in order. -/
def parse (text : String) : Except LocatedFault (List SourceQuery) :=
  queriesFrom [] [] (Cursor.start text.toList)

end QueryTyping.QueryFile
