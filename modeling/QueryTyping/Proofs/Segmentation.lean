import Mathlib.Data.List.Forall2
import QueryTyping.Proofs.Lockstep

/-!
# Statements and gaps

A query file is cut into slices and gaps.  A slice is the text of one statement: it
begins with a character that belongs to no gap, and ends with the first semicolon
that no lexeme shelters, or with the text.  All else is white space, complete
comments and semicolons.  There is one way to cut a text so (`Segmented.unique`).

The queries of a text that is accepted are prepared from the slices, one from each
in their order (`parseText_segments`), so that nothing is lost, repeated or moved.
-/

namespace QueryTyping.QueryFile

open QueryTyping.Text

/-- The text that pieces make up. -/
def gapText (pieces : List Piece) : List Char := pieces.flatMap Piece.text

/-- The pieces fill a gap before the text `after`. -/
inductive Gap : List Piece → List Char → Prop
  | nil (after : List Char) : Gap [] after
  | cons {piece : Piece} {pieces : List Piece} {after : List Char} (form : piece.HasForm)
    (ends : piece.EndsBefore (gapText pieces ++ after)) (others : Gap pieces after) :
    Gap (piece :: pieces) after

theorem gapText_append (first second : List Piece) :
    gapText (first ++ second) = gapText first ++ gapText second :=
  List.flatMap_append

theorem Gap.append {first second : List Piece} {after : List Char}
    (gap : Gap first (gapText second ++ after)) (others : Gap second after) :
    Gap (first ++ second) after := by
  induction first with
  | nil => exact others
  | cons piece first ih =>
    cases gap with
    | cons form ends gap =>
      rw [List.cons_append]
      refine .cons form ?_ (ih gap)
      rwa [gapText_append, List.append_assoc]

/-- The lexeme keeps its semicolons from ending the statement. -/
def Lexeme.Shelters (lexeme : Lexeme) : Prop :=
  lexeme.IsProtected ∨ ∃ name text, lexeme = .marker name text

/-- The lexemes are those of a statement: they end with its first unsheltered semicolon, or with
the text if it has none. -/
def EndsStatement (lexemes : List Lexeme) (after : List Char) : Prop :=
  (∃ init, lexemes = init ++ [.semicolon] ∧ ∀ lexeme ∈ init, ';' ∈ lexeme.text → lexeme.Shelters) ∨
    (after = [] ∧ ∀ lexeme ∈ lexemes, ';' ∈ lexeme.text → lexeme.Shelters)

/-- The text ahead is cut into slices, given by their lexemes, with gaps before, between and after
them.  What lies behind is given backwards. -/
inductive Segmented : List Char → List Char → List (List Lexeme) → Prop
  | tail {behind : List Char} {pieces : List Piece} (gap : Gap pieces []) :
    Segmented behind (gapText pieces) []
  | slice {behind after : List Char} {pieces : List Piece} {lexemes : List Lexeme}
    {slices : List (List Lexeme)} (gap : Gap pieces (texts lexemes ++ after))
    (opens : OpensStatement (texts lexemes ++ after))
    (lexed : Lexed ((gapText pieces).reverse ++ behind) lexemes after)
    (ends : EndsStatement lexemes after)
    (others : Segmented ((gapText pieces ++ texts lexemes).reverse ++ behind) after slices) :
    Segmented behind (gapText pieces ++ (texts lexemes ++ after)) (lexemes :: slices)

/-- A gap is as long as it can be. -/
theorem Gap.rest_eq {pieces others : List Piece} {after otherAfter : List Char}
    (gap : Gap pieces after) (otherGap : Gap others otherAfter)
    (ends : after = [] ∨ OpensStatement after)
    (otherEnds : otherAfter = [] ∨ OpensStatement otherAfter)
    (same : gapText pieces ++ after = gapText others ++ otherAfter) : after = otherAfter := by
  have no_piece {piece : Piece} {text rest : List Char} (form : piece.HasForm)
      (ends : text = [] ∨ OpensStatement text) (begins : text = piece.text ++ rest) : False := by
    subst begins
    rcases ends with empty | opens
    · exact form.ne_nil (List.append_eq_nil_iff.mp empty).1
    · exact form.not_opensStatement rest opens
  induction gap generalizing others with
  | nil =>
    cases otherGap with
    | nil => exact same
    | @cons piece others _ form _ _ =>
      exact (no_piece form ends (same.trans (List.append_assoc _ _ _))).elim
  | @cons piece pieces after form pieceEnds _ ih =>
    cases otherGap with
    | nil => exact (no_piece form otherEnds (same.symm.trans (List.append_assoc _ _ _))).elim
    | @cons otherPiece others _ otherForm otherPieceEnds otherGap =>
      have cut : piece.text ++ (gapText pieces ++ after) =
          otherPiece.text ++ (gapText others ++ otherAfter) := by
        rw [← List.append_assoc, ← List.append_assoc]
        exact same
      obtain ⟨text, -⟩ := Piece.same_of_hasForm form pieceEnds otherForm otherPieceEnds cut []
      rw [text] at cut
      exact ih otherGap ends (List.append_cancel_left cut)

theorem EndsStatement.eq_of_prefix {behind after otherAfter : List Char}
    {lexemes others : List Lexeme} (ends : EndsStatement lexemes after)
    (otherEnds : EndsStatement others otherAfter) (lexed : Lexed behind others otherAfter)
    (same : texts lexemes ++ after = texts others ++ otherAfter) (before : lexemes <+: others) :
    lexemes = others := by
  obtain ⟨more, rfl⟩ := before
  have unsheltered : ¬ Lexeme.Shelters .semicolon := by
    rintro (isProtected | ⟨_, _, marker⟩)
    · exact isProtected
    · cases marker
  rcases ends with ⟨init, rfl, -⟩ | ⟨rfl, -⟩
  · -- The semicolon is the last lexeme of the longer statement too.
    rcases otherEnds with ⟨otherInit, cut, sheltered⟩ | ⟨-, sheltered⟩
    · rcases List.eq_nil_or_concat' more with rfl | ⟨more, last, rfl⟩
      · rw [List.append_nil]
      · rw [← List.append_assoc] at cut
        obtain ⟨rfl, -⟩ := List.append_inj' cut rfl
        exact absurd (sheltered .semicolon (by simp) (List.mem_singleton_self _)) unsheltered
    · exact absurd (sheltered .semicolon (by simp) (List.mem_singleton_self _)) unsheltered
  · rw [texts_append, List.append_assoc, List.append_cancel_left_eq] at same
    have empty := (lexed_append_iff.mp lexed).2.eq_nil (List.append_eq_nil_iff.mp same.symm).1
    rw [empty, List.append_nil]

theorem Segmented.unique {behind ahead otherAhead : List Char} {slices others : List (List Lexeme)}
    (segmented : Segmented behind ahead slices)
    (otherSegmented : Segmented behind otherAhead others)
    (same : ahead = otherAhead) : slices = others := by
  induction segmented generalizing otherAhead others with
  | @tail behind pieces gap =>
    cases otherSegmented with
    | tail => rfl
    | slice otherGap opens _ _ _ =>
      have rest := gap.rest_eq otherGap (.inl rfl) (.inr opens) ((List.append_nil _).trans same)
      exact absurd rest.symm opens.nonempty
  | @slice behind after pieces lexemes slices gap opens lexed ends _ ih =>
    cases otherSegmented with
    | tail otherGap =>
      have rest := gap.rest_eq otherGap (.inr opens) (.inl rfl)
        (same.trans (List.append_nil _).symm)
      exact absurd rest opens.nonempty
    | @slice _ otherAfter otherPieces otherLexemes otherSlices otherGap otherOpens otherLexed
        otherEnds others =>
      have rest := gap.rest_eq otherGap (.inr opens) (.inr otherOpens) same
      rw [rest] at same
      have gaps := List.append_cancel_right same
      rw [gaps] at lexed ih
      have statement : lexemes = otherLexemes := by
        rcases lexed.prefix_or_prefix_of_same otherLexed rest with before | before
        · exact ends.eq_of_prefix otherEnds otherLexed rest before
        · exact (otherEnds.eq_of_prefix ends lexed rest.symm before).symm
      subst statement
      obtain rfl := List.append_cancel_left rest
      rw [ih others rfl]

theorem Lexeme.shelters_of_semicolon {lexeme : Lexeme} {escapes : Bool}
    (form : lexeme.HasForm escapes) (other : lexeme ≠ .semicolon) (inside : ';' ∈ lexeme.text) :
    lexeme.Shelters := by
  cases lexeme with
  | plain text =>
    have plain := form.2 ';' inside
    cases plain
  | marker name text => exact .inr ⟨name, text, rfl⟩
  | semicolon => exact absurd rfl other
  | lineComment | blockComment | quoted | dollarQuoted => exact .inl trivial
  | lone c =>
    rw [Lexeme.text, List.mem_singleton] at inside
    subst inside
    rcases form with same | same | same | same <;> cases same

/-- The only lexeme that ends a statement is a semicolon of its own. -/
theorem endsStatement_of_terminated {behind after : List Char} {lexemes : List Lexeme}
    (lexed : Lexed behind lexemes after) (terminated : Terminated lexemes after) :
    EndsStatement lexemes after := by
  induction terminated generalizing behind with
  | atEnd => exact .inr ⟨rfl, fun _ member => absurd member List.not_mem_nil⟩
  | semicolon => exact .inl ⟨[], rfl, fun _ member => absurd member List.not_mem_nil⟩
  | @cons after lexeme lexemes other terminated ih =>
    cases lexed with
    | cons form ends others =>
      have first : ';' ∈ lexeme.text → lexeme.Shelters := Lexeme.shelters_of_semicolon form other
      rcases ih others with ⟨init, rfl, sheltered⟩ | ⟨rfl, sheltered⟩
      · exact .inl ⟨lexeme :: init, rfl, List.forall_mem_cons.mpr ⟨first, sheltered⟩⟩
      · exact .inr ⟨rfl, List.forall_mem_cons.mpr ⟨first, sheltered⟩⟩

/-- A piece before a gap belongs to it. -/
theorem Segmented.cons {behind after : List Char} {piece : Piece} {slices : List (List Lexeme)}
    (form : piece.HasForm) (ends : piece.EndsBefore after)
    (segmented : Segmented (piece.text.reverse ++ behind) after slices) :
    Segmented behind (piece.text ++ after) slices := by
  cases segmented with
  | @tail _ pieces gap =>
    exact .tail (.cons form (by rwa [List.append_nil]) gap)
  | @slice _ after pieces lexemes slices gap opens lexed terminated others =>
    have more : gapText (piece :: pieces) = piece.text ++ gapText pieces := rfl
    rw [← List.append_assoc, ← more]
    refine .slice (.cons form ends gap) opens ?_ terminated ?_
    · rwa [more, List.reverse_append, List.append_assoc]
    · rwa [more, List.append_assoc, List.reverse_append, List.append_assoc]

/-- A scan to the end of the text cuts it into the slices that were read. -/
theorem Scans.segmented {between last : Between} {readings : List Reading}
    (scans : Scans between readings last) (ended : last.here.ahead = []) :
    Segmented between.here.behind between.here.ahead (readings.map Reading.lexemes) := by
  induction scans with
  | done between =>
    rw [ended]
    exact @Segmented.tail _ [] (.nil [])
  | gap form ends ahead others ih =>
    rw [ahead]
    refine .cons form ends ?_
    simpa [Between.skip] using ih ended
  | @statement between last reading readings stop opens reads others ih =>
    obtain ⟨lexed, ahead, terminated, stopped⟩ := lexed_of_statementLexemes reads.lexed
    have rest := ih ended
    rw [ahead] at opens ⊢
    have behind : stop.behind = (texts reading.lexemes).reverse ++ between.here.behind := by
      rw [stopped, Cursor.advance_behind]
    simp only [Between.next, behind] at rest
    exact @Segmented.slice _ _ [] _ _ (.nil _) opens lexed
      (endsStatement_of_terminated lexed terminated) rest

theorem Scans.prepares {between last : Between} {readings : List Reading}
    (scans : Scans between readings last) :
    List.Forall₂ Prepares (readings.map Reading.lexemes) (readings.map Reading.query) := by
  induction scans with
  | done => exact .nil
  | gap _ _ _ _ ih => exact ih
  | statement _ reads _ ih => exact .cons reads.prepares ih

/-- The queries of a text are prepared from its slices, one from each in their order. -/
theorem parseText_segments {source text : String} {queries : List SourceQuery}
    (accepted : parseText source text = .ok queries) :
    ∃ slices, Segmented [] text.toList slices ∧ List.Forall₂ Prepares slices queries := by
  rw [parseText_eq_ok_iff, parse_eq_remaining, Between.remaining_eq_ok_iff] at accepted
  obtain ⟨readings, last, scans, ended, rfl⟩ := accepted
  exact ⟨_, scans.segmented ended, scans.prepares⟩

/-- Two statements, the second without a semicolon, with semicolons that end neither. -/
def twoStatements : String :=
  "-- name: Find :many\nSELECT ';' FROM t WHERE a = pgq.arg('A;');\n\n/* ; */\n" ++
    "-- name: Clear :exec\nDELETE FROM t -- ;\n"

/-- The queries of `twoStatements`. -/
def twoQueries : List SourceQuery :=
  [⟨"Find", "SELECT ';' FROM t WHERE a = $1;", ["A;"], .many, ["-- name: Find :many"]⟩,
    ⟨"Clear", "DELETE FROM t -- ;", [], .exec, ["-- name: Clear :exec"]⟩]

theorem parseText_segments_two_statements :
    parseText "author.sql" twoStatements = .ok twoQueries ∧
      ∃ slices, Segmented [] twoStatements.toList slices ∧
        List.Forall₂ Prepares slices twoQueries := by
  have accepted : parseText "author.sql" twoStatements = .ok twoQueries :=
    parseText_eq_ok_iff.mpr (by decide +kernel)
  exact ⟨accepted, parseText_segments accepted⟩

end QueryTyping.QueryFile
