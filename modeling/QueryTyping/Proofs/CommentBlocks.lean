import QueryTyping.Proofs.AnnotationLines
import QueryTyping.Proofs.EmptyStatements

/-!
# Comment blocks

A statement is documented by the line comments in front of it, from the last place on
where something detaches them: a blank line, a semicolon, the end of the statement
before, or the beginning of the text.  The last of them is its annotation, and the others
are its documentation, with the directives among them left out (`parseText_documents`).
-/

namespace QueryTyping.QueryFile

open QueryTyping.Text

namespace Piece

/-- The piece detaches the comments in front of it from the next statement. -/
def Detaches : Piece → Prop
  | blanks text => 1 < text.count '\n'
  | semicolon => True
  | lineComment _ | blockComment _ => False

/-- The text of a line comment. -/
def comment? : Piece → Option (List Char)
  | lineComment text => some text
  | blanks _ | blockComment _ | semicolon => none

theorem Detaches.attach_eq {piece : Piece} (detaches : piece.Detaches)
    (comments : List (List Char)) : piece.attach comments = [] := by
  cases piece with
  | blanks => exact if_pos detaches
  | semicolon => rfl
  | lineComment | blockComment => exact detaches.elim

theorem attach_of_not_detaches {piece : Piece} (keeps : ¬ piece.Detaches)
    (comments : List (List Char)) :
    piece.attach comments = comments ++ piece.comment?.toList := by
  cases piece with
  | blanks => exact (if_neg keeps).trans (List.append_nil _).symm
  | semicolon => exact absurd trivial keeps
  | lineComment => rfl
  | blockComment => exact (List.append_nil _).symm

end Piece

/-- The comments of a statement are the line comments of its gap since the last piece that
detaches. -/
theorem exists_block (pieces : List Piece) :
    ∃ detached block, pieces = detached ++ block ∧
      (detached = [] ∨ ∃ init piece, detached = init ++ [piece] ∧ piece.Detaches) ∧
      (∀ piece ∈ block, ¬ piece.Detaches) ∧
      pieces.foldl Piece.attach [] = block.filterMap Piece.comment? := by
  induction pieces using List.reverseRecOn with
  | nil => exact ⟨[], [], rfl, .inl rfl, List.forall_mem_nil _, rfl⟩
  | append_singleton pieces piece ih =>
    rw [List.foldl_append, List.foldl_cons, List.foldl_nil]
    by_cases detaches : piece.Detaches
    · exact ⟨pieces ++ [piece], [], (List.append_nil _).symm, .inr ⟨pieces, piece, rfl, detaches⟩,
        List.forall_mem_nil _, detaches.attach_eq _⟩
    · obtain ⟨detached, block, rfl, ends, keeps, comments⟩ := ih
      refine ⟨detached, block ++ [piece], List.append_assoc _ _ _, ends, ?_, ?_⟩
      · exact List.forall_mem_append.mpr ⟨keeps, List.forall_mem_singleton.mpr detaches⟩
      · rw [comments, Piece.attach_of_not_detaches detaches, List.filterMap_append]
        cases piece <;> rfl

theorem Gap.form {pieces : List Piece} {after : List Char} (gap : Gap pieces after) :
    ∀ piece ∈ pieces, piece.HasForm := by
  induction gap with
  | nil => exact List.forall_mem_nil _
  | cons form _ _ ih => exact List.forall_mem_cons.mpr ⟨form, ih⟩

/-- A statement with the gap in front of it. -/
structure Entry where
  gap : List Piece
  lexemes : List Lexeme

/-- The text ahead is made of the entries, and of a gap after the last one.  What lies behind is
given backwards. -/
inductive Entries : List Char → List Char → List Entry → Prop
  | tail {behind : List Char} {pieces : List Piece} (gap : Gap pieces []) :
    Entries behind (gapText pieces) []
  | entry {behind after : List Char} {pieces : List Piece} {lexemes : List Lexeme}
    {entries : List Entry} (gap : Gap pieces (texts lexemes ++ after))
    (opens : OpensStatement (texts lexemes ++ after))
    (lexed : Lexed ((gapText pieces).reverse ++ behind) lexemes after)
    (ends : EndsStatement lexemes after)
    (others : Entries ((gapText pieces ++ texts lexemes).reverse ++ behind) after entries) :
    Entries behind (gapText pieces ++ (texts lexemes ++ after)) (⟨pieces, lexemes⟩ :: entries)

/-- The statements of the entries are the slices of the text. -/
theorem Entries.segmented {behind ahead : List Char} {entries : List Entry}
    (made : Entries behind ahead entries) : Segmented behind ahead (entries.map Entry.lexemes) := by
  induction made with
  | tail gap => exact .tail gap
  | entry gap opens lexed ends _ ih => exact .slice gap opens lexed ends ih

/-- What the statement of an entry is documented by. -/
structure Documents (entry : Entry) (query : SourceQuery) : Prop where
  prepares : Prepares entry.lexemes query
  /-- The block begins behind the last piece that detaches, or with the gap. -/
  attached : ∃ detached block, entry.gap = detached ++ block ∧
    (detached = [] ∨ ∃ init piece, detached = init ++ [piece] ∧ piece.Detaches) ∧
    (∀ piece ∈ block, ¬ piece.Detaches) ∧
    query.doc = (block.filterMap Piece.comment?).map String.ofList
  /-- The annotation comes last, and is no documentation; other directives are none either. -/
  annotated : ∃ others line, query.doc = others ++ [line] ∧
    IsAnnotation line.toList query.name.toList query.resultKind ∧
    ∃ conveyed : List String,
      List.Forall₂ (fun line text => Conveys line.toList text.toList) others conveyed ∧
      normalizeDoc query.doc =
        conveyed.filter fun text => !"name:".toList.isPrefixOf text.toList
  identifier : isIdentifier query.name.toList = true

theorem startsWith_eq_isPrefixOf (text start : String) :
    text.startsWith start = start.toList.isPrefixOf text.toList := by
  rw [Bool.eq_iff_iff, String.startsWith_string_iff, List.isPrefixOf_iff_prefix]

/-- Directives are left out of the documentation, and so is the annotation. -/
theorem exists_conveyed {others : List String} {line : String} {name : List Char}
    {kind : ResultKind} (annotates : IsAnnotation line.toList name kind)
    (unblank : ∀ other ∈ others, ∀ c ∈ other.toList.head?, isBlank c = false) :
    ∃ conveyed : List String,
      List.Forall₂ (fun line text => Conveys line.toList text.toList) others conveyed ∧
      normalizeDoc (others ++ [line]) =
        conveyed.filter fun text => !"name:".toList.isPrefixOf text.toList := by
  have dropped : "name:".toList.isPrefixOf (docLine line).toList = true := by
    obtain ⟨text, conveys, directive⟩ := annotates.conveys
    have dashed : ∀ c ∈ line.toList.head?, isBlank c = false := by
      obtain ⟨_, _, _, _, written, -⟩ := annotates
      rw [written]
      rintro c ⟨⟩
      rfl
    rw [List.isPrefixOf_iff_prefix, (conveys_docLine dashed).unique conveys]
    exact directive
  refine ⟨others.map docLine, ?_, ?_⟩
  · rw [List.forall₂_map_right_iff, List.forall₂_same]
    exact fun other member => conveys_docLine (unblank other member)
  · simpa [normalizeDoc, startsWith_eq_isPrefixOf] using dropped

/-- A statement that is read behind its gap is documented by it. -/
theorem Between.Reads.documents {between : Between} {reading : Reading} {stop : Cursor}
    {pieces : List Piece} (reads : between.Reads reading stop)
    (comments : between.comments = pieces.foldl Piece.attach [])
    (forms : ∀ piece ∈ pieces, piece.HasForm) :
    Documents ⟨pieces, reading.lexemes⟩ reading.query := by
  obtain ⟨detached, block, rfl, ends, keeps, attached⟩ := exists_block pieces
  rw [attached] at comments
  have commented : ∀ comment ∈ between.comments, ∀ c ∈ comment.head?, isBlank c = false := by
    intro comment member c first
    rw [comments] at member
    obtain ⟨piece, listed, found⟩ := List.mem_filterMap.mp member
    have form := forms piece (List.mem_append_right _ listed)
    cases piece with
    | lineComment text =>
      cases found
      obtain ⟨body, rfl, -⟩ := form
      cases first
      rfl
    | blanks | blockComment | semicolon => cases found
  obtain ⟨others, line, same, annotates, identifier⟩ := annotation_eq_ok reads.annotated commented
  have documented : reading.query.doc = others.map String.ofList ++ [String.ofList line] := by
    rw [reads.documented, same, List.map_append]
    rfl
  rw [same] at commented
  have unblank :
      ∀ other ∈ others.map String.ofList, ∀ c ∈ other.toList.head?, isBlank c = false := by
    intro other member
    obtain ⟨comment, listed, rfl⟩ := List.mem_map.mp member
    rw [String.toList_ofList]
    exact commented comment (List.mem_append_left _ listed)
  rw [← String.toList_ofList (l := line)] at annotates
  refine ⟨reads.prepares, ⟨detached, block, rfl, ends, keeps, ?_⟩,
    ⟨_, _, documented, annotates, ?_⟩, identifier⟩
  · rw [reads.documented, comments]
  · rw [documented]
    exact exists_conveyed annotates unblank

section Scans

variable {between last : Between} {reading : Reading} {readings : List Reading}

/-- A scan that reads no more statements is in a gap. -/
theorem Scans.exists_tail (scans : Scans between [] last) (ended : last.here.ahead = []) :
    ∃ pieces, Gap pieces [] ∧ between.here.ahead = gapText pieces := by
  generalize none : [] = readings at scans
  induction scans with
  | done => exact ⟨[], .nil [], ended⟩
  | @gap between last readings piece after form ends ahead _ ih =>
    obtain ⟨pieces, gap, rest⟩ := ih ended none
    obtain rfl : after = gapText pieces := rest
    exact ⟨piece :: pieces, .cons form (by rwa [List.append_nil]) gap, ahead⟩
  | statement => cases none

/-- A scan passes over a gap before it reads a statement. -/
theorem Scans.exists_gap (scans : Scans between (reading :: readings) last) :
    ∃ pieces after stop, Gap pieces after ∧ between.here.ahead = gapText pieces ++ after ∧
      OpensStatement after ∧ (between.skipAll pieces after).Reads reading stop ∧
      Scans ((between.skipAll pieces after).next reading stop) readings last := by
  generalize some : reading :: readings = all at scans
  induction scans with
  | done => cases some
  | @gap between last _ piece rest form ends ahead _ ih =>
    obtain ⟨pieces, after, stop, gap, text, opens, reads, others⟩ := ih some
    obtain rfl : rest = gapText pieces ++ after := text
    have skipped : (between.skip piece (gapText pieces ++ after)).skipAll pieces after =
        between.skipAll (piece :: pieces) after := by
      simp [Between.skipAll, Between.skip, Cursor.advance_advance, gapText]
    rw [skipped] at reads others
    refine ⟨piece :: pieces, after, stop, .cons form ends gap, ?_, opens, reads, others⟩
    rw [ahead, ← List.append_assoc]
    rfl
  | @statement between last read later stop opens reads others _ =>
    cases some
    have skipped : between.skipAll [] between.here.ahead = between := rfl
    exact ⟨[], between.here.ahead, stop, .nil _, rfl, opens, skipped ▸ reads, skipped ▸ others⟩

/-- A scan to the end of the text makes entries of it, each with the documentation of its
statement. -/
theorem Scans.exists_entries (scans : Scans between readings last) (ended : last.here.ahead = [])
    (detached : between.comments = []) :
    ∃ entries, Entries between.here.behind between.here.ahead entries ∧
      List.Forall₂ Documents entries (readings.map Reading.query) := by
  induction readings generalizing between with
  | nil =>
    obtain ⟨pieces, gap, ahead⟩ := scans.exists_tail ended
    rw [ahead]
    exact ⟨[], .tail gap, .nil⟩
  | cons reading readings ih =>
    obtain ⟨pieces, after, stop, gap, ahead, opens, reads, others⟩ := scans.exists_gap
    obtain ⟨lexed, rest, terminated, stopped⟩ := lexed_of_statementLexemes reads.lexed
    obtain ⟨entries, made, documented⟩ := ih others rfl
    obtain rfl : after = texts reading.lexemes ++ stop.ahead := rest
    have behind : stop.behind =
        (gapText pieces ++ texts reading.lexemes).reverse ++ between.here.behind := by
      rw [stopped, Cursor.advance_behind, Between.skipAll, Cursor.advance_behind,
        List.reverse_append, List.append_assoc]
    rw [Between.skipAll, Cursor.advance_behind] at lexed
    have statement : (between.skipAll pieces (texts reading.lexemes ++ stop.ahead)).comments =
        pieces.foldl Piece.attach [] := by
      rw [Between.skipAll, detached]
    simp only [Between.next, behind] at made
    refine ⟨⟨pieces, reading.lexemes⟩ :: entries, ?_,
      .cons (reads.documents statement gap.form) documented⟩
    rw [ahead]
    exact .entry gap opens lexed (endsStatement_of_terminated lexed terminated) made

/-- No name is declared twice. -/
theorem Scans.nodup_names (scans : Scans between readings last) :
    (readings.map fun reading => reading.query.name).Nodup := by
  induction scans with
  | done => exact List.nodup_nil
  | gap _ _ _ _ ih => exact ih
  | @statement between last reading readings stop _ _ others ih =>
    rw [List.map_cons, List.nodup_cons]
    refine ⟨fun again => ?_, ih⟩
    obtain ⟨later, member, same⟩ := List.mem_map.mp again
    obtain ⟨first, rest, rfl⟩ := List.append_of_mem member
    obtain ⟨middle, _, toMiddle, -, reads⟩ := others.split
    have fresh := (toMiddle.lookup_eq_none_iff.mp reads.fresh).1
    exact (Between.lookup_next_eq_none_iff.mp fresh).1 same

end Scans

/-- Every query of a text has the documentation in front of its statement, with an annotation that
carries its name and kind, and no two have the same name. -/
theorem parseText_documents {source text : String} {queries : List SourceQuery}
    (accepted : parseText source text = .ok queries) :
    ∃ entries, Entries [] text.toList entries ∧ List.Forall₂ Documents entries queries ∧
      (queries.map SourceQuery.name).Nodup := by
  rw [parseText_eq_ok_iff, parse_eq_remaining, Between.remaining_eq_ok_iff] at accepted
  obtain ⟨readings, last, scans, ended, rfl⟩ := accepted
  obtain ⟨entries, made, documented⟩ := scans.exists_entries ended rfl
  refine ⟨entries, made, documented, ?_⟩
  rw [List.map_map]
  exact scans.nodup_names

/-- Two statements, whose comments are detached by a blank line and by a semicolon. -/
def detachedComments : String :=
  "-- A file of queries.\n\n-- Finds authors.\n--- - by name\n-- name: Old\n/* as of now */\n" ++
    "--name:Find\t:many \nSELECT 1;\n-- spare\n;-- name: Clear :exec\nDELETE FROM t"

/-- The queries of `detachedComments`. -/
def detachedCommentsQueries : List SourceQuery :=
  [⟨"Find", "SELECT 1;", [], .many,
      ["-- Finds authors.", "--- - by name", "-- name: Old", "--name:Find\t:many "]⟩,
    ⟨"Clear", "DELETE FROM t", [], .exec, ["-- name: Clear :exec"]⟩]

theorem parseText_documents_detached_comments :
    parseText "author.sql" detachedComments = .ok detachedCommentsQueries ∧
      ∃ entries, Entries [] detachedComments.toList entries ∧
        List.Forall₂ Documents entries detachedCommentsQueries ∧
        (detachedCommentsQueries.map SourceQuery.name).Nodup := by
  have accepted : parseText "author.sql" detachedComments = .ok detachedCommentsQueries :=
    parseText_eq_ok_iff.mpr (by decide +kernel)
  exact ⟨accepted, parseText_documents accepted⟩

end QueryTyping.QueryFile
