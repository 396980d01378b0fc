import QueryTyping.Proofs.Concatenation
import QueryTyping.Proofs.OpaqueTokens
import QueryTyping.Proofs.PlaceholderReading

/-!
# Printing queries

A query is printed as its comment block and its SQL, and queries make a file with a
blank line between any two of them.  A file so made is read back to the queries it
was made of (`parseText_fileOf`), if these come from a file themselves and ask for
no parameters, whose markers their SQL no longer has.

What stands around a statement does not matter to its lexemes: less text after it
ends them all where they ended (`Lexed.of_append`), and trimmed text falls into the
same lexemes but for the white space at its end (`Lexed.exists_trimmed`).
-/

namespace QueryTyping

/-- The comment block of the query and its SQL. -/
def SourceQuery.printed (query : SourceQuery) : String :=
  "\n".intercalate query.doc ++ "\n" ++ query.preparedSql

namespace QueryFile

open QueryTyping.Text

/-- The queries one after the other, a blank line between any two. -/
def fileOf (queries : List SourceQuery) : String :=
  "\n\n".intercalate (queries.map SourceQuery.printed)

/-- Text without white space at its ends is trimmed already. -/
theorem trim_eq_self {text : List Char} (unblank : ∀ c ∈ text.head?, isBlank c = false)
    (ends : ∀ c ∈ text.getLast?, isBlank c = false) : trim text = text := by
  have kept {s : List Char} (first : ∀ c ∈ s.head?, isBlank c = false) :
      s.dropWhile isBlank = s := by
    cases s with
    | nil => rfl
    | cons c s => exact List.dropWhile_cons_of_neg (by simp [first c rfl])
  rw [trim, trimLeft, kept unblank, trimRight, dropRightWhile, kept, List.reverse_reverse]
  rwa [List.head?_reverse]

/-- What a text ends with after trimming is no white space. -/
theorem getLast?_trim (text : List Char) : ∀ c ∈ (trim text).getLast?, isBlank c = false := by
  intro c last
  rw [trim, trimRight, dropRightWhile, List.getLast?_reverse] at last
  exact head?_dropWhile_eq_false isBlank _ c last

/-- The lexeme neither ends a statement nor asks for a parameter. -/
def Lexeme.Bare (lexeme : Lexeme) : Prop := lexeme ≠ .semicolon ∧ lexeme.parameter? = none

/-- Without white space at its end, text falls into the same lexemes but for the last one. -/
theorem Lexed.exists_init {behind text : List Char} {c : Char} {lexemes : List Lexeme}
    (lexed : Lexed behind lexemes []) (bare : ∀ lexeme ∈ lexemes, lexeme.Bare)
    (same : texts lexemes = text ++ [c]) (blank : isBlank c = true) :
    ∃ shorter, Lexed behind shorter [] ∧ texts shorter = text ∧
      ∀ lexeme ∈ shorter, lexeme.Bare := by
  rcases List.eq_nil_or_concat' lexemes with rfl | ⟨init, last, rfl⟩
  · simp at same
  obtain ⟨lexedInit, lexedLast⟩ := lexed_append_iff.mp lexed
  obtain ⟨escapes, form⟩ :=
    lexed.exists_form (List.mem_append_right _ (List.mem_singleton_self last))
  obtain ⟨body, d, written⟩ := (List.eq_nil_or_concat' last.text).resolve_left form.ne_nil
  have parts : texts init ++ body = text ∧ [d] = [c] := by
    rw [texts_append, texts_cons, texts_nil, List.append_nil, written, ← List.append_assoc] at same
    exact List.append_inj' same rfl
  obtain ⟨rfl, ends⟩ := parts
  obtain rfl : d = c := List.singleton_inj.mp ends
  have lastBare : last.Bare := bare last (List.mem_append_right _ (List.mem_singleton_self last))
  have bareInit : ∀ lexeme ∈ init, lexeme.Bare :=
    fun lexeme member => bare lexeme (List.mem_append_left _ member)
  have unblank : ∀ other ∈ ['/', '\'', '"', '$', '-', 'p'], d ≠ other := by
    have visible : ∀ other ∈ ['/', '\'', '"', '$', '-', 'p'], isBlank other = false := by
      simp [isBlank]
    rintro other member rfl
    rw [visible d member] at blank
    cases blank
  -- The last lexeme gives way to one with the rest of its text.
  have replaced (shorter : Lexeme) (formed : ∀ behind, shorter.HasForm behind)
      (ends : shorter.EndsBefore []) (isBare : shorter.Bare) (shorterText : shorter.text = body) :
      ∃ shorter, Lexed behind shorter [] ∧ texts shorter = texts init ++ body ∧
        ∀ lexeme ∈ shorter, lexeme.Bare := by
    refine ⟨init ++ [shorter], lexed_append_iff.mpr ⟨?_, .cons (formed _) ends (.nil _ _)⟩, ?_, ?_⟩
    · rw [texts_cons, texts_nil, written, List.append_nil, List.append_nil] at lexedInit
      rw [texts_cons, texts_nil, shorterText, List.append_nil, List.append_nil]
      exact lexedInit.of_append
    · rw [texts_append, texts_cons, texts_nil, List.append_nil, shorterText]
    · intro lexeme member
      rcases List.mem_append.mp member with earlier | same
      · exact bareInit lexeme earlier
      · exact List.mem_singleton.mp same ▸ isBare
  cases last with
  | plain run =>
    have split : run = body ++ [d] := written
    by_cases whole : body = []
    · subst whole
      exact ⟨init, lexedInit.alone, (List.append_nil _).symm, bareInit⟩
    · have plain : ∀ c ∈ body, isSpecial c = false :=
        fun c member => form.2 c (split ▸ List.mem_append_left _ member)
      exact replaced (.plain body) (fun _ => ⟨whole, plain⟩) (by rintro c ⟨⟩) ⟨by simp, rfl⟩ rfl
  | lineComment =>
    obtain ⟨line, rfl, lineless⟩ := form
    rcases List.eq_nil_or_concat' line with rfl | ⟨line, e, rfl⟩
    · have dash : d = '-' := by
        have last := congrArg List.getLast? written
        simpa [Lexeme.text] using last.symm
      exact absurd dash (unblank '-' (by decide))
    · have split : ('-' :: '-' :: line) ++ [e] = body ++ [d] := written
      have shorter : '-' :: '-' :: line = body := (List.append_inj' split rfl).1
      have stillLineless : '\n' ∉ line := fun inside => lineless (List.mem_append_left _ inside)
      exact replaced (.lineComment ('-' :: '-' :: line)) (fun _ => ⟨line, rfl, stillLineless⟩)
        (by rintro c ⟨⟩) ⟨by simp, rfl⟩ shorter
  | marker => cases lastBare.2
  | semicolon => exact absurd rfl lastBare.1
  | blockComment | quoted | dollarQuoted =>
    obtain ⟨front, closer, closed, listed⟩ :=
      form.exists_closer (by exact trivial) (by simp)
    obtain rfl : closer = d :=
      List.singleton_inj.mp (List.append_inj' (closed.symm.trans written) rfl).2
    exact absurd rfl (unblank closer (List.mem_append_left ['-', 'p'] listed))
  | lone e =>
    have split : [] ++ [e] = body ++ [d] := written
    obtain rfl : e = d := List.singleton_inj.mp (List.append_inj' split rfl).2
    have listed : e ∈ ['/', '\'', '"', '$', '-', 'p'] := by
      rcases form with rfl | rfl | rfl | rfl <;> decide
    exact absurd rfl (unblank e listed)

theorem Lexed.exists_trimmed {behind text blanks : List Char} {lexemes : List Lexeme}
    (lexed : Lexed behind lexemes []) (bare : ∀ lexeme ∈ lexemes, lexeme.Bare)
    (same : texts lexemes = text ++ blanks) (blank : ∀ c ∈ blanks, isBlank c = true) :
    ∃ shorter, Lexed behind shorter [] ∧ texts shorter = text ∧
      ∀ lexeme ∈ shorter, lexeme.Bare := by
  induction blanks using List.reverseRecOn generalizing lexemes with
  | nil => exact ⟨lexemes, lexed, same.trans (List.append_nil text), bare⟩
  | append_singleton blanks c ih =>
    rw [← List.append_assoc] at same
    obtain ⟨shorter, lexedShorter, shorterText, bareShorter⟩ :=
      lexed.exists_init bare same (blank c (by simp))
    exact ih lexedShorter bareShorter shorterText fun d member =>
      blank d (List.mem_append_left _ member)

theorem Terminated.of_unended {lexemes : List Lexeme}
    (unended : ∀ lexeme ∈ lexemes, lexeme ≠ .semicolon) : Terminated lexemes [] := by
  induction lexemes with
  | nil => exact .atEnd
  | cons lexeme lexemes ih =>
    obtain ⟨other, others⟩ := List.forall_mem_cons.mp unended
    exact .cons other (ih others)

/-- Without markers there is nothing to prepare. -/
theorem assembled_of_unmarked {lexemes : List Lexeme}
    (unmarked : ∀ lexeme ∈ lexemes, lexeme.parameter? = none) :
    assembled lexemes = texts lexemes :=
  List.flatMap_congr fun lexeme member => Lexeme.prepared_eq_text (unmarked lexeme member) _

theorem parameters_eq_nil_iff {lexemes : List Lexeme} :
    parameters lexemes = [] ↔ ∀ lexeme ∈ lexemes, lexeme.parameter? = none := by
  rw [List.eq_nil_iff_forall_not_mem]
  constructor
  · intro unasked lexeme member
    rcases lexeme.marker_or_unmarked with ⟨name, text, rfl⟩ | unmarked
    · exact absurd (mem_parameters_iff.mpr ⟨text, member⟩) (unasked name)
    · exact unmarked
  · intro unmarked name member
    obtain ⟨text, marker⟩ := mem_parameters_iff.mp member
    cases unmarked _ marker

/-- The query is read from its own comment block and its own SQL, which falls into these
lexemes. -/
structure Standalone (query : SourceQuery) (lexemes : List Lexeme) : Prop where
  commented : ∀ line ∈ query.doc, (Piece.lineComment line.toList).HasForm
  annotated : annotation (query.doc.map String.toList) = .ok (query.name, query.resultKind)
  sql : query.preparedSql.toList = texts lexemes
  trimmed : trim (texts lexemes) = texts lexemes
  nonempty : isEmptyStatement (texts lexemes) = false
  unasked : query.paramNames = []
  unmarked : ∀ lexeme ∈ lexemes, lexeme.parameter? = none
  opens : OpensStatement (texts lexemes)
  lexed : Lexed [] lexemes []
  terminated : Terminated lexemes []

section Standalone

variable {between other last : Between} {reading : Reading} {readings : List Reading}
  {stop : Cursor} {query : SourceQuery} {lexemes : List Lexeme} {after : List Char}

/-- The comments of the next statement are those of lines. -/
def Between.Commented (between : Between) : Prop :=
  ∀ comment ∈ between.comments, (Piece.lineComment comment).HasForm

theorem Between.Commented.skip {piece : Piece} (commented : between.Commented)
    (form : piece.HasForm) (after : List Char) : (between.skip piece after).Commented := by
  intro comment member
  cases piece with
  | blanks text =>
    have kept : comment ∈ if text.count '\n' > 1 then [] else between.comments := member
    split at kept
    · cases kept
    · exact commented comment kept
  | lineComment text =>
    rcases List.mem_append.mp member with earlier | same
    · exact commented comment earlier
    · exact List.mem_singleton.mp same ▸ form
  | blockComment => exact commented comment member
  | semicolon => cases member

/-- A statement without markers falls into lexemes also without the text around it and the white
space at its end. -/
theorem Lexed.exists_standalone {behind : List Char} (lexed : Lexed behind lexemes after)
    (neutral : Neutral behind) (opens : OpensStatement (texts lexemes ++ after))
    (terminated : Terminated lexemes after) (nonempty : trim (texts lexemes) ≠ [])
    (unmarked : ∀ lexeme ∈ lexemes, lexeme.parameter? = none) :
    ∃ shorter, Lexed [] shorter [] ∧ Terminated shorter [] ∧ OpensStatement (texts shorter) ∧
      texts shorter = trim (texts lexemes) ∧ (∀ lexeme ∈ shorter, lexeme.parameter? = none) ∧
      (after ≠ [] → .semicolon ∈ shorter) := by
  have alone : Lexed [] lexemes [] :=
    (lexed.relocate (looksAlike_of_neutral neutral neutral_nil _)).alone
  have opensText : OpensStatement (texts lexemes) := by
    refine opens.of_append ?_
    rintro empty
    rw [empty] at nonempty
    exact nonempty rfl
  by_cases ended : .semicolon ∈ lexemes
  · obtain ⟨init, same⟩ := terminated.exists_init ended
    have last : ∀ c ∈ (texts lexemes).getLast?, isBlank c = false := by
      intro c member
      have semicolon : c = ';' := by
        simpa [same, Lexeme.text, eq_comm] using member
      exact semicolon ▸ rfl
    exact ⟨lexemes, alone, terminated.of_text, opensText,
      (trim_eq_self opensText.unblank last).symm, unmarked, fun _ => ended⟩
  · have bare : ∀ lexeme ∈ lexemes, lexeme.Bare :=
      fun lexeme member => ⟨fun same => ended (same ▸ member), unmarked lexeme member⟩
    obtain ⟨blanks, blank, cut⟩ := exists_blanks_of_trim opensText.unblank
    obtain ⟨shorter, lexedShorter, same, bareShorter⟩ := alone.exists_trimmed bare cut blank
    have opensShorter : OpensStatement (texts shorter) := by
      rw [cut] at opensText
      rw [same]
      exact opensText.of_append nonempty
    exact ⟨shorter, lexedShorter, .of_unended fun lexeme member => (bareShorter lexeme member).1,
      opensShorter, same, fun lexeme member => (bareShorter lexeme member).2,
      fun continues => absurd (terminated.semicolon_mem continues) ended⟩

theorem Between.Reads.exists_standalone (reads : between.Reads reading stop)
    (opens : OpensStatement between.here.ahead) (neutral : Neutral between.here.behind)
    (commented : between.Commented) (unasked : reading.query.paramNames = []) :
    ∃ lexemes, Standalone reading.query lexemes ∧ (stop.ahead ≠ [] → .semicolon ∈ lexemes) := by
  have unmarked : ∀ lexeme ∈ reading.lexemes, lexeme.parameter? = none := by
    have params := reads.prepares.params
    rw [unasked, eq_comm, List.map_eq_nil_iff] at params
    exact parameters_eq_nil_iff.mp params
  have whole : assembled reading.lexemes = texts reading.lexemes := assembled_of_unmarked unmarked
  have contentful : isEmptyStatement (trim (texts reading.lexemes)) = false :=
    whole ▸ reads.nonempty
  have nonempty : trim (texts reading.lexemes) ≠ [] := by
    intro empty
    rw [empty] at contentful
    cases contentful
  obtain ⟨read, ahead, terminated, -⟩ := lexed_of_statementLexemes reads.lexed
  obtain ⟨lexemes, lexed, terminated, opensText, same, unmarked, closed⟩ :=
    read.exists_standalone neutral (ahead ▸ opens) terminated nonempty unmarked
  refine ⟨lexemes, ?_, closed⟩
  exact
    { commented := by
        rw [reads.documented]
        intro line member
        obtain ⟨comment, listed, rfl⟩ := List.mem_map.mp member
        rw [String.toList_ofList]
        exact commented comment listed
      annotated := by
        rw [reads.documented, List.map_map, ← reads.annotated]
        simp [Function.comp_def]
      sql := by rw [reads.prepares.sql, String.toList_ofList, whole, same]
      trimmed := trim_eq_self opensText.unblank (same ▸ getLast?_trim _)
      nonempty := same ▸ contentful
      unasked := unasked
      unmarked := unmarked
      opens := opensText
      lexed := lexed
      terminated := terminated }

/-- Wherever its name is new, a query by itself is read behind its comments. -/
theorem Standalone.reads (standalone : Standalone query lexemes)
    (closed : after ≠ [] → .semicolon ∈ lexemes) (neutral : Neutral other.here.behind)
    (ahead : other.here.ahead = texts lexemes ++ after)
    (documented : other.comments = query.doc.map String.toList)
    (fresh : other.declared.lookup query.name = none) :
    OpensStatement other.here.ahead ∧
      other.Reads ⟨lexemes, query⟩ (other.here.advance (texts lexemes) after) := by
  have whole : Lexed [] lexemes after ∧ Terminated lexemes after ∧
      OpensStatement (texts lexemes ++ after) := by
    by_cases continues : after = []
    · subst continues
      refine ⟨standalone.lexed, standalone.terminated, ?_⟩
      rw [List.append_nil]
      exact standalone.opens
    · have ended := closed continues
      exact ⟨standalone.lexed.append_text standalone.terminated ended after,
        standalone.terminated.append_text ended after,
        standalone.opens.append (semicolon_mem_texts ended) after⟩
  obtain ⟨lexed, terminated, opens⟩ := whole
  have moved := lexed.relocate (looksAlike_of_neutral neutral_nil neutral _)
  have asked : parameters lexemes = [] := parameters_eq_nil_iff.mpr standalone.unmarked
  have text : assembled lexemes = texts lexemes := assembled_of_unmarked standalone.unmarked
  refine ⟨ahead ▸ opens, ?_⟩
  exact
    { annotated := documented ▸ standalone.annotated
      fresh := fresh
      lexed := statementLexemes_of_lexed moved ahead terminated
      prepares :=
        { sql := by rw [text, standalone.trimmed, ← standalone.sql, String.ofList_toList]
          params := by rw [asked, standalone.unasked, List.map_nil] }
      documented := by simp [documented, Function.comp_def]
      nonempty := by rw [text, standalone.trimmed]; exact standalone.nonempty }

/-- Lines with their newlines. -/
def lineTexts (lines : List (List Char)) : List Char := lines.flatMap fun line => line ++ ['\n']

/-- Comments on lines of their own stay together up to a text that is no white space. -/
theorem scans_lines {lines : List (List Char)}
    (commented : ∀ line ∈ lines, (Piece.lineComment line).HasForm)
    (unblank : ∀ c ∈ after.head?, isBlank c = false)
    (ahead : between.here.ahead = lineTexts lines ++ after) :
    Scans between [] ⟨between.declared, between.comments ++ lines,
      between.here.advance (lineTexts lines) after⟩ := by
  induction lines generalizing between with
  | nil =>
    have unmoved : between.here.advance [] after = between.here := by
      have same : between.here.ahead = after := ahead
      rw [← same]
      exact between.here.advance_nil
    rw [lineTexts, List.flatMap_nil, List.append_nil, unmoved]
    exact .done between
  | cons line lines ih =>
    obtain ⟨form, others⟩ := List.forall_mem_cons.mp commented
    have dashed : ∀ c ∈ (lineTexts lines ++ after).head?, isBlank c = false := by
      intro c first
      cases lines with
      | nil => exact unblank c first
      | cons next lines =>
        obtain ⟨body, rfl, -⟩ := others next List.mem_cons_self
        cases first
        rfl
    have text : lineTexts (line :: lines) ++ after =
        line ++ (['\n'] ++ (lineTexts lines ++ after)) := by simp [lineTexts]
    have kept : (Piece.blanks ['\n']).attach (between.comments ++ [line]) =
        between.comments ++ [line] := by simp [Piece.attach]
    have later := @ih
      ((between.skip (.lineComment line) (['\n'] ++ (lineTexts lines ++ after))).skip
        (.blanks ['\n']) (lineTexts lines ++ after)) others rfl
    have scans := @Scans.gap between _ _ (.lineComment line) _ form
      (by rintro c ⟨⟩; rfl) (ahead.trans text)
      (.gap Piece.newline_hasForm dashed rfl later)
    simpa [Between.skip, Piece.attach, kept, Piece.text, Cursor.advance_advance, lineTexts] using
      scans

theorem toList_doc {doc : List String} (documented : doc ≠ []) :
    ("\n".intercalate doc).toList ++ ['\n'] = lineTexts (doc.map String.toList) := by
  induction doc with
  | nil => exact absurd rfl documented
  | cons line doc ih =>
    cases doc with
    | nil => simp [lineTexts]
    | cons next doc =>
      have others := ih (List.cons_ne_nil next doc)
      rw [String.intercalate_cons_cons, String.toList_append, List.append_assoc, others]
      simp [lineTexts]

theorem toList_printed {query : SourceQuery} (documented : query.doc ≠ []) :
    query.printed.toList = lineTexts (query.doc.map String.toList) ++ query.preparedSql.toList := by
  rw [SourceQuery.printed, String.toList_append, String.toList_append, ← toList_doc documented]
  rfl

theorem toList_fileOf_cons_cons (query next : SourceQuery) (queries : List SourceQuery) :
    (fileOf (query :: next :: queries)).toList =
      query.printed.toList ++ (['\n', '\n'] ++ (fileOf (next :: queries)).toList) := by
  simp [fileOf, String.intercalate_cons_cons]

theorem Standalone.documented (standalone : Standalone query lexemes) : query.doc ≠ [] := by
  intro empty
  have annotated := standalone.annotated
  rw [empty] at annotated
  cases annotated

/-- A printed file begins with the comment block of its first query. -/
theorem Standalone.head?_fileOf (standalone : Standalone query lexemes)
    (queries : List SourceQuery) : (fileOf (query :: queries)).toList.head? = some '-' := by
  obtain ⟨line, doc, same⟩ := List.exists_cons_of_ne_nil standalone.documented
  obtain ⟨body, dashed, -⟩ := standalone.commented line (same ▸ List.mem_cons_self)
  have printed : ∃ rest, query.printed.toList = '-' :: rest := by
    rw [toList_printed standalone.documented, same, List.map_cons, lineTexts, List.flatMap_cons,
      dashed]
    exact ⟨_, rfl⟩
  obtain ⟨rest, printed⟩ := printed
  cases queries with
  | nil => simp [fileOf, printed]
  | cons next queries => rw [toList_fileOf_cons_cons, printed]; rfl

/-- A query by itself is read as it is printed. -/
theorem Standalone.scans_printed (standalone : Standalone query lexemes)
    (closed : after ≠ [] → .semicolon ∈ lexemes) (uncommented : other.comments = [])
    (ahead : other.here.ahead = query.printed.toList ++ after)
    (fresh : other.declared.lookup query.name = none) :
    ∃ last, Scans other [⟨lexemes, query⟩] last ∧ last.here.ahead = after := by
  have sqlAhead : other.here.ahead =
      lineTexts (query.doc.map String.toList) ++ (texts lexemes ++ after) := by
    rw [ahead, toList_printed standalone.documented, standalone.sql, List.append_assoc]
  have unblank : ∀ c ∈ (texts lexemes ++ after).head?, isBlank c = false := by
    rw [List.head?_append_of_ne_nil _ standalone.opens.nonempty]
    exact standalone.opens.unblank
  have commented : ∀ line ∈ query.doc.map String.toList, (Piece.lineComment line).HasForm :=
    List.forall_mem_map.mpr standalone.commented
  have toSql := scans_lines commented unblank sqlAhead
  rw [uncommented, List.nil_append] at toSql
  have neutral : Neutral (other.here.advance (lineTexts (query.doc.map String.toList))
      (texts lexemes ++ after)).behind := by
    obtain ⟨init, line, same⟩ :=
      (List.eq_nil_or_concat' query.doc).resolve_left standalone.documented
    rw [Cursor.advance_behind, same]
    have newline := neutral_of_small (c := '\n') (by decide)
    simpa [lineTexts] using newline _
  obtain ⟨opens, reads⟩ := @Standalone.reads ⟨other.declared, _, _⟩ _ _ _ standalone closed neutral
    rfl rfl fresh
  exact ⟨_, toSql.trans (.statement opens reads (.done _)), rfl⟩

/-- Printed, the queries of a scan are read again. -/
theorem Scans.remaining_printed (scans : Scans between readings last)
    (ended : last.here.ahead = []) (clear : between.Clear) (commented : between.Commented)
    (unasked : ∀ reading ∈ readings, reading.query.paramNames = [])
    (uncommented : other.comments = [])
    (ahead : other.here.ahead = (fileOf (readings.map Reading.query)).toList)
    (fresh : ∀ reading ∈ readings, between.declared.lookup reading.query.name = none →
      other.declared.lookup reading.query.name = none) :
    (∀ c ∈ (fileOf (readings.map Reading.query)).toList.head?, isBlank c = false) ∧
      other.remaining = .ok (readings.map Reading.query) := by
  induction scans generalizing other with
  | done => exact ⟨by rintro c ⟨⟩, other.remaining_of_nil ahead⟩
  | gap form ends _ _ ih =>
    exact ih ended (Between.clear_skip form ends) (commented.skip form _) unasked uncommented ahead
      fresh
  | @statement between last reading readings stop opens reads others ih =>
    obtain ⟨unaskedFirst, unaskedLater⟩ := List.forall_mem_cons.mp unasked
    obtain ⟨lexemes, standalone, closed⟩ := reads.exists_standalone opens (clear.neutral opens)
      commented unaskedFirst
    have new : other.declared.lookup reading.query.name = none :=
      fresh reading List.mem_cons_self reads.fresh
    refine ⟨fun c first => ?_, ?_⟩
    · rw [List.map_cons, standalone.head?_fileOf] at first
      cases first
      rfl
    cases readings with
    | nil =>
      have whole : other.here.ahead = reading.query.printed.toList ++ [] := by
        rw [ahead]
        simp [fileOf]
      obtain ⟨place, printed, stopped⟩ :=
        standalone.scans_printed (fun continues => absurd rfl continues) uncommented whole new
      rw [printed.remaining, place.remaining_of_nil stopped]
      rfl
    | cons next readings =>
      have isClosed : .semicolon ∈ lexemes := by
        refine closed fun stopped => ?_
        have none := (others.eq_of_ended stopped).1
        cases none
      have whole : other.here.ahead = reading.query.printed.toList ++
          (['\n', '\n'] ++ (fileOf ((next :: readings).map Reading.query)).toList) := by
        rw [ahead]
        exact toList_fileOf_cons_cons _ _ _
      obtain ⟨place, printed, stopped⟩ :=
        standalone.scans_printed (fun _ => isClosed) uncommented whole new
      have stillFresh : ∀ later ∈ next :: readings,
          (between.next reading stop).declared.lookup later.query.name = none →
            place.declared.lookup later.query.name = none := by
        intro later member unseen
        obtain ⟨different, unseen⟩ := Between.lookup_next_eq_none_iff.mp unseen
        have before := fresh later (List.mem_cons_of_mem reading member) unseen
        exact printed.lookup_eq_none_iff.mpr ⟨before, by simpa using different⟩
      have blankLine : (Piece.blanks ['\n', '\n']).HasForm := ⟨by simp, by simp [isBlank]⟩
      obtain ⟨ends, later⟩ := @ih (place.skip (.blanks ['\n', '\n'])
        (fileOf ((next :: readings).map Reading.query)).toList) ended reads.clear_next
        (by rintro comment ⟨⟩) unaskedLater rfl rfl stillFresh
      rw [printed.remaining, Between.remaining_of_gap blankLine ends stopped, later]
      rfl

end Standalone

/-- The queries of a text that is accepted, if none has parameters, are those of the file that
prints them. -/
theorem parseText_fileOf {source other text : String} {queries : List SourceQuery}
    (accepted : parseText source text = .ok queries)
    (unasked : ∀ query ∈ queries, query.paramNames = []) :
    parseText other (fileOf queries) = .ok queries := by
  rw [parseText_eq_ok_iff, parse_eq_remaining] at accepted ⊢
  obtain ⟨readings, last, scans, ended, rfl⟩ := Between.remaining_eq_ok_iff.mp accepted
  have printed := @Scans.remaining_printed _ (.start (fileOf (readings.map Reading.query)).toList) _
    _ scans ended (clear_start _) (by rintro comment ⟨⟩) (List.forall_mem_map.mp unasked) rfl rfl
    fun _ _ unseen => unseen
  exact printed.2

/-- Two statements with comments and a semicolon between them, the second one cut off by the end
of the text behind a comment and white space. -/
def loosePages : String :=
  "-- Every page.\n-- name: Pages :many\nSELECT ';' -- all;\n  FROM page;\n\n;/* -- */\n" ++
    "-- name: Tear :exec\n  DELETE FROM page -- now; \n \n"

/-- The queries of `loosePages`. -/
def pageQueries : List SourceQuery :=
  [⟨"Pages", "SELECT ';' -- all;\n  FROM page;", [], .many,
      ["-- Every page.", "-- name: Pages :many"]⟩,
    ⟨"Tear", "DELETE FROM page -- now;", [], .exec, ["-- name: Tear :exec"]⟩]

theorem parseText_fileOf_pages :
    parseText "page.sql" loosePages = .ok pageQueries ∧
      (∀ query ∈ pageQueries, query.paramNames = []) ∧
      parseText "printed.sql" (fileOf pageQueries) = .ok pageQueries := by
  have accepted : parseText "page.sql" loosePages = .ok pageQueries :=
    parseText_eq_ok_iff.mpr (by decide +kernel)
  have unasked : ∀ query ∈ pageQueries, query.paramNames = [] := by decide
  exact ⟨accepted, unasked, parseText_fileOf accepted unasked⟩

end QueryFile

end QueryTyping
