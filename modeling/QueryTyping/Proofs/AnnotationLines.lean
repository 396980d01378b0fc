import QueryTyping.Inference
import QueryTyping.Proofs.Printing

/-!
# Annotations and documentation lines

Two readers look at a line comment.  The annotation of a statement is split at white
space (`annotation_eq_ok`), a documentation line loses its dashes and the white space
around it (`conveys_docLine`).  Both mean the same by white space and by the dashes that
begin a comment, so that a line which annotates a statement is none of its documentation
(`IsAnnotation.conveys`).
-/

namespace QueryTyping.QueryFile

open QueryTyping.Text

/-- The text is made of the words, with white space before, between and after them. -/
inductive Spaced : List Char → List (List Char) → Prop
  | nil {blanks : List Char} (blank : ∀ c ∈ blanks, isBlank c = true) : Spaced blanks []
  | cons {blanks word rest : List Char} {words : List (List Char)}
    (blank : ∀ c ∈ blanks, isBlank c = true) (nonempty : word ≠ [])
    (unblank : ∀ c ∈ word, isBlank c = false) (ends : ∀ c ∈ rest.head?, isBlank c = true)
    (others : Spaced rest words) : Spaced (blanks ++ word ++ rest) (word :: words)

theorem Spaced.cons_blank {c : Char} {s : List Char} {ws : List (List Char)}
    (blank : isBlank c = true) (spaced : Spaced s ws) : Spaced (c :: s) ws := by
  cases spaced with
  | nil blanks => exact .nil (List.forall_mem_cons.mpr ⟨blank, blanks⟩)
  | cons blanks nonempty unblank ends others =>
    exact .cons (List.forall_mem_cons.mpr ⟨blank, blanks⟩) nonempty unblank ends others

/-- One character more, read backwards: the word it may belong to, and the words behind it. -/
def readBack (c : Char) (read : List Char × List (List Char)) : List Char × List (List Char) :=
  if isBlank c then ([], if read.1.isEmpty then read.2 else read.1 :: read.2)
  else (c :: read.1, read.2)

theorem words_eq_readBack (s : List Char) :
    words s =
      let last := s.foldr readBack ([], [])
      if last.1.isEmpty then last.2 else last.1 :: last.2 := rfl

theorem spaced_readBack (s : List Char) :
    ∃ rest, s = (s.foldr readBack ([], [])).1 ++ rest ∧
      (∀ c ∈ (s.foldr readBack ([], [])).1, isBlank c = false) ∧
      (∀ c ∈ rest.head?, isBlank c = true) ∧ Spaced rest (s.foldr readBack ([], [])).2 := by
  induction s with
  | nil => exact ⟨[], rfl, by simp, by simp, .nil (by simp)⟩
  | cons c s ih =>
    obtain ⟨rest, cut, unblank, ends, spaced⟩ := ih
    rw [List.foldr_cons]
    generalize s.foldr readBack ([], []) = read at cut unblank spaced
    obtain ⟨word, others⟩ := read
    by_cases blank : isBlank c = true
    · refine ⟨c :: s, by simp [readBack, blank], by simp [readBack, blank],
        by rintro d ⟨⟩; exact blank, ?_⟩
      cases word with
      | nil =>
        obtain rfl : s = rest := cut
        simpa [readBack, blank] using spaced.cons_blank blank
      | cons d word =>
        have gap : ∀ e ∈ [c], isBlank e = true := by simpa using blank
        have behind := Spaced.cons gap (List.cons_ne_nil d word) unblank ends spaced
        simpa [readBack, blank, cut] using behind
    · rw [Bool.not_eq_true] at blank
      refine ⟨rest, by simp [readBack, blank, cut], ?_, ends,
        by simpa [readBack, blank] using spaced⟩
      simpa [readBack, blank] using unblank

theorem spaced_words (s : List Char) : Spaced s (words s) := by
  obtain ⟨rest, cut, unblank, ends, spaced⟩ := spaced_readBack s
  rw [words_eq_readBack]
  generalize s.foldr readBack ([], []) = read at cut unblank spaced
  obtain ⟨word, others⟩ := read
  cases word with
  | nil =>
    obtain rfl : s = rest := cut
    exact spaced
  | cons c word =>
    have first := Spaced.cons (List.forall_mem_nil _) (List.cons_ne_nil c word) unblank ends spaced
    simpa [cut] using first

/-- A text of two words. -/
theorem Spaced.exists_pair {s first second : List Char} (spaced : Spaced s [first, second]) :
    ∃ left gap right, s = left ++ first ++ gap ++ second ++ right ∧
      (∀ c ∈ left, isBlank c = true) ∧ (∀ c ∈ gap, isBlank c = true) ∧ gap ≠ [] ∧
      ∀ c ∈ right, isBlank c = true := by
  cases spaced with
  | @cons left _ rest _ blankLeft _ _ ends others =>
    cases others with
    | @cons gap _ right _ blankGap nonempty unblank _ others =>
      cases others with
      | nil blankRight =>
        refine ⟨left, gap, right, by simp, blankLeft, blankGap, ?_, blankRight⟩
        rintro rfl
        obtain ⟨c, second, rfl⟩ := List.exists_cons_of_ne_nil nonempty
        have blank : isBlank c = true := ends c rfl
        rw [unblank c List.mem_cons_self] at blank
        cases blank

theorem exists_trimLeft_eq (s : List Char) :
    ∃ blanks, (∀ c ∈ blanks, isBlank c = true) ∧ trimLeft s = trim s ++ blanks := by
  have again : trim (trimLeft s) = trim s := by
    rw [trim, trim, trimLeft, trimLeft]
    exact congrArg trimRight (@dropWhile_run isBlank [] _ (List.forall_mem_nil _)
      (head?_dropWhile_eq_false isBlank s))
  obtain ⟨blanks, blank, cut⟩ := exists_blanks_of_trim (head?_dropWhile_eq_false isBlank s)
  exact ⟨blanks, blank, again ▸ cut⟩

theorem head?_trim (s : List Char) : ∀ c ∈ (trim s).head?, isBlank c = false := by
  intro c first
  obtain ⟨blanks, -, cut⟩ := exists_trimLeft_eq s
  refine head?_dropWhile_eq_false isBlank s c ?_
  change c ∈ (trimLeft s).head?
  rw [cut, List.head?_append, Option.mem_def.mp first]
  rfl

/-- Trimming takes white space from both ends of a text. -/
theorem exists_blanks_around (s : List Char) :
    ∃ left right, s = left ++ trim s ++ right ∧ (∀ c ∈ left, isBlank c = true) ∧
      ∀ c ∈ right, isBlank c = true := by
  obtain ⟨right, blank, cut⟩ := exists_trimLeft_eq s
  refine ⟨s.takeWhile isBlank, right, ?_, all_takeWhile isBlank s, blank⟩
  rw [List.append_assoc, ← cut]
  exact List.takeWhile_append_dropWhile.symm

theorem trim_of_blanks_around {left text right : List Char}
    (blankLeft : ∀ c ∈ left, isBlank c = true) (blankRight : ∀ c ∈ right, isBlank c = true)
    (unblank : ∀ c ∈ text.head?, isBlank c = false)
    (ends : ∀ c ∈ text.getLast?, isBlank c = false) : trim (left ++ text ++ right) = text := by
  cases text with
  | nil =>
    have blank : ∀ c ∈ left ++ right, isBlank c = true := fun c member =>
      (List.mem_append.mp member).elim (blankLeft c) (blankRight c)
    have nothing : trimLeft (left ++ right ++ []) = [] := dropWhile_run blank (by simp)
    rw [List.append_nil] at nothing ⊢
    rw [trim, nothing]
    rfl
  | cons c text =>
    have start : trimLeft (left ++ (c :: text) ++ right) = c :: text ++ right := by
      rw [List.append_assoc]
      exact dropWhile_run blankLeft unblank
    rw [trim, start, trimRight, dropRightWhile, List.reverse_append,
      dropWhile_run (by simpa using blankRight) (by rwa [List.head?_reverse]), List.reverse_reverse]

/-- The line is the text behind dashes, with white space around it. -/
def Conveys (line text : List Char) : Prop :=
  ∃ dashes left right, line = dashes ++ (left ++ text ++ right) ∧ (∀ c ∈ dashes, c = '-') ∧
    (left ++ text ++ right).head? ≠ some '-' ∧ (∀ c ∈ left, isBlank c = true) ∧
    (∀ c ∈ right, isBlank c = true) ∧ (∀ c ∈ text.head?, isBlank c = false) ∧
    ∀ c ∈ text.getLast?, isBlank c = false

theorem Conveys.eq_trim {line text : List Char} (conveys : Conveys line text) :
    text = trim (line.dropWhile (· = '-')) := by
  obtain ⟨dashes, left, right, rfl, dashed, undashed, blankLeft, blankRight, unblank, ends⟩ :=
    conveys
  have stops : ∀ c ∈ (left ++ text ++ right).head?, decide (c = '-') = false := by
    rintro c first
    rw [decide_eq_false_iff_not]
    rintro rfl
    exact undashed first
  rw [dropWhile_run (by simpa using dashed) stops,
    trim_of_blanks_around blankLeft blankRight unblank ends]

/-- A line conveys one text. -/
theorem Conveys.unique {line text other : List Char} (conveys : Conveys line text)
    (otherConveys : Conveys line other) : text = other :=
  conveys.eq_trim.trans otherConveys.eq_trim.symm

theorem toList_docLine (line : String) :
    (docLine line).toList = trim ((trim line.toList).dropWhile (· = '-')) :=
  String.toList_ofList

/-- The documentation line of a comment is what the comment conveys. -/
theorem conveys_docLine {line : String} (unblank : ∀ c ∈ line.toList.head?, isBlank c = false) :
    Conveys line.toList (docLine line).toList := by
  obtain ⟨outer, blankOuter, cut⟩ := exists_blanks_of_trim unblank
  have dashes := all_takeWhile (· = '-') (trim line.toList)
  have stops := head?_dropWhile_eq_false (· = '-') (trim line.toList)
  have parts : trim line.toList = (trim line.toList).takeWhile (· = '-') ++
      (trim line.toList).dropWhile (· = '-') := List.takeWhile_append_dropWhile.symm
  rw [toList_docLine]
  generalize (trim line.toList).takeWhile (· = '-') = start at dashes parts
  generalize (trim line.toList).dropWhile (· = '-') = rest at stops parts ⊢
  obtain ⟨left, right, around, blankLeft, blankRight⟩ := exists_blanks_around rest
  have whole : left ++ trim rest ++ (right ++ outer) = rest ++ outer := by
    rw [← List.append_assoc, ← around]
  refine ⟨start, left, right ++ outer, ?_, by simpa using dashes, ?_, blankLeft, ?_,
    head?_trim rest, getLast?_trim rest⟩
  · rw [whole, cut, parts, List.append_assoc]
  · rw [whole]
    intro dash
    cases rest with
    | nil =>
      have blank := blankOuter '-' (List.mem_of_mem_head? dash)
      cases blank
    | cons c rest =>
      have undashed := stops c rfl
      cases dash
      cases undashed
  · intro c member
    exact (List.mem_append.mp member).elim (blankRight c) (blankOuter c)

/-- A comment `-- name: <Name> <:kind>`, with white space between its parts and at its end. -/
def IsAnnotation (line name : List Char) (kind : ResultKind) : Prop :=
  ∃ left between gap right,
    line = "--".toList ++ left ++ "name:".toList ++ between ++ name ++ gap ++ kind.text.toList ++
      right ∧
    (∀ c ∈ left, isBlank c = true) ∧ (∀ c ∈ between, isBlank c = true) ∧
    (∀ c ∈ gap, isBlank c = true) ∧ gap ≠ [] ∧ ∀ c ∈ right, isBlank c = true

/-- What an annotation conveys begins with the directive. -/
theorem IsAnnotation.conveys {line name : List Char} {kind : ResultKind}
    (annotates : IsAnnotation line name kind) :
    ∃ text, Conveys line text ∧ "name:".toList <+: text := by
  obtain ⟨left, between, gap, right, rfl, blankLeft, -, -, -, blankRight⟩ := annotates
  refine ⟨"name:".toList ++ (between ++ name ++ gap ++ kind.text.toList),
    ⟨"--".toList, left, right, by simp, by simp, ?_, blankLeft, blankRight, ?_, ?_⟩,
    List.prefix_append _ _⟩
  · intro dash
    cases left with
    | nil => cases dash
    | cons c left =>
      cases dash
      cases blankLeft '-' List.mem_cons_self
  · rintro c ⟨⟩
    rfl
  · intro c last
    rw [← List.append_assoc, List.getLast?_append] at last
    cases kind <;> cases last <;> rfl

theorem ResultKind.text_of_ofText? {word : String} {kind : ResultKind}
    (found : ResultKind.ofText? word = some kind) : kind.text = word := by
  simpa using List.find?_some found

theorem isAnnotation_of_words {line name word : List Char} {kind : ResultKind}
    (unblank : ∀ c ∈ line.head?, isBlank c = false)
    (found : annotationWords? line = some (name, some word)) (known : kind.text.toList = word) :
    IsAnnotation line name kind := by
  obtain ⟨right, blankRight, cut⟩ := exists_blanks_of_trim unblank
  unfold annotationWords? at found
  split at found
  next body dashed =>
    split at found
    next tail directive =>
      split at found
      next => cases found
      next first second split =>
        cases found
        have pair : Spaced tail [name, word] := split ▸ spaced_words tail
        obtain ⟨between, gap, inner, rfl, blankBetween, blankGap, nonempty, blankInner⟩ :=
          pair.exists_pair
        obtain ⟨left, blankLeft, parts⟩ : ∃ left, (∀ c ∈ left, isBlank c = true) ∧
            body = left ++ trimLeft body :=
          ⟨_, all_takeWhile isBlank body, List.takeWhile_append_dropWhile.symm⟩
        refine ⟨left, between, gap, inner ++ right, ?_, blankLeft, blankBetween, blankGap,
          nonempty, ?_⟩
        · rw [cut, dashed, parts, directive, known]
          simp
        · intro c member
          exact (List.mem_append.mp member).elim (blankInner c) (blankRight c)
      next => cases found
    next => cases found
  next => cases found

/-- A valid comment block ends with an annotation, and its name is an identifier. -/
theorem annotation_eq_ok {comments : List (List Char)} {name : String} {kind : ResultKind}
    (annotated : annotation comments = .ok (name, kind))
    (unblank : ∀ comment ∈ comments, ∀ c ∈ comment.head?, isBlank c = false) :
    ∃ others line, comments = others ++ [line] ∧ IsAnnotation line name.toList kind ∧
      isIdentifier name.toList = true := by
  unfold annotation at annotated
  split at annotated
  · cases annotated
  next found kind? split =>
    obtain ⟨line, last, words⟩ := Option.bind_eq_some_iff.mp split
    obtain ⟨others, rfl⟩ := List.getLast?_eq_some_iff.mp last
    split at annotated
    · cases annotated
    next identifier =>
      cases kind? with
      | none => cases annotated
      | some word =>
        simp only at annotated
        split at annotated
        next known =>
          cases annotated
          have same : kind.text.toList = word := by
            rw [ResultKind.text_of_ofText? known, String.toList_ofList]
          rw [String.toList_ofList]
          exact ⟨others, line, rfl, isAnnotation_of_words (unblank line (by simp)) words same,
            by simpa using identifier⟩
        next => cases annotated

end QueryTyping.QueryFile
