import Mathlib.Data.List.Infix
import QueryTyping.QueryFile.Lexeme

/-!
# The form of protected text

What a comment, a string, a dollar quote or a parameter marker looks like can be
said without reading it.  A comment has a closer for each opener, a string ends
with a quote that is not doubled, the body of a dollar quote ends with the first
repetition of its tag.

Each reader is exact for its grammar: it cuts a text precisely into a piece of
the right form and the rest (`closeComment_eq_some_iff`, `closeQuote_eq_some_iff`,
`closeMark_eq_some_iff`, `dollarTag_eq_some_iff`, `marker?_eq_some_iff`).
-/

namespace QueryTyping.QueryFile

open QueryTyping.Text

section Runs

variable {p : Char → Bool} {s run after : List Char}

theorem all_takeWhile (p : Char → Bool) (s : List Char) : ∀ c ∈ s.takeWhile p, p c = true :=
  List.all_eq_true.mp List.all_takeWhile

theorem head?_dropWhile_eq_false (p : Char → Bool) (s : List Char) :
    ∀ c ∈ (s.dropWhile p).head?, p c = false := by
  intro c first
  have stopped := List.head?_dropWhile_not p s
  rw [Option.mem_def] at first
  rw [first] at stopped
  simpa using stopped

/-- A run is what `takeWhile` takes if the text after it does not go on. -/
theorem takeWhile_run (all : ∀ c ∈ run, p c = true) (stops : ∀ c ∈ after.head?, p c = false) :
    (run ++ after).takeWhile p = run := by
  rw [List.takeWhile_append_of_pos all]
  cases after with
  | nil => simp
  | cons c after =>
    have stopped : p c = false := stops c rfl
    simp [stopped]

theorem dropWhile_run (all : ∀ c ∈ run, p c = true) (stops : ∀ c ∈ after.head?, p c = false) :
    (run ++ after).dropWhile p = after := by
  rw [List.dropWhile_append_of_pos all]
  cases after with
  | nil => rfl
  | cons c after =>
    have stopped : p c = false := stops c rfl
    simp [stopped]

theorem newline_notMem_takeWhile (s : List Char) : '\n' ∉ s.takeWhile (· ≠ '\n') := by
  intro newline
  simpa using all_takeWhile (· ≠ '\n') s _ newline

theorem head?_dropWhile_line (s : List Char) :
    ∀ c ∈ (s.dropWhile (· ≠ '\n')).head?, c = '\n' := by
  intro c first
  simpa using head?_dropWhile_eq_false (· ≠ '\n') s c first

/-- A line is what stands before the newline. -/
theorem cut_line (lineless : '\n' ∉ run) (ends : ∀ c ∈ after.head?, c = '\n') :
    (run ++ after).takeWhile (· ≠ '\n') = run ∧
      (run ++ after).dropWhile (· ≠ '\n') = after := by
  have inside : ∀ c ∈ run, decide (c ≠ '\n') = true := by
    intro c member
    rw [decide_eq_true_iff]
    rintro rfl
    exact lineless member
  have outside : ∀ c ∈ after.head?, decide (c ≠ '\n') = false := by
    intro c first
    simp [ends c first]
  exact ⟨takeWhile_run inside outside, dropWhile_run inside outside⟩

end Runs

@[simp] theorem prepend_some (text : List Char) (a b : List Char) :
    prepend text (some (a, b)) = some (text ++ a, b) := rfl

theorem prepend_prepend (first second : List Char) (cut : Option Cut) :
    prepend first (prepend second cut) = prepend (first ++ second) cut := by
  cases cut with
  | none => rfl
  | some parts => simp [prepend]

/-- What follows the opener of a comment, up to and with its closer. -/
inductive ClosesComment : List Char → Prop
  | close : ClosesComment ['*', '/']
  | nested {inner others : List Char} (comment : ClosesComment inner)
    (closes : ClosesComment others) : ClosesComment ('/' :: '*' :: (inner ++ others))
  | other {c : Char} {others : List Char} (unopened : ¬ (c = '/' ∧ others.head? = some '*'))
    (unclosed : ¬ (c = '*' ∧ others.head? = some '/')) (closes : ClosesComment others) :
    ClosesComment (c :: others)

/-- What follows as many openers, up to and with the closers of all. -/
inductive ClosesComments : Nat → List Char → Prop
  | none : ClosesComments 0 []
  | one {depth : Nat} {inner others : List Char} (comment : ClosesComment inner)
    (closes : ClosesComments depth others) : ClosesComments (depth + 1) (inner ++ others)

theorem ClosesComment.ne_nil {text : List Char} (closes : ClosesComment text) : text ≠ [] := by
  cases closes <;> simp

theorem ClosesComment.exists_slash {text : List Char} (closes : ClosesComment text) :
    ∃ init, text = init ++ ['/'] := by
  induction closes with
  | close => exact ⟨['*'], rfl⟩
  | @nested inner others _ _ _ ih =>
    obtain ⟨init, rfl⟩ := ih
    exact ⟨'/' :: '*' :: (inner ++ init), by simp⟩
  | @other c others _ _ _ ih =>
    obtain ⟨init, rfl⟩ := ih
    exact ⟨c :: init, rfl⟩

theorem ClosesComment.head?_append {text : List Char} (closes : ClosesComment text)
    (after : List Char) : (text ++ after).head? = text.head? :=
  List.head?_append_of_ne_nil _ closes.ne_nil

theorem closeComment_other {depth : Nat} {c : Char} {rest : List Char}
    (unopened : ¬ (c = '/' ∧ rest.head? = some '*'))
    (unclosed : ¬ (c = '*' ∧ rest.head? = some '/')) :
    closeComment depth (c :: rest) = prepend [c] (closeComment depth rest) := by
  rw [closeComment]
  · rintro others rfl rfl
    exact unopened ⟨rfl, rfl⟩
  · rintro others rfl rfl
    exact unclosed ⟨rfl, rfl⟩

/-- A comment that closes within others brings the depth down by one. -/
theorem closeComment_closes {text : List Char} (closes : ClosesComment text) (depth : Nat)
    (after : List Char) :
    closeComment (depth + 2) (text ++ after) = prepend text (closeComment (depth + 1) after) := by
  induction closes generalizing depth after with
  | close => simp [closeComment]
  | @nested inner others _ _ inner_ih others_ih =>
    simp only [List.cons_append, List.append_assoc]
    rw [closeComment, inner_ih, others_ih, prepend_prepend, prepend_prepend]
    rfl
  | @other c others unopened unclosed closes ih =>
    rw [List.cons_append, closeComment_other, ih, prepend_prepend]
    · rfl
    · rwa [closes.head?_append]
    · rwa [closes.head?_append]

theorem closeComment_of_closes {text : List Char} (closes : ClosesComment text)
    (after : List Char) : closeComment 1 (text ++ after) = some (text, after) := by
  induction closes generalizing after with
  | close => simp [closeComment]
  | @nested inner others comment _ _ others_ih =>
    simp only [List.cons_append, List.append_assoc]
    rw [closeComment, closeComment_closes comment, others_ih]
    simp
  | @other c others unopened unclosed closes ih =>
    rw [List.cons_append, closeComment_other, ih]
    · rfl
    · rwa [closes.head?_append]
    · rwa [closes.head?_append]

/-- The closer of a comment within others belongs to them. -/
theorem ClosesComments.nested {depth : Nat} {text : List Char}
    (closes : ClosesComments (depth + 2) text) :
    ClosesComments (depth + 1) ('/' :: '*' :: text) := by
  obtain _ | ⟨inner, _ | ⟨comment, closes⟩⟩ := closes
  rw [← List.append_assoc]
  exact .one (.nested inner comment) closes

theorem closesComments_of_closeComment {depth : Nat} {s text after : List Char}
    (cut : closeComment (depth + 1) s = some (text, after)) : ClosesComments (depth + 1) text := by
  generalize deep : depth + 1 = depths at cut
  fun_induction closeComment depths s generalizing depth text with
  | case1 depths rest ih =>
    obtain ⟨text, inner, rfl⟩ := prepend_eq_some cut
    subst deep
    exact (ih rfl inner).nested
  | case2 depths rest last =>
    obtain rfl : depth = 0 := by omega
    simp only [Option.some.injEq, Prod.mk.injEq] at cut
    rw [← cut.1, ← deep]
    exact .one .close .none
  | case3 depths rest further ih =>
    obtain ⟨text, inner, rfl⟩ := prepend_eq_some cut
    obtain ⟨outer, rfl⟩ : ∃ outer, depth = outer + 1 := ⟨depth - 1, by omega⟩
    subst deep
    exact .one .close (ih rfl inner)
  | case4 depths c rest unopened unclosed ih =>
    obtain ⟨text, inner, rfl⟩ := prepend_eq_some cut
    subst deep
    have same : text ++ after = rest := closeComment_append inner
    cases ih rfl inner with
    | @one _ inside others comment closes =>
      have first : rest.head? = inside.head? := by
        rw [← same, List.append_assoc, comment.head?_append]
      rw [List.singleton_append, ← List.cons_append]
      refine .one (.other ?_ ?_ comment) closes
      · rintro ⟨rfl, opener⟩
        obtain ⟨others, rest_eq⟩ := List.head?_eq_some_iff.mp (first.trans opener)
        exact unopened others rfl rest_eq
      · rintro ⟨rfl, closer⟩
        obtain ⟨others, rest_eq⟩ := List.head?_eq_some_iff.mp (first.trans closer)
        exact unclosed others rfl rest_eq
  | case5 => cases cut

theorem closeComment_eq_some_iff {s text after : List Char} :
    closeComment 1 s = some (text, after) ↔ ClosesComment text ∧ text ++ after = s := by
  constructor
  · intro cut
    refine ⟨?_, closeComment_append cut⟩
    cases closesComments_of_closeComment cut with
    | one comment closes =>
      cases closes
      rwa [List.append_nil]
  · rintro ⟨closes, rfl⟩
    exact closeComment_of_closes closes after

/-- What follows the opening quote, up to and with the closing one. -/
inductive ClosesQuote (quote : Char) (escapes : Bool) : List Char → Prop
  | close : ClosesQuote quote escapes [quote]
  | doubled {others : List Char} (closes : ClosesQuote quote escapes others) :
    ClosesQuote quote escapes (quote :: quote :: others)
  | escaped {c : Char} {others : List Char} (escaping : escapes = true)
    (closes : ClosesQuote quote escapes others) : ClosesQuote quote escapes ('\\' :: c :: others)
  | other {c : Char} {others : List Char} (unquoted : c ≠ quote)
    (unescaped : ¬ (escapes = true ∧ c = '\\')) (closes : ClosesQuote quote escapes others) :
    ClosesQuote quote escapes (c :: others)

theorem ClosesQuote.ne_nil {quote : Char} {escapes : Bool} {text : List Char}
    (closes : ClosesQuote quote escapes text) : text ≠ [] := by
  cases closes <;> simp

theorem ClosesQuote.quote_mem {quote : Char} {escapes : Bool} {text : List Char}
    (closes : ClosesQuote quote escapes text) : quote ∈ text := by
  induction closes with
  | close | doubled => exact List.mem_cons_self
  | escaped _ _ ih => exact List.mem_cons_of_mem _ (List.mem_cons_of_mem _ ih)
  | other _ _ _ ih => exact List.mem_cons_of_mem _ ih

theorem ClosesQuote.exists_quote {quote : Char} {escapes : Bool} {text : List Char}
    (closes : ClosesQuote quote escapes text) : ∃ init, text = init ++ [quote] := by
  induction closes with
  | close => exact ⟨[], rfl⟩
  | doubled _ ih =>
    obtain ⟨init, rfl⟩ := ih
    exact ⟨quote :: quote :: init, rfl⟩
  | @escaped c others _ _ ih =>
    obtain ⟨init, rfl⟩ := ih
    exact ⟨'\\' :: c :: init, rfl⟩
  | @other c others _ _ _ ih =>
    obtain ⟨init, rfl⟩ := ih
    exact ⟨c :: init, rfl⟩

theorem closesQuote_of_closeQuote {quote : Char} {escapes : Bool} {s text after : List Char}
    (cut : closeQuote quote escapes s = some (text, after)) :
    ClosesQuote quote escapes text ∧ after.head? ≠ some quote := by
  fun_induction closeQuote quote escapes s generalizing text with
  | case1 => cases cut
  | case2 =>
    simp only [Option.some.injEq, Prod.mk.injEq] at cut
    obtain ⟨rfl, rfl⟩ := cut
    exact ⟨.close, by simp⟩
  | case3 => cases cut
  | case4 c d rest escaped ih =>
    obtain ⟨text, inner, rfl⟩ := prepend_eq_some cut
    simp only [Bool.and_eq_true, decide_eq_true_eq] at escaped
    obtain ⟨escaping, rfl⟩ := escaped
    exact ⟨.escaped escaping (ih inner).1, (ih inner).2⟩
  | case5 rest unescaped ih =>
    obtain ⟨text, inner, rfl⟩ := prepend_eq_some cut
    exact ⟨.doubled (ih inner).1, (ih inner).2⟩
  | case6 d rest single unescaped =>
    simp only [Option.some.injEq, Prod.mk.injEq] at cut
    obtain ⟨rfl, rfl⟩ := cut
    exact ⟨.close, by simpa using single⟩
  | case7 c d rest unescaped unquoted ih =>
    obtain ⟨text, inner, rfl⟩ := prepend_eq_some cut
    refine ⟨.other unquoted ?_ (ih inner).1, (ih inner).2⟩
    rintro ⟨rfl, rfl⟩
    simp at unescaped

theorem closeQuote_of_closes {quote : Char} {escapes : Bool} {text after : List Char}
    (plain : quote ≠ '\\') (closes : ClosesQuote quote escapes text)
    (single : after.head? ≠ some quote) :
    closeQuote quote escapes (text ++ after) = some (text, after) := by
  induction closes with
  | close =>
    cases after with
    | nil => simp [closeQuote]
    | cons d after =>
      have unrepeated : d ≠ quote := by simpa using single
      simp [closeQuote, plain, unrepeated]
  | doubled closes ih =>
    rw [List.cons_append, List.cons_append, closeQuote, ih]
    simp [plain]
  | escaped escaping closes ih =>
    rw [List.cons_append, List.cons_append, closeQuote, ih]
    simp [escaping]
  | @other c others unquoted unescaped closes ih =>
    obtain ⟨d, others, rfl⟩ := List.exists_cons_of_ne_nil closes.ne_nil
    have unescaped : (escapes && decide (c = '\\')) = false := by
      rw [Bool.eq_false_iff, Ne, Bool.and_eq_true, decide_eq_true_iff]
      exact unescaped
    rw [List.cons_append, List.cons_append, closeQuote, ← List.cons_append, ih]
    simp [unescaped, unquoted]

theorem closeQuote_eq_some_iff {quote : Char} {escapes : Bool} {s text after : List Char}
    (plain : quote ≠ '\\') :
    closeQuote quote escapes s = some (text, after) ↔
      ClosesQuote quote escapes text ∧ after.head? ≠ some quote ∧ text ++ after = s := by
  constructor
  · intro cut
    obtain ⟨closes, single⟩ := closesQuote_of_closeQuote cut
    exact ⟨closes, single, closeQuote_append cut⟩
  · rintro ⟨closes, single, rfl⟩
    exact closeQuote_of_closes plain closes single

theorem stripStart?_append (start rest : List Char) :
    stripStart? start (start ++ rest) = some rest := by
  induction start with
  | nil => rfl
  | cons c start ih => simp [stripStart?, ih]

theorem stripStart?_eq_some_iff {start s rest : List Char} :
    stripStart? start s = some rest ↔ start ++ rest = s :=
  ⟨stripStart?_eq_some, fun same => same ▸ stripStart?_append start rest⟩

/-- A text that ends with the first occurrence of `mark` in it. -/
def ClosesMark (mark text : List Char) : Prop :=
  mark <:+ text ∧ ∀ before after, text = before ++ mark ++ after → after = []

theorem ClosesMark.self {mark : List Char} : ClosesMark mark mark := by
  refine ⟨List.suffix_refl mark, fun before after same => ?_⟩
  have lengths := congrArg List.length same
  simp only [List.length_append] at lengths
  exact List.length_eq_zero_iff.mp (by omega)

/-- A mark that does not begin a text begins no earlier in it than in the rest. -/
theorem closesMark_cons_iff {mark text : List Char} {c : Char} (elsewhere : ¬ mark <+: c :: text) :
    ClosesMark mark (c :: text) ↔ ClosesMark mark text := by
  constructor
  · rintro ⟨last, first⟩
    refine ⟨?_, fun before after same => first (c :: before) after (by simp [same])⟩
    rcases List.suffix_cons_iff.mp last with rfl | last
    · exact absurd (List.prefix_refl _) elsewhere
    · exact last
  · rintro ⟨last, first⟩
    refine ⟨last.trans (List.suffix_cons c text), fun before after same => ?_⟩
    cases before with
    | nil => exact absurd ⟨after, same.symm⟩ elsewhere
    | cons d before =>
      simp only [List.cons_append, List.cons.injEq] at same
      exact first before after same.2

theorem closeMark_eq_some_iff {mark s text after : List Char} (marked : mark ≠ []) :
    closeMark mark s = some (text, after) ↔ ClosesMark mark text ∧ text ++ after = s := by
  constructor
  · intro cut
    refine ⟨?_, closeMark_append cut⟩
    fun_induction closeMark mark s generalizing text with
    | case1 => cases cut
    | case2 c rest found stripped =>
      simp only [Option.some.injEq, Prod.mk.injEq] at cut
      obtain ⟨rfl, -⟩ := cut
      exact .self
    | case3 c rest absent ih =>
      obtain ⟨text, inner, rfl⟩ := prepend_eq_some cut
      refine (closesMark_cons_iff ?_).mpr (ih inner)
      rintro ⟨others, same⟩
      have found : mark ++ (others ++ after) = c :: rest := by
        rw [← closeMark_append inner, ← List.append_assoc, same]
        rfl
      rw [stripStart?_eq_some_iff.mpr found] at absent
      cases absent
  · rintro ⟨⟨last, first⟩, rfl⟩
    induction text with
    | nil => exact absurd (List.suffix_nil.mp last) marked
    | cons c text ih =>
      rw [List.cons_append, closeMark]
      split
      next found stripped =>
        have same : mark ++ found = (c :: text) ++ after := stripStart?_eq_some stripped
        obtain ⟨others, whole⟩ :=
          List.prefix_of_prefix_length_le ⟨found, same⟩ ⟨after, rfl⟩ last.length_le
        obtain rfl : others = [] := first [] others (by simpa using whole.symm)
        rw [List.append_nil] at whole
        rw [whole] at same ⊢
        rw [List.append_cancel_left same]
      next absent =>
        have elsewhere : ¬ mark <+: c :: text := by
          rintro ⟨others, same⟩
          have found : mark ++ (others ++ after) = c :: (text ++ after) := by
            rw [← List.append_assoc, same]
            rfl
          rw [stripStart?_eq_some_iff.mpr found] at absent
          cases absent
        obtain ⟨last, first⟩ := (closesMark_cons_iff elsewhere).mp ⟨last, first⟩
        rw [ih last first]
        rfl

/-- An identifier or nothing between two dollar signs. -/
def IsDollarTag (tag : List Char) : Prop :=
  ∃ name : List Char, tag = '$' :: name ++ ['$'] ∧ (∀ c ∈ name, isTagChar c = true) ∧
    ∀ c ∈ name.head?, c.isDigit = false

theorem IsDollarTag.ne_nil {tag : List Char} (isTag : IsDollarTag tag) : tag ≠ [] := by
  obtain ⟨name, rfl, -⟩ := isTag
  simp

theorem dollarTag_eq_some_iff {rest tag after : List Char} :
    dollarTag rest = some (tag, after) ↔ IsDollarTag tag ∧ tag ++ after = '$' :: rest := by
  constructor
  · intro found
    refine ⟨?_, dollarTag_append found⟩
    unfold dollarTag at found
    split at found
    next name ahead eq =>
      split at found
      · cases found
      next unnumbered =>
        simp only [Option.some.injEq, Prod.mk.injEq] at found
        obtain ⟨rfl, rfl⟩ := found
        refine ⟨_, rfl, all_takeWhile isTagChar rest, fun c first => ?_⟩
        rw [Option.mem_def] at first
        simpa [first] using unnumbered
    next => cases found
  · rintro ⟨⟨name, rfl, letters, unnumbered⟩, same⟩
    simp only [List.cons_append, List.append_assoc, List.cons.injEq, true_and,
      List.nil_append] at same
    have stops : ∀ c ∈ ('$' :: after).head?, isTagChar c = false := by
      intro c first
      cases first
      decide
    have fresh : ¬ (name.head?.any Char.isDigit) = true := by
      rw [Option.any_eq_true]
      rintro ⟨c, first, digit⟩
      rw [unnumbered c first] at digit
      cases digit
    unfold dollarTag
    rw [← same, takeWhile_run letters stops, dropWhile_run letters stops]
    simp only [fresh]
    rfl

/-- Where some character cannot stand in a tag, later text does not matter. -/
theorem dollarTag_append_of_stops {s : List Char} (stops : ∃ c ∈ s, isTagChar c = false)
    (more : List Char) :
    dollarTag (s ++ more) = (dollarTag s).map fun cut => (cut.1, cut.2 ++ more) := by
  cases found : dollarTag s with
  | some cut =>
    obtain ⟨tag, after⟩ := cut
    obtain ⟨isTag, same⟩ := dollarTag_eq_some_iff.mp found
    rw [Option.map_some, dollarTag_eq_some_iff, ← List.append_assoc, same]
    exact ⟨isTag, rfl⟩
  | none =>
    rw [Option.map_none, Option.eq_none_iff_forall_ne_some]
    rintro ⟨tag, after⟩ longer
    obtain ⟨isTag, same⟩ := dollarTag_eq_some_iff.mp longer
    rw [← List.cons_append] at same
    have beyond (rest : List Char) : '$' :: s ≠ tag ++ rest := by
      intro shorter
      rw [dollarTag_eq_some_iff.mpr ⟨isTag, shorter.symm⟩] at found
      cases found
    rcases List.append_eq_append_iff.mp same with ⟨rest, shorter, -⟩ | ⟨rest, longer, -⟩
    · exact beyond rest shorter
    · -- The tag holds all of `s` and more, so that its name holds `c`.
      obtain ⟨name, rfl, letters, -⟩ := isTag
      obtain ⟨c, member, stop⟩ := stops
      have within : name ++ ['$'] = s ++ rest := (List.cons.inj longer).2
      have named : c ∈ name := by
        rcases List.append_eq_append_iff.mp within with ⟨last, rfl, ends⟩ | ⟨last, rfl, -⟩
        · cases last with
          | nil => simpa using member
          | cons d last =>
            obtain ⟨rfl, rfl, rfl⟩ : '$' = d ∧ last = [] ∧ rest = [] := by simpa using ends
            exact (beyond [] (List.append_nil _).symm).elim
        · exact List.mem_append_left last member
      rw [letters c named] at stop
      cases stop

/-- A marker with this name: white space may stand around the quotes. -/
def IsMarker (name text : List Char) : Prop :=
  ∃ left right : List Char, text = markerOpening ++ left ++ ['\''] ++ name ++ ['\''] ++ right ++ [')'] ∧
    (∀ c ∈ left, isBlank c = true) ∧ (∀ c ∈ right, isBlank c = true) ∧ name ≠ [] ∧ '\'' ∉ name

theorem IsMarker.ne_nil {name text : List Char} (isMarker : IsMarker name text) : text ≠ [] := by
  obtain ⟨left, right, rfl, -⟩ := isMarker
  simp

theorem isMarker_of_marker? {s after : List Char} {lexeme : Lexeme}
    (found : marker? s = some (lexeme, after)) :
    ∃ name text, lexeme = .marker name text ∧ IsMarker name text := by
  unfold marker? at found
  split at found
  · cases found
  · split at found
    next body opened =>
      simp only at found
      split at found
      next head others tail named closed =>
        split at found
        next last =>
          simp only [Option.some.injEq, Prod.mk.injEq] at found
          have quoteless := all_takeWhile (· ≠ '\'') body
          refine ⟨_, _, found.1.symm, _, _, rfl, all_takeWhile isBlank _, all_takeWhile isBlank _,
            named ▸ List.cons_ne_nil head others, fun quoted => ?_⟩
          simpa using quoteless _ quoted
        · cases found
      · cases found
    · cases found

theorem marker?_of_isMarker {name text : List Char} (isMarker : IsMarker name text)
    (after : List Char) : marker? (text ++ after) = some (.marker name text, after) := by
  obtain ⟨left, right, rfl, blankLeft, blankRight, named, quoteless⟩ := isMarker
  have quoteEnds (rest : List Char) : ∀ c ∈ ('\'' :: rest).head?, isBlank c = false := by
    intro c first
    cases first
    decide
  have parenEnds : ∀ c ∈ (')' :: after).head?, isBlank c = false := by
    intro c first
    cases first
    decide
  have nameEnds (rest : List Char) : ∀ c ∈ ('\'' :: rest).head?, decide (c ≠ '\'') = false := by
    intro c first
    cases first
    decide
  have inName : ∀ c ∈ name, decide (c ≠ '\'') = true := by
    intro c member
    rw [decide_eq_true_iff]
    rintro rfl
    exact quoteless member
  unfold marker?
  simp only [List.append_assoc, List.cons_append, List.nil_append, stripStart?_append]
  rw [dropWhile_run blankLeft (quoteEnds _), takeWhile_run blankLeft (quoteEnds _)]
  simp only
  rw [dropWhile_run inName (nameEnds _), takeWhile_run inName (nameEnds _)]
  obtain ⟨head, others, rfl⟩ := List.exists_cons_of_ne_nil named
  simp only
  rw [dropWhile_run blankRight parenEnds, takeWhile_run blankRight parenEnds]
  rfl

theorem marker?_eq_some_iff {s after : List Char} {lexeme : Lexeme} :
    marker? s = some (lexeme, after) ↔
      ∃ name text, lexeme = .marker name text ∧ IsMarker name text ∧ text ++ after = s := by
  constructor
  · intro found
    obtain ⟨name, text, rfl, isMarker⟩ := isMarker_of_marker? found
    exact ⟨name, text, rfl, isMarker, (marker?_append found).1⟩
  · rintro ⟨name, text, rfl, isMarker, rfl⟩
    exact marker?_of_isMarker isMarker after

theorem marker?_cons_eq_none {c : Char} (other : c ≠ 'p') (rest : List Char) :
    marker? (c :: rest) = none := by
  rw [Option.eq_none_iff_forall_ne_some]
  rintro ⟨lexeme, after⟩ found
  obtain ⟨name, text, -, ⟨left, right, rfl, -⟩, same⟩ := marker?_eq_some_iff.mp found
  simp only [markerOpening, List.cons_append, List.cons.injEq] at same
  exact other same.1.symm

end QueryTyping.QueryFile
