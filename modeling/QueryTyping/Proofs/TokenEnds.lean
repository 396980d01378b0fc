import Mathlib.Order.Bounds.Basic
import QueryTyping.QueryFile
import QueryTyping.Proofs.ProtectedText

/-!
# Where tokens end

A token of a text ends at the first place that its kind allows (`TokenKind.lengths`): a
block comment where it has as many closers as openers, a string behind the first quote
that is neither doubled nor escaped, a dollar quote behind the first repetition of its tag,
a line comment before the next newline.

Every reader finds that first place, or finds none because there is none (`IsFirst`).  So
the end of a token is exact, lies behind its beginning and within the text, and a token is
reported as open exactly if nothing ends it (`tokenEnd_exact`).
-/

namespace QueryTyping.QueryFile

open QueryTyping.Text

/-- The least element of a set, or none if the set is empty. -/
def IsFirst (set : Set Nat) : Option Nat → Prop
  | some least => IsLeast set least
  | none => set = ∅

namespace IsFirst

variable {set others : Set Nat} {found : Option Nat}

/-- A set whose elements all lie further by as much has its first element further by as much. -/
theorem shift {step : Nat} (first : IsFirst others found)
    (shifted : ∀ place, place ∈ set ↔ ∃ other ∈ others, place = other + step) :
    IsFirst set (found.map (· + step)) := by
  cases found with
  | none =>
    change others = ∅ at first
    apply Set.eq_empty_of_forall_notMem
    intro place inside
    obtain ⟨other, member, -⟩ := (shifted place).mp inside
    simp [first] at member
  | some least =>
    obtain ⟨member, lower⟩ := first
    refine ⟨(shifted _).mpr ⟨least, member, rfl⟩, ?_⟩
    intro place inside
    obtain ⟨other, member, rfl⟩ := (shifted place).mp inside
    exact Nat.add_le_add_right (lower member) step

end IsFirst

/-- How much of a text a cut takes, if it can be cut. -/
def cutLength (cut : Option Cut) : Option Nat := cut.map fun parts => parts.1.length

theorem cutLength_prepend (text : List Char) (cut : Option Cut) :
    cutLength (prepend text cut) = (cutLength cut).map (· + text.length) := by
  cases cut with
  | none => rfl
  | some parts => simp [cutLength, prepend, Nat.add_comm]

/-- What opens a comment, and what closes it. -/
inductive CommentMark where
  | opener
  | closer
  deriving DecidableEq

/-- The openers and closers of a text, read from left to right without overlap. -/
def commentMarks : List Char → List CommentMark
  | '/' :: '*' :: rest => .opener :: commentMarks rest
  | '*' :: '/' :: rest => .closer :: commentMarks rest
  | _ :: rest => commentMarks rest
  | [] => []

/-- With so many comments open already, a text has closers for all of them and for its own
openers. -/
def Levels (depth : Nat) (text : List Char) : Prop :=
  depth + (commentMarks text).count .opener = (commentMarks text).count .closer

theorem commentMarks_other {c : Char} {rest : List Char}
    (unopened : ¬ (c = '/' ∧ rest.head? = some '*'))
    (unclosed : ¬ (c = '*' ∧ rest.head? = some '/')) :
    commentMarks (c :: rest) = commentMarks rest := by
  rw [commentMarks]
  · rintro others rfl rfl
    exact unopened ⟨rfl, rfl⟩
  · rintro others rfl rfl
    exact unclosed ⟨rfl, rfl⟩

theorem levels_opener (depth : Nat) (text : List Char) :
    Levels depth ('/' :: '*' :: text) ↔ Levels (depth + 1) text := by
  have others : CommentMark.opener ≠ .closer := by decide
  rw [Levels, Levels, commentMarks, List.count_cons_self, List.count_cons_of_ne others]
  omega

theorem levels_closer {depth : Nat} (opened : 0 < depth) (text : List Char) :
    Levels depth ('*' :: '/' :: text) ↔ Levels (depth - 1) text := by
  have others : CommentMark.closer ≠ .opener := by decide
  rw [Levels, Levels, commentMarks, List.count_cons_self, List.count_cons_of_ne others]
  omega

/-- A text of one character or none has no marks. -/
theorem commentMarks_take_short (s : List Char) {length : Nat} (short : length < 2) :
    commentMarks (s.take length) = [] := by
  have bound : (s.take length).length < 2 :=
    Nat.lt_of_le_of_lt (List.length_take_le length s) short
  match taken : s.take length with
  | [] => rfl
  | [c] => exact commentMarks_other (by simp) (by simp)
  | c :: d :: rest =>
    rw [taken] at bound
    exact absurd bound (by simp)

theorem head?_of_take {s : List Char} {length : Nat} {c : Char}
    (first : (s.take length).head? = some c) : s.head? = some c := by
  rw [List.head?_take] at first
  split at first
  · cases first
  · exact first

/-- While comments are open, a text is not levelled before its first mark is read. -/
theorem not_levels_of_short {depth length : Nat} (opened : 0 < depth) (s : List Char)
    (short : length < 2) : ¬ Levels depth (s.take length) := by
  rw [Levels, commentMarks_take_short s short]
  simp
  omega

/-- Behind a mark the text is levelled where the rest is, with one more or one less open. -/
theorem levels_behind_iff {depth inner : Nat} {c d : Char} {rest : List Char} (opened : 0 < depth)
    (marks : ∀ text, Levels depth (c :: d :: text) ↔ Levels inner text) (place : Nat) :
    place ∈ {length | Levels depth ((c :: d :: rest).take length)} ↔
      ∃ other ∈ {length | Levels inner (rest.take length)}, place = other + 2 := by
  constructor
  · intro levels
    have long : 2 ≤ place := by
      by_contra short
      exact not_levels_of_short opened _ (Nat.lt_of_not_le short) levels
    obtain ⟨other, rfl⟩ := Nat.exists_eq_add_of_le' long
    exact ⟨other, (marks _).mp levels, rfl⟩
  · rintro ⟨other, levels, rfl⟩
    exact (marks _).mpr levels

/-- The comment ends at the first place where closers and openers are equal in number. -/
theorem closeComment_isFirst {depth : Nat} (opened : 0 < depth) (s : List Char) :
    IsFirst {length | Levels depth (s.take length)} (cutLength (closeComment depth s)) := by
  fun_induction closeComment depth s with
  | case1 depth rest ih =>
    rw [cutLength_prepend]
    exact (ih (Nat.succ_pos depth)).shift (levels_behind_iff opened (levels_opener depth))
  | case2 depth rest last =>
    obtain rfl : depth = 1 := by omega
    refine ⟨by simp [Levels, commentMarks], ?_⟩
    intro length levels
    by_contra short
    exact not_levels_of_short opened _ (by simpa using short) levels
  | case3 depth rest further ih =>
    rw [cutLength_prepend]
    exact (ih (by omega)).shift (levels_behind_iff opened (levels_closer opened))
  | case4 depth c rest unopened unclosed ih =>
    rw [cutLength_prepend]
    refine (ih opened).shift ?_
    intro place
    cases place with
    | zero => simpa using not_levels_of_short opened (c :: rest) (Nat.zero_lt_two)
    | succ place =>
      have same : commentMarks (c :: rest.take place) = commentMarks (rest.take place) := by
        apply commentMarks_other
        · rintro ⟨rfl, first⟩
          obtain ⟨others, rfl⟩ := List.head?_eq_some_iff.mp (head?_of_take first)
          exact unopened others rfl rfl
        · rintro ⟨rfl, first⟩
          obtain ⟨others, rfl⟩ := List.head?_eq_some_iff.mp (head?_of_take first)
          exact unclosed others rfl rfl
      simp [Levels, same]
  | case5 depth =>
    apply Set.eq_empty_of_forall_notMem
    intro length levels
    refine not_levels_of_short opened [] (Nat.zero_lt_two) ?_
    simpa using levels

/-- How many characters are read together at the beginning of a quoted text: two if a quote is
doubled or, with escapes, a backslash stands before a character, and else one. -/
def stepLength (quote : Char) (escapes : Bool) : List Char → Nat
  | c :: d :: _ => if escapes = true ∧ c = '\\' ∨ c = quote ∧ d = quote then 2 else 1
  | _ => 1

/-- Reading from left to right comes to a place of the text behind an opening quote. -/
inductive ComesToPlace (quote : Char) (escapes : Bool) (body : List Char) : Nat → Prop
  | start : ComesToPlace quote escapes body 0
  | next {place : Nat} (comes : ComesToPlace quote escapes body place)
    (inside : place < body.length) :
    ComesToPlace quote escapes body (place + stepLength quote escapes (body.drop place))

/-- At a place of the text behind an opening quote stands a quote that is not doubled and that no
backslash has taken. -/
def ClosesAt (quote : Char) (escapes : Bool) (body : List Char) (place : Nat) : Prop :=
  ComesToPlace quote escapes body place ∧ body[place]? = some quote ∧
    body[place + 1]? ≠ some quote

section Quoted

variable {quote : Char} {escapes : Bool} {body : List Char}

theorem comesToPlace_iff (ahead : body ≠ []) (place : Nat) :
    ComesToPlace quote escapes body place ↔
      place = 0 ∨ ∃ other, ComesToPlace quote escapes (body.drop (stepLength quote escapes body))
        other ∧ place = other + stepLength quote escapes body := by
  constructor
  · intro comes
    induction comes with
    | start => exact .inl rfl
    | @next place _ inside ih =>
      right
      rcases ih with rfl | ⟨other, comes, rfl⟩
      · exact ⟨0, .start, by simp⟩
      · have within : other < (body.drop (stepLength quote escapes body)).length := by
          rw [List.length_drop]
          omega
        refine ⟨_, comes.next within, ?_⟩
        rw [List.drop_drop, Nat.add_comm other]
        omega
  · rintro (rfl | ⟨other, comes, rfl⟩)
    · exact .start
    · induction comes with
      | start =>
        have first : ComesToPlace quote escapes body
            (0 + stepLength quote escapes (body.drop 0)) :=
          .next .start (List.length_pos_iff.mpr ahead)
        simpa using first
      | @next other _ inside ih =>
        rw [List.length_drop] at inside
        have later := ih.next (by omega)
        rw [Nat.add_comm other (stepLength quote escapes body), ← List.drop_drop] at later
        have same : other + stepLength quote escapes
            ((body.drop (stepLength quote escapes body)).drop other) +
              stepLength quote escapes body =
            stepLength quote escapes body + other + stepLength quote escapes
              ((body.drop (stepLength quote escapes body)).drop other) := by
          omega
        rw [same]
        exact later

theorem closesAt_iff (ahead : body ≠ []) (place : Nat) :
    ClosesAt quote escapes body place ↔
      place = 0 ∧ body[0]? = some quote ∧ body[1]? ≠ some quote ∨
        ∃ other, ClosesAt quote escapes (body.drop (stepLength quote escapes body)) other ∧
          place = other + stepLength quote escapes body := by
  have moved (other : Nat) : (body.drop (stepLength quote escapes body))[other]? =
      body[other + stepLength quote escapes body]? := by
    rw [List.getElem?_drop, Nat.add_comm]
  have movedNext (other : Nat) : (body.drop (stepLength quote escapes body))[other + 1]? =
      body[other + stepLength quote escapes body + 1]? := by
    rw [moved]
    congr 1
    omega
  constructor
  · rintro ⟨comes, first, second⟩
    rcases (comesToPlace_iff ahead place).mp comes with rfl | ⟨other, behind, rfl⟩
    · exact .inl ⟨rfl, first, second⟩
    · refine .inr ⟨other, ⟨behind, ?_, ?_⟩, rfl⟩
      · rwa [moved]
      · rwa [movedNext]
  · rintro (⟨rfl, first, second⟩ | ⟨other, ⟨comes, first, second⟩, rfl⟩)
    · exact ⟨.start, first, second⟩
    · rw [moved] at first
      rw [movedNext] at second
      exact ⟨(comesToPlace_iff ahead _).mpr (.inr ⟨other, comes, rfl⟩), first, second⟩

/-- The lengths of a text behind an opening quote, up to and with a quote that closes. -/
def quotedLengths (quote : Char) (escapes : Bool) (body : List Char) : Set Nat :=
  {length | ∃ place, ClosesAt quote escapes body place ∧ length = place + 1}

/-- Where no quote closes at once, one that closes stands behind what is read together. -/
theorem quotedLengths_behind (front rest : List Char) (read : front ≠ [])
    (together : stepLength quote escapes (front ++ rest) = front.length)
    (open_ : ¬ ((front ++ rest)[0]? = some quote ∧ (front ++ rest)[1]? ≠ some quote))
    (length : Nat) :
    length ∈ quotedLengths quote escapes (front ++ rest) ↔
      ∃ other ∈ quotedLengths quote escapes rest, length = other + front.length := by
  have ahead : front ++ rest ≠ [] := List.append_ne_nil_of_left_ne_nil read rest
  have behind (place : Nat) : ClosesAt quote escapes (front ++ rest) place ↔
      ∃ other, ClosesAt quote escapes rest other ∧ place = other + front.length := by
    rw [closesAt_iff ahead, together, List.drop_left]
    constructor
    · rintro (⟨-, first, second⟩ | later)
      · exact absurd ⟨first, second⟩ open_
      · exact later
    · exact .inr
  constructor
  · rintro ⟨place, closes, rfl⟩
    obtain ⟨other, inRest, rfl⟩ := (behind place).mp closes
    exact ⟨other + 1, ⟨other, inRest, rfl⟩, by omega⟩
  · rintro ⟨_, ⟨other, closes, rfl⟩, rfl⟩
    exact ⟨other + front.length, (behind _).mpr ⟨other, closes, rfl⟩, by omega⟩

/-- A quote that closes at once is the first. -/
theorem quotedLengths_closed (first : body[0]? = some quote) (second : body[1]? ≠ some quote) :
    IsLeast (quotedLengths quote escapes body) 1 := by
  refine ⟨⟨0, ⟨.start, first, second⟩, rfl⟩, ?_⟩
  rintro _ ⟨place, -, rfl⟩
  exact Nat.le_add_left 1 place

/-- The token ends behind the first quote that is neither doubled nor taken by a backslash. -/
theorem closeQuote_isFirst (plain : quote ≠ '\\') (body : List Char) :
    IsFirst (quotedLengths quote escapes body) (cutLength (closeQuote quote escapes body)) := by
  have nothing : quotedLengths quote escapes [] = ∅ := by
    apply Set.eq_empty_of_forall_notMem
    rintro _ ⟨place, ⟨-, first, -⟩, -⟩
    simp at first
  fun_induction closeQuote quote escapes body with
  | case1 => exact nothing
  | case2 => exact quotedLengths_closed (by simp) (by simp)
  | case3 c other =>
    have rest : IsFirst (quotedLengths quote escapes []) none := nothing
    exact rest.shift (quotedLengths_behind [c] [] (by simp) (by simp [stepLength])
      (by simpa using other))
  | case4 c d rest escaped ih =>
    simp only [Bool.and_eq_true, decide_eq_true_eq] at escaped
    rw [cutLength_prepend]
    refine ih.shift (quotedLengths_behind [c, d] _ (by simp) ?_ ?_)
    · simp [stepLength, escaped]
    · simp [escaped.2, Ne.symm plain]
  | case5 rest unescaped ih =>
    rw [cutLength_prepend]
    exact ih.shift (quotedLengths_behind [quote, quote] _ (by simp)
      (by simp [stepLength]) (by simp))
  | case6 d rest single unescaped =>
    exact quotedLengths_closed (by simp) (by simpa using single)
  | case7 c d rest unescaped unquoted ih =>
    rw [cutLength_prepend]
    refine ih.shift (quotedLengths_behind [c] _ (by simp) ?_ ?_)
    · simpa [stepLength, unquoted] using unescaped
    · simpa using fun same => absurd same unquoted

end Quoted

/-- The lengths of a text up to and with an occurrence of a mark. -/
def markedLengths (mark s : List Char) : Set Nat :=
  {length | ∃ place, mark <+: s.drop place ∧ length = place + mark.length}

/-- The token ends behind the first occurrence of its mark. -/
theorem closeMark_isFirst {mark : List Char} (marked : mark ≠ []) (s : List Char) :
    IsFirst (markedLengths mark s) (cutLength (closeMark mark s)) := by
  fun_induction closeMark mark s with
  | case1 =>
    apply Set.eq_empty_of_forall_notMem
    rintro _ ⟨place, begins, -⟩
    rw [List.drop_nil, List.prefix_nil] at begins
    exact marked begins
  | case2 c rest after stripped =>
    have begins : mark <+: c :: rest := ⟨after, stripStart?_eq_some stripped⟩
    refine ⟨⟨0, begins, (Nat.zero_add _).symm⟩, ?_⟩
    rintro _ ⟨place, -, rfl⟩
    exact Nat.le_add_left _ _
  | case3 c rest absent ih =>
    rw [cutLength_prepend]
    refine ih.shift ?_
    intro length
    constructor
    · rintro ⟨place, begins, rfl⟩
      cases place with
      | zero =>
        obtain ⟨after, same⟩ : mark <+: c :: rest := begins
        rw [stripStart?_eq_some_iff.mpr same] at absent
        cases absent
      | succ place => exact ⟨place + mark.length, ⟨place, begins, rfl⟩, by simp; omega⟩
    · rintro ⟨_, ⟨place, begins, rfl⟩, rfl⟩
      exact ⟨place + 1, begins, by simp; omega⟩

/-- The kinds of tokens; a character that opens nothing is a token of its own. -/
inductive TokenKind where
  | lineComment
  | blockComment
  | quoted (quote : Char) (escapes : Bool)
  | dollarQuoted (tag : List Char)
  | single
  deriving DecidableEq

/-- A text ends in an `e` or `E` that is no tail of a word. -/
def EndsInEscapePrefix (before : List Char) : Prop :=
  ∃ init c, before = init ++ [c] ∧ (c = 'e' ∨ c = 'E') ∧
    ∀ d ∈ init.getLast?, isAlphanumeric d = false ∧ d ≠ '_'

namespace TokenKind

/-- A token of the kind begins between the two parts of a text. -/
def Begins (before ahead : List Char) : TokenKind → Prop
  | lineComment => ['-', '-'] <+: ahead
  | blockComment => ['/', '*'] <+: ahead
  | quoted quote escapes => ahead.head? = some quote ∧
      (quote = '"' ∧ escapes = false ∨
        quote = '\'' ∧ (escapes = true ↔ EndsInEscapePrefix before))
  | dollarQuoted tag => IsDollarTag tag ∧ tag <+: ahead
  | single => ahead ≠ [] ∧ ¬ ['-', '-'] <+: ahead ∧ ¬ ['/', '*'] <+: ahead ∧
      ahead.head? ≠ some '\'' ∧ ahead.head? ≠ some '"' ∧ ∀ tag, IsDollarTag tag → ¬ tag <+: ahead

/-- The lengths at which a token of the kind may end that begins a text; it ends at the first. -/
def lengths (ahead : List Char) : TokenKind → Set Nat
  | lineComment => {length | ahead[length]? = some '\n' ∨ length = ahead.length}
  | blockComment => {length | commentMarks (ahead.take length) ≠ [] ∧
      (commentMarks (ahead.take length)).count .opener =
        (commentMarks (ahead.take length)).count .closer}
  | quoted quote escapes =>
      {length | ∃ place, ClosesAt quote escapes (ahead.drop 1) place ∧ length = place + 2}
  | dollarQuoted tag =>
      {length | ∃ place, tag.length ≤ place ∧ tag <+: ahead.drop place ∧
        length = place + tag.length}
  | single => {1}

/-- What is wrong where a token of the kind never ends. -/
def fault? : TokenKind → Option Fault
  | blockComment => some .openComment
  | quoted _ _ => some .openString
  | dollarQuoted _ => some .openDollarQuote
  | lineComment | single => none

end TokenKind

theorem opensEscapes_iff (before : List Char) :
    opensEscapes before.reverse = true ↔ EndsInEscapePrefix before := by
  rcases List.eq_nil_or_concat' before with rfl | ⟨init, c, rfl⟩
  · simp [opensEscapes, EndsInEscapePrefix]
  · have split : EndsInEscapePrefix (init ++ [c]) ↔
        (c = 'e' ∨ c = 'E') ∧ ∀ d ∈ init.getLast?, isAlphanumeric d = false ∧ d ≠ '_' := by
      constructor
      · rintro ⟨_, _, same, prefixed⟩
        obtain ⟨rfl, rfl⟩ : init = _ ∧ c = _ := by simpa using List.append_inj' same rfl
        exact prefixed
      · exact fun prefixed => ⟨init, c, rfl, prefixed⟩
    rw [split, List.reverse_append, ← List.head?_reverse]
    cases init.reverse <;> simp [opensEscapes]

section Reading

variable {before rest : List Char} {c : Char} {kind : TokenKind}

theorem lineComment_isFirst (body : List Char) :
    IsFirst (TokenKind.lineComment.lengths ('-' :: '-' :: body))
      (some (2 + (body.takeWhile (· ≠ '\n')).length)) := by
  have whole := List.takeWhile_append_dropWhile (p := (· ≠ '\n')) (l := body)
  have line := newline_notMem_takeWhile body
  have ends := head?_dropWhile_line body
  generalize body.takeWhile (· ≠ '\n') = run at *
  generalize body.dropWhile (· ≠ '\n') = after at *
  subst whole
  constructor
  · cases after with
    | nil => right; simp; omega
    | cons c after =>
      obtain rfl := ends c rfl
      left
      rw [Nat.add_comm]
      simp
  · intro length ended
    by_contra within
    have within : length < 2 + run.length := Nat.lt_of_not_le within
    rcases ended with newline | rfl
    · match length with
      | 0 | 1 => simp at newline
      | length + 2 =>
        have inRun : run[length]? = some '\n' := by
          simp only [List.getElem?_cons_succ] at newline
          rwa [List.getElem?_append_left (by omega)] at newline
        exact line (List.mem_of_getElem? inRun)
    · simp at within
      omega

theorem blockComment_isFirst (body : List Char) :
    IsFirst (TokenKind.blockComment.lengths ('/' :: '*' :: body))
      ((cutLength (closeComment 1 body)).map (· + 2)) := by
  refine (closeComment_isFirst Nat.one_pos body).shift ?_
  intro length
  constructor
  · rintro ⟨marked, equal⟩
    have long : 2 ≤ length := by
      by_contra short
      exact marked (commentMarks_take_short _ (Nat.lt_of_not_le short))
    obtain ⟨other, rfl⟩ := Nat.exists_eq_add_of_le' long
    refine ⟨other, (levels_opener 0 _).mp ?_, rfl⟩
    rw [Levels, Nat.zero_add]
    exact equal
  · rintro ⟨other, levels, rfl⟩
    have levels := (levels_opener 0 _).mpr levels
    rw [Levels, Nat.zero_add] at levels
    exact ⟨List.cons_ne_nil _ _, levels⟩

theorem quoted_isFirst (quote : Char) (escapes : Bool) (plain : quote ≠ '\\') (body : List Char) :
    IsFirst ((TokenKind.quoted quote escapes).lengths (quote :: body))
      ((cutLength (closeQuote quote escapes body)).map (· + 1)) := by
  refine (closeQuote_isFirst plain body).shift ?_
  intro length
  constructor
  · rintro ⟨place, closes, rfl⟩
    exact ⟨place + 1, ⟨place, closes, rfl⟩, rfl⟩
  · rintro ⟨_, ⟨place, closes, rfl⟩, rfl⟩
    exact ⟨place, closes, rfl⟩

theorem dollarQuoted_isFirst {tag : List Char} (isTag : IsDollarTag tag) (body : List Char) :
    IsFirst ((TokenKind.dollarQuoted tag).lengths (tag ++ body))
      ((cutLength (closeMark tag body)).map (· + tag.length)) := by
  refine (closeMark_isFirst isTag.ne_nil body).shift ?_
  intro length
  constructor
  · rintro ⟨place, later, begins, rfl⟩
    obtain ⟨other, rfl⟩ := Nat.exists_eq_add_of_le later
    rw [List.drop_length_add_append] at begins
    exact ⟨other + tag.length, ⟨other, begins, rfl⟩, by omega⟩
  · rintro ⟨_, ⟨other, begins, rfl⟩, rfl⟩
    refine ⟨tag.length + other, Nat.le_add_right _ _, ?_, by omega⟩
    rwa [List.drop_length_add_append]

/-- What a reader gives is right for a token of the kind: it takes the first length at which the
token may end, or reports what never ends. -/
def TokenKind.IsRead (kind : TokenKind) (ahead : List Char) :
    Except Unterminated (Lexeme × List Char) → Prop
  | .ok (token, _) => IsLeast (kind.lengths ahead) token.text.length
  | .error unterminated =>
    kind.lengths ahead = ∅ ∧ kind.fault? = some (openFault unterminated)

theorem TokenKind.Begins.isRead (begins : kind.Begins before (c :: rest)) :
    kind.IsRead (c :: rest) (protected? before.reverse c rest) := by
  cases kind with
  | lineComment =>
    obtain ⟨body, same⟩ := begins
    cases same
    have first := lineComment_isFirst body
    rw [Nat.add_comm] at first
    exact first
  | blockComment =>
    obtain ⟨body, same⟩ := begins
    obtain ⟨rfl, rfl⟩ : c = '/' ∧ rest = '*' :: body := by simpa [eq_comm] using same
    have first := blockComment_isFirst body
    simp only [protected?]
    cases cut : closeComment 1 body with
    | none =>
      rw [cut] at first
      exact ⟨first, rfl⟩
    | some parts =>
      rw [cut] at first
      exact first
  | quoted quote escapes =>
    obtain ⟨opener, kinds⟩ := begins
    cases opener
    rcases kinds with ⟨rfl, rfl⟩ | ⟨rfl, prefixed⟩
    · have first := quoted_isFirst '"' false (by decide) rest
      simp only [protected?]
      cases cut : closeQuote '"' false rest with
      | none =>
        rw [cut] at first
        exact ⟨first, rfl⟩
      | some parts =>
        rw [cut] at first
        exact first
    · rw [← opensEscapes_iff, Bool.coe_iff_coe] at prefixed
      subst prefixed
      have first := quoted_isFirst '\'' (opensEscapes before.reverse) (by decide) rest
      simp only [protected?]
      cases cut : closeQuote '\'' (opensEscapes before.reverse) rest with
      | none =>
        rw [cut] at first
        exact ⟨first, rfl⟩
      | some parts =>
        rw [cut] at first
        exact first
  | dollarQuoted tag =>
    obtain ⟨isTag, body, same⟩ := begins
    obtain rfl : c = '$' := by
      obtain ⟨name, rfl, -⟩ := isTag
      exact (List.cons.inj same).1.symm
    have opened : dollarTag rest = some (tag, body) := dollarTag_eq_some_iff.mpr ⟨isTag, same⟩
    have first := dollarQuoted_isFirst isTag body
    rw [same] at first
    simp only [protected?, opened]
    cases cut : closeMark tag body with
    | none =>
      rw [cut] at first
      exact ⟨first, rfl⟩
    | some parts =>
      rw [cut] at first
      have length : (tag ++ parts.1).length = parts.1.length + tag.length := by
        rw [List.length_append, Nat.add_comm]
      change IsLeast _ (tag ++ parts.1).length
      rw [length]
      exact first
  | single =>
    obtain ⟨-, undashed, unslashed, unquoted, unnamed, untagged⟩ := begins
    have alone : protected? before.reverse c rest = .ok (.lone c, rest) := by
      unfold protected?
      split
      · exact absurd ⟨_, rfl⟩ undashed
      · exact absurd ⟨_, rfl⟩ unslashed
      · exact absurd rfl unquoted
      · exact absurd rfl unnamed
      next =>
        split
        next tag body opened =>
          obtain ⟨isTag, same⟩ := dollarTag_eq_some_iff.mp opened
          exact absurd ⟨body, same⟩ (untagged tag isTag)
        · rfl
      · rfl
    rw [alone]
    exact isLeast_singleton

/-- Everywhere within a text begins a token of some kind. -/
theorem exists_begins (before : List Char) (c : Char) (rest : List Char) :
    ∃ kind : TokenKind, kind.Begins before (c :: rest) := by
  by_cases dashed : ['-', '-'] <+: c :: rest
  · exact ⟨.lineComment, dashed⟩
  by_cases slashed : ['/', '*'] <+: c :: rest
  · exact ⟨.blockComment, slashed⟩
  by_cases quoted : c = '\''
  · subst quoted
    exact ⟨.quoted '\'' (opensEscapes before.reverse), rfl, .inr ⟨rfl, opensEscapes_iff before⟩⟩
  by_cases named : c = '"'
  · subst named
    exact ⟨.quoted '"' false, rfl, .inl ⟨rfl, rfl⟩⟩
  by_cases tagged : ∃ tag, IsDollarTag tag ∧ tag <+: c :: rest
  · obtain ⟨tag, begins⟩ := tagged
    exact ⟨.dollarQuoted tag, begins⟩
  · refine ⟨.single, List.cons_ne_nil c rest, dashed, slashed, by simpa using quoted,
      by simpa using named, fun tag isTag begins => tagged ⟨tag, isTag, begins⟩⟩

end Reading

/-- The end of the token that begins at a place of a text, counted from the beginning of the text.
A token that never ends is an input failure, which names the line at hand. -/
def tokenEnd (source : String) (line : Nat) (text : List Char) (start : Nat) : Except Failure Nat :=
  match text.drop start with
  | [] => .ok start
  | c :: rest =>
    match protected? (text.take start).reverse c rest with
    | .ok (token, _) => .ok (start + token.text.length)
    | .error unterminated =>
      .error (.input (LocatedFault.message source ⟨line, openFault unterminated⟩))

section End

variable {source : String} {line start : Nat} {text rest after : List Char} {c : Char}
  {token : Lexeme} {unterminated : Unterminated}

theorem tokenEnd_of_ok (ahead : text.drop start = c :: rest)
    (read : protected? (text.take start).reverse c rest = .ok (token, after)) :
    tokenEnd source line text start = .ok (start + token.text.length) := by
  simp only [tokenEnd, ahead, read]

theorem tokenEnd_of_error (ahead : text.drop start = c :: rest)
    (read : protected? (text.take start).reverse c rest = .error unterminated) :
    tokenEnd source line text start =
      .error (.input (LocatedFault.message source ⟨line, openFault unterminated⟩)) := by
  simp only [tokenEnd, ahead, read]

/-- A token that is read lies within the text. -/
theorem end_within (ahead : text.drop start = c :: rest)
    (read : protected? (text.take start).reverse c rest = .ok (token, after)) :
    start < start + token.text.length ∧ start + token.text.length ≤ text.length := by
  obtain ⟨whole, some⟩ := protected?_append read
  have positive := List.length_pos_iff.mpr some
  have within := congrArg List.length whole
  have total := congrArg List.length ahead
  rw [List.length_append] at within
  rw [List.length_drop] at total
  omega

/-- Within a statement, where neither a marker nor a semicolon stands, the scan goes on at the end
of the token, or fails with it. -/
theorem tokenEnd_of_next (ahead : text.drop start = c :: rest) (special : isSpecial c = true)
    (unmarked : marker? (c :: rest) = none) (unended : c ≠ ';') :
    (∀ token after, Lexeme.next (text.take start).reverse c rest = .ok (token, after) →
      ∃ stop, tokenEnd source line text start = .ok stop ∧ text.drop stop = after) ∧
    ∀ unterminated, Lexeme.next (text.take start).reverse c rest = .error unterminated →
      tokenEnd source line text start =
        .error (.input (LocatedFault.message source ⟨line, openFault unterminated⟩)) := by
  have next : Lexeme.next (text.take start).reverse c rest =
      protected? (text.take start).reverse c rest := by
    rw [Lexeme.next, if_pos special, Lexeme.nextSpecial, unmarked]
    simp only [unended, if_false]
  rw [next]
  refine ⟨fun token after read => ?_, fun unterminated failed => tokenEnd_of_error ahead failed⟩
  refine ⟨_, tokenEnd_of_ok ahead read, ?_⟩
  rw [← List.drop_drop, ahead, ← (protected?_append read).1, List.drop_left]

end End

/-- A token has one kind at least, and for its kind its end is exact: it ends at the first length
that the kind allows, behind its beginning and within the text.  It fails exactly if it is a
string, a quoted identifier, a dollar quote or a block comment that nothing ends. -/
theorem tokenEnd_exact (source : String) (line : Nat) (text : List Char) (start : Nat)
    (inside : start < text.length) :
    (∃ kind : TokenKind, kind.Begins (text.take start) (text.drop start)) ∧
      ∀ kind : TokenKind, kind.Begins (text.take start) (text.drop start) →
        (∀ stop, tokenEnd source line text start = .ok stop ↔
          ∃ length, IsLeast (kind.lengths (text.drop start)) length ∧ stop = start + length) ∧
        (∀ stop, tokenEnd source line text start = .ok stop → start < stop ∧ stop ≤ text.length) ∧
        ∀ failure, tokenEnd source line text start = .error failure ↔
          kind.lengths (text.drop start) = ∅ ∧ ∃ fault, kind.fault? = some fault ∧
            failure = .input (LocatedFault.message source ⟨line, fault⟩) := by
  obtain ⟨c, rest, ahead⟩ : ∃ c rest, text.drop start = c :: rest := by
    apply List.exists_cons_of_ne_nil
    rw [Ne, List.drop_eq_nil_iff]
    omega
  rw [ahead]
  refine ⟨exists_begins _ c rest, fun kind begins => ?_⟩
  have isRead := begins.isRead
  cases read : protected? (text.take start).reverse c rest with
  | ok cut =>
    obtain ⟨token, after⟩ := cut
    rw [read] at isRead
    rw [tokenEnd_of_ok ahead read]
    refine ⟨fun stop => ?_, ?_, fun failure => ?_⟩
    · constructor
      · rintro ⟨⟩
        exact ⟨token.text.length, isRead, rfl⟩
      · rintro ⟨length, least, rfl⟩
        rw [IsLeast.unique isRead least]
    · rintro stop ⟨⟩
      exact end_within ahead read
    · refine iff_of_false (by simp) ?_
      rintro ⟨empty, -⟩
      exact Set.Nonempty.ne_empty ⟨_, isRead.1⟩ empty
  | error unterminated =>
    rw [read] at isRead
    obtain ⟨empty, fault⟩ := isRead
    rw [tokenEnd_of_error ahead read, fault]
    refine ⟨fun stop => ?_, by simp, fun failure => ?_⟩
    · refine iff_of_false (by simp) ?_
      rintro ⟨length, ⟨member, -⟩, -⟩
      rw [empty] at member
      exact member
    · constructor
      · rintro ⟨⟩
        exact ⟨empty, _, rfl, rfl⟩
      · rintro ⟨-, _, ⟨⟩, rfl⟩
        rfl

/-- A comment in another one, with a quote and a slash that belong to no mark. -/
def nestedText : List Char := "1/*/ 'a /* b */*/;".toList

theorem tokenEnd_exact_nested :
    1 < nestedText.length ∧ TokenKind.blockComment.Begins (nestedText.take 1) (nestedText.drop 1) ∧
      tokenEnd "find.sql" 1 nestedText 1 = .ok 17 ∧
      IsLeast (TokenKind.blockComment.lengths (nestedText.drop 1)) 16 := by
  have begins : TokenKind.blockComment.Begins (nestedText.take 1) (nestedText.drop 1) :=
    ⟨"/ 'a /* b */*/;".toList, rfl⟩
  have ended : tokenEnd "find.sql" 1 nestedText 1 = .ok 17 := rfl
  have exact := (tokenEnd_exact "find.sql" 1 nestedText 1 (by decide)).2 _ begins
  obtain ⟨length, least, same⟩ := (exact.1 17).mp ended
  obtain rfl : length = 16 := by omega
  exact ⟨by decide, begins, ended, least⟩

end QueryTyping.QueryFile
