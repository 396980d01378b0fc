import Mathlib.Data.List.Infix
import Mathlib.Data.List.TakeWhile
import Mathlib.Tactic.MkIffOfInductiveProp
import QueryTyping.Proofs.LowerCase
import QueryTyping.Terminal.Markup

/-!
# Text that is shown as it stands

A text is read as markup before it is shown: tags are taken out, a backslash
before a bracket is dropped, codes become pictures and some controls are left
out.  Each of these takes away a bracket, a backslash, a colon or a control and
puts none in, so that a text is shown as it stands exactly when none of them
applies.
-/

namespace QueryTyping.Terminal

open Text

/-- The characters that tags, escapes and codes are written with. -/
def isMark (c : Char) : Bool := c = '[' || c = '\\' || c = ':'

/-- How many marks a text has. -/
def marks (s : List Char) : Nat := s.countP isMark

@[simp] theorem marks_nil : marks [] = 0 := rfl

@[simp] theorem marks_append (s t : List Char) : marks (s ++ t) = marks s + marks t :=
  List.countP_append

theorem marks_cons_of_isMark {c : Char} (mark : isMark c = true) (s : List Char) :
    marks (c :: s) = marks s + 1 := List.countP_cons_of_pos mark

@[simp] theorem marks_colon (s : List Char) : marks (':' :: s) = marks s + 1 :=
  marks_cons_of_isMark rfl s

@[simp] theorem marks_backslash (s : List Char) : marks ('\\' :: s) = marks s + 1 :=
  marks_cons_of_isMark rfl s

@[simp] theorem marks_bracket (s : List Char) : marks ('[' :: s) = marks s + 1 :=
  marks_cons_of_isMark rfl s

@[simp] theorem marks_closing (s : List Char) : marks (']' :: s) = marks s :=
  List.countP_cons_of_neg (by decide)

theorem marks_eq_zero {s : List Char} : marks s = 0 ↔ ∀ c ∈ s, isMark c = false := by
  simp [marks, List.countP_eq_zero]

@[simp] theorem marks_replicate_backslash (count : Nat) :
    marks (List.replicate count '\\') = count := by
  simp [marks, List.countP_replicate, isMark]

theorem marks_filter_le (p : Char → Bool) (s : List Char) : marks (s.filter p) ≤ marks s :=
  s.filter_sublist.countP_le

/-- What a reading makes of a text: the text itself if there is nothing to be read, and else one
with fewer marks. -/
def KeptUnless (found : Prop) (before after : List Char) : Prop :=
  (¬ found ∧ after = before) ∨ (found ∧ marks after < marks before)

namespace KeptUnless

variable {found also : Prop} {before after first next : List Char}

theorem marks_le (kept : KeptUnless found before after) : marks after ≤ marks before := by
  rcases kept with ⟨-, rfl⟩ | ⟨-, fewer⟩ <;> omega

/-- Where no mark is lost nothing was read. -/
theorem not_found (kept : KeptUnless found before after) (all : marks before ≤ marks after) :
    ¬ found ∧ after = before := by
  rcases kept with nothing | ⟨-, fewer⟩
  · exact nothing
  · omega

theorem eq_of_not (kept : KeptUnless found before after) (nothing : ¬ found) : after = before := by
  rcases kept with ⟨-, same⟩ | ⟨read, -⟩
  · exact same
  · exact absurd read nothing

theorem append (kept : KeptUnless found before after) (others : KeptUnless also first next) :
    KeptUnless (found ∨ also) (before ++ first) (after ++ next) := by
  have atMost := kept.marks_le
  have othersAtMost := others.marks_le
  simp only [KeptUnless, marks_append]
  rcases kept with ⟨nothing, rfl⟩ | ⟨read, fewer⟩
  · rcases others with ⟨neither, rfl⟩ | ⟨read, fewer⟩
    · exact .inl ⟨by tauto, rfl⟩
    · exact .inr ⟨.inr read, by omega⟩
  · exact .inr ⟨.inl read, by omega⟩

end KeptUnless

namespace Picture

/-- None of the code points is the one of a mark. -/
def MarkFree (codes : List Nat) : Prop := ∀ n ∈ codes, n ≠ 0x5b ∧ n ≠ 0x5c ∧ n ≠ 0x3a

instance (codes : List Nat) : Decidable (MarkFree codes) :=
  inferInstanceAs (Decidable (∀ n ∈ codes, _))

theorem MarkFree.marks_eq_zero {codes : List Nat} (free : MarkFree codes) :
    marks (codes.map Char.ofNat) = 0 := by
  rw [Terminal.marks_eq_zero]
  intro c inside
  obtain ⟨n, among, rfl⟩ := List.mem_map.mp inside
  have other := free n among
  by_contra mark
  have numbers : (Char.ofNat n).toNat = 0x5b ∨ (Char.ofNat n).toNat = 0x5c ∨
      (Char.ofNat n).toNat = 0x3a := by
    simp only [isMark, Bool.not_eq_false, Bool.or_eq_true, decide_eq_true_eq] at mark
    rcases mark with (same | same) | same <;> simp [same]
  -- what is no code point is read as zero
  rcases toNat_ofNat_cases n with same | zero <;> omega

theorem drawnNames_markFree : ∀ row ∈ drawnNames, MarkFree row.1 := by
  decide +kernel

variable {name : List Char} {codes : List Nat}

theorem drawn?_markFree (found : drawn? name = some codes) : MarkFree codes := by
  obtain ⟨row, named, rfl⟩ := Option.map_eq_some_iff.mp found
  exact drawnNames_markFree row (List.mem_of_find?_eq_some named)

theorem flag?_markFree (found : flag? name = some codes) : MarkFree codes := by
  obtain ⟨row, -, rfl⟩ := Option.map_eq_some_iff.mp found
  intro n inside
  obtain ⟨c, -, rfl⟩ := List.mem_map.mp inside
  omega

theorem mem_withTone {tone n : Nat} (inside : n ∈ withTone tone codes) :
    n = tone ∨ n ∈ codes := by
  fun_cases withTone tone codes <;> simp_all [withTone] <;> tauto

theorem toned?_markFree (found : toned? name = some codes) : MarkFree codes := by
  obtain ⟨⟨tone, code⟩, listed, named⟩ := List.exists_of_findSome?_eq_some found
  dsimp only at named
  split at named
  · obtain ⟨plain, drawn, rfl⟩ := Option.map_eq_some_iff.mp named
    intro n inside
    rcases mem_withTone inside with rfl | inPlain
    · have high : ∀ row ∈ tones, 0x5c < row.2 := by decide
      have := high _ listed
      dsimp only at this
      omega
    · exact drawn?_markFree drawn n inPlain
  · cases named

theorem named?_markFree (found : named? name = some codes) : MarkFree codes := by
  simp only [named?, Option.orElse_eq_orElse, Option.orElse_eq_or, Option.or_eq_some_iff] at found
  rcases found with drawn | ⟨-, flag | ⟨-, toned⟩⟩
  · exact drawn?_markFree drawn
  · exact flag?_markFree flag
  · exact toned?_markFree toned

/-- A picture has no marks. -/
theorem ofCode?_unmarked {code shown : List Char} (found : ofCode? code = some shown) :
    marks shown = 0 := by
  obtain ⟨codes, named, rfl⟩ := Option.map_eq_some_iff.mp found
  refine MarkFree.marks_eq_zero fun n among => ?_
  rcases List.mem_append.mp among with inPicture | inLook
  · exact named?_markFree named n inPicture
  · obtain ⟨look, chosen, rfl⟩ : ∃ look, looks.find? _ = some look ∧ look.2 = n := by
      simpa using inLook
    have high : ∀ row ∈ looks, 0x5c < row.2 := by decide
    have := high look (List.mem_of_find?_eq_some chosen)
    omega

@[simp] theorem flatMap_written_char (s : List Char) :
    (s.map Token.char).flatMap Token.written = s := by
  induction s with
  | nil => rfl
  | cons c s ih => simp [Token.written, ih]

/-- The tokens make up the text. -/
theorem tokensFrom_written (opened : Option (List Char)) (s : List Char) :
    (tokensFrom opened s).flatMap Token.written =
      (opened.elim [] fun read => ':' :: read.reverse) ++ s := by
  fun_induction tokensFrom opened s <;>
    simp_all [Token.written, -List.map_reverse, -List.map_append]

theorem tokens_written (s : List Char) : (tokens s).flatMap Token.written = s :=
  tokensFrom_written none s

/-- Whether a token is shown as a picture. -/
def Token.isPicture : Token → Bool
  | char _ => false
  | code s => (ofCode? s).isSome

theorem Token.shown_kept (token : Token) :
    KeptUnless (token.isPicture = true) token.written token.shown := by
  cases token with
  | char c => exact .inl ⟨by simp [isPicture], rfl⟩
  | code s =>
    cases found : ofCode? s with
    | none => exact .inl ⟨by simp [isPicture, found], by simp [shown, found]⟩
    | some picture =>
      refine .inr ⟨by simp [isPicture, found], ?_⟩
      simp [shown, written, found, ofCode?_unmarked found]

/-- A code in the text, read from the left, names a picture. -/
def Occurs (s : List Char) : Prop := ∃ token ∈ tokens s, token.isPicture = true

instance (s : List Char) : Decidable (Occurs s) :=
  inferInstanceAs (Decidable (∃ token ∈ tokens s, token.isPicture = true))

theorem withPictures_kept (s : List Char) : KeptUnless (Occurs s) s (withPictures s) := by
  have all (tokens : List Token) : KeptUnless (∃ token ∈ tokens, token.isPicture = true)
      (tokens.flatMap Token.written) (tokens.flatMap Token.shown) := by
    induction tokens with
    | nil => exact .inl ⟨by simp, rfl⟩
    | cons token tokens ih => simpa using token.shown_kept.append ih
  have read := all (tokens s)
  rwa [tokens_written] at read

end Picture

namespace Markup

theorem unescaped_kept (s : List Char) :
    KeptUnless (['\\', '['] <:+: s) s (unescaped s) := by
  fun_induction unescaped s with
  | case1 rest ih =>
    have atMost := ih.marks_le
    refine .inr ⟨⟨[], rest, rfl⟩, ?_⟩
    simp only [marks_bracket, marks_backslash]
    omega
  | case2 c rest other ih =>
    have begins : ¬ ['\\', '['] <+: c :: rest := by
      rintro ⟨behind, same⟩
      obtain ⟨rfl, rfl⟩ : '\\' = c ∧ '[' :: behind = rest := by simpa using same
      exact other behind rfl rfl
    have first : KeptUnless (['\\', '['] <+: c :: rest) [c] [c] := .inl ⟨begins, rfl⟩
    rw [List.infix_cons_iff]
    exact first.append ih
  | case3 => exact .inl ⟨by simp, rfl⟩

/-- What stands between the brackets of a tag. -/
def IsTagBody (s : List Char) : Prop :=
  ∃ first rest, s = first :: rest ∧ startsTag first = true ∧ ∀ c ∈ rest, c ≠ '[' ∧ c ≠ ']'

/-- A tag stands in the text, whatever stands ahead of it. -/
def HasTag (s : List Char) : Prop :=
  ∃ body, IsTagBody body ∧ '[' :: body ++ [']'] <:+: s

theorem tag?_eq_some_iff {s body rest : List Char} :
    tag? s = some (body, rest) ↔ s = body ++ ']' :: rest ∧ IsTagBody body := by
  constructor
  · intro found
    cases s with
    | nil => cases found
    | cons first s =>
      simp only [tag?] at found
      split at found
      · next starts =>
        split at found
        · next after closes =>
          obtain ⟨rfl, rfl⟩ : first :: s.takeWhile _ = body ∧ after = rest := by simpa using found
          refine ⟨?_, first, _, rfl, starts, fun c inside => ?_⟩
          · rw [← closes]
            simp
          · simpa using List.mem_takeWhile_imp inside
        · cases found
      · cases found
  · rintro ⟨rfl, first, inside, rfl, starts, noBracket⟩
    have within : ∀ c ∈ inside, (decide (c ≠ '[') && decide (c ≠ ']')) = true := by
      simpa using noBracket
    simp only [List.cons_append, tag?, starts, if_true]
    rw [List.takeWhile_append_of_pos within, List.dropWhile_append_of_pos within]
    simp

/-- A text starts with a tag, or its tags are those behind its first character. -/
theorem hasTag_cons {c : Char} {s : List Char} :
    HasTag (c :: s) ↔ (c = '[' ∧ (tag? s).isSome = true) ∨ HasTag s := by
  constructor
  · rintro ⟨body, isBody, occurs⟩
    rcases List.infix_cons_iff.mp occurs with ⟨rest, begins⟩ | later
    · obtain ⟨rfl, same⟩ : '[' = c ∧ body ++ ']' :: rest = s := by simpa using begins
      have read := tag?_eq_some_iff.mpr ⟨same.symm, isBody⟩
      exact .inl ⟨rfl, by rw [read]; rfl⟩
    · exact .inr ⟨body, isBody, later⟩
  · rintro (⟨rfl, found⟩ | ⟨body, isBody, occurs⟩)
    · obtain ⟨⟨body, rest⟩, read⟩ := Option.isSome_iff_exists.mp found
      obtain ⟨rfl, isBody⟩ := tag?_eq_some_iff.mp read
      exact ⟨body, isBody, [], rest, by simp⟩
    · exact ⟨body, isBody, occurs.trans (List.suffix_cons c s).isInfix⟩

theorem not_hasTag_nil : ¬ HasTag [] := by
  rintro ⟨body, -, occurs⟩
  simp at occurs

theorem HasTag.mem {s : List Char} (has : HasTag s) : '[' ∈ s := by
  obtain ⟨body, -, occurs⟩ := has
  exact occurs.subset (by simp)

instance decidableHasTag : (s : List Char) → Decidable (HasTag s)
  | [] => isFalse not_hasTag_nil
  | c :: s =>
    have : Decidable (HasTag s) := decidableHasTag s
    decidable_of_iff ((c = '[' ∧ (tag? s).isSome = true) ∨ HasTag s) hasTag_cons.symm

theorem hasTag_backslashes (count : Nat) (s : List Char) :
    HasTag (List.replicate count '\\' ++ s) ↔ HasTag s := by
  induction count with
  | zero => rfl
  | succ count ih =>
    rw [List.replicate_succ, List.cons_append, hasTag_cons, ih]
    simp

/-- The text of pieces without their tags. -/
def plainText (pieces : List Piece) : List Char :=
  pieces.flatMap fun
    | .plain s => s
    | .tag _ => []

@[simp] theorem plainText_nil : plainText [] = [] := rfl

@[simp] theorem plainText_plain (s : List Char) (rest : List Piece) :
    plainText (.plain s :: rest) = s ++ plainText rest := rfl

@[simp] theorem plainText_tag (body : List Char) (rest : List Piece) :
    plainText (.tag body :: rest) = plainText rest := rfl

@[simp] theorem plainText_flushed (read : List Char) (rest : List Piece) :
    plainText (flushed read rest) = read.reverse ++ plainText rest := by
  fun_cases flushed read rest <;> simp_all

section Pieces

variable {steps : Nat} {read escapes : List Char} {c : Char} {s : List Char}

/-- What is left of a text, at least one character on, and what was passed: it starts no tag. -/
def Passes (c : Char) (s front rest : List Char) : Prop :=
  c :: s = front ++ rest ∧ rest.length ≤ s.length ∧ (HasTag (c :: s) ↔ HasTag rest)

/-- Either backslashes are passed together, or one character that is none. -/
theorem exists_passes {rest : List Char} (slashes : escapes = List.replicate escapes.length '\\')
    (parts : c :: s = escapes ++ rest)
    (noTag : ∀ after, rest = '[' :: after → tag? after = none) :
    ∃ front rest', Passes c s front rest' ∧
      (if escapes.isEmpty then pieces steps (c :: read) s
        else pieces steps (escapes ++ read) rest) = pieces steps (front.reverse ++ read) rest' := by
  cases empty : escapes with
  | nil =>
    refine ⟨[c], s, ⟨rfl, le_rfl, hasTag_cons.trans (or_iff_right ?_)⟩, rfl⟩
    rintro ⟨bracket, found⟩
    rw [empty, List.nil_append] at parts
    simp [noTag s (by rw [← parts, bracket])] at found
  | cons first others =>
    rw [← empty]
    refine ⟨escapes, rest, ⟨parts, ?_, ?_⟩, ?_⟩
    · have := congrArg List.length parts
      simp [empty] at this
      omega
    · rw [parts, slashes]
      exact hasTag_backslashes _ _
    · rw [slashes, List.reverse_replicate, ← slashes]
      simp [empty]

/-- One step: a tag is read with the backslashes ahead of it, or characters are passed that start
no tag. -/
theorem pieces_cons (steps : Nat) (read : List Char) (c : Char) (s : List Char) :
    (∃ count body rest, c :: s = List.replicate count '\\' ++ '[' :: body ++ ']' :: rest ∧
        IsTagBody body ∧
        plainText (pieces (steps + 1) read (c :: s)) =
          read.reverse ++ List.replicate (count / 2) '\\' ++
            (if count % 2 = 1 then '[' :: body ++ [']'] else []) ++
              plainText (pieces steps [] rest)) ∨
      (∃ front rest, Passes c s front rest ∧
        pieces (steps + 1) read (c :: s) = pieces steps (front.reverse ++ read) rest) := by
  obtain ⟨escapes, taken⟩ : ∃ escapes, escapes = (c :: s).takeWhile (· = '\\') := ⟨_, rfl⟩
  have slashes : escapes = List.replicate escapes.length '\\' := by
    refine List.eq_replicate_of_mem fun d inside => ?_
    rw [taken] at inside
    simpa using List.mem_takeWhile_imp inside
  obtain ⟨rest, parts⟩ : escapes <+: c :: s := taken ▸ List.takeWhile_prefix _
  have dropped : (c :: s).drop escapes.length = rest := by rw [← parts, List.drop_left]
  generalize result : pieces (steps + 1) read (c :: s) = out
  simp only [pieces, ← taken, dropped] at result
  split at result
  · next behind =>
    split at result
    · next body rest found =>
      obtain ⟨rfl, isBody⟩ := tag?_eq_some_iff.mp found
      refine .inl ⟨escapes.length, body, rest, ?_, isBody, ?_⟩
      · rw [← slashes, ← parts]
        simp
      · rw [← result, plainText_flushed, plainText_flushed, List.reverse_replicate]
        split <;> simp
    · next noTag =>
      rw [← result]
      refine .inr (exists_passes slashes parts.symm fun after same => ?_)
      cases same
      exact noTag
  · next other =>
    have same : out = if escapes.isEmpty then pieces steps (c :: read) s
        else pieces steps (escapes ++ read) rest := by
      rw [← result]
      cases escapes with
      | nil => rfl
      | cons first others =>
        rw [← dropped, List.length_cons, List.drop_succ_cons, Nat.add_sub_cancel]
    rw [same]
    exact .inr (exists_passes slashes parts.symm fun after begins => absurd begins (other after))

/-- Marks are lost with every tag, escaped or not. -/
theorem pieces_kept (steps : Nat) (read s : List Char) (enough : s.length < steps) :
    KeptUnless (HasTag s) (read.reverse ++ s) (plainText (pieces steps read s)) := by
  induction steps generalizing read s with
  | zero => omega
  | succ steps ih =>
    cases s with
    | nil => exact .inl ⟨not_hasTag_nil, by simp [pieces]⟩
    | cons c s =>
      simp only [List.length_cons, Nat.add_lt_add_iff_right] at enough
      rcases pieces_cons steps read c s with
        ⟨count, body, rest, same, isBody, shown⟩ | ⟨front, rest, ⟨same, shorter, tags⟩, passed⟩
      · have shorter : rest.length < steps := by
          have := congrArg List.length same
          simp at this
          omega
        have atMost := (ih [] rest shorter).marks_le
        refine .inr ⟨⟨body, isBody, List.replicate count '\\', rest, by simp [same]⟩, ?_⟩
        simp only [List.reverse_nil, List.nil_append] at atMost
        rw [shown, same]
        split <;> simp <;> omega
      · have kept := ih (front.reverse ++ read) rest (by omega)
        rw [passed, tags, same]
        simpa using kept

theorem pieces_tagless (steps : Nat) (read s : List Char) (enough : s.length < steps)
    (tagless : ¬ HasTag s) : pieces steps read s = flushed (s.reverse ++ read) [] := by
  induction steps generalizing read s with
  | zero => omega
  | succ steps ih =>
    cases s with
    | nil => rfl
    | cons c s =>
      simp only [List.length_cons, Nat.add_lt_add_iff_right] at enough
      rcases pieces_cons steps read c s with
        ⟨count, body, rest, same, isBody, shown⟩ | ⟨front, rest, ⟨same, shorter, tags⟩, passed⟩
      · exact absurd ⟨body, isBody, List.replicate count '\\', rest, by simp [same]⟩ tagless
      · rw [passed, ih _ rest (by omega) (tags.not.mp tagless), same]
        simp

end Pieces

/-- Text between tags as it is shown. -/
def shown (s : List Char) : List Char :=
  (Picture.withPictures (unescaped s)).filter (!StyledText.isLeftOut ·)

theorem marks_shown_le (s : List Char) : marks (shown s) ≤ marks s :=
  calc marks (shown s)
    _ ≤ marks (Picture.withPictures (unescaped s)) := marks_filter_le _ _
    _ ≤ marks (unescaped s) := (Picture.withPictures_kept _).marks_le
    _ ≤ marks s := (unescaped_kept s).marks_le

namespace Reading

variable {reading next : Reading} {piece : Piece}

theorem step_plain (s : List Char) :
    reading.step (.plain s) = some { reading with chars := reading.chars ++ shown s } := rfl

/-- A tag adds no text. -/
theorem step_tag_chars {body : List Char} (read : reading.step (.tag body) = some next) :
    next.chars = reading.chars := by
  simp only [step] at read
  split at read
  · split at read
    · split at read
      · cases read
        rfl
      · cases read
    · split at read
      · cases read
        rfl
      · cases read
  · cases read
    rfl

theorem foldlM_step_marks_le {pieces : List Piece} (read : pieces.foldlM step reading = some next) :
    marks next.chars ≤ marks reading.chars + marks (plainText pieces) := by
  induction pieces generalizing reading with
  | nil =>
    obtain rfl : reading = next := by simpa using read
    simp
  | cons piece pieces ih =>
    rw [List.foldlM_cons] at read
    obtain ⟨middle, first, others⟩ := Option.bind_eq_some_iff.mp read
    have atMost := ih others
    cases piece with
    | plain s =>
      rw [step_plain] at first
      cases first
      have := marks_shown_le s
      simp only [marks_append, plainText_plain] at atMost ⊢
      omega
    | tag body => simpa [step_tag_chars first] using atMost

theorem finish_chars (reading : Reading) (base : Style) :
    (reading.finish base).chars = reading.chars := by
  have closed (tags : List OpenTag) : ∀ reading : Reading,
      (tags.foldl (fun reading tag => reading.close tag []) reading).chars = reading.chars := by
    induction tags with
    | nil => intro reading; rfl
    | cons tag tags ih => intro reading; exact ih _
  exact closed reading.openTags reading

end Reading

/-- Nothing in the text is read as anything else than itself: no tag, no backslash ahead of a
bracket, no code of a picture, and no control that is left out. -/
@[mk_iff]
structure Unmarked (s : List Char) : Prop where
  tags : ¬ HasTag s
  escapes : ¬ ['\\', '['] <:+: s
  pictures : ¬ Picture.Occurs s
  controls : ∀ c ∈ s, StyledText.isLeftOut c = false

-- The controls are looked for in the text, and not the text among all characters.
instance (s : List Char) : Decidable (Unmarked s) :=
  have : Decidable (∀ c ∈ s, StyledText.isLeftOut c = false) := List.decidableBAll _ s
  decidable_of_iff _ (unmarked_iff s).symm

theorem Unmarked.shown {s : List Char} (unmarked : Unmarked s) : shown s = s := by
  rw [Markup.shown, (unescaped_kept s).eq_of_not unmarked.escapes,
    (Picture.withPictures_kept s).eq_of_not unmarked.pictures]
  simpa using unmarked.controls

/-- A text that is shown with all of its marks and characters has nothing to be read in it. -/
theorem unmarked_of_shown {s : List Char} (tags : ¬ HasTag s) (same : Markup.shown s = s) :
    Unmarked s := by
  have all : marks s ≤ marks (Picture.withPictures (unescaped s)) :=
    calc marks s
      _ = marks (Markup.shown s) := by rw [same]
      _ ≤ marks (Picture.withPictures (unescaped s)) := marks_filter_le _ _
  obtain ⟨escapes, kept⟩ := (unescaped_kept s).not_found
    (all.trans (Picture.withPictures_kept _).marks_le)
  rw [kept] at all
  obtain ⟨pictures, drawn⟩ := (Picture.withPictures_kept s).not_found all
  rw [Markup.shown, kept, drawn, List.filter_eq_self] at same
  exact ⟨tags, escapes, pictures, by simpa using same⟩

end Markup

namespace StyledText

open Markup

/-- A text without tags is in one style. -/
theorem ofMarkup?_tagless {s : String} (base : Style) (tags : ¬ HasTag s.toList) :
    ofMarkup? base s = some { chars := shown s.toList, base } := by
  have read := pieces_tagless (s.toList.length + 1) [] s.toList (Nat.lt_succ_self _) tags
  simp only [ofMarkup?, read, List.append_nil]
  cases s.toList with
  | nil =>
    have empty : shown [] = [] := rfl
    simp [flushed, Reading.finish, empty]
  | cons c rest =>
    have shape : flushed (c :: rest).reverse [] = [.plain (c :: rest)] := by simp [flushed]
    rw [shape, List.foldlM_cons, Reading.step_plain]
    simp [Reading.finish]

/-- Exactly the texts with nothing to be read in them are shown as they stand. -/
theorem ofMarkup?_literal_iff (base : Style) (s : String) :
    ofMarkup? base s = some { chars := s.toList, base } ↔ Unmarked s.toList := by
  constructor
  · intro literal
    obtain ⟨result, read, same⟩ := Option.map_eq_some_iff.mp literal
    have chars : result.chars = s.toList := by
      rw [← result.finish_chars base, same]
    have atMost := Reading.foldlM_step_marks_le read
    have kept := pieces_kept (s.toList.length + 1) [] s.toList (Nat.lt_succ_self _)
    rw [chars, marks_nil, Nat.zero_add] at atMost
    obtain ⟨tags, -⟩ := kept.not_found atMost
    rw [ofMarkup?_tagless base tags, Option.some_inj] at literal
    exact unmarked_of_shown tags (congrArg StyledText.chars literal)
  · intro unmarked
    rw [ofMarkup?_tagless base unmarked.tags, unmarked.shown]

end StyledText

end QueryTyping.Terminal
