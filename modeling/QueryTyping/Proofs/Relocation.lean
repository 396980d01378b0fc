import QueryTyping.Proofs.FileScan

/-!
# The same text in another place

What a scan makes of the text ahead depends on the text behind in one point only:
whether a single quote opens a string with escapes, for which the two characters
before it are looked at.  Behind a character that is no part of a word the answer
is always the same.

So a scan is the same wherever its text stands (`Scans.relocate`), as long as the
quotes ahead open alike and none of its names is declared there already.
-/

namespace QueryTyping.QueryFile

open QueryTyping.Text

/-- The text behind, given backwards, does not end within a word. -/
def Neutral (behind : List Char) : Prop :=
  ∀ c ∈ behind.head?, c ≠ 'e' ∧ c ≠ 'E' ∧ isAlphanumeric c = false ∧ c ≠ '_'

theorem neutral_nil : Neutral [] := by
  rintro c ⟨⟩

/-- Code points that are no part of a word: those before the digits, the semicolon and the white
space beyond ASCII. -/
def separators : List (Nat × Nat) :=
  [(0, 0x2f), (0x3b, 0x3b), (0x85, 0x85), (0xa0, 0xa0), (0x1680, 0x1680), (0x2000, 0x200a),
    (0x2028, 0x2029), (0x202f, 0x202f), (0x205f, 0x205f), (0x3000, 0x3000)]

theorem alphanumericRanges_apart :
    (alphanumericRanges.toList.all fun range =>
      separators.all fun gap => range.2 < gap.1 || gap.2 < range.1) = true := by
  decide +kernel

theorem neutral_of_separator {c : Char} {gap : Nat × Nat} (member : gap ∈ separators)
    (within : gap.1 ≤ c.toNat ∧ c.toNat ≤ gap.2) (behind : List Char) : Neutral (c :: behind) := by
  rintro d ⟨⟩
  have wordless : ∀ gap ∈ separators, ∀ other ∈ ['e', 'E', '_'],
      ¬ (gap.1 ≤ other.toNat ∧ other.toNat ≤ gap.2) := by simp [separators]
  have unequal (other : Char) (listed : other ∈ ['e', 'E', '_']) : c ≠ other := by
    rintro rfl
    exact wordless gap member c listed within
  refine ⟨unequal 'e' (by decide), unequal 'E' (by decide), ?_, unequal '_' (by decide)⟩
  rw [isAlphanumeric, RangeTable.contains, ← Array.any_toList, List.any_eq_false]
  intro range inTable
  have apart := List.all_eq_true.mp (List.all_eq_true.mp alphanumericRanges_apart range inTable)
    gap member
  simp only [Bool.or_eq_true, decide_eq_true_eq] at apart
  simp only [Bool.and_eq_true, decide_eq_true_eq, not_and]
  omega

/-- No character before the digits is part of a word. -/
theorem neutral_of_small {c : Char} (small : c.toNat < 0x30) (behind : List Char) :
    Neutral (c :: behind) :=
  neutral_of_separator (List.mem_cons_self : (0, 0x2f) ∈ separators) ⟨Nat.zero_le _, by omega⟩
    behind

theorem neutral_of_isBlank {c : Char} (blank : isBlank c = true) (behind : List Char) :
    Neutral (c :: behind) := by
  have found : ∃ gap ∈ separators, gap.1 ≤ c.toNat ∧ c.toNat ≤ gap.2 := by
    simp only [isBlank, Bool.or_eq_true, Bool.and_eq_true, decide_eq_true_eq, beq_iff_eq] at blank
    simp only [separators, List.mem_cons, List.not_mem_nil, or_false, exists_eq_or_imp,
      exists_eq_left]
    omega
  obtain ⟨gap, member, within⟩ := found
  exact neutral_of_separator member within behind

/-- Behind the end of a word only what was read since decides how a quote opens. -/
theorem opensEscapes_of_neutral {behind other : List Char} (neutral : Neutral behind)
    (otherNeutral : Neutral other) (read : List Char) :
    opensEscapes (read ++ behind) = opensEscapes (read ++ other) := by
  have unopened {behind : List Char} (neutral : Neutral behind) : opensEscapes behind = false := by
    cases behind with
    | nil => rfl
    | cons c behind =>
      obtain ⟨small, capital, -, -⟩ := neutral c rfl
      simp [opensEscapes, small, capital]
  have opened (c : Char) {behind : List Char} (neutral : Neutral behind) :
      opensEscapes (c :: behind) = (decide (c = 'e') || decide (c = 'E')) := by
    cases behind with
    | nil => simp [opensEscapes]
    | cons d behind =>
      obtain ⟨-, -, letter, underscore⟩ := neutral d rfl
      simp [opensEscapes, letter, underscore]
  rcases read with _ | ⟨c, _ | ⟨d, read⟩⟩
  · exact (unopened neutral).trans (unopened otherNeutral).symm
  · exact (opened c neutral).trans (opened c otherNeutral).symm
  · rfl

/-- Each single quote ahead opens the same kind of string behind either text. -/
def LooksAlike (ahead behind other : List Char) : Prop :=
  ∀ read rest, ahead = read ++ '\'' :: rest →
    opensEscapes (read.reverse ++ behind) = opensEscapes (read.reverse ++ other)

theorem LooksAlike.refl (ahead behind : List Char) : LooksAlike ahead behind behind :=
  fun _ _ _ => rfl

theorem looksAlike_of_neutral {behind other : List Char} (neutral : Neutral behind)
    (otherNeutral : Neutral other) (ahead : List Char) : LooksAlike ahead behind other :=
  fun read _ _ => opensEscapes_of_neutral neutral otherNeutral read.reverse

theorem LooksAlike.advance {text after behind other : List Char}
    (alike : LooksAlike (text ++ after) behind other) :
    LooksAlike after (text.reverse ++ behind) (text.reverse ++ other) := by
  rintro read rest rfl
  have before := alike (text ++ read) rest (List.append_assoc text read _).symm
  simpa only [List.reverse_append, List.append_assoc] using before

/-- Only a string in single quotes depends on the escapes. -/
theorem Lexeme.HasForm.congr {lexeme : Lexeme} {escapes other : Bool}
    (form : lexeme.HasForm escapes) (same : lexeme.text.head? = some '\'' → escapes = other) :
    lexeme.HasForm other := by
  cases lexeme with
  | quoted text =>
    rcases form with ⟨body, rfl, closes⟩ | unescaped
    · rw [same rfl] at closes
      exact .inl ⟨body, rfl, closes⟩
    · exact .inr unescaped
  | plain | marker | semicolon | lineComment | blockComment | dollarQuoted | lone => exact form

theorem Lexeme.HasForm.relocate {lexeme : Lexeme} {after behind other : List Char}
    (form : lexeme.HasForm (opensEscapes behind))
    (alike : LooksAlike (lexeme.text ++ after) behind other) :
    lexeme.HasForm (opensEscapes other) := by
  refine form.congr fun quote => ?_
  obtain ⟨body, text⟩ := List.head?_eq_some_iff.mp quote
  exact alike [] (body ++ after) (by rw [text]; rfl)

theorem Lexed.relocate {behind other after : List Char} {lexemes : List Lexeme}
    (lexed : Lexed behind lexemes after)
    (alike : LooksAlike (texts lexemes ++ after) behind other) :
    Lexed other lexemes after := by
  induction lexed generalizing other with
  | nil behind after => exact .nil other after
  | cons form ends others ih =>
    rw [texts_cons, List.append_assoc] at alike
    exact .cons (form.relocate alike) ends (ih alike.advance)

/-- The place with other text ahead. -/
def Between.withAhead (between : Between) (ahead : List Char) : Between :=
  ⟨between.declared, between.comments, between.here.behind, between.here.line, ahead⟩

/-- The same text stands ahead, and the same comments belong to its first statement. -/
structure Relocated (between other : Between) : Prop where
  comments : other.comments = between.comments
  ahead : other.here.ahead = between.here.ahead
  alike : LooksAlike between.here.ahead between.here.behind other.here.behind

variable {between other last : Between} {reading : Reading} {readings : List Reading}
  {stop : Cursor}

/-- A statement is the same in another place if its name is new there too. -/
theorem Between.Reads.relocate (reads : between.Reads reading stop)
    (moved : Relocated between other)
    (fresh : other.declared.lookup reading.query.name = none) :
    other.Reads reading (other.here.advance (texts reading.lexemes) stop.ahead) := by
  obtain ⟨lexed, ahead, terminated, -⟩ := lexed_of_statementLexemes reads.lexed
  have alike := moved.alike
  rw [ahead] at alike
  exact
    { annotated := moved.comments ▸ reads.annotated
      fresh := fresh
      lexed := statementLexemes_of_lexed (lexed.relocate alike) (moved.ahead.trans ahead) terminated
      prepares := reads.prepares
      documented := moved.comments ▸ reads.documented
      nonempty := reads.nonempty }

theorem Relocated.skip (moved : Relocated between other) {piece : Piece} {after : List Char}
    (ahead : between.here.ahead = piece.text ++ after) :
    Relocated (between.skip piece after) (other.skip piece after) := by
  refine ⟨congrArg piece.attach moved.comments, rfl, ?_⟩
  have alike := moved.alike
  rw [ahead] at alike
  simpa [Between.skip] using alike.advance

theorem Relocated.next (moved : Relocated between other) (reads : between.Reads reading stop) :
    Relocated (between.next reading stop)
      (other.next reading (other.here.advance (texts reading.lexemes) stop.ahead)) := by
  obtain ⟨-, ahead, -, stopped⟩ := lexed_of_statementLexemes reads.lexed
  have alike := moved.alike
  rw [ahead] at alike
  refine ⟨rfl, rfl, ?_⟩
  have behind : stop.behind = (texts reading.lexemes).reverse ++ between.here.behind := by
    rw [stopped, Cursor.advance_behind]
  simpa [Between.next, behind] using alike.advance

/-- How far a scan comes. -/
theorem Scans.passes (scans : Scans between readings last) :
    ∃ passed, between.here.ahead = passed ++ last.here.ahead ∧
      last.here = between.here.advance passed last.here.ahead := by
  induction scans with
  | done between => exact ⟨[], rfl, rfl⟩
  | @gap between last readings piece after form ends ahead others ih =>
    obtain ⟨passed, rest, moved⟩ := ih
    refine ⟨piece.text ++ passed, ?_, ?_⟩
    · rw [ahead, List.append_assoc, ← rest]
      rfl
    · rw [moved, Between.skip, Cursor.advance_advance]
      rfl
  | @statement between last reading readings stop opens reads others ih =>
    obtain ⟨passed, rest, moved⟩ := ih
    obtain ⟨-, ahead, -, stopped⟩ := lexed_of_statementLexemes reads.lexed
    refine ⟨texts reading.lexemes ++ passed, ?_, ?_⟩
    · rw [ahead, List.append_assoc, ← rest]
      rfl
    · rw [moved, Between.next, stopped, Cursor.advance_advance]
      rfl

theorem Scans.trans {middle : Between} {later : List Reading}
    (first : Scans between readings middle)
    (second : Scans middle later last) : Scans between (readings ++ later) last := by
  induction first with
  | done => exact second
  | gap form ends ahead _ ih => exact .gap form ends ahead (ih second)
  | statement opens reads _ ih => exact .statement opens reads (ih second)

theorem Between.lookup_next_eq_none_iff {name : String} :
    (between.next reading stop).declared.lookup name = none ↔
      name ≠ reading.query.name ∧ between.declared.lookup name = none := by
  rw [Between.next, List.lookup_cons]
  cases same : name == reading.query.name with
  | true => simp [eq_of_beq same]
  | false => simp [ne_of_beq_false same]

/-- The names that are declared after a scan are those before it and those of its queries. -/
theorem Scans.lookup_eq_none_iff {name : String} (scans : Scans between readings last) :
    last.declared.lookup name = none ↔
      between.declared.lookup name = none ∧ ∀ reading ∈ readings, name ≠ reading.query.name := by
  induction scans with
  | done => simp
  | gap _ _ _ _ ih => exact ih
  | statement _ _ _ ih =>
    rw [ih, Between.lookup_next_eq_none_iff, List.forall_mem_cons]
    tauto

/-- A scan is the same in another place if none of its names is declared there. -/
theorem Scans.relocate (scans : Scans between readings last) (moved : Relocated between other)
    (fresh : ∀ reading ∈ readings, between.declared.lookup reading.query.name = none →
      other.declared.lookup reading.query.name = none) :
    ∃ lastOther, Scans other readings lastOther ∧ Relocated last lastOther := by
  induction scans generalizing other with
  | done => exact ⟨other, .done other, moved⟩
  | gap form ends ahead others ih =>
    obtain ⟨lastOther, scans, relocated⟩ := ih (moved.skip ahead) fresh
    exact ⟨lastOther, .gap form ends (moved.ahead.trans ahead) scans, relocated⟩
  | @statement between last reading readings stop opens reads others ih =>
    have new := fresh reading List.mem_cons_self reads.fresh
    have later : ∀ later ∈ readings,
        (between.next reading stop).declared.lookup later.query.name = none →
          (other.next reading stop).declared.lookup later.query.name = none := by
      intro later member unseen
      obtain ⟨different, unseen⟩ := Between.lookup_next_eq_none_iff.mp unseen
      exact Between.lookup_next_eq_none_iff.mpr
        ⟨different, fresh later (List.mem_cons_of_mem reading member) unseen⟩
    obtain ⟨lastOther, scans, relocated⟩ := ih (moved.next reads) later
    exact ⟨lastOther, .statement (moved.ahead ▸ opens) (reads.relocate moved new) scans, relocated⟩

end QueryTyping.QueryFile
