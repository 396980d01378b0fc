import QueryTyping.Json.Parser
import QueryTyping.Json.Printer
import QueryTyping.Proofs.ProtectedText

/-!
# The JSON grammar

RFC 8259 relates a text to the value that it writes.  The reader returns the
value of every text of the grammar (`parse?_complete`), whatever its layout, so
no text writes two values (`documentText_unique`).

A string is written with characters, letter escapes and UTF-16 code units; an
escaped surrogate without its other half writes no character.
-/

namespace QueryTyping.Json

open QueryTyping.QueryFile (dropWhile_run takeWhile_run)
open QueryTyping.Text

def spaces : List Char := [' ', '\n', '\r', '\t']

/-- Insignificant white space. -/
def IsSpace (s : List Char) : Prop := ∀ c ∈ s, c ∈ spaces

/-- The hexadecimal digits in both cases. -/
def hexSpellings : List (Char × Nat) :=
  [('0', 0), ('1', 1), ('2', 2), ('3', 3), ('4', 4), ('5', 5), ('6', 6), ('7', 7), ('8', 8),
    ('9', 9), ('a', 10), ('b', 11), ('c', 12), ('d', 13), ('e', 14), ('f', 15), ('A', 10),
    ('B', 11), ('C', 12), ('D', 13), ('E', 14), ('F', 15)]

/-- Four hexadecimal digits write a UTF-16 code unit. -/
inductive UnitText : Nat → List Char → Prop
  | digits {a b c d : Char} {w x y z : Nat} (first : (a, w) ∈ hexSpellings)
      (second : (b, x) ∈ hexSpellings) (third : (c, y) ∈ hexSpellings)
      (fourth : (d, z) ∈ hexSpellings) :
      UnitText (((w * 16 + x) * 16 + y) * 16 + z) [a, b, c, d]

/-- The letters that stand for a character behind a backslash. -/
def letterEscapes : List (Char × Char) :=
  [('"', '"'), ('\\', '\\'), ('/', '/'), ('b', '\x08'), ('f', '\x0c'), ('n', '\n'), ('r', '\r'),
    ('t', '\t')]

/-- One character of a string: as it is, behind a backslash, or by its UTF-16 code units. -/
inductive CharText : Char → List Char → Prop
  | unescaped {c : Char} (visible : 0x20 ≤ c.toNat) (noQuote : c ≠ '"') (noBackslash : c ≠ '\\') :
      CharText c [c]
  | letter {e c : Char} (escape : (e, c) ∈ letterEscapes) : CharText c ['\\', e]
  | unit {c : Char} {digits : List Char} (unit : UnitText c.toNat digits) :
      CharText c ('\\' :: 'u' :: digits)
  | pair {c : Char} {high low : List Char} (beyond : 0x10000 ≤ c.toNat)
      (highUnit : UnitText (0xd800 + (c.toNat - 0x10000) / 0x400) high)
      (lowUnit : UnitText (0xdc00 + (c.toNat - 0x10000) % 0x400) low) :
      CharText c ('\\' :: 'u' :: (high ++ '\\' :: 'u' :: low))

/-- The characters of a string, between its quotes. -/
inductive CharsText : List Char → List Char → Prop
  | nil : CharsText [] []
  | cons {c : Char} {cs s t : List Char} (first : CharText c s) (others : CharsText cs t) :
      CharsText (c :: cs) (s ++ t)

/-- At least one decimal digit. -/
def IsDigits (s : List Char) : Prop := s ≠ [] ∧ ∀ c ∈ s, c.isDigit

/-- Digits without a leading zero. -/
def IsWhole (s : List Char) : Prop := IsDigits s ∧ (s.head? = some '0' → s = ['0'])

/-- The number with that sign. -/
def signed (negative : Bool) (n : Nat) : Int := if negative then -n else n

/-- The digits behind the point, if there is one. -/
inductive FractionText : List Char → List Char → Prop
  | absent : FractionText [] []
  | digits {s : List Char} (digits : IsDigits s) : FractionText s ('.' :: s)

/-- The sign of an exponent. -/
inductive SignText : Bool → List Char → Prop
  | absent : SignText false []
  | plus : SignText false ['+']
  | minus : SignText true ['-']

/-- The exponent, if there is one. -/
inductive ExponentText : Int → List Char → Prop
  | absent : ExponentText 0 []
  | digits {e : Char} {negative : Bool} {sign s : List Char} (letter : e = 'e' ∨ e = 'E')
      (signText : SignText negative sign) (digits : IsDigits s) :
      ExponentText (signed negative (Nat.ofDigitChars 10 s 0)) (e :: (sign ++ s))

/-- A number after its sign: a decimal is one with a fraction or an exponent. -/
inductive NumberText (negative : Bool) : Json → List Char → Prop
  | integer {whole : List Char} (digits : IsWhole whole) :
      NumberText negative (integer (signed negative (Nat.ofDigitChars 10 whole 0))) whole
  | decimal {whole digits fraction exponent : List Char} {e : Int} (isWhole : IsWhole whole)
      (fractionText : FractionText digits fraction) (exponentText : ExponentText e exponent)
      (present : fraction ≠ [] ∨ exponent ≠ []) :
      NumberText negative
        (decimal negative (Nat.ofDigitChars 10 (whole ++ digits) 0) (e - digits.length))
        (whole ++ (fraction ++ exponent))

mutual

/-- A value without space around it. -/
inductive ValueText : Json → List Char → Prop
  | null : ValueText null ['n', 'u', 'l', 'l']
  | true : ValueText (bool true) ['t', 'r', 'u', 'e']
  | false : ValueText (bool false) ['f', 'a', 'l', 's', 'e']
  | positive {value : Json} {s : List Char} (number : NumberText false value s) : ValueText value s
  | negative {value : Json} {s : List Char} (number : NumberText true value s) :
      ValueText value ('-' :: s)
  | text {cs s : List Char} (chars : CharsText cs s) :
      ValueText (text (String.ofList cs)) ('"' :: (s ++ ['"']))
  | emptyList {space : List Char} (blank : IsSpace space) :
      ValueText (list []) ('[' :: (space ++ [']']))
  | list {items : List Json} {s : List Char} (itemsText : ItemsText items s) :
      ValueText (list items) ('[' :: (s ++ [']']))
  | emptyObject {space : List Char} (blank : IsSpace space) :
      ValueText (object []) ('\x7b' :: (space ++ ['\x7d']))
  | object {members : List (String × Json)} {s : List Char} (membersText : MembersText members s) :
      ValueText (object members) ('\x7b' :: (s ++ ['\x7d']))

/-- A value with the space around it: a list item, what follows a name, or a document. -/
inductive DocumentText : Json → List Char → Prop
  | spaced {value : Json} {before s after : List Char} (blankBefore : IsSpace before)
      (valueText : ValueText value s) (blankAfter : IsSpace after) :
      DocumentText value (before ++ (s ++ after))

/-- One or more list items. -/
inductive ItemsText : List Json → List Char → Prop
  | last {item : Json} {s : List Char} (itemText : DocumentText item s) : ItemsText [item] s
  | more {item : Json} {items : List Json} {s t : List Char} (itemText : DocumentText item s)
      (others : ItemsText items t) : ItemsText (item :: items) (s ++ ',' :: t)

/-- A name and its value. -/
inductive MemberText : String × Json → List Char → Prop
  | named {cs : List Char} {value : Json} {before name after s : List Char}
      (blankBefore : IsSpace before) (chars : CharsText cs name) (blankAfter : IsSpace after)
      (valueText : DocumentText value s) :
      MemberText (String.ofList cs, value) (before ++ '"' :: (name ++ '"' :: (after ++ ':' :: s)))

/-- One or more members. -/
inductive MembersText : List (String × Json) → List Char → Prop
  | last {member : String × Json} {s : List Char} (memberText : MemberText member s) :
      MembersText [member] s
  | more {member : String × Json} {members : List (String × Json)} {s t : List Char}
      (memberText : MemberText member s) (others : MembersText members t) :
      MembersText (member :: members) (s ++ ',' :: t)

end

theorem hexValue?_of_mem {c : Char} {n : Nat} (spelling : (c, n) ∈ hexSpellings) :
    hexValue? c = some n := by
  have all : ∀ spelling ∈ hexSpellings, hexValue? spelling.1 = some spelling.2 := by decide
  exact all _ spelling

theorem unit?_complete {n : Nat} {digits : List Char} (unit : UnitText n digits)
    (rest : List Char) : unit? (digits ++ rest) = some (n, rest) := by
  cases unit with
  | digits first second third fourth =>
    simp [unit?, hexValue?_of_mem first, hexValue?_of_mem second, hexValue?_of_mem third,
      hexValue?_of_mem fourth]

/-- A character is never a surrogate. -/
theorem scalar_value (c : Char) :
    c.toNat < 0xd800 ∨ 0xdfff < c.toNat ∧ c.toNat < 0x110000 := c.valid

/-- A character's own code unit is no surrogate. -/
theorem escapedChar?_unit {c : Char} {digits : List Char} (unit : UnitText c.toNat digits)
    (rest : List Char) : escapedChar? (digits ++ rest) = some (c, rest) := by
  have scalar := scalar_value c
  have noHigh : ¬ (0xd800 ≤ c.toNat ∧ c.toNat < 0xdc00) := by omega
  have noLow : ¬ (0xdc00 ≤ c.toNat ∧ c.toNat < 0xe000) := by omega
  simp [escapedChar?, unit?_complete unit, noHigh, noLow]

theorem escapedChar?_of_units {high low : Nat} {s t rest : List Char}
    (highUnit : unit? s = some (high, '\\' :: 'u' :: t)) (lowUnit : unit? t = some (low, rest))
    (isHigh : 0xd800 ≤ high ∧ high < 0xdc00) (isLow : 0xdc00 ≤ low ∧ low < 0xe000) :
    escapedChar? s =
      some (Char.ofNat (0x10000 + (high - 0xd800) * 0x400 + (low - 0xdc00)), rest) := by
  simp [escapedChar?, highUnit, lowUnit, isHigh, isLow]

/-- A surrogate pair is joined to the character that it was split from. -/
theorem escapedChar?_pair {c : Char} {high low : List Char} (beyond : 0x10000 ≤ c.toNat)
    (highUnit : UnitText (0xd800 + (c.toNat - 0x10000) / 0x400) high)
    (lowUnit : UnitText (0xdc00 + (c.toNat - 0x10000) % 0x400) low) (rest : List Char) :
    escapedChar? (high ++ '\\' :: 'u' :: (low ++ rest)) = some (c, rest) := by
  have scalar := scalar_value c
  have joined : 0x10000 + (0xd800 + (c.toNat - 0x10000) / 0x400 - 0xd800) * 0x400 +
      (0xdc00 + (c.toNat - 0x10000) % 0x400 - 0xdc00) = c.toNat := by omega
  rw [escapedChar?_of_units (unit?_complete highUnit _) (unit?_complete lowUnit rest) (by omega)
    (by omega), joined, Char.ofNat_toNat]

/-- The next character of a string is read, whatever writes it. -/
theorem parseChars_char {c : Char} {s : List Char} (charText : CharText c s) (steps : Nat)
    (rest : List Char) :
    parseChars (steps + 1) (s ++ rest) =
      (parseChars steps rest).map fun (cs, after) => (c :: cs, after) := by
  cases charText with
  | unescaped visible noQuote noBackslash =>
    have noControl : ¬ c.toNat < 0x20 := by omega
    simp [parseChars, noBackslash, noControl]
  | letter escape =>
    simp only [letterEscapes, List.mem_cons, Prod.mk.injEq, List.not_mem_nil, or_false] at escape
    obtain ⟨rfl, rfl⟩ | ⟨rfl, rfl⟩ | ⟨rfl, rfl⟩ | ⟨rfl, rfl⟩ | ⟨rfl, rfl⟩ | ⟨rfl, rfl⟩ |
      ⟨rfl, rfl⟩ | ⟨rfl, rfl⟩ := escape <;> simp [parseChars]
  | unit unit => simp [parseChars, escapedChar?_unit unit]
  | pair beyond highUnit lowUnit =>
    simp [parseChars, escapedChar?_pair beyond highUnit lowUnit]

theorem CharText.length_pos {c : Char} {s : List Char} (charText : CharText c s) :
    0 < s.length := by
  cases charText <;> simp

/-- A string is read up to its closing quote. -/
theorem parseChars_complete {cs s : List Char} (chars : CharsText cs s) {steps : Nat}
    (enough : s.length < steps) (rest : List Char) :
    parseChars steps (s ++ '"' :: rest) = some (cs, rest) := by
  induction chars generalizing steps with
  | nil =>
    obtain ⟨steps, rfl⟩ := Nat.exists_eq_add_one_of_ne_zero (Nat.ne_of_gt enough)
    simp [parseChars]
  | @cons c cs s t first others ih =>
    obtain ⟨steps, rfl⟩ := Nat.exists_eq_add_one_of_ne_zero (Nat.ne_of_gt (Nat.zero_lt_of_lt enough))
    have consumed := first.length_pos
    have left : t.length < steps := by simp at enough; omega
    rw [List.append_assoc, parseChars_char first, ih left]
    rfl

/-- What stands behind an item or a member. -/
def closers : List Char := [',', ']', '\x7d']

/-- A text in which a number before it does not go on. -/
def EndsNumber (s : List Char) : Prop := ∀ c ∈ s.head?, c ∈ spaces ++ closers

theorem digitsValue_eq (digits : List Char) : digitsValue digits = Nat.ofDigitChars 10 digits 0 := by
  simp [digitsValue, Nat.ofDigitChars, Nat.mul_comm]

section Numbers

variable {rest : List Char}

theorem EndsNumber.noDigit (ends : EndsNumber rest) : ∀ c ∈ rest.head?, c.isDigit = false := by
  intro c first
  have enders : ∀ c ∈ spaces ++ closers, c.isDigit = false := by simp [spaces, closers]
  exact enders c (ends c first)

theorem parseExponent_none (ends : EndsNumber rest) : parseExponent rest = some (none, rest) := by
  cases rest with
  | nil => rfl
  | cons c rest =>
    have noLetter : ∀ c ∈ spaces ++ closers, ¬ (c = 'e' ∨ c = 'E') := by
      simp [spaces, closers]
    have other := noLetter c (ends c rfl)
    simp only [not_or] at other
    simp [parseExponent, other]

/-- An exponent is read with its sign and all its digits. -/
theorem parseExponent_complete {e : Int} {exponent : List Char}
    (exponentText : ExponentText e exponent) (ends : EndsNumber rest) :
    ∃ read, parseExponent (exponent ++ rest) = some (read, rest) ∧ read.getD 0 = e ∧
      (read = none ↔ exponent = []) := by
  cases exponentText with
  | absent => exact ⟨none, parseExponent_none ends, rfl, by simp⟩
  | @digits e negative sign s letter signText digits =>
    have taken : (s ++ rest).takeWhile Char.isDigit = s := takeWhile_run digits.2 ends.noDigit
    have left : (s ++ rest).dropWhile Char.isDigit = rest := dropWhile_run digits.2 ends.noDigit
    have nonempty : s.isEmpty = false := List.isEmpty_eq_false_iff.mpr digits.1
    refine ⟨some (signed negative (Nat.ofDigitChars 10 s 0)), ?_, rfl, by simp⟩
    cases signText with
    | plus =>
      simp [parseExponent, letter, taken, left, nonempty, digitsValue_eq, signed]
    | minus =>
      simp [parseExponent, letter, taken, left, nonempty, digitsValue_eq, signed]
    | absent =>
      obtain ⟨d, s, rfl⟩ := List.exists_cons_of_ne_nil digits.1
      have digit : d.isDigit := digits.2 d (by simp)
      have noMinus : d ≠ '-' := by rintro rfl; simp at digit
      have noPlus : d ≠ '+' := by rintro rfl; simp at digit
      rw [List.cons_append] at taken left
      simp [parseExponent, letter, taken, left, digitsValue_eq, signed, noMinus, noPlus]

theorem IsWhole.accepted {whole : List Char} (isWhole : IsWhole whole) :
    (whole.isEmpty || (whole.head? = some '0' && whole.length > 1)) = false := by
  have nonempty : whole.isEmpty = false := List.isEmpty_eq_false_iff.mpr isWhole.1.1
  by_cases zero : whole.head? = some '0'
  · simp [isWhole.2 zero]
  · simp [nonempty, zero]

/-- The exponent goes on neither as digits nor as a point. -/
theorem ExponentText.stops {e : Int} {exponent : List Char} (exponentText : ExponentText e exponent)
    (ends : EndsNumber rest) :
    ∀ c ∈ (exponent ++ rest).head?, c.isDigit = false ∧ c ≠ '.' := by
  cases exponentText with
  | absent =>
    have enders : ∀ c ∈ spaces ++ closers, c.isDigit = false ∧ c ≠ '.' := by
      simp [spaces, closers]
    exact fun c first => enders c (ends c first)
  | digits letter signText digits =>
    intro c first
    obtain rfl | rfl := letter <;> cases first <;> decide

/-- The number without a point, before what ends its digits. -/
theorem parseNumber_whole {whole tail : List Char} (negative : Bool) (isWhole : IsWhole whole)
    (stops : ∀ c ∈ tail.head?, c.isDigit = false ∧ c ≠ '.') :
    parseNumber negative (whole ++ tail) = (parseExponent tail).map fun (exponent, rest) =>
      (match exponent with
        | some e => decimal negative (Nat.ofDigitChars 10 whole 0) e
        | none => integer (signed negative (Nat.ofDigitChars 10 whole 0)), rest) := by
  have taken : (whole ++ tail).takeWhile Char.isDigit = whole :=
    takeWhile_run isWhole.1.2 fun c first => (stops c first).1
  have left : (whole ++ tail).dropWhile Char.isDigit = tail :=
    dropWhile_run isWhole.1.2 fun c first => (stops c first).1
  have noPoint : ∀ rest, tail ≠ '.' :: rest := by
    rintro rest rfl
    exact (stops '.' rfl).2 rfl
  simp only [parseNumber, taken, left, isWhole.accepted, digitsValue_eq]
  cases parseExponent tail with
  | none => cases tail <;> simp_all
  | some read =>
    obtain ⟨_ | e, rest⟩ := read <;> cases tail <;> simp_all [signed]

/-- The number with a fraction, before what ends its digits. -/
theorem parseNumber_fraction {whole digits tail : List Char} (negative : Bool)
    (isWhole : IsWhole whole) (isDigits : IsDigits digits)
    (stops : ∀ c ∈ tail.head?, c.isDigit = false) :
    parseNumber negative (whole ++ '.' :: (digits ++ tail)) =
      (parseExponent tail).map fun (exponent, rest) =>
        (decimal negative (Nat.ofDigitChars 10 (whole ++ digits) 0)
          (exponent.getD 0 - digits.length), rest) := by
  have point : ∀ c ∈ ('.' :: (digits ++ tail)).head?, c.isDigit = false := by
    rintro c ⟨⟩
    decide
  have taken := takeWhile_run isWhole.1.2 point
  have left := dropWhile_run isWhole.1.2 point
  have fractionTaken : (digits ++ tail).takeWhile Char.isDigit = digits :=
    takeWhile_run isDigits.2 stops
  have fractionLeft : (digits ++ tail).dropWhile Char.isDigit = tail :=
    dropWhile_run isDigits.2 stops
  have nonempty : digits.isEmpty = false := List.isEmpty_eq_false_iff.mpr isDigits.1
  simp only [parseNumber, taken, left, isWhole.accepted, fractionTaken, fractionLeft, nonempty,
    digitsValue_eq]
  cases parseExponent tail <;> rfl

/-- A number is read with all its digits. -/
theorem parseNumber_complete {negative : Bool} {value : Json} {s : List Char}
    (number : NumberText negative value s) (ends : EndsNumber rest) :
    parseNumber negative (s ++ rest) = some (value, rest) := by
  cases number with
  | integer isWhole =>
    have stops : ∀ c ∈ rest.head?, c.isDigit = false ∧ c ≠ '.' := ExponentText.absent.stops ends
    rw [parseNumber_whole negative isWhole stops, parseExponent_none ends]
    rfl
  | @decimal whole digits fraction exponent e isWhole fractionText exponentText present =>
    have stops := exponentText.stops ends
    obtain ⟨read, reads, readValue, readNone⟩ := parseExponent_complete exponentText ends
    cases fractionText with
    | absent =>
      cases read with
      | none => simp [readNone.mp rfl] at present
      | some e' =>
        rw [List.append_assoc, List.nil_append, parseNumber_whole negative isWhole stops, reads]
        simp [← readValue]
    | digits isDigits =>
      have onlyDigits := fun c first => (stops c first).1
      rw [List.append_assoc, List.append_assoc, List.cons_append,
        parseNumber_fraction negative isWhole isDigits onlyDigits, reads]
      simp [readValue]

end Numbers

section Values

variable {rest : List Char}

theorem skipSpace_before {before s : List Char} {c : Char} (blank : IsSpace before)
    (visible : c ∉ spaces) : skipSpace (before ++ c :: s) = c :: s := by
  apply dropWhile_run
  · intro c member
    simpa [spaces, or_assoc] using blank c member
  · rintro c ⟨⟩
    simpa [spaces, and_assoc] using visible

/-- The characters that a value begins with. -/
def StartsValue (c : Char) : Prop :=
  c ∈ ['"', '[', '\x7b', 'n', 't', 'f', '-'] ∨ c.isDigit

theorem StartsValue.visible {c : Char} (starts : StartsValue c) :
    c ∉ spaces ∧ c ≠ ']' := by
  obtain opener | digit := starts
  · have openers : ∀ c ∈ ['"', '[', '\x7b', 'n', 't', 'f', '-'],
        c ∉ spaces ∧ c ≠ ']' := by simp [spaces]
    exact openers c opener
  · constructor
    · intro space
      have noDigits : ∀ c ∈ spaces, c.isDigit = false := by simp [spaces]
      simp [noDigits c space] at digit
    · rintro rfl
      simp at digit

theorem IsWhole.starts {s : List Char} (isWhole : IsWhole s) :
    ∃ d t, s = d :: t ∧ d.isDigit := by
  obtain ⟨d, t, rfl⟩ := List.exists_cons_of_ne_nil isWhole.1.1
  exact ⟨d, t, rfl, isWhole.1.2 d (by simp)⟩

theorem NumberText.starts {negative : Bool} {value : Json} {s : List Char}
    (number : NumberText negative value s) : ∃ d t, s = d :: t ∧ d.isDigit := by
  cases number with
  | integer isWhole => exact isWhole.starts
  | decimal isWhole fractionText exponentText present =>
    obtain ⟨d, t, rfl, digit⟩ := isWhole.starts
    exact ⟨d, _, rfl, digit⟩

theorem ValueText.starts {value : Json} {s : List Char} (valueText : ValueText value s) :
    ∃ c t, s = c :: t ∧ StartsValue c := by
  cases valueText with
  | positive number =>
    obtain ⟨d, t, rfl, digit⟩ := number.starts
    exact ⟨d, t, rfl, .inr digit⟩
  | _ => exact ⟨_, _, rfl, .inl (by decide)⟩

theorem DocumentText.starts {value : Json} {s : List Char} (documentText : DocumentText value s) :
    ∃ before c t, IsSpace before ∧ s = before ++ c :: t ∧ StartsValue c := by
  cases documentText with
  | spaced blankBefore valueText blankAfter =>
    obtain ⟨c, t, rfl, starts⟩ := valueText.starts
    exact ⟨_, c, _, blankBefore, rfl, starts⟩

theorem ItemsText.starts {items : List Json} {s : List Char} (itemsText : ItemsText items s) :
    ∃ before c t, IsSpace before ∧ s = before ++ c :: t ∧ StartsValue c := by
  cases itemsText with
  | last itemText => exact itemText.starts
  | more itemText others =>
    obtain ⟨before, c, t, blank, rfl, starts⟩ := itemText.starts
    exact ⟨before, c, _, blank, List.append_assoc _ _ _, starts⟩

theorem MembersText.starts {members : List (String × Json)} {s : List Char}
    (membersText : MembersText members s) :
    ∃ before t, IsSpace before ∧ s = before ++ '"' :: t := by
  cases membersText with
  | last memberText =>
    cases memberText with
    | named blankBefore chars blankAfter valueText => exact ⟨_, _, blankBefore, rfl⟩
  | more memberText others =>
    cases memberText with
    | named blankBefore chars blankAfter valueText =>
      exact ⟨_, _, blankBefore, List.append_assoc _ _ _⟩

theorem DocumentText.length_pos {value : Json} {s : List Char}
    (documentText : DocumentText value s) : 0 < s.length := by
  cases documentText with
  | spaced blankBefore valueText blankAfter =>
    obtain ⟨c, t, rfl, -⟩ := valueText.starts
    simp only [List.length_append, List.length_cons]
    omega

theorem MemberText.length_pos {member : String × Json} {s : List Char}
    (memberText : MemberText member s) : 0 < s.length := by
  cases memberText
  simp only [List.length_append, List.length_cons]
  omega

theorem parseValue_digit {before s : List Char} {d : Char} (blank : IsSpace before)
    (digit : d.isDigit) (steps : Nat) :
    parseValue (steps + 1) (before ++ d :: s) = parseNumber false (d :: s) := by
  have starts : StartsValue d := .inr digit
  rw [parseValue, skipSpace_before blank starts.visible.1]
  split <;> simp_all

/-- A reader that may take so many steps reads every value, every list of items and every list of
members that is shorter. -/
structure ReadsWithin (steps : Nat) : Prop where
  value {value : Json} {before s rest : List Char} (blank : IsSpace before)
    (valueText : ValueText value s) (enough : s.length < steps) (ends : EndsNumber rest) :
    parseValue steps (before ++ (s ++ rest)) = some (value, rest)
  items {items : List Json} {s : List Char} (itemsText : ItemsText items s)
    (enough : s.length + 1 < steps) (rest : List Char) :
    parseItems steps (s ++ ']' :: rest) = some (items, rest)
  members {members : List (String × Json)} {s : List Char}
    (membersText : MembersText members s) (enough : s.length + 1 < steps) (rest : List Char) :
    parseMembers steps (s ++ '\x7d' :: rest) = some (members, rest)

namespace ReadsWithin

variable {steps : Nat} (reads : ReadsWithin steps)

include reads

/-- A value with its space is read up to what closes it. -/
theorem spaced {value : Json} {s : List Char} (documentText : DocumentText value s)
    (enough : s.length < steps) (closer : Char) (closes : closer ∈ closers) (rest : List Char) :
    ∃ after, parseValue steps (s ++ closer :: rest) = some (value, after) ∧
      skipSpace after = closer :: rest := by
  cases documentText with
  | @spaced _ before s after blankBefore valueText blankAfter =>
    have fits : s.length < steps := by simp at enough; omega
    have ends : EndsNumber (after ++ closer :: rest) := by
      cases after with
      | nil =>
        rintro c ⟨⟩
        exact List.mem_append_right spaces closes
      | cons space after =>
        rintro c ⟨⟩
        exact List.mem_append_left closers (blankAfter space (by simp))
    have visible : closer ∉ spaces := by
      have apart : ∀ c ∈ closers, c ∉ spaces := by simp [closers, spaces]
      exact apart closer closes
    refine ⟨after ++ closer :: rest, ?_, skipSpace_before blankAfter visible⟩
    rw [List.append_assoc, List.append_assoc]
    exact reads.value blankBefore valueText fits ends

theorem items_step {items : List Json} {s : List Char} (itemsText : ItemsText items s)
    (enough : s.length < steps) (rest : List Char) :
    parseItems (steps + 1) (s ++ ']' :: rest) = some (items, rest) := by
  cases itemsText with
  | last itemText =>
    obtain ⟨after, read, skipped⟩ := reads.spaced itemText enough ']' (by decide) rest
    simp [parseItems, read, skipped]
  | @more item items s t itemText others =>
    have consumed := itemText.length_pos
    have fits : s.length < steps := by simp at enough; omega
    have othersFit : t.length + 1 < steps := by simp at enough; omega
    obtain ⟨after, read, skipped⟩ :=
      reads.spaced itemText fits ',' (by decide) (t ++ ']' :: rest)
    simp [parseItems, read, skipped, reads.items others othersFit]

/-- A member is read, and what follows it decides whether there are more. -/
theorem member_step {member : String × Json} {s : List Char} (memberText : MemberText member s)
    (enough : s.length < steps) :
    (∀ rest, parseMembers (steps + 1) (s ++ '\x7d' :: rest) = some ([member], rest)) ∧
      ∀ tail, parseMembers (steps + 1) (s ++ ',' :: tail) =
        (parseMembers steps tail).map fun (members, after) => (member :: members, after) := by
  cases memberText with
  | @named cs value before name after s blankBefore chars blankAfter valueText =>
    have nameFits : name.length < steps := by simp at enough; omega
    have valueFits : s.length < steps := by simp at enough; omega
    have quoteVisible : '"' ∉ spaces := by decide
    have colonVisible : ':' ∉ spaces := by decide
    constructor
    · intro rest
      obtain ⟨left, read, skipped⟩ := reads.spaced valueText valueFits '\x7d' (by decide) rest
      simp [parseMembers, skipSpace_before blankBefore quoteVisible,
        parseChars_complete chars nameFits, skipSpace_before blankAfter colonVisible, read, skipped]
    · intro tail
      obtain ⟨left, read, skipped⟩ := reads.spaced valueText valueFits ',' (by decide) tail
      simp [parseMembers, skipSpace_before blankBefore quoteVisible,
        parseChars_complete chars nameFits, skipSpace_before blankAfter colonVisible, read, skipped]
      cases parseMembers steps tail <;> rfl

theorem members_step {members : List (String × Json)} {s : List Char}
    (membersText : MembersText members s) (enough : s.length < steps) (rest : List Char) :
    parseMembers (steps + 1) (s ++ '\x7d' :: rest) = some (members, rest) := by
  cases membersText with
  | last memberText => exact (reads.member_step memberText enough).1 rest
  | @more member members s t memberText others =>
    have consumed := memberText.length_pos
    have fits : s.length < steps := by simp at enough; omega
    have othersFit : t.length + 1 < steps := by simp at enough; omega
    rw [List.append_assoc, List.cons_append, (reads.member_step memberText fits).2,
      reads.members others othersFit]
    rfl

theorem value_step {value : Json} {before s : List Char} (blank : IsSpace before)
    (valueText : ValueText value s) (enough : s.length < steps + 1) (ends : EndsNumber rest) :
    parseValue (steps + 1) (before ++ (s ++ rest)) = some (value, rest) := by
  have visible : ∀ c ∈ ['"', '[', '\x7b', 'n', 't', 'f', '-'], c ∉ spaces := by
    simp [spaces]
  cases valueText with
  | null => simp [parseValue, skipSpace_before blank (visible 'n' (by decide)), word?]
  | true => simp [parseValue, skipSpace_before blank (visible 't' (by decide)), word?]
  | false => simp [parseValue, skipSpace_before blank (visible 'f' (by decide)), word?]
  | positive number =>
    have read := parseNumber_complete number ends
    obtain ⟨d, t, rfl, digit⟩ := number.starts
    rw [List.cons_append, parseValue_digit blank digit]
    exact read
  | negative number =>
    simp [parseValue, skipSpace_before blank (visible '-' (by decide)),
      parseNumber_complete number ends]
  | @text cs s chars =>
    have fits : s.length < steps := by simp at enough; omega
    simp [parseValue, skipSpace_before blank (visible '"' (by decide)),
      parseChars_complete chars fits]
  | emptyList inside =>
    simp [parseValue, skipSpace_before blank (visible '[' (by decide)),
      skipSpace_before inside (by decide : ']' ∉ spaces)]
  | @list items s itemsText =>
    have fits : s.length + 1 < steps := by simp at enough; omega
    have read := reads.items itemsText fits rest
    obtain ⟨inside, c, t, insideBlank, rfl, starts⟩ := itemsText.starts
    have skipped := skipSpace_before (s := t ++ ']' :: rest) insideBlank starts.visible.1
    simp only [List.append_assoc, List.cons_append] at read skipped
    simp [parseValue, skipSpace_before blank (visible '[' (by decide)), skipped, read,
      starts.visible.2]
  | emptyObject inside =>
    simp [parseValue, skipSpace_before blank (visible '\x7b' (by decide)),
      skipSpace_before inside (by decide : '\x7d' ∉ spaces)]
  | @object members s membersText =>
    have fits : s.length + 1 < steps := by simp at enough; omega
    have read := reads.members membersText fits rest
    obtain ⟨inside, t, insideBlank, rfl⟩ := membersText.starts
    have skipped := skipSpace_before (s := t ++ '\x7d' :: rest) insideBlank
      (visible '"' (by decide))
    simp only [List.append_assoc, List.cons_append] at read skipped
    simp [parseValue, skipSpace_before blank (visible '\x7b' (by decide)), skipped, read]

end ReadsWithin

theorem readsWithin (steps : Nat) : ReadsWithin steps := by
  induction steps with
  | zero =>
    exact ⟨fun _ _ enough _ => absurd enough (Nat.not_lt_zero _),
      fun _ enough _ => absurd enough (Nat.not_lt_zero _),
      fun _ enough _ => absurd enough (Nat.not_lt_zero _)⟩
  | succ steps reads =>
    exact ⟨reads.value_step, fun itemsText enough =>
      reads.items_step itemsText (Nat.lt_of_succ_lt_succ enough), fun membersText enough =>
      reads.members_step membersText (Nat.lt_of_succ_lt_succ enough)⟩

theorem skipSpace_blank {space : List Char} (blank : IsSpace space) : skipSpace space = [] := by
  have skipped : skipSpace (space ++ []) = [] := by
    apply dropWhile_run
    · intro c member
      simpa [spaces, or_assoc] using blank c member
    · simp
  rwa [List.append_nil] at skipped

/-- The reader returns the value of every text of the grammar. -/
theorem parse?_complete {document : Json} {s : List Char} (documentText : DocumentText document s) :
    parse? (String.ofList s) = some document := by
  cases documentText with
  | @spaced _ before s after blankBefore valueText blankAfter =>
    have fits : s.length < (before ++ (s ++ after)).length + 1 := by simp; omega
    have ends : EndsNumber after := by
      intro c first
      exact List.mem_append_left closers (blankAfter c (List.mem_of_mem_head? first))
    have read := (readsWithin _).value blankBefore valueText fits ends
    simp only [parse?, String.length_ofList, String.toList_ofList, read]
    simp [skipSpace_blank blankAfter]

/-- No text writes two values. -/
theorem documentText_unique {document other : Json} {s : List Char}
    (documentText : DocumentText document s) (otherText : DocumentText other s) :
    document = other := by
  have read := parse?_complete documentText
  rw [parse?_complete otherText] at read
  exact (Option.some.inj read).symm

end Values

end QueryTyping.Json
