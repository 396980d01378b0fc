import QueryTyping.Proofs.UrlFrames

/-!
# Whole numbers as ports

What a whole number in decimal is read as: behind the colon of a URL, where zero
counts as no port (`ConnectionUrl.portNumber?_decimal_iff`), and in a variable of
the environment (`Numeral.anyInteger?_decimal_iff`).
-/

namespace QueryTyping

open Text

/-- A whole number in decimal. -/
def decimal (n : Int) : List Char := (toString n).toList

theorem decimal_natCast (n : Nat) : decimal n = Nat.toDigits 10 n := by
  have printed : toString (n : Int) = toString n := rfl
  rw [decimal, printed, Nat.toString_eq_ofList_toDigits, String.toList_ofList]

theorem decimal_negSucc (n : Nat) : decimal (Int.negSucc n) = '-' :: Nat.toDigits 10 (n + 1) := by
  have printed : toString (Int.negSucc n) = "-" ++ toString (n + 1) := rfl
  have digits : (toString (n + 1)).toList = Nat.toDigits 10 (n + 1) := by
    rw [Nat.toString_eq_ofList_toDigits, String.toList_ofList]
  rw [decimal, printed, String.toList_append, digits]
  rfl

theorem isDigit_of_mem_digits {n : Nat} {c : Char} (inside : c ∈ Nat.toDigits 10 n) :
    c.isDigit = true :=
  Nat.isDigit_of_mem_toDigits (by decide) (by decide) inside

theorem isNumeral_decimal (n : Int) : ConnectionUrl.IsNumeral (decimal n) := by
  cases n with
  | ofNat n =>
    rw [Int.ofNat_eq_natCast, decimal_natCast]
    exact fun c inside => .inl (isDigit_of_mem_digits inside)
  | negSucc n =>
    rw [decimal_negSucc]
    intro c inside
    obtain rfl | inside := List.mem_cons.mp inside
    · exact .inr rfl
    · exact .inl (isDigit_of_mem_digits inside)

namespace Numeral

theorem digitsValue_toDigits (n : Nat) : digitsValue (Nat.toDigits 10 n) = n := by
  have value : digitsValue (Nat.toDigits 10 n) = Nat.ofDigitChars 10 (Nat.toDigits 10 n) 0 := by
    simp [digitsValue, Nat.ofDigitChars, Nat.mul_comm]
  rw [value, Nat.ofDigitChars_ten_toDigits]

/-- A port has few digits. -/
theorem length_toDigits_of_port {n : Nat} (small : n ≤ 65535) :
    (Nat.toDigits 10 n).length ≤ maxDigits := by
  have short : (Nat.toDigits 10 n).length ≤ 5 :=
    (Nat.length_toDigits_le_iff (by decide) (by decide)).mpr (by omega)
  exact short.trans (by decide)

end Numeral

namespace ConnectionUrl

theorem portNumber?_nil : portNumber? [] = .ok none := rfl

/-- A natural number is a port of a URL up to the greatest one; zero counts as none. -/
theorem portNumber?_toDigits {n : Nat} (small : n ≤ 65535) :
    portNumber? (Nat.toDigits 10 n) = .ok (if n = 0 then none else some n) := by
  have written : (Nat.toDigits 10 n).isEmpty = false := by
    simp [Nat.toDigits_ne_nil]
  have digits : (Nat.toDigits 10 n).all Char.isDigit = true :=
    List.all_eq_true.mpr fun c inside => isDigit_of_mem_digits inside
  have short := Numeral.length_toDigits_of_port small
  unfold portNumber?
  rw [if_neg (by simp [written]), if_neg (by simp [digits]), if_neg (Nat.not_lt.mpr short)]
  dsimp only
  rw [Numeral.digitsValue_toDigits, if_neg (Nat.not_lt.mpr small)]

theorem le_of_portNumber? {n : Nat} {number : Option Nat}
    (read : portNumber? (Nat.toDigits 10 n) = .ok number) : n ≤ 65535 := by
  unfold portNumber? at read
  split at read
  next empty => exact absurd (List.isEmpty_iff.mp empty) Nat.toDigits_ne_nil
  split at read
  · cases read
  split at read
  · cases read
  · dsimp only at read
    rw [Numeral.digitsValue_toDigits] at read
    split at read
    · cases read
    next small => exact Nat.not_lt.mp small

/-- What a URL takes for its port: no negative number and none above the greatest port. -/
theorem portNumber?_decimal_iff {n : Int} {number : Option Nat} :
    portNumber? (decimal n) = .ok number ↔
      (0 ≤ n ∧ n ≤ 65535) ∧ number = if n = 0 then none else some n.toNat := by
  cases n with
  | ofNat n =>
    rw [Int.ofNat_eq_natCast, decimal_natCast]
    constructor
    · intro read
      have small := le_of_portNumber? read
      rw [portNumber?_toDigits small] at read
      cases read
      exact ⟨by omega, by simp⟩
    · rintro ⟨range, rfl⟩
      rw [portNumber?_toDigits (by omega)]
      simp
  | negSucc n =>
    rw [decimal_negSucc]
    constructor
    · intro read
      have signed : ('-' :: Nat.toDigits 10 (n + 1)).all Char.isDigit = false := rfl
      simp [portNumber?, signed] at read
    · rintro ⟨range, -⟩
      omega

end ConnectionUrl

namespace Numeral

theorem exists_digitChar {c : Char} (digit : c.isDigit = true) : ∃ n < 10, c = Nat.digitChar n := by
  obtain ⟨above, below⟩ := Char.isDigit_iff_toNat.mp digit
  have zero : '0'.toNat = 48 := rfl
  have nine : '9'.toNat = 57 := rfl
  have written : ∀ n < 10, Char.ofNat (48 + n) = Nat.digitChar n := by decide
  refine ⟨c.toNat - 48, by omega, ?_⟩
  rw [← written _ (by omega), Nat.add_sub_cancel' (by omega), Char.ofNat_toNat]

/-- What holds of the digits and of the sign holds of every character of a numeral. -/
theorem forall_isNumeral {P : Char → Prop} (digits : ∀ n < 10, P (Nat.digitChar n)) (sign : P '-')
    {s : List Char} (numeral : ConnectionUrl.IsNumeral s) : ∀ c ∈ s, P c := by
  intro c inside
  obtain digit | rfl := numeral c inside
  · obtain ⟨n, small, rfl⟩ := exists_digitChar digit
    exact digits n small
  · exact sign

/-- The digits of ASCII are what they are in every script. -/
theorem withAsciiDigits_decimal (n : Int) : withAsciiDigits (toString n) = toString n := by
  have kept : withAsciiDigits (toString n) = String.ofList ((decimal n).map id) := by
    refine congrArg String.ofList (List.map_congr_left fun c inside => ?_)
    revert c inside
    exact forall_isNumeral (by decide +kernel) (by decide +kernel) (isNumeral_decimal n)
  rw [kept, List.map_id, decimal, String.ofList_toList]

theorem unspaced_of_numeral {s : List Char} (numeral : ConnectionUrl.IsNumeral s) :
    unspaced s = s := by
  have spaceless : ∀ c ∈ s, isSpace c = false :=
    forall_isNumeral (by decide) (by decide) numeral
  have kept {s : List Char} (spaceless : ∀ c ∈ s, isSpace c = false) : s.dropWhile isSpace = s := by
    cases s with
    | nil => rfl
    | cons c s => simp [spaceless c List.mem_cons_self]
  have keptBackwards := kept (s := s.reverse) fun c inside =>
    spaceless c (List.mem_reverse.mp inside)
  rw [unspaced, kept spaceless, dropRightWhile, keptBackwards, List.reverse_reverse]

theorem withoutUnderscores?_of_digits {s : List Char} (digits : ∀ c ∈ s, c.isDigit = true) :
    withoutUnderscores? s = some s := by
  have other : ∀ c ∈ s, c ≠ '_' := by
    rintro c inside rfl
    exact absurd (digits _ inside) (by decide)
  have single {s : List Char} (other : ∀ c ∈ s, c ≠ '_') :
      withoutUnderscores?.doubled s = false := by
    induction s with
    | nil => rfl
    | cons c s ih =>
      obtain ⟨first, others⟩ := List.forall_mem_cons.mp other
      rw [withoutUnderscores?.doubled]
      · exact ih others
      · rintro _ rfl
        exact absurd rfl first
  have starts : s.head? ≠ some '_' := fun first => other _ (List.mem_of_head? first) rfl
  have ends : s.getLast? ≠ some '_' := fun last => other _ (List.mem_of_getLast? last) rfl
  have kept : s.filter (· ≠ '_') = s :=
    List.filter_eq_self.mpr fun c inside => by simpa using other c inside
  simp only [withoutUnderscores?, starts, ends, single other, kept]
  rfl

theorem natural?_toDigits (n : Nat) : natural? (Nat.toDigits 10 n) = some n := by
  have digits : (Nat.toDigits 10 n).all Char.isDigit = true :=
    List.all_eq_true.mpr fun c inside => isDigit_of_mem_digits inside
  simp [natural?, Nat.toDigits_ne_nil, digits, digitsValue_toDigits]

theorem sign_toDigits (n : Nat) : sign (Nat.toDigits 10 n) = (false, Nat.toDigits 10 n) := by
  unfold sign
  split
  next rest written =>
    have digit := isDigit_of_mem_digits (n := n) (c := '-') (by simp [written])
    cases digit
  next rest written =>
    have digit := isDigit_of_mem_digits (n := n) (c := '+') (by simp [written])
    cases digit
  · rfl

theorem integer?_decimal (n : Int) : integer? (toString n) = some n := by
  have unspaced := unspaced_of_numeral (isNumeral_decimal n)
  have digits (n : Nat) :=
    withoutUnderscores?_of_digits fun c => isDigit_of_mem_digits (n := n) (c := c)
  unfold integer?
  rw [← decimal, unspaced]
  cases n with
  | ofNat n =>
    rw [Int.ofNat_eq_natCast, decimal_natCast, sign_toDigits]
    simp [digits, natural?_toDigits]
  | negSucc n =>
    have negative : sign ('-' :: Nat.toDigits 10 (n + 1)) = (true, Nat.toDigits 10 (n + 1)) := rfl
    rw [decimal_negSucc, negative]
    simp [digits, natural?_toDigits, Int.negSucc_eq]

/-- A number is read as itself, if it has no more digits than are read. -/
theorem anyInteger?_decimal (n : Int) : anyInteger? (toString n) =
    if (decimal n).countP Char.isDigit ≤ maxDigits then some n else none := by
  simp only [anyInteger?, withAsciiDigits_decimal, integer?_decimal, decimal]
  rfl

/-- A number that is read from its digits is the number. -/
theorem eq_of_anyInteger?_decimal {n m : Int} (read : anyInteger? (toString n) = some m) :
    m = n := by
  rw [anyInteger?_decimal] at read
  split at read
  · exact (Option.some.inj read).symm
  · cases read

theorem anyInteger?_of_port {n : Int} (low : 1 ≤ n) (high : n ≤ 65535) :
    anyInteger? (toString n) = some n := by
  obtain ⟨n, rfl⟩ := Int.eq_ofNat_of_zero_le (by omega : 0 ≤ n)
  have few : (decimal n).countP Char.isDigit ≤ maxDigits := by
    rw [decimal_natCast]
    exact List.countP_le_length.trans (length_toDigits_of_port (by omega))
  rw [anyInteger?_decimal, if_pos few]

end Numeral

end QueryTyping
