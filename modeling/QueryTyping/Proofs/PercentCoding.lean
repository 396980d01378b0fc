import Mathlib.Tactic.SplitIfs
import QueryTyping.Text.Percent

/-!
# Percent escapes read back

Escaping a text and reading its escapes gives the text back, whatever its
characters are (`percentDecode_percentEncode`).  An escaped text is ASCII, so
its bytes are read in one run, and they are the bytes of the text in UTF-8.
Reading UTF-8 takes off the bytes of one character after the other
(`decodeLossy_encodeUtf8`).
-/

namespace QueryTyping.Text

theorem toNat_toUInt8 {n : Nat} (byte : n < 256) : n.toUInt8.toNat = n := by
  simp [Nat.mod_eq_of_lt byte]

/-- A code point that no pair of surrogates needs. -/
theorem toNat_valid (c : Char) : c.toNat < 0xD800 ∨ 0xDFFF < c.toNat ∧ c.toNat < 0x110000 :=
  c.valid

theorem leading?_one {b : Nat} (below : b < 0x80) : leading? b = some (0, 0, 0, b) := by
  simp [leading?, below]

theorem leading?_two {b : Nat} (above : 0xC2 ≤ b) (below : b < 0xE0) :
    leading? b = some (1, 0x80, 0xBF, b - 0xC0) := by
  rw [leading?, if_neg (by omega), if_neg (by omega), if_pos below]

/-- Behind the first of three bytes, only overlong forms and surrogates are out of bounds. -/
theorem leading?_three {b : Nat} (above : 0xE0 ≤ b) (below : b < 0xF0) :
    ∃ low high, leading? b = some (2, low, high, b - 0xE0) ∧
      ∀ next, 0x80 ≤ next → next ≤ 0xBF → (b = 0xE0 → 0xA0 ≤ next) →
        (b = 0xED → next ≤ 0x9F) → low ≤ next ∧ next ≤ high := by
  obtain rfl | rfl | others : b = 0xE0 ∨ b = 0xED ∨ b ≠ 0xE0 ∧ b ≠ 0xED := by omega
  · exact ⟨0xA0, 0xBF, rfl, fun next _ high long _ => ⟨long rfl, high⟩⟩
  · exact ⟨0x80, 0x9F, rfl, fun next low _ _ plain => ⟨low, plain rfl⟩⟩
  · refine ⟨0x80, 0xBF, ?_, fun next low high _ _ => ⟨low, high⟩⟩
    rw [leading?, if_neg (by omega), if_neg (by omega), if_neg (by omega), if_neg others.1,
      if_neg others.2, if_pos below]

/-- Behind the first of four bytes, only overlong forms and what is beyond Unicode are out of
bounds. -/
theorem leading?_four {b : Nat} (above : 0xF0 ≤ b) (below : b ≤ 0xF4) :
    ∃ low high, leading? b = some (3, low, high, b - 0xF0) ∧
      ∀ next, 0x80 ≤ next → next ≤ 0xBF → (b = 0xF0 → 0x90 ≤ next) →
        (b = 0xF4 → next ≤ 0x8F) → low ≤ next ∧ next ≤ high := by
  obtain rfl | rfl | others : b = 0xF0 ∨ b = 0xF4 ∨ 0xF0 < b ∧ b < 0xF4 := by omega
  · exact ⟨0x90, 0xBF, rfl, fun next _ high long _ => ⟨long rfl, high⟩⟩
  · exact ⟨0x80, 0x8F, rfl, fun next low _ _ inside => ⟨low, inside rfl⟩⟩
  · refine ⟨0x80, 0xBF, ?_, fun next low high _ _ => ⟨low, high⟩⟩
    rw [leading?, if_neg (by omega), if_neg (by omega), if_neg (by omega), if_neg (by omega),
      if_neg (by omega), if_neg (by omega), if_neg (by omega), if_pos others.2]

theorem continuation_cons {low high : Nat} {b : UInt8} (inside : low ≤ b.toNat ∧ b.toNat ≤ high)
    (count code : Nat) (rest : Bytes) :
    continuation (count + 1) low high code (b :: rest) =
      continuation count 0x80 0xBF (code * 64 + (b.toNat - 0x80)) rest := by
  simp [continuation, inside]

/-- A byte that goes on with a character, with the six bits that it carries. -/
theorem continuation_bits {low high n : Nat} (six : n < 64)
    (inside : low ≤ 0x80 + n ∧ 0x80 + n ≤ high) (count code : Nat) (rest : Bytes) :
    continuation (count + 1) low high code ((0x80 + n).toUInt8 :: rest) =
      continuation count 0x80 0xBF (code * 64 + n) rest := by
  have byte : (0x80 + n).toUInt8.toNat = 0x80 + n := toNat_toUInt8 (by omega)
  rw [continuation_cons (by rwa [byte]), byte, Nat.add_sub_cancel_left]

/-- A character is read from its leading byte's bits and those of the bytes behind it. -/
theorem firstChar_of_continuation {c : Char} {lead count low high bits : Nat} {rest after : Bytes}
    (byte : lead < 256) (leads : leading? lead = some (count, low, high, bits))
    (reads : continuation count low high bits rest = (some c.toNat, after)) :
    firstChar lead.toUInt8 rest = (some c, after) := by
  simp only [firstChar, toNat_toUInt8 byte, leads, reads, Option.map_some, Char.ofNat_toNat]

/-- The bytes of a character are read as the character, whatever follows. -/
theorem firstChar_encodeChar (c : Char) (rest : Bytes) :
    ∃ b more, encodeChar c = b :: more ∧ firstChar b (more ++ rest) = (some c, rest) := by
  have valid := toNat_valid c
  unfold encodeChar
  dsimp only
  -- One case for each number of bytes; the code point is put together again from its digits.
  split_ifs with one two three
  · refine ⟨_, [], rfl, firstChar_of_continuation (by omega) (leading?_one one) rfl⟩
  · refine ⟨_, _, rfl, firstChar_of_continuation (by omega)
      (leading?_two (by omega) (by omega)) ?_⟩
    have code : (0xC0 + c.toNat / 64 - 0xC0) * 64 + c.toNat % 64 = c.toNat := by omega
    rw [List.singleton_append, continuation_bits (by omega) (by omega), code]
    rfl
  · obtain ⟨low, high, leads, inside⟩ :=
      leading?_three (b := 0xE0 + c.toNat / 4096) (by omega) (by omega)
    refine ⟨_, _, rfl, firstChar_of_continuation (by omega) leads ?_⟩
    have second := inside (0x80 + c.toNat / 64 % 64) (by omega) (by omega) (by omega) (by omega)
    have code : ((0xE0 + c.toNat / 4096 - 0xE0) * 64 + c.toNat / 64 % 64) * 64 + c.toNat % 64 =
        c.toNat := by omega
    rw [List.cons_append, List.singleton_append, continuation_bits (by omega) second,
      continuation_bits (by omega) (by omega), code]
    rfl
  · obtain ⟨low, high, leads, inside⟩ :=
      leading?_four (b := 0xF0 + c.toNat / 262144) (by omega) (by omega)
    refine ⟨_, _, rfl, firstChar_of_continuation (by omega) leads ?_⟩
    have second := inside (0x80 + c.toNat / 4096 % 64) (by omega) (by omega) (by omega) (by omega)
    have code : (((0xF0 + c.toNat / 262144 - 0xF0) * 64 + c.toNat / 4096 % 64) * 64 +
        c.toNat / 64 % 64) * 64 + c.toNat % 64 = c.toNat := by omega
    rw [List.cons_append, List.cons_append, List.singleton_append,
      continuation_bits (by omega) second, continuation_bits (by omega) (by omega),
      continuation_bits (by omega) (by omega), code]
    rfl

/-- Reading the bytes of a text replaces nothing. -/
theorem decodeLossy_encodeUtf8 (s : List Char) : decodeLossy (encodeUtf8 s) = s := by
  induction s with
  | nil => rw [encodeUtf8, List.flatMap_nil, decodeLossy]
  | cons c s ih =>
    obtain ⟨b, more, bytes, reads⟩ := firstChar_encodeChar c (encodeUtf8 s)
    have split : encodeUtf8 (c :: s) = b :: (more ++ encodeUtf8 s) := by
      rw [encodeUtf8, List.flatMap_cons, bytes, List.cons_append, encodeUtf8]
    rw [split, decodeLossy, reads, ih, Option.getD_some]

theorem hexValue?_hexDigit {n : Nat} (digit : n < 16) : hexValue? (hexDigit n) = some n := by
  have all : ∀ n < 16, hexValue? (hexDigit n) = some n := by decide
  exact all n digit

theorem isAscii_hexDigit {n : Nat} (digit : n < 16) : isAscii (hexDigit n) = true := by
  have all : ∀ n < 16, isAscii (hexDigit n) = true := by decide
  exact all n digit

theorem percentBytes_percentByte (b : UInt8) (rest : List Char) :
    percentBytes (percentByte b ++ rest) = b :: percentBytes rest := by
  have byte := b.toNat_lt
  have whole : b.toNat / 16 * 16 + b.toNat % 16 = b.toNat := by omega
  simp only [percentByte, List.cons_append, List.nil_append, percentBytes,
    hexValue?_hexDigit (show b.toNat / 16 < 16 by omega),
    hexValue?_hexDigit (show b.toNat % 16 < 16 by omega), whole]
  simp

theorem percentBytes_flatMap (bytes : Bytes) (rest : List Char) :
    percentBytes (bytes.flatMap percentByte ++ rest) = bytes ++ percentBytes rest := by
  induction bytes with
  | nil => rfl
  | cons b bytes ih =>
    rw [List.flatMap_cons, List.append_assoc, percentBytes_percentByte, ih, List.cons_append]

theorem isAscii_of_isUnreserved {c : Char} (unreserved : isUnreserved c = true) :
    isAscii c = true := by
  simp only [isUnreserved, Bool.and_eq_true] at unreserved
  exact unreserved.1

theorem ne_percent_of_isUnreserved {c : Char} (unreserved : isUnreserved c = true) : c ≠ '%' := by
  rintro rfl
  exact absurd unreserved (by decide)

/-- An unreserved character stands for its byte. -/
theorem percentBytes_unreserved {c : Char} (unreserved : isUnreserved c = true)
    (rest : List Char) : percentBytes (c :: rest) = encodeChar c ++ percentBytes rest := by
  have ascii : c.toNat < 0x80 := by simpa [isAscii] using isAscii_of_isUnreserved unreserved
  have bytes : encodeChar c = [c.toNat.toUInt8] := by simp [encodeChar, ascii]
  have other := ne_percent_of_isUnreserved unreserved
  rw [bytes, List.singleton_append, percentBytes]
  intro _ _ _ same
  exact absurd same other

/-- The bytes of an escaped text are those of the text. -/
theorem percentBytes_percentEncode (s : List Char) :
    percentBytes (percentEncode s) = encodeUtf8 s := by
  induction s with
  | nil => rfl
  | cons c s ih =>
    have tail : percentEncode (c :: s) =
        (if isUnreserved c then [c] else (encodeChar c).flatMap percentByte) ++ percentEncode s :=
      List.flatMap_cons
    rw [tail, encodeUtf8, List.flatMap_cons, ← encodeUtf8, ← ih]
    split
    next unreserved => exact percentBytes_unreserved unreserved _
    · exact percentBytes_flatMap _ _

theorem isAscii_percentByte (b : UInt8) : ∀ c ∈ percentByte b, isAscii c = true := by
  have byte := b.toNat_lt
  simp only [percentByte, List.mem_cons, List.not_mem_nil, or_false]
  rintro c (rfl | rfl | rfl)
  · rfl
  · exact isAscii_hexDigit (by omega)
  · exact isAscii_hexDigit (by omega)

/-- What an escaped text is made of: unreserved characters and escapes of bytes. -/
theorem mem_percentEncode {s : List Char} {c : Char} (member : c ∈ percentEncode s) :
    isUnreserved c = true ∨ ∃ b, c ∈ percentByte b := by
  obtain ⟨original, -, inside⟩ := List.mem_flatMap.mp member
  split at inside
  next unreserved =>
    obtain rfl := List.mem_singleton.mp inside
    exact .inl unreserved
  · obtain ⟨b, -, inside⟩ := List.mem_flatMap.mp inside
    exact .inr ⟨b, inside⟩

theorem isAscii_percentEncode (s : List Char) : ∀ c ∈ percentEncode s, isAscii c = true := by
  intro c member
  obtain unreserved | ⟨b, inside⟩ := mem_percentEncode member
  · exact isAscii_of_isUnreserved unreserved
  · exact isAscii_percentByte b c inside

/-- The bytes of an ASCII text are read in one run. -/
theorem percentDecodeFrom_ascii {s : List Char} (ascii : ∀ c ∈ s, isAscii c = true)
    (run : List Char) :
    percentDecodeFrom run s = decodeLossy (percentBytes (run.reverse ++ s)) := by
  induction s generalizing run with
  | nil => rw [percentDecodeFrom, List.append_nil]
  | cons c s ih =>
    obtain ⟨first, others⟩ := List.forall_mem_cons.mp ascii
    rw [percentDecodeFrom, if_pos first, ih others, List.reverse_cons, List.append_assoc,
      List.singleton_append]

/-- The escapes of a text stand for the text. -/
theorem percentDecode_percentEncode (s : List Char) : percentDecode (percentEncode s) = s := by
  rw [percentDecode, percentDecodeFrom_ascii (isAscii_percentEncode s), List.reverse_nil,
    List.nil_append, percentBytes_percentEncode, decodeLossy_encodeUtf8]

end QueryTyping.Text
