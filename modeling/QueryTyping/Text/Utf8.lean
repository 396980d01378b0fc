/-!
# UTF-8

Text as bytes.  A byte sequence is read either strictly or with a replacement
character for each maximal piece that no text writes.
-/

namespace QueryTyping.Text

/-- A byte sequence. -/
abbrev Bytes := List UInt8

/-- The bytes of a character. -/
def encodeChar (c : Char) : Bytes :=
  let n := c.toNat
  if n < 0x80 then [n.toUInt8]
  else if n < 0x800 then [(0xC0 + n / 64).toUInt8, (0x80 + n % 64).toUInt8]
  else if n < 0x10000 then
    [(0xE0 + n / 4096).toUInt8, (0x80 + n / 64 % 64).toUInt8, (0x80 + n % 64).toUInt8]
  else
    [(0xF0 + n / 262144).toUInt8, (0x80 + n / 4096 % 64).toUInt8, (0x80 + n / 64 % 64).toUInt8,
      (0x80 + n % 64).toUInt8]

def encodeUtf8 (s : List Char) : Bytes := s.flatMap encodeChar

/-- How many bytes follow a leading byte, the bounds of the next one, and the bits that the
leading byte carries. -/
def leading? (b : Nat) : Option (Nat × Nat × Nat × Nat) :=
  if b < 0x80 then some (0, 0, 0, b)
  else if b < 0xC2 then none
  else if b < 0xE0 then some (1, 0x80, 0xBF, b - 0xC0)
  else if b = 0xE0 then some (2, 0xA0, 0xBF, 0)
  else if b = 0xED then some (2, 0x80, 0x9F, 0xD)
  else if b < 0xF0 then some (2, 0x80, 0xBF, b - 0xE0)
  else if b = 0xF0 then some (3, 0x90, 0xBF, 0)
  else if b < 0xF4 then some (3, 0x80, 0xBF, b - 0xF0)
  else if b = 0xF4 then some (3, 0x80, 0x8F, 4)
  else none

/-- Read so many continuation bytes, the first of them within bounds.  The result is the code
point if all are there, and the bytes after those that were taken. -/
def continuation : Nat → Nat → Nat → Nat → Bytes → Option Nat × Bytes
  | 0, _, _, code, rest => (some code, rest)
  | count + 1, low, high, code, rest =>
    match rest with
    | [] => (none, [])
    | b :: after =>
      if low ≤ b.toNat && b.toNat ≤ high then
        continuation count 0x80 0xBF (code * 64 + (b.toNat - 0x80)) after
      else (none, rest)

theorem continuation_length (count low high code : Nat) (rest : Bytes) :
    (continuation count low high code rest).2.length ≤ rest.length := by
  induction count generalizing low high code rest with
  | zero => simp [continuation]
  | succ count ih =>
    unfold continuation
    split
    · simp
    · rename_i b after
      split
      · exact Nat.le_trans (ih _ _ _ _) (by simp)
      · simp

/-- The character at the front, if the bytes there are one, and the bytes after it. -/
def firstChar (b : UInt8) (rest : Bytes) : Option Char × Bytes :=
  match leading? b.toNat with
  | none => (none, rest)
  | some (count, low, high, bits) =>
    let (code, after) := continuation count low high bits rest
    (code.map Char.ofNat, after)

theorem firstChar_length (b : UInt8) (rest : Bytes) :
    (firstChar b rest).2.length ≤ rest.length := by
  unfold firstChar
  split
  · simp
  · exact continuation_length _ _ _ _ _

/-- The text of a byte sequence; each maximal piece that is no text is one replacement. -/
def decodeLossy : Bytes → List Char
  | [] => []
  | b :: rest => (firstChar b rest).1.getD '\uFFFD' :: decodeLossy (firstChar b rest).2
termination_by bytes => bytes.length
decreasing_by exact Nat.lt_succ_of_le (firstChar_length b rest)

/-- The first piece of a byte sequence that no text writes. -/
structure Utf8Defect where
  /-- How many bytes stand before it. -/
  position : Nat
  piece : Bytes
  /-- Whether the bytes end in the middle of a character. -/
  endsEarly : Bool
  deriving DecidableEq, Repr

/-- The text of a byte sequence that stands behind so many bytes. -/
def decodeUtf8From (position : Nat) : Bytes → Except Utf8Defect (List Char)
  | [] => .ok []
  | b :: rest =>
    let after := (firstChar b rest).2
    match (firstChar b rest).1 with
    | some c => (decodeUtf8From (position + (encodeChar c).length) after).map (c :: ·)
    | none =>
      let piece := b :: rest.take (rest.length - after.length)
      .error ⟨position, piece, after.isEmpty && (leading? b.toNat).isSome⟩
termination_by bytes => bytes.length
decreasing_by exact Nat.lt_succ_of_le (firstChar_length b rest)

/-- The text of a byte sequence, if it is one. -/
def decodeUtf8 (bytes : Bytes) : Except Utf8Defect (List Char) := decodeUtf8From 0 bytes

/-- The value of a hexadecimal digit. -/
def hexValue? (c : Char) : Option Nat :=
  if '0' ≤ c ∧ c ≤ '9' then some (c.toNat - 48)
  else if 'a' ≤ c ∧ c ≤ 'f' then some (c.toNat - 87)
  else if 'A' ≤ c ∧ c ≤ 'F' then some (c.toNat - 55)
  else none

end QueryTyping.Text
