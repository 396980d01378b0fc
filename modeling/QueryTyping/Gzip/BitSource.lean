import QueryTyping.Gzip.Problem

/-!
# Bits

Bytes read bit by bit, the lowest bit of a byte first.
-/

namespace QueryTyping.Gzip

open Text

/-- The bits of the byte at hand that are not read yet, and the bytes after it. -/
structure BitSource where
  bits : List Bool
  bytes : Bytes

abbrev Reading := StateT BitSource (Except Problem)

/-- The eight bits of a byte. -/
def bitsOf (b : UInt8) : List Bool := (List.range 8).map b.toNat.testBit

/-- The next bit. -/
def readBit : Reading Bool := do
  let source ← get
  match source.bits, source.bytes with
  | bit :: bits, _ => do set { source with bits }; return bit
  | [], b :: bytes =>
    match bitsOf b with
    | bit :: bits => do set (⟨bits, bytes⟩ : BitSource); return bit
    | [] => throw .truncated
  | [], [] => throw .truncated

/-- A number of so many bits, the lowest bit first. -/
def readBits : Nat → Reading Nat
  | 0 => return 0
  | count + 1 => do
    let low ← readBit
    let high ← readBits count
    return 2 * high + low.toNat

/-- So many whole bytes; the rest of the byte at hand is dropped. -/
def readBytes (count : Nat) : Reading Bytes := do
  let source ← get
  if source.bytes.length < count then throw .truncated
  else
    set (⟨[], source.bytes.drop count⟩ : BitSource)
    return source.bytes.take count

/-- The number that bytes write, the lowest byte first. -/
def littleEndian : Bytes → Nat
  | [] => 0
  | b :: rest => b.toNat + 256 * littleEndian rest

end QueryTyping.Gzip
