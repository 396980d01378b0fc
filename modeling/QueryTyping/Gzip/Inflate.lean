import QueryTyping.Gzip.Code

/-!
# Deflated data

The format of RFC 1951: blocks that hold bytes as they are, or literals and
repetitions of earlier bytes in prefix codes.
-/

namespace QueryTyping.Gzip

open Text

/-- The bytes written so far. -/
abbrev Output := Array UInt8

/-- A base value for each symbol, and how many more bits it takes. -/
abbrev Steps := List (Nat × Nat)

/-- Steps from a base on, each as wide as its bits say. -/
def stepsFrom : Nat → List Nat → Steps
  | _, [] => []
  | base, bits :: rest => (base, bits) :: stepsFrom (base + Nat.pow 2 bits) rest

/-- The lengths of repetitions, for the symbols from 257 on. -/
def lengthSteps : Steps :=
  stepsFrom 3 [0, 0, 0, 0, 0, 0, 0, 0, 1, 1, 1, 1, 2, 2, 2, 2, 3, 3, 3, 3, 4, 4, 4, 4, 5, 5, 5, 5] ++
    [(258, 0)]

/-- The distances of repetitions. -/
def distanceSteps : Steps :=
  stepsFrom 1 [0, 0, 0, 0, 1, 1, 2, 2, 3, 3, 4, 4, 5, 5, 6, 6, 7, 7, 8, 8, 9, 9, 10, 10, 11, 11, 12,
    12, 13, 13]

/-- The value of a symbol. -/
def readStep (steps : Steps) (symbol : Nat) : Reading Nat := do
  match steps[symbol]? with
  | some (base, bits) => return base + (← readBits bits)
  | none => throw .invalid

/-- Write bytes again that stand so far back. -/
def again (distance : Nat) : Nat → Output → Output
  | 0, out => out
  | count + 1, out => again distance count (out.push (out.getD (out.size - distance) 0))

/-- The items of a block up to its end. -/
def readItems (literals distances : Code) : Nat → Output → Reading Output
  | 0, _ => throw .truncated
  | steps + 1, out => do
    let symbol ← literals.read
    if symbol < 256 then readItems literals distances steps (out.push symbol.toUInt8)
    else if symbol = 256 then return out
    else
      let length ← readStep lengthSteps (symbol - 257)
      let distance ← readStep distanceSteps (← distances.read)
      if out.size < distance then throw .invalid
      else readItems literals distances steps (again distance length out)

/-- The code of a block that brings none. -/
def fixedLiterals : Code :=
  Code.ofLengths (List.replicate 144 8 ++ List.replicate 112 9 ++ List.replicate 24 7 ++
    List.replicate 8 8)

def fixedDistances : Code := Code.ofLengths (List.replicate 32 5)

/-- The order in which the lengths of the words for lengths are given. -/
def lengthOrder : List Nat := [16, 17, 18, 0, 8, 7, 9, 6, 10, 5, 11, 4, 12, 3, 13, 2, 14, 1, 15]

/-- So many lengths of words; a length may repeat the one before it or stand for many zeros. -/
def readLengths (code : Code) : Nat → Nat → List Nat → Reading (List Nat)
  | 0, _, _ => throw .invalid
  | steps + 1, count, lengths => do
    if count < lengths.length then throw .invalid
    else if lengths.length = count then return lengths
    else
      let symbol ← code.read
      if symbol < 16 then readLengths code steps count (lengths ++ [symbol])
      else if symbol = 16 then
        match lengths.getLast? with
        | some last =>
          let times := 3 + (← readBits 2)
          readLengths code steps count (lengths ++ List.replicate times last)
        | none => throw .invalid
      else
        let more ← readBits (if symbol = 17 then 3 else 7)
        let times := (if symbol = 17 then 3 else 11) + more
        readLengths code steps count (lengths ++ List.replicate times 0)

/-- The codes that a block brings. -/
def readCodes : Reading (Code × Code) := do
  let literalCount := 257 + (← readBits 5)
  let distanceCount := 1 + (← readBits 5)
  let lengthCount := 4 + (← readBits 4)
  if 286 < literalCount || 30 < distanceCount then throw .invalid
  let given ← (lengthOrder.take lengthCount).mapM fun symbol => return (symbol, ← readBits 3)
  let code := Code.ofLengths ((List.range 19).map fun symbol => (given.lookup symbol).getD 0)
  if !code.isSound false then throw .invalid
  let count := literalCount + distanceCount
  let lengths ← readLengths code (count + 1) count []
  let literals := Code.ofLengths (lengths.take literalCount)
  let distances := Code.ofLengths (lengths.drop literalCount)
  if lengths[256]?.getD 0 = 0 || !literals.isSound true || !distances.isSound true then
    throw .invalid
  return (literals, distances)

/-- A block that holds bytes as they are. -/
def readStored (out : Output) : Reading Output := do
  let header ← readBytes 4
  let length := littleEndian (header.take 2)
  if length + littleEndian (header.drop 2) ≠ 0xFFFF then throw .invalid
  return out ++ (← readBytes length).toArray

/-- Blocks up to the last one. -/
def readBlocks (bound : Nat) : Nat → Output → Reading Output
  | 0, _ => throw .truncated
  | steps + 1, out => do
    let last ← readBit
    let kind ← readBits 2
    let out ←
      match kind with
      | 0 => readStored out
      | 1 => readItems fixedLiterals fixedDistances bound out
      | 2 => do
        let (literals, distances) ← readCodes
        readItems literals distances bound out
      | _ => throw .invalid
    if last then return out else readBlocks bound steps out

/-- What deflated data stand for, and the bytes behind them.  Every block and every item takes a
bit at least. -/
def inflate (data : Bytes) : Except Problem (Bytes × Bytes) := do
  let bound := 8 * data.length + 1
  let (out, source) ← (readBlocks bound bound #[]).run ⟨[], data⟩
  return (out.toList, source.bytes)

end QueryTyping.Gzip
