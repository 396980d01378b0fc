import QueryTyping.Gzip.Inflate

/-!
# Gzip files

The format of RFC 1952: members one after another, each with a header, deflated
data, and a check sum and length behind them.  Zeros may stand behind a member.
-/

namespace QueryTyping.Gzip

open Text

/-- One step of the check sum. -/
def checkStep (sum : Nat) : Nat := if sum % 2 = 1 then (sum / 2) ^^^ 0xEDB88320 else sum / 2

/-- The check sum of bytes, CRC-32. -/
def checkSum (content : Bytes) : Nat :=
  (content.foldl (fun sum b =>
    let start := sum ^^^ b.toNat
    checkStep (checkStep (checkStep (checkStep (checkStep (checkStep (checkStep
      (checkStep start)))))))) 0xFFFFFFFF) ^^^ 0xFFFFFFFF

/-- Drop so many bytes, which have to be there. -/
def drop (count : Nat) (s : Bytes) : Except Problem Bytes :=
  if s.length < count then .error .truncated else .ok (s.drop count)

/-- Drop a text that ends with a zero. -/
def dropText (s : Bytes) : Bytes := (s.dropWhile (· ≠ 0)).drop 1

/-- The bytes behind a member's header. -/
def afterHeader (s : Bytes) : Except Problem Bytes := do
  match s with
  | 0x1f :: 0x8b :: s =>
    let rest ← drop 8 s
    if s.head? ≠ some 8 then throw .unknownMethod
    let has (bit : Nat) : Bool := ((s.drop 1).headD 0).toNat.testBit bit
    let rest ←
      if has 2 then do
        let extra ← drop 2 rest
        drop (littleEndian (rest.take 2)) extra
      else pure rest
    let rest := if has 3 then dropText rest else rest
    let rest := if has 4 then dropText rest else rest
    if has 1 then drop 2 rest else return rest
  | _ => throw (.notGzip (s.take 2))

/-- One member's content, and what stands behind it. -/
def member (s : Bytes) : Except Problem (Bytes × Bytes) := do
  let (content, rest) ← inflate (← afterHeader s)
  let after ← drop 8 rest
  let stated := littleEndian (rest.take 4)
  if stated ≠ checkSum content then throw (.wrongCheckSum stated (checkSum content))
  if littleEndian ((rest.drop 4).take 4) ≠ content.length % 0x100000000 then throw .wrongLength
  return (content, after)

/-- The content of all members. -/
def members : Nat → Bytes → Except Problem Bytes
  | 0, _ => .ok []
  | steps + 1, s =>
    if s.isEmpty then .ok []
    else do
      let (content, rest) ← member s
      return content ++ (← members steps (rest.dropWhile (· = 0)))

/-- What a gzip file holds. -/
def unpack (s : Bytes) : Except Problem Bytes := members s.length s

/-- A number in so many bytes, the lowest byte first. -/
def bytesOf : Nat → Nat → Bytes
  | 0, _ => []
  | count + 1, n => (n % 256).toUInt8 :: bytesOf count (n / 256)

/-- Blocks that hold bytes as they are. -/
def storedBlocks : Nat → Bytes → Bytes
  | 0, _ => []
  | steps + 1, content =>
    let block := content.take 65535
    let rest := content.drop 65535
    [if rest.isEmpty then 1 else 0] ++ bytesOf 2 block.length ++ bytesOf 2 (65535 - block.length) ++
      block ++ (if rest.isEmpty then [] else storedBlocks steps rest)

/-- A gzip file with one member that holds bytes as they are. -/
def pack (content : Bytes) : Bytes :=
  [0x1f, 0x8b, 8, 0, 0, 0, 0, 0, 0, 255] ++ storedBlocks (content.length + 1) content ++
    bytesOf 4 (checkSum content) ++ bytesOf 4 content.length

end QueryTyping.Gzip
