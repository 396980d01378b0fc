import QueryTyping.Text.Utf8

/-!
# Percent escapes

A percent sign with two hexadecimal digits stands for a byte; other percent
signs stand for themselves.  The bytes between two characters outside ASCII are
read as UTF-8 on their own.
-/

namespace QueryTyping.Text

/-- The bytes of an ASCII text with escapes. -/
def percentBytes : List Char → Bytes
  | '%' :: a :: b :: rest =>
    match hexValue? a, hexValue? b with
    | some high, some low => (high * 16 + low).toUInt8 :: percentBytes rest
    | _, _ => 0x25 :: percentBytes (a :: b :: rest)
  | c :: rest => c.toNat.toUInt8 :: percentBytes rest
  | [] => []

/-- Whether the character is in ASCII. -/
def isAscii (c : Char) : Bool := c.toNat < 0x80

/-- The text without escapes; the first argument holds the ASCII text read so far, backwards. -/
def percentDecodeFrom (run : List Char) : List Char → List Char
  | [] => decodeLossy (percentBytes run.reverse)
  | c :: rest =>
    if isAscii c then percentDecodeFrom (c :: run) rest
    else decodeLossy (percentBytes run.reverse) ++ c :: percentDecodeFrom [] rest

/-- The text that a text with escapes stands for. -/
def percentDecode (s : List Char) : List Char := percentDecodeFrom [] s

/-- Whether a character stands for itself in an escaped text. -/
def isUnreserved (c : Char) : Bool :=
  isAscii c && (c.isAlphanum || c = '-' || c = '.' || c = '_' || c = '~')

/-- The digit of a value below sixteen. -/
def hexDigit (n : Nat) : Char := Char.ofNat (if n < 10 then 48 + n else 55 + n)

/-- A byte as an escape. -/
def percentByte (b : UInt8) : List Char :=
  ['%', hexDigit (b.toNat / 16), hexDigit (b.toNat % 16)]

/-- A text with everything but unreserved characters escaped. -/
def percentEncode (s : List Char) : List Char :=
  s.flatMap fun c => if isUnreserved c then [c] else (encodeChar c).flatMap percentByte

end QueryTyping.Text
