import QueryTyping.Text.Printable
import QueryTyping.Text.Utf8

/-!
# Text quoted for a message

A message shows foreign text between quotes on one line: single quotes unless
the text holds a single quote and no double quote.  The quote in use, the
backslash and what cannot be printed are escaped.
-/

namespace QueryTyping.Text

/-- The last `width` hexadecimal digits of a number, in small letters. -/
def hexDigits : Nat → Nat → List Char
  | 0, _ => []
  | width + 1, n => hexDigits width (n / 16) ++ [Nat.digitChar (n % 16)]

/-- One character inside quotes of the given kind. -/
def escapeChar (quote c : Char) : List Char :=
  if c = quote || c = '\\' then ['\\', c]
  else if c = '\n' then ['\\', 'n']
  else if c = '\r' then ['\\', 'r']
  else if c = '\t' then ['\\', 't']
  else if isPrintable c then [c]
  else if c.toNat < 0x100 then '\\' :: 'x' :: hexDigits 2 c.toNat
  else if c.toNat < 0x10000 then '\\' :: 'u' :: hexDigits 4 c.toNat
  else '\\' :: 'U' :: hexDigits 8 c.toNat

/-- The quote that needs the fewer escapes. -/
def quoteFor (s : List Char) : Char :=
  if s.contains '\'' && !s.contains '"' then '"' else '\''

/-- The text between quotes, on one line of printable characters. -/
def quoted (s : String) : String :=
  let quote := quoteFor s.toList
  String.ofList (quote :: s.toList.flatMap (escapeChar quote) ++ [quote])

/-- Bytes between quotes, with a mark before them; only those of ASCII are shown as characters. -/
def quotedBytes (bytes : Bytes) : String :=
  let chars := bytes.map fun b => Char.ofNat b.toNat
  let quote := quoteFor chars
  let shown (c : Char) : List Char :=
    if c.toNat < 0x80 then escapeChar quote c else '\\' :: 'x' :: hexDigits 2 c.toNat
  String.ofList ('b' :: quote :: chars.flatMap shown ++ [quote])

/-- What is said about bytes that are no text. -/
def Utf8Defect.message (defect : Utf8Defect) : String :=
  let place :=
    match defect.piece with
    | [b] => "byte 0x" ++ String.ofList (hexDigits 2 b.toNat) ++ " in position " ++
      toString defect.position
    | _ => "bytes in position " ++ toString defect.position ++ "-" ++
      toString (defect.position + defect.piece.length - 1)
  let reason :=
    if defect.endsEarly then "unexpected end of data"
    else if (defect.piece.head?.bind fun b => leading? b.toNat).isSome then
      "invalid continuation byte"
    else "invalid start byte"
  "'utf-8' codec can't decode " ++ place ++ ": " ++ reason

end QueryTyping.Text
