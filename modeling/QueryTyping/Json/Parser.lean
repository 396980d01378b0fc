import QueryTyping.Json.Value

/-!
# Reading JSON

A reader for RFC 8259 documents.  It takes every document that the printer
writes, and any other layout as well.  The step bound is the length of the
text: every step consumes a character.
-/

namespace QueryTyping.Json

/-- Drop the four white space characters of JSON. -/
def skipSpace (s : List Char) : List Char :=
  s.dropWhile fun c => c = ' ' || c = '\n' || c = '\r' || c = '\t'

/-- The value of a hexadecimal digit. -/
def hexValue? (c : Char) : Option Nat :=
  if c.isDigit then some (c.toNat - '0'.toNat)
  else if 'a' ≤ c && c ≤ 'f' then some (c.toNat - 'a'.toNat + 10)
  else if 'A' ≤ c && c ≤ 'F' then some (c.toNat - 'A'.toNat + 10)
  else none

/-- Four hexadecimal digits. -/
def unit? : List Char → Option (Nat × List Char)
  | a :: b :: c :: d :: rest => do
    let a ← hexValue? a
    let b ← hexValue? b
    let c ← hexValue? c
    let d ← hexValue? d
    some (((a * 16 + b) * 16 + c) * 16 + d, rest)
  | _ => none

/-- The character of a UTF-16 code unit, joined with a low surrogate that follows. -/
def escapedChar? (s : List Char) : Option (Char × List Char) := do
  let (high, rest) ← unit? s
  if 0xd800 ≤ high && high < 0xdc00 then
    match rest with
    | '\\' :: 'u' :: tail =>
      let (low, rest') ← unit? tail
      if 0xdc00 ≤ low && low < 0xe000 then
        some (Char.ofNat (0x10000 + (high - 0xd800) * 0x400 + (low - 0xdc00)), rest')
      else some ('\ufffd', rest)
    | _ => some ('\ufffd', rest)
  else if 0xdc00 ≤ high && high < 0xe000 then some ('\ufffd', rest)
  else some (Char.ofNat high, rest)

/-- The characters up to the closing double quote. -/
def parseChars : Nat → List Char → Option (List Char × List Char)
  | 0, _ => none
  | _ + 1, [] => none
  | _ + 1, '"' :: rest => some ([], rest)
  | steps + 1, '\\' :: e :: rest =>
    let push (c : Char) (rest : List Char) :=
      (parseChars steps rest).map fun (cs, after) => (c :: cs, after)
    match e with
    | '"' => push '"' rest
    | '\\' => push '\\' rest
    | '/' => push '/' rest
    | 'b' => push '\x08' rest
    | 'f' => push '\x0c' rest
    | 'n' => push '\n' rest
    | 'r' => push '\r' rest
    | 't' => push '\t' rest
    | 'u' =>
      match escapedChar? rest with
      | some (c, after) => push c after
      | none => none
    | _ => none
  | steps + 1, c :: rest =>
    if c.toNat < 0x20 then none
    else (parseChars steps rest).map fun (cs, after) => (c :: cs, after)

/-- The number that decimal digits write. -/
def digitsValue (digits : List Char) : Nat :=
  digits.foldl (fun n c => n * 10 + (c.toNat - '0'.toNat)) 0

/-- The exponent part of a number, if one follows. -/
def parseExponent (s : List Char) : Option (Option Int × List Char) :=
  match s with
  | e :: tail =>
    if e = 'e' || e = 'E' then
      let (negative, tail) :=
        match tail with
        | '-' :: rest => (true, rest)
        | '+' :: rest => (false, rest)
        | _ => (false, tail)
      let digits := tail.takeWhile Char.isDigit
      if digits.isEmpty then none
      else
        let value : Int := digitsValue digits
        some (some (if negative then -value else value), tail.dropWhile Char.isDigit)
    else some (none, s)
  | [] => some (none, [])

/-- A number after its sign. -/
def parseNumber (negative : Bool) (s : List Char) : Option (Json × List Char) :=
  let whole := s.takeWhile Char.isDigit
  let rest := s.dropWhile Char.isDigit
  if whole.isEmpty || (whole.head? = some '0' && whole.length > 1) then none
  else
    match rest with
    | '.' :: tail =>
      let fraction := tail.takeWhile Char.isDigit
      if fraction.isEmpty then none
      else do
        let (exponent, rest) ← parseExponent (tail.dropWhile Char.isDigit)
        some (decimal negative (digitsValue (whole ++ fraction))
          (exponent.getD 0 - fraction.length), rest)
    | _ => do
      let (exponent, rest) ← parseExponent rest
      match exponent with
      | some e => some (decimal negative (digitsValue whole) e, rest)
      | none =>
        let value : Int := digitsValue whole
        some (integer (if negative then -value else value), rest)

/-- The rest of the text after a given word. -/
def word? : List Char → List Char → Option (List Char)
  | [], s => some s
  | c :: word, d :: s => if c = d then word? word s else none
  | _ :: _, [] => none

mutual

/-- One document in front of the text. -/
def parseValue : Nat → List Char → Option (Json × List Char)
  | 0, _ => none
  | steps + 1, s =>
    match skipSpace s with
    | '"' :: rest => (parseChars steps rest).map fun (cs, after) => (text (String.ofList cs), after)
    | '[' :: rest =>
      match skipSpace rest with
      | ']' :: after => some (list [], after)
      | _ => (parseItems steps rest).map fun (items, after) => (list items, after)
    | '\x7b' :: rest =>
      match skipSpace rest with
      | '\x7d' :: after => some (object [], after)
      | _ => (parseMembers steps rest).map fun (members, after) => (object members, after)
    | 'n' :: rest => (word? "ull".toList rest).map fun after => (null, after)
    | 't' :: rest => (word? "rue".toList rest).map fun after => (bool true, after)
    | 'f' :: rest => (word? "alse".toList rest).map fun after => (bool false, after)
    | '-' :: rest => parseNumber true rest
    | rest => parseNumber false rest

/-- List items up to the closing bracket. -/
def parseItems : Nat → List Char → Option (List Json × List Char)
  | 0, _ => none
  | steps + 1, s => do
    let (item, rest) ← parseValue steps s
    match skipSpace rest with
    | ',' :: tail =>
      let (items, after) ← parseItems steps tail
      some (item :: items, after)
    | ']' :: after => some ([item], after)
    | _ => none

/-- Members up to the closing brace. -/
def parseMembers : Nat → List Char → Option (List (String × Json) × List Char)
  | 0, _ => none
  | steps + 1, s =>
    match skipSpace s with
    | '"' :: rest => do
      let (name, rest) ← parseChars steps rest
      match skipSpace rest with
      | ':' :: tail =>
        let (value, rest) ← parseValue steps tail
        match skipSpace rest with
        | ',' :: tail =>
          let (members, after) ← parseMembers steps tail
          some ((String.ofList name, value) :: members, after)
        | '\x7d' :: after => some ([(String.ofList name, value)], after)
        | _ => none
      | _ => none
    | _ => none

end

/-- The document that a whole text holds. -/
def parse? (s : String) : Option Json :=
  match parseValue (s.length + 1) s.toList with
  | some (document, rest) => if (skipSpace rest).isEmpty then some document else none
  | none => none

end QueryTyping.Json
