import QueryTyping.Datum
import QueryTyping.Number.Numeral
import QueryTyping.Text.Utf8

/-!
# TOML scalars

Texts, numbers and moments.  Every reader takes as much of the text as the form
admits and leaves the rest.
-/

namespace QueryTyping.Toml

open Text

/-- Why a text gives no document. -/
inductive Problem where
  | malformed
  /-- A whole number in base ten has so many digits that it is not read. -/
  | longNumber (digits : Nat)
  deriving DecidableEq, Repr

/-- What was read, unless the text is malformed. -/
def wellFormed {α : Type} : Option α → Except Problem α
  | some value => .ok value
  | none => .error .malformed

def isSpace (c : Char) : Bool := c = ' ' || c = '\t'

def isBlankOrBreak (c : Char) : Bool := isSpace c || c = '\n'

/-- A control character that no text and no comment may hold; texts over several lines may hold
line ends. -/
def isRefused (lines : Bool) (c : Char) : Bool :=
  (c.toNat < 0x20 || c.toNat = 0x7f) && c ≠ '\t' && !(lines && c = '\n')

/-- The character of so many hexadecimal digits. -/
def codeChar? (digits : Nat) (s : List Char) : Option (Char × List Char) := do
  let code := s.take digits
  if code.length ≠ digits then none
  else
    let value ← code.foldlM (fun n c => (hexValue? c).map (n * 16 + ·)) 0
    if value < 0xd800 || (0xe000 ≤ value && value < 0x110000) then
      some (Char.ofNat value, s.drop digits)
    else none

/-- What stands for an escape, which is read without its backslash. -/
def escape? (lines : Bool) : List Char → Option (List Char × List Char)
  | 'b' :: rest => some (['\x08'], rest)
  | 't' :: rest => some (['\t'], rest)
  | 'n' :: rest => some (['\n'], rest)
  | 'f' :: rest => some (['\x0c'], rest)
  | 'r' :: rest => some (['\r'], rest)
  | '"' :: rest => some (['"'], rest)
  | '\\' :: rest => some (['\\'], rest)
  | 'u' :: rest => (codeChar? 4 rest).map fun (c, rest) => ([c], rest)
  | 'U' :: rest => (codeChar? 8 rest).map fun (c, rest) => ([c], rest)
  | c :: rest =>
    if lines && isBlankOrBreak c then
      match (c :: rest).dropWhile isSpace with
      | [] => some ([], [])
      | '\n' :: after => some ([], after.dropWhile isBlankOrBreak)
      | _ => none
    else none
  | [] => none

/-- A text with escapes up to its closing quote or quotes. -/
def escapedText? (lines : Bool) : Nat → List Char → Option (List Char × List Char)
  | 0, _ => none
  | _ + 1, [] => none
  | steps + 1, '"' :: rest =>
    if lines then
      match rest with
      | '"' :: '"' :: after => some ([], after)
      | _ => (escapedText? lines steps rest).map fun (text, after) => ('"' :: text, after)
    else some ([], rest)
  | steps + 1, '\\' :: rest =>
    match escape? lines rest with
    | some (cs, rest) =>
      (escapedText? lines steps rest).map fun (text, after) => (cs ++ text, after)
    | none => none
  | steps + 1, c :: rest =>
    if isRefused lines c then none
    else (escapedText? lines steps rest).map fun (text, after) => (c :: text, after)

/-- A text up to the next single quote. -/
def plainText? (s : List Char) : Option (List Char × List Char) :=
  let text := s.takeWhile (· ≠ '\'')
  match s.dropWhile (· ≠ '\'') with
  | _ :: after => if text.any (isRefused false) then none else some (text, after)
  | [] => none

/-- A text over several lines up to the next three single quotes. -/
def plainLines? : List Char → Option (List Char × List Char)
  | '\'' :: '\'' :: '\'' :: after => some ([], after)
  | c :: rest =>
    if isRefused true c then none
    else (plainLines? rest).map fun (text, after) => (c :: text, after)
  | [] => none

/-- One or two quotes that stand right behind the closing ones belong to the text. -/
def withQuotes (quote : Char) (text rest : List Char) : List Char × List Char :=
  let more := (rest.take 2).takeWhile (· = quote)
  (text ++ more, rest.drop more.length)

def afterBreak : List Char → List Char
  | '\n' :: rest => rest
  | s => s

/-- A text on one line, quoted in either way. -/
def line? : List Char → Option (List Char × List Char)
  | '"' :: rest => escapedText? false (rest.length + 1) rest
  | '\'' :: rest => plainText? rest
  | _ => none

/-- A text in any of the four ways to quote it. -/
def text? : List Char → Option (List Char × List Char)
  | '"' :: '"' :: '"' :: rest =>
    (escapedText? true (rest.length + 1) (afterBreak rest)).map fun (text, rest) =>
      withQuotes '"' text rest
  | '\'' :: '\'' :: '\'' :: rest =>
    (plainLines? (afterBreak rest)).map fun (text, rest) => withQuotes '\'' text rest
  | s => line? s

/-- Digits, with single underscores between them. -/
def digitRun (isDigit : Char → Bool) : List Char → List Char × List Char
  | [] => ([], [])
  | [c] => if isDigit c then ([c], []) else ([], [c])
  | c :: d :: rest =>
    if isDigit c then
      let (digits, after) :=
        if d = '_' && (rest.take 1).any isDigit then digitRun isDigit rest
        else digitRun isDigit (d :: rest)
      (c :: digits, after)
    else ([], c :: d :: rest)

def digitsValue (base : Nat) (digits : List Char) : Nat :=
  digits.foldl (fun n c => n * base + (hexValue? c).getD 0) 0

/-- A whole number in another base than ten. -/
def based? : List Char → Option (Nat × List Char)
  | '0' :: mark :: rest => do
    let (base, isDigit) ← match mark with
      | 'x' => some (16, fun c => (hexValue? c).isSome)
      | 'b' => some (2, fun c => c = '0' || c = '1')
      | 'o' => some (8, fun (c : Char) => '0' ≤ c && c ≤ '7')
      | _ => none
    let (digits, rest) := digitRun isDigit rest
    if digits.isEmpty then none else some (digitsValue base digits, rest)
  | _ => none

def sign : List Char → Bool × List Char
  | '-' :: rest => (true, rest)
  | '+' :: rest => (false, rest)
  | s => (false, s)

/-- The digits before a point: a single zero, or digits that do not start with one. -/
def wholeDigits : List Char → List Char × List Char
  | '0' :: rest => (['0'], rest)
  | s => digitRun Char.isDigit s

/-- A point with digits behind it, or nothing. -/
def fractionDigits (s : List Char) : List Char × List Char :=
  match s with
  | '.' :: rest =>
    let (digits, after) := digitRun Char.isDigit rest
    if digits.isEmpty then ([], s) else (digits, after)
  | _ => ([], s)

/-- An exponent, or nothing. -/
def exponent (s : List Char) : Option Int × List Char :=
  match s with
  | c :: rest =>
    if c = 'e' || c = 'E' then
      let (negative, rest) := sign rest
      let (digits, after) := digitRun Char.isDigit rest
      if digits.isEmpty then (none, s)
      else
        let power : Int := digitsValue 10 digits
        (some (if negative then -power else power), after)
    else (none, s)
  | [] => (none, s)

/-- A number in base ten, or one of the words for infinity and for no number. -/
def decimal (s : List Char) : Except Problem (Datum × List Char) :=
  let (negative, unsigned) := sign s
  match unsigned with
  | 'i' :: 'n' :: 'f' :: rest => .ok (.number (.infinite negative), rest)
  | 'n' :: 'a' :: 'n' :: rest => .ok (.number .nan, rest)
  | _ =>
    let (whole, rest) := wholeDigits unsigned
    if whole.isEmpty then .error .malformed
    else
      let (fraction, rest) := fractionDigits rest
      let (power, rest) := exponent rest
      if fraction.isEmpty && power.isNone then
        if Numeral.maxDigits < whole.length then .error (.longNumber whole.length)
        else
          let value : Int := digitsValue 10 whole
          .ok (.integer (if negative then -value else value), rest)
      else
        .ok (.number (Double.ofDecimal negative (digitsValue 10 (whole ++ fraction))
          (power.getD 0 - fraction.length)), rest)

/-- A number of so many digits between two bounds. -/
def field? (digits low high : Nat) (s : List Char) : Option (Nat × List Char) :=
  let code := s.take digits
  let value := digitsValue 10 code
  if code.length = digits && code.all Char.isDigit && low ≤ value && value ≤ high then
    some (value, s.drop digits)
  else none

def mark? (c : Char) : List Char → Option (List Char)
  | d :: rest => if c = d then some rest else none
  | [] => none

/-- The rest behind a time of day. -/
def time? (s : List Char) : Option (List Char) := do
  let (_, s) ← field? 2 0 23 s
  let (_, s) ← field? 2 0 59 (← mark? ':' s)
  let (_, s) ← field? 2 0 59 (← mark? ':' s)
  match s with
  | '.' :: c :: rest => some (if c.isDigit then rest.dropWhile Char.isDigit else s)
  | _ => some s

/-- The rest behind a distance from world time, if there is one. -/
def afterOffset (s : List Char) : List Char :=
  let offset? : Option (List Char) := do
    let (_, s) ← field? 2 0 23 (s.drop 1)
    let (_, s) ← field? 2 0 59 (← mark? ':' s)
    return s
  match s with
  | 'Z' :: rest => rest
  | 'z' :: rest => rest
  | '+' :: _ => offset?.getD s
  | '-' :: _ => offset?.getD s
  | _ => s

def daysOf (year month : Nat) : Nat :=
  if month = 2 then
    if year % 4 = 0 && (year % 100 ≠ 0 || year % 400 = 0) then 29 else 28
  else if [4, 6, 9, 11].contains month then 30
  else 31

/-- A date, with a time if one follows, and the rest; inside, whether the date exists. -/
def date? (s : List Char) : Option (Bool × Moment × List Char) := do
  let (year, s) ← field? 4 0 9999 s
  let (month, s) ← field? 2 1 12 (← mark? '-' s)
  let (day, s) ← field? 2 1 31 (← mark? '-' s)
  let real := 1 ≤ year && day ≤ daysOf year month
  match s with
  | c :: rest =>
    if c = 'T' || c = 't' || c = ' ' then
      match time? rest with
      | some after => some (real, .dateTime, afterOffset after)
      | none => some (real, .date, s)
    else some (real, .date, s)
  | [] => some (real, .date, s)

/-- A date, a time or a number. -/
def measure (s : List Char) : Except Problem (Datum × List Char) :=
  match date? s with
  | some (real, moment, rest) => if real then .ok (.moment moment, rest) else .error .malformed
  | none =>
    match time? s with
    | some rest => .ok (.moment .time, rest)
    | none =>
      match based? s with
      | some (value, rest) => .ok (.integer value, rest)
      | none => decimal s

end QueryTyping.Toml
