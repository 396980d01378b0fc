import QueryTyping.Number.Double
import QueryTyping.Text.Blank
import QueryTyping.Text.Digit

/-!
# Numerals

Texts that are read as numbers.
-/

namespace QueryTyping.Numeral

open Text

/-- White space that may stand around a numeral: the four information separators may not. -/
def isSpace (c : Char) : Bool := isBlank c && !(0x1c ≤ c.toNat && c.toNat ≤ 0x1f)

/-- The text without the white space around it. -/
def unspaced (s : List Char) : List Char := dropRightWhile isSpace (s.dropWhile isSpace)

/-- The sign in front of a text. -/
def sign : List Char → Bool × List Char
  | '-' :: rest => (true, rest)
  | '+' :: rest => (false, rest)
  | s => (false, s)

/-- The value of ASCII digits. -/
def digitsValue (digits : List Char) : Nat :=
  digits.foldl (fun n c => n * 10 + (c.toNat - '0'.toNat)) 0

/-- The text without underscores, which may stand only between other characters and alone. -/
def withoutUnderscores? (s : List Char) : Option (List Char) :=
  let rec doubled : List Char → Bool
    | '_' :: '_' :: _ => true
    | _ :: rest => doubled rest
    | [] => false
  if s.head? = some '_' || s.getLast? = some '_' || doubled s then none
  else some (s.filter (· ≠ '_'))

/-- An unsigned whole number in ASCII digits. -/
def natural? (s : List Char) : Option Nat :=
  if !s.isEmpty && s.all Char.isDigit then some (digitsValue s) else none

/-- A whole number with an optional sign, white space around it, and underscores between its
digits. -/
def integer? (s : String) : Option Int := do
  let (negative, digits) := sign (unspaced s.toList)
  let n ← natural? (← withoutUnderscores? digits)
  return if negative then -(n : Int) else n

/-- The text with the digits of all scripts as ASCII digits. -/
def withAsciiDigits (s : String) : String :=
  String.ofList (s.toList.map fun c =>
    match digitValue? c with
    | some value => Nat.digitChar value
    | none => c)

/-- The most digits that a whole number may be written with. -/
def maxDigits : Nat := 4300

/-- What is said about a whole number with more digits. -/
def tooLong (digits : Nat) : String :=
  "Exceeds the limit (" ++ toString maxDigits ++
    " digits) for integer string conversion: value has " ++ toString digits ++
    " digits; use sys.set_int_max_str_digits() to increase the limit"

/-- A whole number as `integer?`, in digits of any script, and not too many of them. -/
def anyInteger? (s : String) : Option Int :=
  let s := withAsciiDigits s
  if s.toList.countP Char.isDigit ≤ maxDigits then integer? s else none

/-- A whole number as it may stand in settings: as `integer?`, and with zeros after a point. -/
def looseInteger? (s : String) : Option Int :=
  let s := unspaced s.toList
  let whole := s.takeWhile (· ≠ '.')
  match s.dropWhile (· ≠ '.') with
  | '.' :: zeros =>
    if !zeros.isEmpty && zeros.all (· = '0') then integer? (String.ofList whole) else none
  | _ => integer? (String.ofList s)

/-- An unsigned decimal: digits with at most one point, and an exponent. -/
def decimal? (s : List Char) : Option (Nat × Int) := do
  let whole := s.takeWhile Char.isDigit
  let rest := s.dropWhile Char.isDigit
  let (fraction, rest) := match rest with
    | '.' :: after => (after.takeWhile Char.isDigit, after.dropWhile Char.isDigit)
    | _ => ([], rest)
  if whole.isEmpty && fraction.isEmpty then none
  else
    let exponent ← match rest with
      | [] => some 0
      | c :: power =>
        if c = 'e' || c = 'E' then
          let (negative, digits) := sign power
          (natural? digits).map fun n => if negative then -(n : Int) else (n : Int)
        else none
    some (digitsValue (whole ++ fraction), exponent - fraction.length)

/-- A number: a decimal, an infinity or no number, with an optional sign, white space around it,
and underscores between its characters. -/
def double? (s : String) : Option Double := do
  let (negative, body) := sign (unspaced s.toList)
  let word := String.ofList (body.map Char.toLower)
  if word = "inf" || word = "infinity" then return .infinite negative
  else if word = "nan" then return .nan
  else
    let (coefficient, exponent) ← decimal? (← withoutUnderscores? body)
    return Double.ofDecimal negative coefficient exponent

/-- Whether every underscore stands between two digits, behind a character. -/
def underscoresSeparate (before : Char) : List Char → Bool
  | [] => before ≠ '_'
  | c :: rest =>
    (c ≠ '_' || before.isDigit) && (before ≠ '_' || c.isDigit) && underscoresSeparate c rest

/-- A number as `double?`, in digits of any script and with underscores only between digits. -/
def anyDouble? (s : String) : Option Double :=
  let s := withAsciiDigits s
  if underscoresSeparate ' ' (unspaced s.toList) then double? s else none

end QueryTyping.Numeral
