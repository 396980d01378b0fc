/-!
# Binary floating point

Numbers of 53 binary digits, as pairs of a whole number and a power of two.
Rounding is exact: a ratio goes to the nearest such number and a tie to the one
with an even significand.  The shortest text of a number has the fewest digits
that round to it, and of those the nearest, a tie going to the even digit.
-/

namespace QueryTyping

/-- A number `significand · 2 ^ exponent`, an infinity, or no number.  The significand is below
`2 ^ 53`, and at least `2 ^ 52` unless the exponent is -1074. -/
inductive Double where
  | nan
  | infinite (negative : Bool)
  | finite (negative : Bool) (significand : Nat) (exponent : Int)
  deriving DecidableEq, Repr, Inhabited

namespace Double

def zero : Double := finite false 0 (-1074)

/-- The whole quotient nearest to `n / d`; a tie goes to the even one. -/
def nearestQuotient (n d : Nat) : Nat :=
  let q := n / d
  let r := n % d
  if 2 * r < d ∨ (2 * r = d ∧ q % 2 = 0) then q else q + 1

/-- The quotient of `n / d` by a power of two, as a ratio. -/
def scaled (n d : Nat) (exponent : Int) : Nat × Nat :=
  if 0 ≤ exponent then (n, d * Nat.pow 2 exponent.toNat) else (n * Nat.pow 2 (-exponent).toNat, d)

/-- The number nearest to `n / d`. -/
def ofRatio (negative : Bool) (n d : Nat) : Double :=
  if n = 0 then finite negative 0 (-1074)
  else
    let guess : Int := (n.log2 : Int) - (d.log2 : Int) - 52
    let (gn, gd) := scaled n d guess
    let exponent := max (if gn < Nat.pow 2 52 * gd then guess - 1 else guess) (-1074)
    let (sn, sd) := scaled n d exponent
    let significand := nearestQuotient sn sd
    let (significand, exponent) :=
      if significand = Nat.pow 2 53 then (Nat.pow 2 52, exponent + 1) else (significand, exponent)
    if 971 < exponent then infinite negative else finite negative significand exponent

/-- The number nearest to `coefficient · 10 ^ exponent`. -/
def ofDecimal (negative : Bool) (coefficient : Nat) (exponent : Int) : Double :=
  let size := ((Nat.toDigits 10 coefficient).length : Int) + exponent
  if coefficient = 0 then finite negative 0 (-1074)
  else if 400 < size then infinite negative
  else if size < -400 then finite negative 0 (-1074)
  else if 0 ≤ exponent then ofRatio negative (coefficient * Nat.pow 10 exponent.toNat) 1
  else ofRatio negative coefficient (Nat.pow 10 (-exponent).toNat)

def ofInt (n : Int) : Double := ofRatio (n < 0) n.natAbs 1

/-- Whether two numbers are equal; nothing equals no number, and zeros do not differ. -/
def same : Double → Double → Bool
  | nan, _ => false
  | _, nan => false
  | finite _ 0 _, finite _ 0 _ => true
  | x, y => x = y

/-- The absolute value as a ratio. -/
def ratio (significand : Nat) (exponent : Int) : Nat × Nat :=
  if 0 ≤ exponent then (significand * Nat.pow 2 exponent.toNat, 1)
  else (significand, Nat.pow 2 (-exponent).toNat)

/-- The nearest number to a whole multiple. -/
def timesNat (factor : Nat) : Double → Double
  | finite negative significand exponent =>
    let (n, d) := ratio significand exponent
    ofRatio negative (n * factor) d
  | other => other

/-- The whole part, towards zero, unless there is none. -/
def truncate? : Double → Option Int
  | finite negative significand exponent =>
    let (n, d) := ratio significand exponent
    let whole : Int := ((n / d : Nat) : Int)
    some (if negative then -whole else whole)
  | _ => none

/-- The whole number that the number is, if it is one. -/
def whole? : Double → Option Int
  | finite negative significand exponent =>
    let (n, d) := ratio significand exponent
    if n % d = 0 then some (if negative then -((n / d : Nat) : Int) else ((n / d : Nat) : Int))
    else none
  | _ => none

/-- Whether the number is above zero. -/
def isPositive : Double → Bool
  | finite negative significand _ => !negative && significand ≠ 0
  | infinite negative => !negative
  | nan => false

/-- The power of ten of the digit in front: the least `p` with `n / d < 10 ^ p`. -/
def leadingPower (n d : Nat) : Int :=
  let guess : Int := ((n.log2 : Int) - (d.log2 : Int)) * 30103 / 100000
  let below (p : Int) : Bool :=
    if 0 ≤ p then n < d * Nat.pow 10 p.toNat else n * Nat.pow 10 (-p).toNat < d
  let candidates : List Int := [guess - 2, guess - 1, guess, guess + 1, guess + 2]
  (candidates.find? below).getD (guess + 3)

/-- The best decimal of so many digits that rounds to the number, if one does. -/
def decimalWith? (n d : Nat) (value : Double) (power : Int) (digits : Nat) :
    Option (Nat × Int) :=
  let exponent := power - digits
  let (sn, sd) :=
    if 0 ≤ exponent then (n, d * Nat.pow 10 exponent.toNat) else (n * Nat.pow 10 (-exponent).toNat, d)
  let low := sn / sd
  let high := low + 1
  let fits (c : Nat) : Bool := ofDecimal false c exponent = value
  let nearer := if nearestQuotient sn sd = low then [low, high] else [high, low]
  (nearer.find? fits).map fun c => (c, exponent)

/-- The decimal with the fewest digits that rounds to a positive number. -/
def shortest (significand : Nat) (exponent : Int) : Nat × Int :=
  let (n, d) := ratio significand exponent
  let power := leadingPower n d
  ((List.range 17).findSome? fun i =>
    decimalWith? n d (finite false significand exponent) power (i + 1)).getD (significand, 0)

/-- A text of at least so many digits. -/
def padded (width n : Nat) : List Char :=
  let digits := Nat.toDigits 10 n
  List.replicate (width - digits.length) '0' ++ digits

/-- The text of a decimal: positional from `0.0001` up to below `10 ^ 16`, else with a power of
ten of at least two digits. -/
def decimalText (coefficient : Nat) (exponent : Int) : List Char :=
  let all := Nat.toDigits 10 coefficient
  let digits := (all.reverse.dropWhile (· = '0')).reverse
  let digits := if digits.isEmpty then ['0'] else digits
  let point : Int := (all.length : Int) + exponent
  if -4 < point ∧ point ≤ 16 then
    if point ≤ 0 then "0.".toList ++ List.replicate (-point).toNat '0' ++ digits
    else
      let whole := digits.take point.toNat
      let whole := whole ++ List.replicate (point.toNat - whole.length) '0'
      let fraction := digits.drop point.toNat
      whole ++ ['.'] ++ (if fraction.isEmpty then ['0'] else fraction)
  else
    let power := point - 1
    let mantissa := match digits with
      | [] => []
      | [d] => [d]
      | d :: rest => d :: '.' :: rest
    mantissa ++ ['e', if power < 0 then '-' else '+'] ++ padded 2 power.natAbs

/-- The shortest text that reads back as the number. -/
def text : Double → String
  | nan => "nan"
  | infinite negative => if negative then "-inf" else "inf"
  | finite negative significand exponent =>
    let sign := if negative then ['-'] else []
    if significand = 0 then String.ofList (sign ++ "0.0".toList)
    else
      let (c, e) := shortest significand exponent
      String.ofList (sign ++ decimalText c e)

end Double

end QueryTyping
