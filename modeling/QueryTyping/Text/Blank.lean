/-!
# White space

White space is what Unicode calls so together with the four information
separators.  The zero-width characters U+200B and U+FEFF are not white space.
Trimming and splitting work on character lists, and the `String` versions only
convert.
-/

namespace QueryTyping.Text

/-- White space in the sense of every trim and split of this library. -/
def isBlank (c : Char) : Bool :=
  let n := c.toNat
  (0x09 ≤ n && n ≤ 0x0d) || (0x1c ≤ n && n ≤ 0x20) || n == 0x85 || n == 0xa0 || n == 0x1680 ||
    (0x2000 ≤ n && n ≤ 0x200a) || n == 0x2028 || n == 0x2029 || n == 0x202f || n == 0x205f ||
    n == 0x3000

/-- Drop the characters at the end that satisfy `p`. -/
def dropRightWhile (p : Char → Bool) (s : List Char) : List Char :=
  (s.reverse.dropWhile p).reverse

def trimLeft (s : List Char) : List Char := s.dropWhile isBlank

def trimRight (s : List Char) : List Char := dropRightWhile isBlank s

/-- Drop white space at both ends. -/
def trim (s : List Char) : List Char := trimRight (trimLeft s)

/-- The maximal runs of characters that are not white space. -/
def words (s : List Char) : List (List Char) :=
  let step (c : Char) (acc : List Char × List (List Char)) :=
    if isBlank c then
      ([], if acc.1.isEmpty then acc.2 else acc.1 :: acc.2)
    else (c :: acc.1, acc.2)
  let last := s.foldr step ([], [])
  if last.1.isEmpty then last.2 else last.1 :: last.2

/-- `trim` on a string. -/
def trimmed (s : String) : String := String.ofList (trim s.toList)

/-- Cut at every occurrence of `separator`: one piece more than there are occurrences. -/
def splitOnChar (separator : Char) : List Char → List (List Char)
  | [] => [[]]
  | c :: rest =>
    let pieces := splitOnChar separator rest
    if c = separator then [] :: pieces
    else
      match pieces with
      | [] => [[c]]
      | piece :: others => (c :: piece) :: others

/-- Every carriage return, alone or before a newline, read as one newline. -/
def universalNewlines : List Char → List Char
  | '\r' :: '\n' :: rest => '\n' :: universalNewlines rest
  | '\r' :: rest => '\n' :: universalNewlines rest
  | c :: rest => c :: universalNewlines rest
  | [] => []

end QueryTyping.Text
