/-!
# Name patterns

Patterns for a single name: `*` stands for any text, `?` for any character, and
a bracketed set for one of its characters.  A bracket that is never closed
stands for itself.
-/

namespace QueryTyping.Glob

/-- A part of a pattern. -/
inductive NameMatcher where
  | anyText
  | anyChar
  | char (c : Char)
  /-- One character that is, or is not, within one of the ranges. -/
  | oneOf (negated : Bool) (ranges : List (Char × Char))
  deriving DecidableEq, Repr

abbrev NamePattern := List NameMatcher

/-- Whether the parts of a pattern admit a whole name. -/
def NamePattern.admits : NamePattern → List Char → Bool
  | [], name => name.isEmpty
  | .anyText :: rest, [] => admits rest []
  | .anyText :: rest, c :: name => admits rest (c :: name) || admits (.anyText :: rest) name
  | .anyChar :: rest, name =>
    match name with
    | _ :: name => admits rest name
    | [] => false
  | .char c :: rest, name =>
    match name with
    | d :: name => c = d && admits rest name
    | [] => false
  | .oneOf negated ranges :: rest, name =>
    match name with
    | d :: name => (ranges.any fun (low, high) => low ≤ d && d ≤ high) != negated && admits rest name
    | [] => false
  termination_by pattern name => (pattern.length, name.length)

/-- The inside of a set, cut at the hyphens that make ranges.  A hyphen makes one if a character
stands before it, and two hyphens that do have at least two characters between them. -/
def chunks (fuel : Nat) (chunk : List Char) (least : Nat) (s : List Char) : List (List Char) :=
  match fuel, s with
  | _, [] => [chunk]
  | 0, _ => [chunk ++ s]
  | fuel + 1, c :: rest =>
    match least with
    | 0 => if c = '-' then chunk :: chunks fuel [] 2 rest else chunks fuel (chunk ++ [c]) 0 rest
    | least + 1 => chunks fuel (chunk ++ [c]) least rest

/-- A hyphen at the end stands for itself. -/
def withoutEmptyEnd (parts : List (List Char)) : List (List Char) :=
  match parts.reverse with
  | [] :: previous :: before => ((previous ++ ['-']) :: before).reverse
  | _ => parts

/-- Join the chunks around a range that holds nothing, from the last one on. -/
def dropEmptyRanges : List (List Char) → List (List Char)
  | [] => []
  | chunk :: rest =>
    match dropEmptyRanges rest with
    | [] => [chunk]
    | next :: more =>
      match chunk.getLast?, next with
      | some low, high :: tail =>
        if high < low then (chunk.dropLast ++ tail) :: more else chunk :: next :: more
      | _, _ => chunk :: next :: more

/-- The ranges of chunks: single characters, and one range between two chunks. -/
def rangesOf : List (List Char) → List (Char × Char)
  | [] => []
  | chunk :: rest =>
    let singles := chunk.map fun c => (c, c)
    match chunk.getLast?, rest with
    | some low, (high :: _) :: _ => (low, high) :: singles ++ rangesOf rest
    | _, _ => singles ++ rangesOf rest

/-- The ranges that the inside of a set writes. -/
def setRanges (s : List Char) : List (Char × Char) :=
  rangesOf (dropEmptyRanges (withoutEmptyEnd (chunks s.length [] 1 s)))

/-- The inside of a set behind its bracket, and the rest.  A closing bracket in front is part of
the set. -/
def set? (s : List Char) : Option (Bool × List Char × List Char) :=
  let (negated, s) :=
    match s with
    | '!' :: rest => (true, rest)
    | _ => (false, s)
  let (front, s) :=
    match s with
    | ']' :: rest => ([']'], rest)
    | _ => ([], s)
  match s.dropWhile (· ≠ ']') with
  | _ :: rest => some (negated, front ++ s.takeWhile (· ≠ ']'), rest)
  | [] => none

/-- The parts of a pattern. -/
def parts : Nat → List Char → NamePattern
  | 0, _ => []
  | _ + 1, [] => []
  | steps + 1, '*' :: rest => .anyText :: parts steps rest
  | steps + 1, '?' :: rest => .anyChar :: parts steps rest
  | steps + 1, '[' :: rest =>
    match set? rest with
    | some (negated, inside, rest) => .oneOf negated (setRanges inside) :: parts steps rest
    | none => .char '[' :: parts steps rest
  | steps + 1, c :: rest => .char c :: parts steps rest

def NamePattern.ofChars (s : List Char) : NamePattern := parts s.length s

end QueryTyping.Glob
