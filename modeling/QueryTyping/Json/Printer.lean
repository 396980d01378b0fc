import QueryTyping.Json.Value
import QueryTyping.Text.Quoted

/-!
# JSON text

Documents are written in ASCII.  A character outside the printable ASCII range
is escaped by its UTF-16 code units, so it becomes one or two escapes.  The
layout is either one line or one item a line with a fixed indentation; an empty
list or object is written without a line break in both.
-/

namespace QueryTyping.Json

open QueryTyping.Text

/-- A UTF-16 code unit as an escape. -/
def escapeUnit (unit : Nat) : List Char := '\\' :: 'u' :: hexDigits 4 unit

/-- One character between double quotes. -/
def escapeChar (c : Char) : List Char :=
  if c = '"' then ['\\', '"']
  else if c = '\\' then ['\\', '\\']
  else if c = '\n' then ['\\', 'n']
  else if c = '\r' then ['\\', 'r']
  else if c = '\t' then ['\\', 't']
  else if c = '\x0c' then ['\\', 'f']
  else if c = '\x08' then ['\\', 'b']
  else if 0x20 ≤ c.toNat && c.toNat < 0x7f then [c]
  else if c.toNat < 0x10000 then escapeUnit c.toNat
  else
    let offset := c.toNat - 0x10000
    escapeUnit (0xd800 + offset / 0x400) ++ escapeUnit (0xdc00 + offset % 0x400)

/-- A text between double quotes. -/
def printText (s : String) : List Char :=
  '"' :: s.toList.flatMap escapeChar ++ ['"']

/-- A number with an exponent, which any reader takes for a decimal. -/
def printDecimal (negative : Bool) (coefficient : Nat) (exponent : Int) : List Char :=
  (if negative then ['-'] else []) ++ (toString coefficient).toList ++ ['.', '0', 'e'] ++
    (toString exponent).toList

mutual

/-- The document on one line. -/
def printLine : Json → List Char
  | null => "null".toList
  | bool true => "true".toList
  | bool false => "false".toList
  | integer n => (toString n).toList
  | decimal negative coefficient exponent => printDecimal negative coefficient exponent
  | text s => printText s
  | list items => '[' :: printItems items ++ [']']
  | object members => '\x7b' :: printMembers members ++ ['\x7d']

/-- List items separated by commas. -/
def printItems : List Json → List Char
  | [] => []
  | [item] => printLine item
  | item :: next :: rest => printLine item ++ [',', ' '] ++ printItems (next :: rest)

/-- Members separated by commas. -/
def printMembers : List (String × Json) → List Char
  | [] => []
  | [(name, value)] => printText name ++ [':', ' '] ++ printLine value
  | (name, value) :: next :: rest =>
    printText name ++ [':', ' '] ++ printLine value ++ [',', ' '] ++ printMembers (next :: rest)

end

/-- The start of a line at the given indentation. -/
def newLine (indent : Nat) : List Char := '\n' :: List.replicate indent ' '

mutual

/-- The document with one item a line, each level indented by two more spaces. -/
def printIndented (indent : Nat) : Json → List Char
  | list (item :: rest) =>
    '[' :: newLine (indent + 2) ++ printIndentedItems (indent + 2) (item :: rest) ++
      newLine indent ++ [']']
  | object (member :: rest) =>
    '\x7b' :: newLine (indent + 2) ++ printIndentedMembers (indent + 2) (member :: rest) ++
      newLine indent ++ ['\x7d']
  | value => printLine value

/-- List items, one a line. -/
def printIndentedItems (indent : Nat) : List Json → List Char
  | [] => []
  | [item] => printIndented indent item
  | item :: next :: rest =>
    printIndented indent item ++ [','] ++ newLine indent ++
      printIndentedItems indent (next :: rest)

/-- Members, one a line. -/
def printIndentedMembers (indent : Nat) : List (String × Json) → List Char
  | [] => []
  | [(name, value)] => printText name ++ [':', ' '] ++ printIndented indent value
  | (name, value) :: next :: rest =>
    printText name ++ [':', ' '] ++ printIndented indent value ++ [','] ++ newLine indent ++
      printIndentedMembers indent (next :: rest)

end

/-- The document on one line. -/
def compact (document : Json) : String := String.ofList (printLine document)

/-- The document over several lines. -/
def pretty (document : Json) : String := String.ofList (printIndented 0 document)

end QueryTyping.Json
