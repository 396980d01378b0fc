import QueryTyping.Toml.Document
import QueryTyping.Toml.Scalar

/-!
# Reading TOML

A reader for TOML 1.0 documents.  It answers the table that the whole text
writes, or the first problem that it meets.  Every step consumes a character, so
the length of the text bounds the steps.
-/

namespace QueryTyping.Toml

/-- Drop a comment, if there is one. -/
def skipComment? : List Char → Option (List Char)
  | '#' :: rest =>
    if (rest.takeWhile (· ≠ '\n')).any (isRefused false) then none
    else some (rest.dropWhile (· ≠ '\n'))
  | s => some s

/-- Drop blanks, line ends and comments. -/
def skipFiller? : Nat → List Char → Option (List Char)
  | 0, _ => none
  | steps + 1, s =>
    match s.dropWhile isBlankOrBreak with
    | '#' :: rest =>
      match skipComment? ('#' :: rest) with
      | some rest => skipFiller? steps rest
      | none => none
    | rest => some rest

def isBareKeyChar (c : Char) : Bool := c.isAlphanum || c = '-' || c = '_'

/-- One key of a path. -/
def key? (s : List Char) : Option (String × List Char) :=
  match s.takeWhile isBareKeyChar with
  | [] => (line? s).map fun (text, rest) => (String.ofList text, rest)
  | key => some (String.ofList key, s.dropWhile isBareKeyChar)

/-- Keys joined by points. -/
def path? : Nat → List Char → Option (List String × List Char)
  | 0, _ => none
  | steps + 1, s => do
    let (key, rest) ← key? s
    match rest.dropWhile isSpace with
    | '.' :: rest =>
      let (path, rest) ← path? steps (rest.dropWhile isSpace)
      return (key :: path, rest)
    | rest => return ([key], rest)

mutual

def value : Nat → List Char → Except Problem (Datum × List Char)
  | 0, _ => .error .malformed
  | steps + 1, s =>
    match s with
    | 't' :: 'r' :: 'u' :: 'e' :: rest => .ok (.bool true, rest)
    | 'f' :: 'a' :: 'l' :: 's' :: 'e' :: rest => .ok (.bool false, rest)
    | '[' :: rest => do
      let (items, rest) ← items steps rest
      return (.list items, rest)
    | '\x7b' :: rest =>
      match rest.dropWhile isSpace with
      | '\x7d' :: after => .ok (.table [], after)
      | rest => do
        let (document, after) ← pairs steps {} rest
        return (.table (Node.data document.members), after)
    | c :: _ =>
      if c = '"' || c = '\'' then
        wellFormed ((text? s).map fun (text, rest) => (.text (String.ofList text), rest))
      else measure s
    | [] => .error .malformed

/-- The items of an array up to the closing bracket; a comma may stand behind the last one. -/
def items : Nat → List Char → Except Problem (List Datum × List Char)
  | 0, _ => .error .malformed
  | steps + 1, s => do
    match ← wellFormed (skipFiller? (s.length + 1) s) with
    | ']' :: after => return ([], after)
    | rest =>
      let (item, rest) ← value steps rest
      match ← wellFormed (skipFiller? (rest.length + 1) rest) with
      | ']' :: after => return ([item], after)
      | ',' :: rest =>
        let (others, after) ← items steps rest
        return (item :: others, after)
      | _ => .error .malformed

/-- What the pairs of an inline table, up to the closing brace, add to its document. -/
def pairs : Nat → Document → List Char → Except Problem (Document × List Char)
  | 0, _, _ => .error .malformed
  | steps + 1, document, s => do
    let (path, rest) ← wellFormed (path? (s.length + 1) s)
    match rest with
    | '=' :: rest =>
      let (value, rest) ← value steps (rest.dropWhile isSpace)
      let document ← wellFormed (document.set path value)
      match rest.dropWhile isSpace with
      | '\x7d' :: after => return (document, after)
      | ',' :: rest => pairs steps document (rest.dropWhile isSpace)
      | _ => .error .malformed
    | _ => .error .malformed

end

/-- What one line, or a value over several lines, adds to the document. -/
def statement (s : List Char) (document : Document) : Except Problem (Document × List Char) :=
  match s with
  | '#' :: _ => .ok (document, s)
  | '[' :: '[' :: rest => do
    let (path, rest) ← wellFormed (path? (rest.length + 1) (rest.dropWhile isSpace))
    match rest with
    | ']' :: ']' :: after => return (← wellFormed (document.append path), after)
    | _ => .error .malformed
  | '[' :: rest => do
    let (path, rest) ← wellFormed (path? (rest.length + 1) (rest.dropWhile isSpace))
    match rest with
    | ']' :: after => return (← wellFormed (document.declare path), after)
    | _ => .error .malformed
  | _ => do
    let (path, rest) ← wellFormed (path? (s.length + 1) s)
    match rest with
    | '=' :: rest =>
      let (value, after) ← value (rest.length + 1) (rest.dropWhile isSpace)
      return (← wellFormed (document.set path value), after)
    | _ => .error .malformed

def statements : Nat → List Char → Document → Except Problem Document
  | 0, _, _ => .error .malformed
  | steps + 1, s, document =>
    match s.dropWhile isSpace with
    | [] => .ok document
    | '\n' :: rest => statements steps rest document
    | s => do
      let (document, rest) ← statement s document
      match ← wellFormed (skipComment? (rest.dropWhile isSpace)) with
      | [] => return document
      | '\n' :: rest => statements steps rest document
      | _ => .error .malformed

/-- Line ends of two characters as one. -/
def joinBreaks : List Char → List Char
  | '\r' :: '\n' :: rest => '\n' :: joinBreaks rest
  | c :: rest => c :: joinBreaks rest
  | [] => []

/-- The table that a whole text writes, or why it writes none. -/
def parse (text : String) : Except Problem (List (String × Datum)) :=
  let s := joinBreaks text.toList
  (statements (s.length + 1) s {}).map fun document => Node.data document.members

/-- The table that a whole text writes, if it writes one. -/
def parse? (text : String) : Option (List (String × Datum)) := (parse text).toOption

end QueryTyping.Toml
