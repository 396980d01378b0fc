import QueryTyping.Sql.Token
import QueryTyping.Text.Blank

/-!
# Reading SQL tokens

A script is read into tokens and remarks; `Script.ofText?` then cuts it at its
semicolons.  Reading fails on a token that is never closed.  A dollar sign opens
a dollar-quoted string when another dollar sign follows with a tag between them
that is not a number and holds no white space; otherwise it is the sign of a
parameter.
-/

namespace QueryTyping.Sql

open QueryTyping.Text

/-- What stands in a script: a token, or a remark, which may belong to the token before it. -/
inductive Item where
  | code (token : Token)
  | remark (attached : Bool)
  deriving Repr

/-- A text cut in two. -/
abbrev Split := Option (List Char × List Char)

/-- Put a character in front of the first part. -/
def push (c : Char) (split : Split) : Split :=
  split.map fun parts => (c :: parts.1, parts.2)

/-- The content of a string after its opening quote.  A doubled quote is content, as is, with
`escapes`, a quote or a backslash after a backslash; a doubled quote cannot end the text. -/
def closeString (escapes : Bool) : List Char → Split
  | [] => none
  | ['\''] => some ([], [])
  | ['\'', '\''] => none
  | '\'' :: '\'' :: rest => push '\'' (closeString escapes rest)
  | '\'' :: rest => some ([], rest)
  | ['\\'] => none
  | '\\' :: c :: rest =>
    if escapes && (c = '\'' || c = '\\') then
      if rest.isEmpty then none else push c (closeString escapes rest)
    else push '\\' (closeString escapes (c :: rest))
  | c :: rest => push c (closeString escapes rest)

/-- The name in a quoted identifier after its opening quote. -/
def closeIdentifier : List Char → Split
  | [] => none
  | ['"'] => some ([], [])
  | ['"', '"'] => none
  | '"' :: '"' :: rest => push '"' (closeIdentifier rest)
  | '"' :: rest => some ([], rest)
  | c :: rest => push c (closeIdentifier rest)

/-- What follows a block comment, given the text after its opening and the depth.  A comment
that opens at the very start of another one is not seen as nested. -/
def closeRemark : Nat → Nat → List Char → Option (List Char)
  | 0, _, _ => none
  | steps + 1, depth, s =>
    match s with
    | [] => none
    | [_] => none
    | c :: rest =>
      let depth := if c = '*' && rest.head? = some '/' then depth - 1 else depth
      if depth = 0 then some (rest.drop 1)
      else
        match rest with
        | '/' :: '*' :: inner => closeRemark steps (depth + 1) inner
        | _ => closeRemark steps depth rest

/-- The text after the first occurrence of a mark. -/
def afterMark? (mark : List Char) : List Char → Option (List Char)
  | [] => none
  | c :: rest =>
    if mark.isPrefixOf (c :: rest) then some ((c :: rest).drop mark.length)
    else afterMark? mark rest

/-- Whether the character can go on an unquoted word. -/
def isWordChar (c : Char) : Bool :=
  !isBlank c && (c = '$' || !singleSymbols.contains c)

/-- Whether the character can follow a keyword of several words. -/
def endsWord (s : List Char) : Bool :=
  match s with
  | [] => true
  | c :: _ => isBlank c || singleSymbols.contains c

/-- What follows the words, written one after the other with white space between them. -/
def afterWords? : List String → List Char → Option (List Char)
  | [], s => some s
  | [word], s =>
    if word.toList.isPrefixOf (capitals (s.take word.length)) then some (s.drop word.length)
    else none
  | word :: next :: words, s =>
    if word.toList.isPrefixOf (capitals (s.take word.length)) then
      let rest := s.drop word.length
      if rest.head?.any isBlank then afterWords? (next :: words) (rest.dropWhile isBlank)
      else none
    else none

/-- The keyword of several words that starts here. -/
def compound? (s : List Char) : Option (Token × List Char) :=
  compoundWords.findSome? fun words =>
    match afterWords? words s with
    | some rest =>
      let text := " ".intercalate words
      if endsWord rest then some (⟨.word, text, text⟩, rest) else none
    | none => none

/-- The rest of a number: digits, at most one point and at most one exponent. -/
def numberTail (afterParameter : Bool) : Bool → Nat → List Char → List Char × List Char
  | _, _, [] => ([], [])
  | point, exponent, c :: rest =>
    if c.isDigit then
      let (text, after) := numberTail afterParameter point exponent rest
      (c :: text, after)
    else if c = '.' && !point && !afterParameter then
      let (text, after) := numberTail afterParameter true exponent rest
      (c :: text, after)
    else if (c = '-' || c = '+') && exponent = 1 && rest.head?.any Char.isDigit then
      let (text, after) := numberTail afterParameter point 2 rest
      (c :: text, after)
    else if (c = 'e' || c = 'E') && exponent = 0 then
      let (text, after) := numberTail afterParameter point 1 rest
      (c :: text, after)
    else ([], c :: rest)

def isHexDigit (c : Char) : Bool :=
  c.isDigit || ('a' ≤ c && c ≤ 'f') || ('A' ≤ c && c ≤ 'F')

def isBit (c : Char) : Bool := c = '0' || c = '1'

/-- A token that starts with a digit. -/
def numberToken (afterParameter : Bool) (c : Char) (rest : List Char) : Token × List Char :=
  let based (digit : Char → Bool) : Token × List Char :=
    let value := c :: rest.takeWhile fun d => !isBlank d && !singleSymbols.contains d
    let after := rest.dropWhile fun d => !isBlank d && !singleSymbols.contains d
    let digits := value.drop 2
    if !digits.isEmpty && digits.all digit then (Token.ofChars .taggedString digits, after)
    else (Token.ofChars .quoted value, after)
  match c, rest with
  | '0', 'x' :: _ => based isHexDigit
  | '0', 'X' :: _ => based isHexDigit
  | '0', 'b' :: _ => based isBit
  | '0', 'B' :: _ => based isBit
  | _, _ =>
    let (text, after) := numberTail afterParameter false 0 rest
    (Token.ofChars .number (c :: text), after)

/-- A token that starts with a dollar sign, given what follows the sign. -/
def dollarToken (rest : List Char) : Option (Token × List Char) :=
  let parameter := some (Token.ofChars .symbol ['$'], rest)
  match rest with
  | [] => none
  | '$' :: body =>
    (afterMark? ['$', '$'] body).map fun after => (Token.ofChars .dollarString [], after)
  | _ =>
    let tag := rest.takeWhile (· ≠ '$')
    match rest.dropWhile (· ≠ '$') with
    | [] => parameter
    | [_] => none
    | _ :: body =>
      if tag.all Char.isDigit || tag.any isBlank then parameter
      else
        (afterMark? ('$' :: tag ++ ['$']) body).map fun after =>
          (Token.ofChars .dollarString [], after)

/-- A string with a letter in front, given the letter and what follows the quote. -/
def taggedToken (letter : Char) (rest : List Char) : Option (Token × List Char) := do
  let lower := letter.toLower
  let (text, after) ← closeString (lower = 'e') rest
  if lower = 'b' && !text.all isBit then none
  else if lower = 'x' && !text.all isHexDigit then none
  else some (Token.ofChars .taggedString text, after)

/-- The operator that starts here, the longest one first. -/
def operator? (s : List Char) : Option (Token × List Char) :=
  operatorSymbols.findSome? fun symbol =>
    if symbol.toList.isPrefixOf s then
      some (Token.ofChars .symbol symbol.toList, s.drop symbol.length)
    else none

/-- The token at a character that is not white space. -/
def token? (afterParameter : Bool) (c : Char) (rest : List Char) : Option (Token × List Char) :=
  if c.isDigit then some (numberToken afterParameter c rest)
  else if c = '"' then
    (closeIdentifier rest).map fun (name, after) => (Token.ofChars .quoted name, after)
  else if c = '\'' then
    (closeString false rest).map fun (text, after) => (Token.ofChars .string text, after)
  else if c = '$' then dollarToken rest
  else if ['b', 'B', 'x', 'X', 'e', 'E', 'n', 'N'].contains c && rest.head? = some '\'' then
    taggedToken c (rest.drop 1)
  else
    match operator? (c :: rest) with
    | some found => some found
    | none =>
      if singleSymbols.contains c then some (Token.ofChars .symbol [c], rest)
      else
        match if afterParameter then none else compound? (c :: rest) with
        | some found => some found
        | none =>
          let text := c :: rest.takeWhile isWordChar
          let kind := if afterParameter then .variable else .word
          some (Token.ofChars kind text, rest.dropWhile isWordChar)

/-- The items of a script.  `sameLine` says whether the line of the last token goes on. -/
def items (steps : Nat) (afterParameter sameLine : Bool) (s : List Char) : Option (List Item) :=
  match steps with
  | 0 => none
  | steps + 1 =>
    match s with
    | [] => some []
    | '-' :: '-' :: rest =>
      (items steps afterParameter sameLine
        (rest.dropWhile fun c => !(c = '\n' || c = '\r'))).map (.remark sameLine :: ·)
    | '/' :: '*' :: rest =>
      match closeRemark (rest.length + 1) 1 rest with
      | some after => (items steps afterParameter sameLine after).map (.remark sameLine :: ·)
      | none => none
    | c :: rest =>
      if isBlank c then
        items steps afterParameter (sameLine && !(c = '\n' || c = '\r')) rest
      else
        match token? afterParameter c rest with
        | some (token, after) =>
          (items steps (token.isSymbol "$" || token.isSymbol "@") true after).map
            (.code token :: ·)
        | none => none

/-- Statements between semicolons, and the number of semicolons that carry a remark. -/
structure Script where
  statements : List (List Token)
  remarks : Nat
  deriving Repr

/-- The state of cutting a script: the statement at hand backwards, the finished ones, and
whether the last token was a semicolon, with or without a remark. -/
structure Cutting where
  current : List Token
  finished : List (List Token)
  afterStop : Bool
  counted : Bool
  pending : Bool
  remarks : Nat

/-- Give the pending remarks to the last token if that is a semicolon. -/
def Cutting.settle (state : Cutting) : Cutting :=
  if state.pending && state.afterStop && !state.counted then
    { state with counted := true, pending := false, remarks := state.remarks + 1 }
  else { state with pending := false }

def Cutting.step (state : Cutting) : Item → Cutting
  | .remark attached =>
    let state := { state with pending := true }
    if attached then state.settle else state
  | .code token =>
    if token.isSymbol ";" then
      let first := state.current.isEmpty && state.finished.isEmpty && !state.afterStop
      let own := state.pending && first
      let state := state.settle
      { current := []
        finished := state.current.reverse :: state.finished
        afterStop := true
        counted := own
        pending := false
        remarks := state.remarks + if own then 1 else 0 }
    else
      { state with current := token :: state.current, afterStop := false, pending := false }

/-- Cut a script at its semicolons. -/
def Script.ofItems (all : List Item) : Script :=
  let state := (all.foldl Cutting.step ⟨[], [], false, false, false, 0⟩).settle
  let statements := (state.current.reverse :: state.finished).reverse
  ⟨statements.filter fun tokens => !tokens.isEmpty, state.remarks⟩

/-- The statements of a text, unless a token in it is never closed. -/
def Script.ofText? (text : String) : Option Script :=
  (items (text.length + 1) false false text.toList).map Script.ofItems

end QueryTyping.Sql
