import QueryTyping.Sql.Token
import QueryTyping.Sql.Tree

/-!
# Readers over tokens

A reader looks at the tokens ahead and moves over those it takes.  It has three
outcomes: it takes something, it finds nothing and stays where it is, or it
refuses the statement.  The first two are the two values of an `Option`, the
last is the failure of the reader.

Recursion goes through a `Grammar`, a record of readers for the phrases that can
occur inside themselves.  A grammar of depth `n + 1` is built from one of depth
`n`, and each use of the inner grammar follows a token that was taken, so a
depth of the number of tokens is enough.
-/

namespace QueryTyping.Sql

/-- A place between tokens. -/
structure Place where
  previous : Option Token
  ahead : List Token

abbrev Reader := StateT Place Option

namespace Reader

variable {α β : Type}

/-- The next token. -/
def peek : Reader (Option Token) := do
  return (← get).ahead.head?

/-- The token after the next one. -/
def peekSecond : Reader (Option Token) := do
  return (← get).ahead[1]?

/-- The token last taken. -/
def previous : Reader (Option Token) := do
  return (← get).previous

/-- Move over one token. -/
def skip : Reader Unit := do
  match (← get).ahead with
  | token :: rest => set (Place.mk (some token) rest)
  | [] => pure ()

/-- Take the next token if it has the property. -/
def takeIf (p : Token → Bool) : Reader (Option Token) := do
  match (← get).ahead with
  | token :: rest =>
    if p token then
      set (Place.mk (some token) rest)
      return some token
    else return none
  | [] => return none

/-- Whether the next token has the property. -/
def sees (p : Token → Bool) : Reader Bool := do
  return (← peek).any p

/-- Whether the next two tokens have the properties. -/
def seesPair (p q : Token → Bool) : Reader Bool := do
  return (← peek).any p && (← peekSecond).any q

/-- Take a symbol. -/
def symbol (s : String) : Reader Bool := do
  return (← takeIf fun token => token.isSymbol s).isSome

/-- Take a keyword. -/
def word (w : String) : Reader Bool := do
  return (← takeIf fun token => token.isWord w).isSome

/-- Take one of several keywords. -/
def oneOf (ws : List String) : Reader (Option String) := do
  return (← takeIf fun token => token.isOneOf ws).map Token.upper

/-- Take words by their spelling, all of them or none. -/
def phrase (ws : List String) : Reader Bool := do
  let place ← get
  let taken := place.ahead.take ws.length
  if taken.length = ws.length && (taken.zip ws).all fun (token, w) => token.reads w then
    set (Place.mk taken.getLast? (place.ahead.drop ws.length))
    return true
  else return false

/-- The first of the readers that takes something. -/
def anyOf : List (Reader Bool) → Reader Bool
  | [] => return false
  | reader :: readers => do
    if ← reader then return true else anyOf readers

/-- Take the first of the phrases that is there. -/
def anyPhrase (phrases : List (List String)) : Reader Bool :=
  anyOf (phrases.map phrase)

/-- Refuse the statement unless the condition holds. -/
def require (condition : Bool) : Reader Unit :=
  if condition then pure () else failure

/-- Refuse the statement if nothing was found. -/
def demand (found : Option α) : Reader α :=
  match found with
  | some value => pure value
  | none => failure

/-- Read, and go back if nothing was found or the reader refused. -/
def attempt (reader : Reader (Option α)) : Reader (Option α) := fun place =>
  match reader place with
  | some (some value, after) => some (some value, after)
  | _ => some (none, place)

/-- The first reader that finds something. -/
def orElse (first second : Reader (Option α)) : Reader (Option α) := do
  match ← first with
  | some value => return some value
  | none => second

/-- Take a closing parenthesis or refuse. -/
def close : Reader Unit := do
  require (← symbol ")")

/-- Repeat a step while it finds something. -/
def iterate (step : α → Reader (Option α)) (start : α) : Reader α := do
  go step ((← get).ahead.length + 1) start
where
  go (step : α → Reader (Option α)) : Nat → α → Reader α
    | 0, value => pure value
    | fuel + 1, value => do
      match ← step value with
      | some next => go step fuel next
      | none => return value

/-- Items between commas; an item that is missing counts for nothing. -/
def commaList (item : Reader (Option α)) : Reader (List α) := do
  let first ← item
  let items ← iterate (fun (acc : List α) => do
    if ← symbol "," then
      match ← item with
      | some value => return some (value :: acc)
      | none => return some acc
    else return none) first.toList
  return items.reverse

/-- Items between commas, in parentheses. -/
def wrappedList (item : Reader (Option α)) : Reader (List α) := do
  require (← symbol "(")
  let items ← commaList item
  close
  return items

/-- Something in parentheses. -/
def wrapped (inner : Reader α) : Reader α := do
  require (← symbol "(")
  let value ← inner
  close
  return value

/-- Operands joined by operators to the left; an operator without an operand is refused. -/
def chain (operand : Reader (Option Expr)) (operator : Token → Bool) : Reader (Option Expr) := do
  let first ← operand
  iterate (fun (left : Option Expr) => do
    match ← takeIf operator with
    | some token =>
      let left ← demand left
      let right ← demand (← operand)
      return some (some (.operation token.upper [left, right]))
    | none => return none) first

end Reader

/-- How a FROM item is read. -/
structure SourceUse where
  /-- A column list may follow instead of an alias. -/
  columnList : Bool := false
  /-- The joins that follow hang on the item. -/
  joins : Bool := false
  /-- `SET` follows the item and is no alias. -/
  update : Bool := false

/-- A type as written. -/
structure TypeName where
  word : String
  /-- Whether it has sizes in parentheses. -/
  sized : Bool

/-- Readers for the phrases that can occur inside themselves. -/
structure Grammar where
  /-- A value, with operators of every precedence. -/
  expression : Reader (Option Expr)
  /-- A value with an optional alias. -/
  named : Reader (Option Expr)
  equality : Reader (Option Expr)
  bitwise : Reader (Option Expr)
  term : Reader (Option Expr)
  factor : Reader (Option Expr)
  unary : Reader (Option Expr)
  /-- A typed literal, a reference or a call, with what may be attached to it. -/
  operand : Reader (Option Expr)
  column : Reader (Option Expr)
  /-- A type; `true` if a column of that type may stand here instead. -/
  typeName : Bool → Reader (Option TypeName)
  /-- A query with its set operations. -/
  query : Reader (Option Query)
  /-- A query, possibly in parentheses, without set operations. -/
  queryOperand : Reader (Option Query)
  statement : Reader (Option Statement)
  source : SourceUse → Reader Source
  joins : Reader (List Join)

/-- The grammar of depth zero refuses everything. -/
def Grammar.exhausted : Grammar where
  expression := failure
  named := failure
  equality := failure
  bitwise := failure
  term := failure
  factor := failure
  unary := failure
  operand := failure
  column := failure
  typeName _ := failure
  query := failure
  queryOperand := failure
  statement := failure
  source _ := failure
  joins := failure

end QueryTyping.Sql
