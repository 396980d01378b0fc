import QueryTyping.Sql.Calls
import QueryTyping.Text.Blank

/-!
# Values

Literals, parenthesised values, references and what may be attached to them:
fields, subscripts, casts and the access operators of JSON.  A reference has a
name and up to three qualifiers; a longer one is a field of a reference.
-/

namespace QueryTyping.Sql

open Reader

/-- An option after a star, such as the columns it leaves out. -/
def starOption (g : Grammar) (words : List String) : Reader Unit := do
  match ← takeIf fun token => token.kind ≠ .string && words.contains token.upper with
  | some _ =>
    if ← sees fun token => token.isSymbol "(" then
      let _ ← wrappedList g.named
    else
      let _ ← explicitlyNamed g
  | none => pure ()

/-- What follows an opening parenthesis: a query, a value, a tuple or nothing.  A list that
starts with a query is that query. -/
def parenthesized (g : Grammar) : Reader Expr := do
  match ← g.query with
  | some (.values ctes) =>
    let query ← setOperations g (.values ctes)
    let _ ← clauses g
    close
    return .subquery query
  | some query =>
    close
    return .subquery query
  | none =>
    let items ← commaList g.named
    let listed := (← previous).any (·.isSymbol ",")
    match items with
    | .subquery inner :: _ =>
      let combined ← setOperationsAfter g (.paren [] inner true)
      let added ← clauses g
      close
      return .subquery (combined.getD (.paren [] inner added.seen.isEmpty))
    | [value] =>
      close
      return if listed then .operation "()" [value] else .paren value
    | values =>
      close
      return .operation "()" values

/-- A literal, a star or something in parentheses. -/
def primary (g : Grammar) : Reader (Option Expr) := do
  match ← peek with
  | none => return none
  | some token =>
    match token.kind with
    | .string =>
      skip
      let parts ← iterate (fun (acc : List Expr) => do
        match ← takeIf fun next => next.kind = .string with
        | some next => return some (acc ++ [.string next.text])
        | none => return none) [.string token.text]
      match parts with
      | [part] => return some part
      | _ => return some (.operation "||" parts)
    | .number =>
      skip
      return some (.number token.text)
    | .taggedString =>
      skip
      return some (.operation "string" [])
    | .dollarString =>
      skip
      return some (.operation "string" [])
    | .word =>
      if ← word "NULL" then return some .null
      else if ← word "TRUE" then return some (.boolean true)
      else if ← word "FALSE" then return some (.boolean false)
      else return none
    | .symbol =>
      if ← symbol "*" then
        starOption g ["EXCEPT", "EXCLUDE"]
        starOption g ["REPLACE"]
        starOption g ["RENAME"]
        return some (.star [])
      else if ← symbol "(" then return some (← parenthesized g)
      else if ← seesPair (fun dot => dot.isSymbol ".") fun digits => digits.kind = .number then
        skip
        skip
        return some (.number ("0." ++ (((← previous).map Token.text).getD "")))
      else return none
    | _ => return none

/-- A literal, a call or a name. -/
def reference (g : Grammar) : Reader (Option Expr) := do
  match ← primary g with
  | some value => return some value
  | none =>
    match ← call g true false with
    | some value => return some value
    | none =>
      match ← identifier Token.isName with
      | some found => return some found.expr
      | none =>
        if ← seesPair (fun token => token.isWord "VALUES") fun next => !next.isSymbol "(" then
          skip
          return some (.column [] (((← previous).map Token.text).getD ""))
        else return none

/-- A subscript or a slice. -/
def subscript (g : Grammar) : Reader (Option Unit) := do
  let first ← explicitlyNamed g
  if ← symbol ":" then
    let _ ← g.unary
    if ← symbol ":" then
      let _ ← g.unary
    return some ()
  else return first.map fun _ => ()

/-- Subscripts after a value, or a list in brackets where no value stands. -/
def subscripts (g : Grammar) (base : Option Expr) : Reader (Option Expr) :=
  iterate (fun (base : Option Expr) => do
    if ← symbol "[" then
      let _ ← commaList (subscript g)
      require (← symbol "]")
      return some (some (.operation "[]" base.toList))
    else return none) base

/-- A member of a value, after the point. -/
def member (g : Grammar) (base : Expr) : Reader Expr := do
  let named (name : String) : Expr :=
    match base with
    | .column qualifiers last =>
      if qualifiers.length < 3 then .column (qualifiers ++ [last]) name else .field base name
    | _ => .field base name
  match ← call g true true with
  | some value => return .operation "." [base, value]
  | none =>
    match ← primary g with
    | some (.star _) =>
      match base with
      | .column qualifiers last =>
        return if qualifiers.length < 3 then .star (qualifiers ++ [last]) else .allFields base
      | _ => return .allFields base
    | some (.string text) => return named text
    | some (.number text) => return named text
    | some value => return .operation "." [base, value]
    | none =>
      match ← demand (← identifier Token.isAnyName) with
      | .name text => return named text
      | .value value => return .operation "." [base, value]

/-- Symbols that reach into a JSON value. -/
def accessSymbols : List String := ["->", "->>", "#>", "#>>", "?"]

/-- Members, casts, subscripts and JSON access after a value. -/
def attached (g : Grammar) (value : Expr) : Reader (Option Expr) := do
  let start ← subscripts g (some value)
  iterate (fun (base : Option Expr) => do
    let base ← demand base
    if ← symbol "." then return some (← subscripts g (some (← member g base)))
    else if ← symbol "::" then
      let _ ← demand (← typeName g false)
      return some (← subscripts g (some (.cast base)))
    else
      match ← takeIf fun token => accessSymbols.any token.isSymbol with
      | some operator =>
        let key ← do
          match ← reference g with
          | some key => pure key
          | none => demand (← g.bitwise)
        return some (← subscripts g (some (.operation operator.text [base, key])))
      | none => return none) start

/-- A reference with what is attached to it. -/
def column (g : Grammar) : Reader (Option Expr) := do
  match ← reference g with
  | some value => attached g value
  | none => subscripts g none

/-- Whether an interval's text has a unit in it: a digit with a letter after it. -/
def namesUnit : List Char → Bool
  | [] => false
  | c :: rest =>
    (c.isDigit && (rest.dropWhile Text.isBlank).head?.any Char.isAlpha) || namesUnit rest

/-- `INTERVAL` with a quantity and a unit.  A text that names its unit takes none. -/
def interval (g : Grammar) : Reader (Option Expr) := do
  let start ← get
  if ← word "INTERVAL" then
    let quantity ← if ← sees fun token => token.kind = .string then primary g else g.term
    let refused := match quantity with
      | none => true
      | some (.column [] name) => name.toUpper = "IS"
      | some _ => false
    if refused then
      set start
      return none
    let before ← get
    let unit : Bool ← do
      match ← call g true false with
      | some _ => pure true
      | none =>
        if ← sees fun token => token.isWord "AS" then pure false
        else pure (← anyWord).isSome
    match quantity with
    | some (.string text) =>
      if unit && namesUnit text.toList then set before
    | _ => pure ()
    if ← phrase ["TO"] then
      let _ ← demand (← anyWord)
    return some (.operation "INTERVAL" quantity.toList)
  else return none

/-- A literal with a type in front. -/
def typedLiteral (g : Grammar) : Reader (Option Expr) := do
  let start ← get
  let found ← do
    match ← typeName g true with
    | none => pure none
    | some type =>
      let literal : Bool := match ← peek with
        | some token => token.kind = .string || token.kind = .number
        | none => false
      if !literal then pure none
      else
        match ← primary g with
        | some (.operation _ _) => pure none
        | some value =>
          let value ← demand (← attached g value)
          pure (some (if type.word = "JSON" then .operation type.word [value]
            else .cast value))
        | none => pure none
  match found with
  | some value => return some value
  | none =>
    set start
    return none

/-- An interval, a literal with a type in front, or a reference. -/
def operand (g : Grammar) : Reader (Option Expr) := do
  match ← interval g with
  | some value => return some value
  | none =>
    match ← typedLiteral g with
    | some value => return some value
    | none =>
      match ← column g with
      | some value => attached g value
      | none => return none

end QueryTyping.Sql
