import QueryTyping.Sql.Lexer
import QueryTyping.Sql.Sources

/-!
# Queries and statements

SELECT with its clauses, WITH lists, and the statements that change rows.  Other
statements are recognised only so far as to tell that they are other.
`Statement.ofText?` reads a text that holds exactly one statement.
-/

namespace QueryTyping.Sql

open Reader

/-- `INTO` with the table that a query creates. -/
def intoTable (g : Grammar) : Reader Unit := do
  if ← word "INTO" then
    let _ ← oneOf ["TEMPORARY", "TEMP"]
    let _ ← phrase ["UNLOGGED"]
    let _ ← word "TABLE"
    let _ ← g.source { columnList := true }

/-- `ALL` or `DISTINCT` at the start of a select list. -/
def selectQuantifier (g : Grammar) : Reader Unit := do
  if ← sees fun token => token.isOneOf ["ALL", "DISTINCT"] then
    match ← peekSecond with
    | some next =>
      if !next.isSymbol "." then
        let all ← word "ALL"
        if ← word "DISTINCT" then
          require (!all)
          if ← word "ON" then
            if ← symbol "(" then
              let _ ← commaList g.named
              close
            else
              let _ ← g.named
    | none => pure ()

/-- A select list and its clauses, after `SELECT`.  The FROM list may have come first. -/
def selectBody (g : Grammar) (leading : Option Source) : Reader Query := do
  selectQuantifier g
  if ← word "AS" then
    let _ ← anyPhrase [["STRUCT"], ["VALUE"]]
  let outputs ← commaList g.named
  intoTable g
  let first ← do
    match leading with
    | some source => pure (some source)
    | none => if ← word "FROM" then pure (some (← g.source {})) else pure none
  let joined ← g.joins
  let added ← clauses g
  return .select [] outputs first joined added.grouping

/-- Put a WITH list in front of a query's own. -/
def Query.withCtes (outer : List Cte) : Query → Query
  | select ctes outputs first joins grouping => select (outer ++ ctes) outputs first joins grouping
  | combined ctes operator left right => combined (outer ++ ctes) operator left right
  | paren ctes inner true => if ctes.isEmpty then inner.withCtes outer else paren (outer ++ ctes) inner true
  | paren ctes inner false => paren (outer ++ ctes) inner false
  | values ctes => values (outer ++ ctes)

/-- Put a WITH list in front of a statement's own; other statements admit none. -/
def Statement.withCtes? (outer : List Cte) : Statement → Option Statement
  | query (.values _) => none
  | query body => some (query (body.withCtes outer))
  | change kind ctes target sources returning =>
    some (change kind (outer ++ ctes) target sources returning)
  | other => none

/-- An element of a WITH list. -/
def cte (g : Grammar) : Reader Cte := do
  let name ← demand (← sourceAlias g Token.isName)
  require (!name.isEmpty)
  require (← word "AS")
  if !(← phrase ["NOT", "MATERIALIZED"]) then
    let _ ← phrase ["MATERIALIZED"]
  return .mk name (← wrapped do demand (← g.statement))

/-- `SEARCH` and `CYCLE` after a WITH list. -/
def searchOrder : Reader Unit := do
  let _ ← phrase ["SEARCH"]
  if ← anyPhrase [["BREADTH"], ["DEPTH"], ["CYCLE"]] then
    let _ ← phrase ["FIRST", "BY"]
    let _ ← identifier Token.isAnyName
    if ← phrase ["SET"] then
      let _ ← identifier Token.isAnyName
    if ← phrase ["USING"] then
      let _ ← identifier Token.isAnyName

/-- A WITH list after its keyword. -/
def withList (g : Grammar) : Reader (List Cte) := do
  let _ ← word "RECURSIVE"
  let first ← cte g
  let ctes ← iterate (fun (acc : List Cte) => do
    if ← anyOf [symbol ",", word "WITH"] then
      let _ ← word "WITH"
      return some (acc ++ [← cte g])
    else return none) [first]
  searchOrder
  return ctes

/-- A query without the set operations after it; with `nested` it may be in parentheses. -/
def queryCore (g : Grammar) (nested : Bool) : Reader (Option Query) := do
  if ← word "SELECT" then return some (← selectBody g none)
  else if ← sees fun token => token.isWord "VALUES" then
    return (← valueList g).map fun _ => .values []
  else if ← word "FROM" then
    let source ← g.source { joins := true }
    if ← word "SELECT" then return some (← selectBody g (some source))
    else return some (.select [] [.star []] (some source) [] [])
  else if ← word "TABLE" then
    let source ← g.source {}
    return some (.select [] [.star []] (some source) [] [])
  else if !nested then return none
  else if ← symbol "(" then
    match ← parenthesizedSource g with
    | .query body none => return some (.paren [] body true)
    | _ => failure
  else return none

/-- A WITH list and the statement after it. -/
def withStatement (g : Grammar) : Reader (Option Statement) := do
  if ← word "WITH" then
    let ctes ← withList g
    let body ← demand (← g.statement)
    match body.withCtes? ctes with
    | some statement => return some statement
    | none => failure
  else return none

/-- A query after a WITH list. -/
def withQuery (g : Grammar) : Reader (Option Query) := do
  match ← withStatement g with
  | some (.query body) => return some body
  | some _ => failure
  | none => return none

/-- Whether the next tokens start a query, rather than name a column. -/
def startsTable : Reader Bool := do
  if ← sees fun token => token.isWord "TABLE" then
    return (← peekSecond).any fun next => next.isName || next.kind = .quoted || next.isWord "ONLY"
  else return true

/-- A query with its set operations. -/
def query (g : Grammar) : Reader (Option Query) := do
  match ← withQuery g with
  | some found => return some found
  | none =>
    if !(← startsTable) then return none
    match ← queryCore g false with
    | some found => return some (← setOperations g found)
    | none => return none

/-- A query, possibly in parentheses, without set operations. -/
def queryOperand (g : Grammar) : Reader (Option Query) := do
  match ← withQuery g with
  | some found => return some found
  | none => queryCore g true

/-- `RETURNING` with its outputs. -/
def returning (g : Grammar) : Reader (Option (List Expr)) := do
  if ← word "RETURNING" then
    let outputs ← commaList g.named
    require (!outputs.isEmpty)
    if ← word "INTO" then
      let _ ← identifier Token.isName
    return some outputs
  else return none

/-- `ON CONFLICT` with its target and action. -/
def conflict (g : Grammar) : Reader Unit := do
  let onConflict ← phrase ["ON", "CONFLICT"]
  let onDuplicate ← if onConflict then pure false else phrase ["ON", "DUPLICATE", "KEY"]
  if onConflict || onDuplicate then
    if onConflict then
      if ← phrase ["ON", "CONSTRAINT"] then
        let _ ← identifier Token.isAnyName
      else if ← symbol "(" then
        let _ ← commaList (identifier Token.isAnyName)
        close
    let _ ← condition g "WHERE"
    let updates ← do
      if ← phrase ["DO", "NOTHING"] then pure false
      else if ← anyPhrase [["DO", "UPDATE"], ["UPDATE"]] then pure true
      else
        require ((← oneOf ["ABORT", "FAIL", "IGNORE", "REPLACE", "ROLLBACK"]).isSome)
        pure false
    if updates then
      let _ ← word "SET"
      let _ ← commaList g.equality
    let _ ← condition g "WHERE"

/-- The rows that an INSERT puts in. -/
def insertedRows (g : Grammar) : Reader Unit := do
  match ← valueList g with
  | some _ => pure ()
  | none =>
    match ← do
      match ← withQuery g with
      | some found => pure (some found)
      | none => queryCore g true with
    | some found =>
      let _ ← setOperations g found
      let _ ← clauses g
    | none => pure ()

/-- INSERT after its keyword. -/
def insert (g : Grammar) : Reader Statement := do
  let _ ← word "INTO"
  let _ ← word "TABLE"
  let target ← g.source { columnList := true }
  let target ← do
    if ← sees fun token => token.isWord "AS" then
      let label ← sourceAlias g Token.isTableAlias
      pure (match target with
        | .table qualifiers name _ joins => .table qualifiers name label joins
        | other => other)
    else pure target
  let early ← returning g
  let _ ← phrase ["DEFAULT", "VALUES"]
  insertedRows g
  conflict g
  let late ← if early.isSome then pure none else returning g
  return .change .insert [] (some target) [] (early.orElse fun _ => late)

/-- What an UPDATE has after its target. -/
structure UpdateParts where
  source : Option Source := none
  outputs : Option (List Expr) := none

/-- A FROM item of an UPDATE, with the joins that hang on it. -/
def updateSource (g : Grammar) : Reader Source := do
  let found ← g.source { joins := true }
  match found with
  | .query _ _ =>
    if ← sees fun token => token.isWord "JOIN" then
      let _ ← g.joins
  | _ => pure ()
  return found

/-- UPDATE after its keyword. -/
def update (g : Grammar) : Reader Statement := do
  let target ← g.source { joins := true, update := true }
  let parts ← iterate (fun (parts : UpdateParts) => do
    if ← word "SET" then
      let _ ← commaList g.equality
      return some parts
    else
      match ← returning g with
      | some outputs => return some { parts with outputs := some outputs }
      | none =>
        if ← word "FROM" then return some { parts with source := some (← updateSource g) }
        else if ← condition g "WHERE" then return some parts
        else if ← orderBy g then return some parts
        else if (← limit g).isSome then return some parts
        else return none) {}
  return .change .update [] (some target) parts.source.toList parts.outputs

/-- DELETE after its keyword. -/
def delete (g : Grammar) : Reader Statement := do
  if !(← sees fun token => token.isWord "FROM") then
    let _ ← commaList do return some (← g.source {})
  let early ← returning g
  let target ← do
    if ← word "FROM" then pure (some (← g.source { joins := true })) else pure none
  let used ← do
    if ← word "USING" then commaList do return some (← g.source { joins := true }) else pure []
  let _ ← condition g "WHERE"
  let late ← if early.isSome then pure none else returning g
  let _ ← orderBy g
  let _ ← limit g
  return .change .delete [] target used (early.orElse fun _ => late)

/-- A statement that starts with a value or a query. -/
def queryStatement (g : Grammar) : Reader (Option Statement) := do
  match ← if ← sees fun token => token.isWord "TABLE" then pure none else named g with
  | some value =>
    match ← setOperationsAfter g value.asQuery with
    | some combined =>
      let _ ← clauses g
      return some (.query combined)
    | none =>
      match value with
      | .subquery inner =>
        let joined ← g.joins
        let added ← clauses g
        return some (.query (.paren [] inner (joined.isEmpty && added.seen.isEmpty)))
      | _ => return some .other
  | none =>
    match ← queryCore g false with
    | some found =>
      let found ← setOperations g found
      let _ ← g.joins
      let _ ← clauses g
      return some (.query found)
    | none => return none

/-- A statement. -/
def statement (g : Grammar) : Reader (Option Statement) := do
  if ← word "INSERT" then return some (← insert g)
  else if ← word "UPDATE" then return some (← update g)
  else if ← word "DELETE" then return some (← delete g)
  else
    match ← withStatement g with
    | some found =>
      let _ ← clauses g
      return some found
    | none => queryStatement g

/-- The grammar over an inner one. -/
def Grammar.next (g : Grammar) : Grammar where
  expression := QueryTyping.Sql.expression g
  named := QueryTyping.Sql.named g
  equality := QueryTyping.Sql.equality g
  bitwise := QueryTyping.Sql.bitwise g
  term := QueryTyping.Sql.term g
  factor := QueryTyping.Sql.factor g
  unary := QueryTyping.Sql.unary g
  operand := QueryTyping.Sql.operand g
  column := QueryTyping.Sql.column g
  typeName := QueryTyping.Sql.typeName g
  query := QueryTyping.Sql.query g
  queryOperand := QueryTyping.Sql.queryOperand g
  statement := QueryTyping.Sql.statement g
  source := QueryTyping.Sql.source g
  joins := QueryTyping.Sql.joins g

/-- The grammar of a depth. -/
def Grammar.ofDepth : Nat → Grammar
  | 0 => .exhausted
  | depth + 1 => (Grammar.ofDepth depth).next

/-- The statement that the tokens make up, unless they do not. -/
def Statement.ofTokens? (tokens : List Token) : Option Statement :=
  match (statement (Grammar.ofDepth (tokens.length + 1))).run ⟨none, tokens⟩ with
  | some (some found, ⟨_, []⟩) => some found
  | _ => none

/-- The only statement of a text.  A semicolon that carries a remark counts as a statement of
its own. -/
def Statement.ofText? (text : String) : Option Statement :=
  match Script.ofText? text with
  | some ⟨[tokens], 0⟩ => ofTokens? tokens
  | _ => none

end QueryTyping.Sql
