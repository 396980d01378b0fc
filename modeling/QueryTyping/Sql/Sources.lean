import QueryTyping.Sql.Operators

/-!
# FROM items

Tables, subqueries, lists of values, calls and items in parentheses, with their
aliases, and the joins between them.
-/

namespace QueryTyping.Sql

open Reader

/-- A column of an alias: a name, perhaps with a type. -/
def aliasColumn (g : Grammar) : Reader (Option Unit) := do
  match ← identifier Token.isAnyName with
  | some _ =>
    let _ ← word "AS"
    let _ ← typeName g false
    return some ()
  | none => return none

/-- An alias of a FROM item; a list of columns alone is the empty alias. -/
def sourceAlias (g : Grammar) (allowed : Token → Bool) : Reader (Option String) := do
  if ← sees fun token => token.isOneOf ["LIMIT", "OFFSET"] then return none
  let explicit ← word "AS"
  let name ← do
    match ← plainName fun token => if explicit then token.isAnyName else allowed token with
    | some name => pure (some name)
    | none => pure ((← takeIf fun token => token.kind = .string).map Token.text)
  let start ← get
  let columns ← do
    if ← symbol "(" then
      let columns ← commaList (aliasColumn g)
      if columns.isEmpty then
        set start
        pure false
      else
        close
        pure true
    else pure false
  return match name with
    | some name => some name
    | none => if columns then some "" else none

/-- A list of values, each a row or a single value. -/
def valueRows (g : Grammar) : Reader Unit := do
  let value : Reader (Option Unit) := do
    if ← word "DEFAULT" then return some ()
    else return (← g.named).map fun _ => ()
  let _ ← commaList do
    if ← symbol "(" then
      let _ ← commaList value
      close
      return some ()
    else return (← g.named).map fun _ => ()

/-- `VALUES` with its rows, possibly in parentheses, and an alias. -/
def valueList (g : Grammar) : Reader (Option (Option String)) := do
  let opened ← seesPair (·.isSymbol "(") (·.isWord "VALUES")
  if opened then skip
  if ← word "VALUES" then
    valueRows g
    let inner ← sourceAlias g Token.isTableAlias
    if opened then close
    match inner with
    | some name => return some (some name)
    | none => return some (← sourceAlias g Token.isTableAlias)
  else return none

/-- `UNNEST` with its arrays and an alias. -/
def unnest (g : Grammar) (aliased : Bool) : Reader (Option (Option String)) := do
  if ← seesPair (·.isWord "UNNEST") (·.isSymbol "(") then
    skip
    let _ ← wrappedList g.equality
    let _ ← ordinality
    if aliased then return some (← sourceAlias g Token.isTableAlias) else return some none
  else return none
where
  ordinality : Reader Bool := do
    if ← seesPair (·.isWord "WITH") (·.isWord "ORDINALITY") then
      skip
      skip
      return true
    else return false

/-- Query clauses of an item in parentheses, after its joins. -/
def sourceClauses (g : Grammar) : Reader Bool := do
  return !(← clauses g).seen.isEmpty

/-- A FROM item that starts with an opening parenthesis that was taken. -/
def parenthesizedSource (g : Grammar) : Reader Source := do
  let inner ← g.source {}
  match inner with
  | .query body none =>
    let combined ← setOperationsAfter g (.paren [] body true)
    let joins ← g.joins
    let _ ← clauses g
    close
    let label ← sourceAlias g Token.isTableAlias
    let _ ← tableSample g
    return match combined with
      | some query => .query query label
      | none => if joins.isEmpty then .query body label else .group inner joins label
  | _ =>
    let joins ← g.joins
    let _ ← clauses g
    close
    let label ← sourceAlias g Token.isTableAlias
    let _ ← tableSample g
    return .group inner joins label

/-- `LATERAL` with what it stands before. -/
def lateral (g : Grammar) : Reader (Option Source) := do
  if ← word "LATERAL" then
    let inner ← do
      if ← symbol "(" then
        match ← parenthesizedSource g with
        | .query _ label => pure (some label)
        | .group _ _ label => pure (some label)
        | _ => pure (some none)
      else
        match ← g.query with
        | some _ => pure (some none)
        | none => unnest g true
    match inner with
    | some (some name) => return some (.derived (some name))
    | some none =>
      let _ ← unnest.ordinality
      return some (.derived (← sourceAlias g Token.isTableAlias))
    | none =>
      let part : Reader (Option String) := do
        match ← call g true false with
        | some _ => return some ""
        | none => plainName Token.isName
      let name ← demand (← part)
      let _ ← iterate (fun (_ : Unit) => do
        if ← symbol "." then
          let _ ← demand (← part)
          return some ()
        else return none) ()
      let _ ← unnest.ordinality
      let label ← sourceAlias g Token.isTableAlias
      return some (.derived (label.orElse fun _ => if name.isEmpty then none else some name))
  else return none

/-- What a dotted name of a FROM item leads to. -/
inductive TablePart where
  | name (text : String)
  | value (name : String)

/-- A part of a dotted name: a call, a name, a string or a parameter. -/
def tablePart (g : Grammar) (calls : Bool) : Reader (Option TablePart) := do
  match ← if calls then call g false false else pure none with
  | some _ => return some (.value "")
  | none =>
    match ← identifier Token.isName with
    | some (.name text) => return some (.name text)
    | some (.value (.parameter name)) => return some (.value name)
    | some (.value _) => return some (.value "")
    | none =>
      match ← takeIf fun token => token.kind = .string with
      | some token => return some (.name token.text)
      | none => return none

/-- The item that a dotted name stands for: a table with up to two qualifiers, or something
known by its last part. -/
def namedSource (parts : List TablePart) (joins : List Join) (label : Option String) : Source :=
  match parts.reverse with
  | .name name :: qualifiers =>
    let named : List String := qualifiers.reverse.map fun
      | .name text => text
      | .value text => text
    if qualifiers.length ≤ 2 then .table named name label joins
    else .derived (label.orElse fun _ => some name)
  | .value name :: _ => .derived (label.orElse fun _ => if name.isEmpty then none else some name)
  | [] => .derived label

/-- A dotted name. -/
def tableParts (g : Grammar) (calls : Bool) : Reader (List TablePart) := do
  let first ← demand (← tablePart g calls)
  let parts ← iterate (fun (acc : List TablePart) => do
    if ← symbol "." then return some (acc ++ [← demand (← tablePart g calls)])
    else return none) [first]
  return parts

/-- A column list after a table that rows are put into; a query in parentheses is not one. -/
def columnList (g : Grammar) : Reader Unit := do
  let start ← get
  if ← symbol "(" then
    if ← sees fun token => token.isSymbol "(" || token.isOneOf ["SELECT", "WITH"] then set start
    else
      let _ ← commaList (aliasColumn g)
      close

/-- A table, a call or a list of calls. -/
def plainSource (g : Grammar) (use : SourceUse) : Reader Source := do
  let rows ← seesPair (·.reads "ROWS") (·.reads "FROM")
  let parts ← do
    if rows then
      skip
      skip
      let _ ← wrappedList do return some (← g.source {})
      pure []
    else
      let _ ← word "ONLY"
      let parts ← tableParts g (!use.columnList)
      let _ ← subscripts g (some .null)
      pure parts
  let _ ← symbol "*"
  if use.columnList then
    columnList g
    return namedSource parts [] none
  let allowed (token : Token) : Bool :=
    token.isTableAlias && !(use.update && token.isWord "SET")
  let label ← sourceAlias g allowed
  let _ ← tableSample g
  let joins ← if use.joins then g.joins else pure []
  let label ← do
    if ← unnest.ordinality then sourceAlias g Token.isTableAlias else pure label
  return namedSource parts joins label

/-- A FROM item. -/
def source (g : Grammar) (use : SourceUse) : Reader Source := do
  match ← lateral g with
  | some found => return found
  | none =>
    match ← unnest g true with
    | some label => return .derived label
    | none =>
      match ← valueList g with
      | some label => return .derived label
      | none =>
        if ← symbol "(" then parenthesizedSource g
        else if ← sees fun token => token.isOneOf ["SELECT", "WITH", "FROM"] then
          return .query (← demand (← g.query)) none
        else plainSource g use

/-- The way an item is joined: whether a method was named, the side, and the kind. -/
structure JoinWords where
  method : Bool
  side : JoinSide
  kind : Option String

/-- The words in front of `JOIN`. -/
def joinWordsAhead : Reader JoinWords := do
  let method ← oneOf ["ASOF", "NATURAL", "POSITIONAL"]
  let side ← oneOf ["LEFT", "RIGHT", "FULL"]
  let kind ← oneOf ["ANTI", "CROSS", "INNER", "OUTER", "SEMI", "STRAIGHT_JOIN"]
  let side := match side with
    | some "LEFT" => .left
    | some "RIGHT" => .right
    | some _ => .full
    | none => if kind = some "CROSS" then .cross else .inner
  return ⟨method.isSome, side, kind⟩

/-- `ON` or `USING` with what follows. -/
def joinCondition (g : Grammar) : Reader (Option (Option Expr)) := do
  if ← word "ON" then return some (← g.expression)
  else if ← word "USING" then
    if ← symbol "(" then
      let _ ← commaList g.column
      close
    else
      let _ ← commaList g.column
    return some none
  else return none

/-- Hang joins on a table. -/
def Source.withJoins (joins : List Join) : Source → Source
  | table qualifiers name label _ => table qualifiers name label joins
  | other => other

/-- An item joined to those before it.  Joins that follow an item without a condition of its own
hang on it if a condition comes after them. -/
def join (g : Grammar) : Reader (Option Join) := do
  if ← symbol "," then
    match ← attempt do return some (← g.source {}) with
    | some source => return some (.mk .comma source none)
    | none => return none
  else
    let start ← get
    let words ← joinWordsAhead
    if (← word "JOIN") || words.kind = some "STRAIGHT_JOIN" then
      let source ← g.source {}
      match ← joinCondition g with
      | some condition => return some (.mk words.side source condition)
      | none =>
        if words.method || words.kind = some "CROSS" then
          return some (.mk words.side source none)
        else
          let before ← get
          let inner ← g.joins
          match ← if inner.isEmpty then pure none else joinCondition g with
          | some condition => return some (.mk words.side (source.withJoins inner) condition)
          | none =>
            set before
            return some (.mk words.side source none)
    else
      set start
      return none

/-- The joins that follow an item. -/
def joins (g : Grammar) : Reader (List Join) := do
  let items ← iterate (fun (acc : List Join) => do
    match ← join g with
    | some item => return some (item :: acc)
    | none => return none) []
  return items.reverse

end QueryTyping.Sql
