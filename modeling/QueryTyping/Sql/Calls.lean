import QueryTyping.Sql.Combined

/-!
# Calls

Function calls: plain ones, those whose arguments are separated by words, and
those without parentheses.  What a call computes does not matter here; only a
cast is told apart, since a cast literal is a literal.
-/

namespace QueryTyping.Sql

open Reader

/-- Some of the functions with a fixed number of arguments: the least and the greatest. -/
def arities : List (String × Nat × Nat) :=
  [("ABS", 1, 1), ("AVG", 1, 1), ("EXP", 1, 1), ("LN", 1, 1), ("LOWER", 1, 1),
    ("NULLIF", 2, 2), ("SIGN", 1, 1), ("SQRT", 1, 1), ("STDDEV", 1, 1), ("SUM", 1, 1),
    ("UPPER", 1, 1), ("VARIANCE", 1, 1)]

/-- Functions that need at least one argument. -/
def openArities : List String :=
  ["ARRAY_AGG", "COALESCE", "GREATEST", "LEAST", "LENGTH", "MAX", "MIN", "ROUND"]

/-- Whether a function may be called with so many arguments. -/
def admitsArguments (name : String) (count : Nat) : Bool :=
  match arities.find? (·.1 = name) with
  | some (_, least, greatest) => least ≤ count && count ≤ greatest
  | none => !(openArities.contains name && count = 0)

/-- A value with an alias after `AS`. -/
def explicitlyNamed (g : Grammar) : Reader (Option Expr) := do
  match ← g.expression with
  | some value =>
    if ← word "AS" then
      match ← plainName Token.isAnyName with
      | some name => return some (.aliased value name)
      | none => return some value
    else return some value
  | none => return none

/-- The parameters of a function given as an argument, or the name of an argument. -/
def parameterNames : Reader Bool := do
  let start ← get
  if ← symbol "(" then
    let _ ← commaList (identifier Token.isAnyName)
    if ← symbol ")" then return true
    else
      set start
      return false
  else
    let _ ← identifier Token.isAnyName
    return true

/-- `IGNORE NULLS` or `RESPECT NULLS`. -/
def nullTreatment : Reader Unit := do
  if ← phrase ["IGNORE", "NULLS"] then pure ()
  else
    let _ ← phrase ["RESPECT", "NULLS"]

/-- An argument of a call. -/
def argument (g : Grammar) (named : Bool) : Reader (Option Expr) := do
  let start ← get
  let given ← parameterNames
  let arrow ← anyOf [symbol "->", symbol "=>"]
  if given && arrow then
    return some (.operation "=>" [← demand (← g.expression)])
  set start
  let value ← do
    if ← word "DISTINCT" then
      let values ← commaList g.expression
      require (!values.isEmpty)
      pure (some (Expr.operation "DISTINCT" values))
    else queryOrValue g (if named then explicitlyNamed g else g.expression)
  nullTreatment
  if ← word "HAVING" then
    let _ ← oneOf ["MAX", "MIN"]
    let _ ← g.expression
  let ordered ← orderBy g
  let limited ← limit g
  return if ordered || limited.isSome then some (.operation "ORDER BY" value.toList) else value

/-- `CAST (value AS type)` after its opening parenthesis. -/
def castForm (g : Grammar) : Reader Expr := do
  let value ← demand (← g.expression)
  if ← word "AS" then
    let type ← demand (← typeName g false)
    if ← word "CHARACTER SET" then
      require (type.word = "CHAR")
      let _ ← anyWord
    if ← word "DEFAULT" then
      let _ ← g.bitwise
      let _ ← phrase ["ON", "CONVERSION", "ERROR"]
    if ← anyOf [word "FORMAT", symbol ","] then
      let _ ← takeIf fun token => token.kind = .string
    return .cast value
  else
    require (← symbol ",")
    let _ ← takeIf fun token => token.kind = .string
    return .operation "CAST" [value]

/-- `CONVERT (value, type)` and `CONVERT (value USING charset)`. -/
def convertForm (g : Grammar) : Reader Expr := do
  let value ← demand (← g.bitwise)
  if ← word "USING" then
    let _ ← demand (← anyWord)
    return .cast value
  else
    require (← symbol ",")
    let _ ← demand (← typeName g false)
    return .cast value

/-- `EXTRACT (unit FROM value)`; the unit is a word or a call. -/
def extractForm (g : Grammar) : Reader Expr := do
  if ← seesPair Token.opensCall fun token => token.isSymbol "(" then
    let _ ← g.column
  else
    let _ ← demand (← anyWord)
  if ← word "FROM" then pure () else require (← symbol ",")
  return .operation "EXTRACT" [← demand (← g.bitwise)]

/-- `DATE_PART ('unit', value)`. -/
def datePartForm (g : Grammar) : Reader Expr := do
  let unit ← demand (← g.operand)
  let _ ← symbol ","
  return .operation "DATE_PART" [unit, ← demand (← g.bitwise)]

/-- `POSITION (part IN text)`, or with two or three arguments. -/
def positionForm (g : Grammar) : Reader Expr := do
  let arguments ← commaList g.bitwise
  if ← word "IN" then
    require (!arguments.isEmpty)
    return .operation "POSITION" (arguments ++ [← demand (← g.bitwise)])
  else
    require (2 ≤ arguments.length)
    return .operation "POSITION" arguments

/-- `SUBSTRING (text FROM start FOR length)`, or with plain arguments. -/
def substringForm (g : Grammar) : Reader Expr := do
  let arguments ← commaList g.bitwise
  let arguments ← iterate (fun (acc : List Expr) => do
    if ← anyOf [word "FROM", word "FOR"] then return some (acc ++ (← g.bitwise).toList)
    else return none) arguments
  require (1 ≤ arguments.length && arguments.length ≤ 3)
  return .operation "SUBSTRING" arguments

/-- `TRIM (BOTH characters FROM text)`, or with plain arguments. -/
def trimForm (g : Grammar) : Reader Expr := do
  let _ ← anyPhrase [["BOTH"], ["LEADING"], ["TRAILING"]]
  let first ← g.bitwise
  let second ← do
    if ← anyOf [word "FROM", symbol ","] then g.bitwise else pure none
  if ← word "COLLATE" then
    let _ ← g.bitwise
  let arguments := first.toList ++ second.toList
  require (!arguments.isEmpty)
  return .operation "TRIM" arguments

/-- `OVERLAY (text PLACING other FROM start FOR length)`. -/
def overlayForm (g : Grammar) : Reader Expr := do
  let part (separator : String) : Reader (Option Expr) := do
    if ← anyOf [symbol ",", phrase [separator]] then g.bitwise else return none
  let text ← demand (← g.bitwise)
  let other ← demand (← part "PLACING")
  let start ← demand (← part "FROM")
  let length ← part "FOR"
  return .operation "OVERLAY" ([text, other, start] ++ length.toList)

/-- `STRING_AGG (value, separator ORDER BY …)`. -/
def stringAggregateForm (g : Grammar) : Reader Expr := do
  let distinct ← word "DISTINCT"
  let arguments ← commaList g.expression
  require (!arguments.isEmpty)
  let _ ← orderBy g
  let _ ← limit g
  return .operation (if distinct then "STRING_AGG DISTINCT" else "STRING_AGG") arguments

/-- `JSON_OBJECT (key : value, …)` with its options. -/
def jsonObjectForm (g : Grammar) : Reader Expr := do
  let values ← do
    if ← symbol "*" then pure []
    else
      commaList do
        let _ ← phrase ["KEY"]
        let key ← g.column
        let _ ← anyOf [symbol ":", symbol ",", word "IS"]
        let _ ← phrase ["VALUE"]
        let value ← g.bitwise
        require (key.isSome = value.isSome)
        return value
  let _ ← phrase ["NULL", "ON", "NULL"]
  let _ ← phrase ["ABSENT", "ON", "NULL"]
  let _ ← anyPhrase [["WITH", "UNIQUE"], ["WITHOUT", "UNIQUE"]]
  let _ ← phrase ["KEYS"]
  if ← phrase ["RETURNING"] then
    let _ ← typeName g false
  return .operation "JSON_OBJECT" values

/-- The readers for calls whose arguments are not a plain list. -/
def specialCall? (g : Grammar) (name : String) : Option (Reader Expr) :=
  match name with
  | "CAST" => some (castForm g)
  | "TRY_CAST" => some (castForm g)
  | "SAFE_CAST" => some (castForm g)
  | "CONVERT" => some (convertForm g)
  | "TRY_CONVERT" => some (convertForm g)
  | "EXTRACT" => some (extractForm g)
  | "DATE_PART" => some (datePartForm g)
  | "POSITION" => some (positionForm g)
  | "SUBSTRING" => some (substringForm g)
  | "TRIM" => some (trimForm g)
  | "OVERLAY" => some (overlayForm g)
  | "STRING_AGG" => some (stringAggregateForm g)
  | "JSON_OBJECT" => some (jsonObjectForm g)
  | _ => none

/-- `WITHIN GROUP`, `FILTER` and `OVER` after a call. -/
def windowed (g : Grammar) (call : Expr) : Reader Expr := do
  let ordered ← phrase ["WITHIN", "GROUP"]
  if ordered then
    wrapped do
      let _ ← orderBy g
  let filtered ← seesPair (fun token => token.isWord "FILTER") fun token => token.isSymbol "("
  if filtered then
    skip
    wrapped do
      let _ ← word "WHERE"
      let _ ← demand (← g.expression)
  nullTreatment
  let windowed ← iterate (fun (_ : Bool) => do
    if ← word "OVER" then
      window g
      return some true
    else return none) false
  return if ordered || filtered || windowed then .operation "OVER" [call] else call

/-- `CASE` after its keyword. -/
def caseForm (g : Grammar) : Reader Expr := do
  let subject ← g.expression
  let branches ← iterate (fun (acc : List Expr) => do
    if ← word "WHEN" then
      let test ← demand (← g.expression)
      let _ ← word "THEN"
      let value ← demand (← g.expression)
      return some (acc ++ [test, value])
    else return none) []
  require (!branches.isEmpty)
  let fallback ← do if ← word "ELSE" then g.expression else pure none
  require (← word "END")
  return .operation "CASE" (subject.toList ++ branches ++ fallback.toList)

/-- `IF` after its keyword: a call or a conditional. -/
def ifForm (g : Grammar) : Reader (Option Expr) := do
  if ← symbol "(" then
    let arguments ← commaList (explicitlyNamed g)
    require (2 ≤ arguments.length && arguments.length ≤ 3)
    close
    return some (.operation "IF" arguments)
  else
    match ← g.expression with
    | none => return none
    | some test =>
      let _ ← word "THEN"
      let value ← demand (← g.expression)
      let fallback ← do if ← word "ELSE" then g.expression else pure none
      let _ ← word "END"
      return some (.operation "IF" ([test, value] ++ fallback.toList))

/-- A call that starts with a keyword and needs no parentheses. -/
def keywordCall (g : Grammar) : Reader (Option Expr) := do
  let start ← get
  let found ← do
    match ← takeIf fun token => token.kind ≠ .quoted && token.kind ≠ .string &&
        ["ANY", "CASE", "IF", "VARIADIC", "NEXT"].contains token.upper with
    | none => pure none
    | some token =>
      match token.upper with
      | "CASE" => pure (some (← caseForm g))
      | "IF" => ifForm g
      | "NEXT" =>
        if ← phrase ["VALUE", "FOR"] then
          let name ← demand (← g.column)
          pure (some (.operation "NEXT" [name]))
        else pure none
      | name => pure (some (.operation name [← demand (← g.bitwise)]))
  match found with
  | some call => return some (← windowed g call)
  | none =>
    set start
    return none

/-- `ALL`, `SOME` and `EXISTS` over a query, after the opening parenthesis. -/
def quantifiedQuery (g : Grammar) (token : Token) : Reader (Option Expr) := do
  if token.isOneOf ["ALL", "SOME", "EXISTS"] &&
      (← sees fun next => next.isOneOf ["SELECT", "WITH"]) then
    let query ← demand (← g.query)
    close
    return some (.operation token.upper [.subquery query])
  else return none

/-- A call.  With `bare` it may do without parentheses; with `member` any word may be its name,
and no name has a meaning of its own. -/
def call (g : Grammar) (bare member : Bool) : Reader (Option Expr) := do
  match ← if bare then keywordCall g else pure none with
  | some found => return some found
  | none =>
    let opens (token : Token) : Bool := if member then token.isAnyName else token.opensCall
    if ← seesPair (fun _ => true) fun token => token.isSymbol "(" then
      match ← takeIf opens with
      | none => return none
      | some token =>
        skip
        match if member then none else specialCall? g token.upper with
        | some special =>
          let value ← special
          close
          return some (← windowed g value)
        | none =>
          match ← quantifiedQuery g token with
          | some found => return some found
          | none =>
            let arguments ← commaList (argument g (!(arities.any (·.1 = token.upper))))
            require (member || admitsArguments token.upper arguments.length)
            close
            return some (← windowed g (.operation token.upper arguments))
    else if bare then
      match ← oneOf bareFunctionWords with
      | some name => return some (.operation name [])
      | none => return none
    else return none

end QueryTyping.Sql
