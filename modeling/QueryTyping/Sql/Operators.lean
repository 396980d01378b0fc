import QueryTyping.Sql.Values

/-!
# Operators

Operators from the tightest to the loosest: signs, powers, time zones, products,
sums, bitwise operators, ranges and tests, comparisons, equality, AND, OR,
assignment.  Those of one level associate to the left.
-/

namespace QueryTyping.Sql

open Reader

/-- Signs and other operators in front of a value; a plus sign vanishes. -/
def unary (g : Grammar) : Reader (Option Expr) := do
  let operation (name : String) (value : Reader (Option Expr)) : Reader (Option Expr) := do
    return some (.operation name [← demand (← value)])
  if ← symbol "+" then g.unary
  else if ← anyOf [word "NOT", symbol "!"] then operation "NOT" g.equality
  else if ← symbol "~" then operation "~" g.unary
  else if ← symbol "-" then return some (.negate (← demand (← g.unary)))
  else if ← symbol "|/" then operation "|/" g.unary
  else if ← symbol "||/" then operation "||/" g.unary
  else operand g

def power (g : Grammar) : Reader (Option Expr) :=
  chain (unary g) (·.isSymbol "^")

/-- A value with `AT TIME ZONE` after it. -/
def zoned (g : Grammar) : Reader (Option Expr) := do
  let value ← power g
  iterate (fun (value : Option Expr) => do
    if ← phrase ["AT", "TIME", "ZONE"] then
      let value ← demand value
      let zone ← demand (← unary g)
      return some (some (.operation "AT TIME ZONE" [value, zone]))
    else return none) value

def factor (g : Grammar) : Reader (Option Expr) :=
  chain (zoned g) fun token => ["*", "/", "<->"].any token.isSymbol

def term (g : Grammar) : Reader (Option Expr) :=
  chain (factor g) fun token => ["-", "+", "%"].any token.isSymbol || token.isWord "COLLATE"

/-- Shifts are written with two tokens. -/
def shift : Reader (Option String) := do
  let twice (s : String) : Reader Bool := do
    if ← seesPair (·.isSymbol s) (·.isSymbol s) then
      skip
      skip
      return true
    else return false
  if ← twice "<" then return some "<<"
  else if ← twice ">" then return some ">>"
  else return none

def bitwise (g : Grammar) : Reader (Option Expr) := do
  let first ← term g
  iterate (fun (left : Option Expr) => do
    let operator ← do
      match ← takeIf fun token => ["&", "|", "||", "??", "#"].any token.isSymbol with
      | some token => pure (some token.text)
      | none => shift
    match operator with
    | some name =>
      let left ← demand left
      let right ← demand (← term g)
      return some (some (.operation name [left, right]))
    | none => return none) first

/-- Symbols that compare a value with a pattern or a range, at the level of `LIKE`. -/
def rangeSymbols : List String :=
  ["~~~", "~~*", "~~", "~*", "~", "-|-", "<@", "@>", "&&", "&<", "&>", "@@", "?&", "?|", "#-"]

/-- Words that do so. -/
def rangeWords : List String :=
  ["LIKE", "ILIKE", "SIMILAR TO", "GLOB", "RLIKE", "REGEXP", "OVERLAPS"]

/-- `ESCAPE` with its character. -/
def escape : Reader Unit := do
  if ← word "ESCAPE" then
    match ← takeIf fun token => token.kind = .string with
    | some _ => pure ()
    | none => require (← word "NULL")

/-- What follows `BETWEEN`. -/
def between (g : Grammar) (value : Expr) : Reader Expr := do
  if ← phrase ["SYMMETRIC"] then pure ()
  else
    let _ ← phrase ["ASYMMETRIC"]
  let low ← demand (← bitwise g)
  let _ ← word "AND"
  let high ← demand (← bitwise g)
  return .operation "BETWEEN" [value, low, high]

/-- What follows `IN`. -/
def membership (g : Grammar) (value : Expr) : Reader Expr := do
  if ← symbol "(" then
    let items ← commaList (queryOrValue g g.expression)
    match items with
    | [.subquery _] =>
      let _ ← clauses g
    | _ => pure ()
    close
    return .operation "IN" (value :: items)
  else if ← symbol "[" then
    let items ← commaList (queryOrValue g g.expression)
    require (← symbol "]")
    return .operation "IN" (value :: items)
  else return .operation "IN" [value, ← demand (← column g)]

/-- What follows `IS`. -/
def test (g : Grammar) (value : Expr) : Reader (Option Expr) := do
  let _ ← word "NOT"
  if ← phrase ["DISTINCT", "FROM"] then
    return some (.operation "IS DISTINCT FROM" [value, ← demand (← bitwise g)])
  else if ← word "JSON" then
    let _ ← anyPhrase [["VALUE"], ["SCALAR"], ["OBJECT"], ["ARRAY"]]
    let _ ← anyPhrase [["WITH"], ["WITHOUT"]]
    let _ ← word "UNIQUE"
    let _ ← phrase ["KEYS"]
    return some (.operation "IS JSON" [value])
  else
    let kind ← do
      if ← word "NULL" then pure (some Expr.null) else bitwise g
    attached g (.operation "IS" [value, ← demand kind])

/-- `OPERATOR (schema.name)` and the value after it. -/
def namedOperator (g : Grammar) (value : Expr) : Reader Expr := do
  wrapped do
    let _ ← iterate (fun (_ : Unit) => do
      match ← takeIf fun token => !token.isSymbol ")" with
      | some _ => return some ()
      | none => return none) ()
  return .operation "OPERATOR" [value, ← demand (← bitwise g)]

/-- The test that follows a value, after an optional `NOT`. -/
def rangeTest (g : Grammar) (value : Expr) (negated : Bool) : Reader (Option Expr) := do
  if ← word "BETWEEN" then return some (← between g value)
  else if ← word "IN" then return some (← membership g value)
  else if ← word "IS" then test g value
  else if ← seesPair (·.isWord "OPERATOR") (·.isSymbol "(") then
    skip
    return some (← namedOperator g value)
  else if ← word "ISNULL" then return some (.operation "IS" [value, .null])
  else
    match ← takeIf fun token => rangeSymbols.any token.isSymbol || token.isOneOf rangeWords with
    | some operator =>
      let right ← demand (← bitwise g)
      escape
      return some (.operation operator.upper [value, right])
    | none =>
      if !negated then return none
      else if ← word "NULL" then return some (.operation "IS" [value, .null])
      else return none

/-- A value with the tests after it. -/
def range (g : Grammar) : Reader (Option Expr) := do
  match ← bitwise g with
  | none =>
    if ← sees fun token => rangeSymbols.any token.isSymbol then failure else return none
  | some value =>
    let negated ← anyOf [word "NOT", symbol "!"]
    let value := (← rangeTest g value negated).getD value
    let value ← do
      if ← word "NOTNULL" then pure (Expr.operation "NOTNULL" [value]) else pure value
    let value := if negated then .operation "NOT" [value] else value
    if ← word "IS" then test g value else return some value

def comparison (g : Grammar) : Reader (Option Expr) :=
  chain (range g) fun token => ["<", "<=", ">", ">="].any token.isSymbol

def equality (g : Grammar) : Reader (Option Expr) :=
  chain (comparison g) fun token => ["=", "==", "!=", "<>", "<=>"].any token.isSymbol

def conjunction (g : Grammar) : Reader (Option Expr) :=
  chain (equality g) (·.isWord "AND")

def disjunction (g : Grammar) : Reader (Option Expr) :=
  chain (conjunction g) (·.isWord "OR")

/-- A value, possibly assigned to a name. -/
def expression (g : Grammar) : Reader (Option Expr) := do
  let value ← disjunction g
  if ← symbol ":=" then
    let value ← demand value
    return some (.operation ":=" [value, ← demand (← g.expression)])
  else return value

/-- An alias after a value: a name, or names in parentheses. -/
def withAlias (value : Option Expr) : Reader (Option Expr) := do
  if ← sees fun token => token.isOneOf ["LIMIT", "OFFSET"] then return value
  let explicit ← word "AS"
  if ← symbol "(" then
    let value ← demand value
    let _ ← commaList (identifier fun token =>
      if explicit then token.isAnyName else token.isName)
    close
    return some (.operation "AS" [value])
  else
    match ← identifier fun token => if explicit then token.isAnyName else token.isName with
    | some (.name name) => return some (.aliased (← demand value) name)
    | some (.value _) => return some (.aliased (← demand value) "")
    | none => return value

/-- A value with an optional alias. -/
def named (g : Grammar) : Reader (Option Expr) := do
  withAlias (← expression g)

end QueryTyping.Sql
