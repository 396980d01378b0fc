import QueryTyping.Sql.Reader

/-!
# Names, parameters and types

The smallest phrases: identifiers, parameter signs, and type names with their
sizes, time zones and array brackets.
-/

namespace QueryTyping.Sql

open Reader

/-- Keywords that are neither reserved nor types and yet are keywords. -/
def otherKeywords : List String :=
  ["ALL", "ANY", "CALL", "DECLARE", "DO", "EXEC", "EXISTS", "EXPLAIN", "FILTER", "FIRST",
    "FORMAT", "INDEX", "ISNULL", "MERGE", "NEXT", "OPTIMIZE", "PREPARE", "RANGE", "REFRESH",
    "REINDEX", "REPLACE", "RESET", "ROW", "SEQUENCE", "SESSION", "SOME", "TABLE", "TRUNCATE",
    "UNNEST", "VACUUM"]

/-- Whether the token is a word without any meaning as a keyword. -/
def Token.isPlainWord (token : Token) : Bool :=
  match token.kind with
  | .variable => true
  | .word =>
    !(reservedWords.contains token.upper || joinWords.contains token.upper ||
      callFreeWords.contains token.upper || typeWords.contains token.upper ||
      bareFunctionWords.contains token.upper || otherKeywords.contains token.upper)
  | _ => false

/-- The name of a parameter after its sign. -/
def parameterName : Reader String := do
  match ← takeIf fun token => token.kind ≠ .symbol && !token.isWord "SELECT" with
  | some token => return token.text
  | none => failure

/-- A parameter: a sign and its name, or a sign alone. -/
def placeholder : Reader (Option Expr) := do
  if ← symbol "?" then return some (.parameter "")
  else if ← anyOf [symbol "$", symbol "@"] then return some (.parameter (← parameterName))
  else if ← seesPair (fun token => token.isSymbol ":") Token.isName then
    skip
    return some (.parameter (← parameterName))
  else if ← symbol "%" then
    let name ← do
      if ← symbol "(" then
        let name ← takeIf fun token => token.kind = .quoted || token.isAnyName
        close
        pure name
      else pure none
    let _ ← phrase ["S"]
    return some (.parameter ((name.map Token.text).getD ""))
  else return none

/-- What a name position can hold. -/
inductive NameOrValue where
  | name (text : String)
  | value (expr : Expr)

def NameOrValue.expr : NameOrValue → Expr
  | name text => .column [] text
  | value expr => expr

/-- A quoted identifier, a parameter, or a word that is allowed here. -/
def identifier (allowed : Token → Bool) : Reader (Option NameOrValue) := do
  match ← takeIf fun token => token.kind = .quoted with
  | some token => return some (.name token.text)
  | none =>
    match ← placeholder with
    | some expr => return some (.value expr)
    | none =>
      match ← takeIf allowed with
      | some token => return some (.name token.text)
      | none => return none

/-- A plain name, for instance of an alias. -/
def plainName (allowed : Token → Bool) : Reader (Option String) := do
  match ← identifier allowed with
  | some (.name text) => return some text
  | some (.value _) => return some ""
  | none => return none

/-- Any word, taken as a unit or an option. -/
def anyWord : Reader (Option Token) := takeIf Token.isAnyName

/-- A size of a type: a value, perhaps with a word after it. -/
def typeSize (g : Grammar) : Reader (Option Unit) := do
  match ← g.operand with
  | some _ =>
    let _ ← anyWord
    return some ()
  | none => return none

/-- Array brackets after a type, as far as they belong to it. -/
def arrayBrackets (g : Grammar) : Reader Unit := do
  let word ← word "ARRAY"
  if word && !(← sees fun token => token.isSymbol "[") then return
  let _ ← iterate (fun (_ : Unit) => do
    let place ← get
    if ← symbol "[" then
      if ← symbol "]" then return some ()
      else
        let sizes ← commaList g.expression
        if sizes.isEmpty then return some ()
        else
          set place
          return none
    else return none) ()

/-- The rest of a type after the word that names it.  With `checkCall` a type with sizes
counts only if a string follows, since it may be a call. -/
def typeRest (g : Grammar) (checkCall : Bool) (word : String) (start : Place) :
    Reader (Option TypeName) := do
  if simpleTypeWords.contains word then return some ⟨word, false⟩
  let before ← get
  let sizes : Option (List Unit) ← do
    if ← symbol "(" then
      let sizes ← commaList (if word = "ENUM" then do return (← g.equality).map fun _ => ()
        else typeSize g)
      if ← symbol ")" then pure (some sizes)
      else
        set start
        return none
    else pure none
  let zoned ← do
    if timeWords.contains word then
      if ← phrase ["WITH", "TIME", "ZONE"] then pure true
      else phrase ["WITHOUT", "TIME", "ZONE"]
    else pure false
  if word = "INTERVAL" then
    match ← takeIf Token.isPlainWord with
    | some _ =>
      if ← phrase ["TO"] then
        let _ ← takeIf Token.isPlainWord
    | none => pure ()
  if checkCall && sizes.isSome && !zoned && !(← sees fun token => token.kind = .string) then
    set start
    return none
  let _ := before
  arrayBrackets g
  return some ⟨word, (sizes.getD []).length > 0⟩

/-- A type.  With `checkCall` the phrase may also be a column or a call, and only keywords
count as types; otherwise any name does, with qualifiers. -/
def typeName (g : Grammar) (checkCall : Bool) : Reader (Option TypeName) := do
  let start ← get
  match ← takeIf Token.isTypeWord with
  | some token => typeRest g checkCall token.upper start
  | none =>
    if checkCall then return none
    else
      match ← takeIf fun token => token.kind = .quoted || token.isPlainWord with
      | some token =>
        if token.kind = .quoted && typeWords.contains token.upper then
          typeRest g checkCall token.upper start
        else
          let _ ← iterate (fun (_ : Unit) => do
            if ← symbol "." then
              require (← anyWord).isSome
              return some ()
            else return none) ()
          typeRest g checkCall "" start
      | none => return none

end QueryTyping.Sql
