import QueryTyping.Sql.Names

/-!
# Clauses

The clauses that may follow a select list or a query.  They come in any order and
each at most once.  Only grouping leaves a trace in the tree.
-/

namespace QueryTyping.Sql

open Reader

/-- A sort key with its direction. -/
def sortKey (g : Grammar) : Reader (Option Expr) := do
  match ← g.expression with
  | none => return none
  | some key =>
    let _ ← word "ASC"
    let _ ← word "DESC"
    let _ ← phrase ["NULLS", "FIRST"]
    let _ ← phrase ["NULLS", "LAST"]
    return some key

/-- `ORDER BY` with at least one key. -/
def orderBy (g : Grammar) : Reader Bool := do
  if ← word "ORDER BY" then
    require (!(← commaList (sortKey g)).isEmpty)
    return true
  else return false

/-- `BY` and the keys that a limit is counted for. -/
def limitKeys (g : Grammar) : Reader Unit := do
  if ← phrase ["BY"] then
    let _ ← commaList g.bitwise

/-- `PERCENT`, `ROWS`, `ONLY` and `WITH TIES`. -/
def limitOptions : Reader Unit := do
  let _ ← word "PERCENT"
  let _ ← oneOf ["ROW", "ROWS"]
  let _ ← phrase ["ONLY"]
  let _ ← phrase ["WITH", "TIES"]

/-- What a limit clause sets. -/
inductive LimitShape where
  | count
  | offsetAndCount
  deriving DecidableEq

/-- `LIMIT` with a count, or with an offset and a count. -/
def limitCount (g : Grammar) : Reader (Option LimitShape) := do
  if ← word "LIMIT" then
    let _ ← demand (← g.term)
    let shape ← do
      if ← symbol "," then
        let _ ← demand (← g.term)
        pure LimitShape.offsetAndCount
      else pure LimitShape.count
    limitKeys g
    return some shape
  else return none

/-- `FETCH FIRST … ROWS ONLY`. -/
def fetchCount (g : Grammar) : Reader Bool := do
  if ← word "FETCH" then
    let _ ← oneOf ["FIRST", "NEXT"]
    if !(← sees fun token => token.isOneOf ["ROW", "ROWS", "PERCENT", "ONLY"]) then
      let _ ← g.column
    limitOptions
    return true
  else return false

/-- A limit of either form. -/
def limit (g : Grammar) : Reader (Option LimitShape) := do
  match ← limitCount g with
  | some shape => return some shape
  | none => return if ← fetchCount g then some .count else none

def offset (g : Grammar) : Reader Bool := do
  if ← word "OFFSET" then
    let _ ← demand (← g.term)
    let _ ← oneOf ["ROW", "ROWS"]
    limitKeys g
    return true
  else return false

/-- A keyword with the condition after it. -/
def condition (g : Grammar) (keyword : String) : Reader Bool := do
  if ← word keyword then
    let _ ← demand (← g.expression)
    return true
  else return false

/-- Row locks; empty if none follows. -/
def rowLocks (g : Grammar) : Reader Bool := do
  let one := anyPhrase [["FOR", "UPDATE"], ["FOR", "SHARE"], ["LOCK", "IN", "SHARE", "MODE"],
    ["FOR", "KEY", "SHARE"], ["FOR", "NO", "KEY", "UPDATE"]]
  iterate (fun (_ : Bool) => do
    if ← one then
      if ← phrase ["OF"] then
        let _ ← commaList do return some (← g.source { columnList := true })
      if ← phrase ["NOWAIT"] then pure ()
      else if ← phrase ["SKIP", "LOCKED"] then pure ()
      else if ← phrase ["WAIT"] then
        let _ ← g.term
      return some true
    else return none) false

/-- `TABLESAMPLE` with its method, size and seed. -/
def tableSample (g : Grammar) : Reader Bool := do
  if ← word "TABLESAMPLE" then
    let method : Reader Unit := do
      let _ ← takeIf fun token => token.isPlainWord || token.isWord "ROW"
    method
    let opened ← symbol "("
    let _ ← g.factor
    let _ ← anyOf [word "PERCENT", symbol "%", word "ROWS"]
    if opened then close
    if ← symbol "(" then
      method
      if ← symbol "," then
        let _ ← g.factor
      close
    else if ← anyPhrase [["SEED"], ["REPEATABLE"]] then
      wrapped do
        let _ ← takeIf fun token => token.kind = .number
    return true
  else return false

/-- A bound of a window frame. -/
def frameBound (g : Grammar) : Reader Unit := do
  let _ ← word "BETWEEN"
  if ← phrase ["UNBOUNDED"] then pure ()
  else if ← phrase ["CURRENT", "ROW"] then pure ()
  else
    let _ ← g.bitwise
  let _ ← anyPhrase [["FOLLOWING"], ["PRECEDING"]]

/-- A window specification after its opening parenthesis. -/
def windowBody (g : Grammar) : Reader Unit := do
  let _ ← identifier fun token => token.isName && !token.isOneOf ["ROWS"]
  let _ ← word "FIRST"
  let _ ← phrase ["LAST"]
  if ← word "PARTITION BY" then
    let _ ← commaList g.expression
  let _ ← orderBy g
  match ← oneOf ["ROWS", "RANGE"] with
  | some _ =>
    let _ ← word "BETWEEN"
    frameBound g
    if ← word "AND" then frameBound g
    if ← phrase ["EXCLUDE"] then
      require (← anyPhrase [["NO", "OTHERS"], ["CURRENT", "ROW"], ["GROUP"], ["TIES"]])
  | none => pure ()
  close

/-- A window by name or by specification. -/
def window (g : Grammar) : Reader Unit := do
  if ← symbol "(" then windowBody g
  else
    let _ ← identifier Token.isName

/-- `WINDOW` with its named windows. -/
def windowList (g : Grammar) : Reader Bool := do
  if ← word "WINDOW" then
    let _ ← commaList do
      let _ ← demand (← identifier Token.isAnyName)
      let _ ← word "AS"
      window g
      return some ()
    return true
  else return false

/-- `ROLLUP`, `CUBE` and `GROUPING SETS`, each over a list in parentheses. -/
def groupingList (g : Grammar) : Nat → Reader (Option Grouping)
  | 0 => failure
  | depth + 1 => do
    if ← word "ROLLUP" then return some (.rollup (← wrappedList g.bitwise))
    else if ← word "CUBE" then return some (.cube (← wrappedList g.bitwise))
    else if ← word "GROUPING SETS" then
      let elements ← wrappedList do
        match ← groupingList g depth with
        | some element => return some element
        | none => return (← g.bitwise).map Grouping.plain
      return some (.sets elements)
    else return none

/-- Keywords that open a clause. -/
def clauseWords : List String :=
  ["WHERE", "GROUP BY", "HAVING", "QUALIFY", "WINDOW", "ORDER BY", "LIMIT", "FETCH", "OFFSET",
    "FOR", "LOCK", "TABLESAMPLE", "USING", "CLUSTER BY", "DISTRIBUTE BY", "SORT BY",
    "CONNECT BY", "START WITH"]

/-- The elements after `GROUP BY`. -/
def groupElements (g : Grammar) : Reader (List Grouping) := do
  let _ ← oneOf ["ALL", "DISTINCT"]
  if ← sees fun token => token.isOneOf clauseWords then return []
  let depth := (← get).ahead.length + 1
  let groups ← iterate (fun (acc : List (List Grouping) × Bool) => do
    if acc.2 then return none
    else
      let plain ← commaList do
        if ← sees fun token => token.isOneOf ["CUBE", "ROLLUP"] then return none
        else g.expression
      match ← groupingList g depth with
      | some element => return some ((plain.map .plain ++ [element]) :: acc.1, false)
      | none => return some (plain.map .plain :: acc.1, true)) ([], false)
  return groups.1.reverse.flatten

/-- The clauses read so far: their names, and the grouping. -/
structure Clauses where
  seen : List String := []
  grouping : List Grouping := []

/-- Note clauses; a second one of a name is refused. -/
def Clauses.add (clauses : Clauses) (names : List String) : Reader Clauses := do
  require (names.all fun name => !clauses.seen.contains name)
  return { clauses with seen := names ++ clauses.seen }

/-- One more clause. -/
def clause (g : Grammar) (clauses : Clauses) : Reader (Option Clauses) := do
  if ← condition g "WHERE" then return some (← clauses.add ["where"])
  else if ← word "GROUP BY" then
    let grouping ← groupElements g
    return some { ← clauses.add ["group"] with grouping := grouping }
  else if ← condition g "HAVING" then return some (← clauses.add ["having"])
  else if ← condition g "QUALIFY" then return some (← clauses.add ["qualify"])
  else if ← windowList g then return some (← clauses.add ["windows"])
  else if ← orderBy g then return some (← clauses.add ["order"])
  else
    match ← limit g with
    | some .count => return some (← clauses.add ["limit"])
    | some .offsetAndCount => return some (← clauses.add ["limit", "offset"])
    | none =>
      if ← offset g then return some (← clauses.add ["offset"])
      else if ← rowLocks g then return some (← clauses.add ["locks"])
      else if ← tableSample g then return some (← clauses.add ["sample"])
      else return none

/-- All clauses that follow. -/
def clauses (g : Grammar) : Reader Clauses := iterate (clause g) {}

end QueryTyping.Sql
