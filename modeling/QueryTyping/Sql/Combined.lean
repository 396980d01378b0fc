import QueryTyping.Sql.Clauses

/-!
# Set operations

Set operations associate to the left and all bind alike.  Any value may stand on
the left; one that is not a query has no rows of its own.
-/

namespace QueryTyping.Sql

open Reader

/-- A value read as a query. -/
def Expr.asQuery : Expr → Query
  | .subquery query => .paren [] query true
  | _ => .values []

/-- The operator of a set operation. -/
def setOperator : Reader (Option SetOperator) := do
  match ← oneOf ["UNION", "EXCEPT", "INTERSECT"] with
  | some "UNION" => return some .union
  | some "EXCEPT" => return some .except
  | some _ => return some .intersect
  | none => return none

/-- The set operations after a query.  `none` if there are none. -/
def setOperationsAfter (g : Grammar) (first : Query) : Reader (Option Query) := do
  let step (left : Query) : Reader (Option Query) := do
    match ← setOperator with
    | some operator =>
      let _ ← oneOf ["DISTINCT", "ALL"]
      let right ← demand (← g.queryOperand)
      return some (.combined [] operator left right)
    | none => return none
  match ← step first with
  | some combined => return some (← iterate step combined)
  | none => return none

/-- A query with the set operations after it. -/
def setOperations (g : Grammar) (first : Query) : Reader Query := do
  return (← setOperationsAfter g first).getD first

/-- A value or a query without parentheses, with set operations. -/
def queryOrValue (g : Grammar) (value : Reader (Option Expr)) : Reader (Option Expr) := do
  match ← g.query with
  | some query => return some (.subquery query)
  | none =>
    match ← value with
    | some found =>
      match ← setOperationsAfter g found.asQuery with
      | some combined => return some (.subquery combined)
      | none => return some found
    | none => return none

end QueryTyping.Sql
