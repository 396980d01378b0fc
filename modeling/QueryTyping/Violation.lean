/-!
# Violations

Data from outside is validated as a whole: a violation names the place of a
value, the kind of the problem and its description, and a failed validation
lists all of them.
-/

namespace QueryTyping

/-- One value that breaks a rule of the model it was validated against. -/
structure Violation where
  /-- The way to the value: field names, keys and positions. -/
  path : List String
  kind : String
  message : String
  deriving DecidableEq, Repr

/-- The violations found in one value. -/
structure Violations where
  model : String
  items : List Violation
  deriving DecidableEq, Repr

namespace Violation

/-- The same violation, seen from one level further out. -/
def under (step : String) (violation : Violation) : Violation :=
  { violation with path := step :: violation.path }

end Violation

/-- The headline of a failed validation. -/
def Violations.headline (violations : Violations) : String :=
  let count := violations.items.length
  toString count ++ " validation error" ++ (if count = 1 then "" else "s") ++ " for " ++
    violations.model

end QueryTyping
