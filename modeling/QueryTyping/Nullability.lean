import QueryTyping.Catalog
import QueryTyping.QueryShape

/-!
# Nullability

Whether an output may be null is decided by rules in order; the first one that
knows decides, and an output that none knows may be null.  A wrong "may be null"
is harmless, a wrong "never null" is not.
-/

namespace QueryTyping

open Text

/-- A rule says whether an output may be null, if it knows.  The column is the one that the
database says the value comes from. -/
abbrev NullabilityRule := QueryShape → Output → Option CatalogColumn → Option Bool

namespace Nullability

/-- A literal is never null. -/
def literalRule : NullabilityRule := fun _ output _ =>
  match output with
  | .literal => some false
  | _ => none

/-- A column that is never null in its table stays so if every relation it may be read from is
that table on a side that no join nulls.  The database names the table also behind subqueries
and nested joins, so an unqualified reference counts only if all relations are tables. -/
def notNullRule : NullabilityRule := fun shape output provenance =>
  match output, provenance with
  | .column name qualifier, some source =>
    if shape.setOperation || !source.notNull then none
    else if name.any (· ≠ lower source.column) then none
    else if qualifier.isNone && shape.hasDerived then none
    else
      let candidates := shape.sourceRelations qualifier (some source.table)
      let plain (relation : Relation) : Bool :=
        relation.name = some (lower source.table) && !relation.nullable
      if !candidates.isEmpty && candidates.all plain then some false else none
  | _, _ => none

/-- Set operations and outer joins may give nulls. -/
def outerJoinRule : NullabilityRule := fun shape output provenance =>
  if shape.setOperation then some true
  else
    match output with
    | .column _ qualifier =>
      let candidates := shape.sourceRelations qualifier (provenance.map (·.table))
      if candidates.any (·.nullable) then some true else none
    | _ => none

/-- The rules in order. -/
def rules : List NullabilityRule := [literalRule, notNullRule, outerJoinRule]

end Nullability

/-- Whether the output at a position may be null. -/
def mayBeNull (shape : QueryShape) (index : Int) (provenance : Option CatalogColumn) : Bool :=
  ((Nullability.rules.findSome? fun rule => rule shape (shape.output index) provenance)).getD true

end QueryTyping
