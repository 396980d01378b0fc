import QueryTyping.TypedQuery

/-!
# Report rows

A query as rows for people: its parameters, then its result columns.
-/

namespace QueryTyping

/-- One parameter or result column. -/
structure ReportRow where
  role : String
  name : String
  type : String
  nullable : String
  deriving DecidableEq, Repr

namespace ReportRow

def cells (row : ReportRow) : List String := [row.role, row.name, row.type, row.nullable]

/-- A row that says nothing. -/
def blank : ReportRow := ⟨"", "", "", ""⟩

end ReportRow

/-- The rows of a query; parameters are numbered from one. -/
def TypedQuery.rows (query : TypedQuery) : List ReportRow :=
  (query.inputs.zipIdx 1).map (fun (param, number) =>
    (⟨"$" ++ toString number, param.name, param.type.display, ""⟩ : ReportRow)) ++
  query.outputs.map fun column =>
    ⟨"column", column.name, column.type.display, if column.nullable then "yes" else "no"⟩

end QueryTyping
