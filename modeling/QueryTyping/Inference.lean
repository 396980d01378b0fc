import QueryTyping.Nullability
import QueryTyping.QueryShape.Reduction
import QueryTyping.Text.Blank
import QueryTyping.TypeDescriptor.Resolver
import QueryTyping.TypedQuery

/-!
# Inferring the types of a query

One attempt per query: the statement is described, the number of parameters and
the declared kind are checked, types are resolved, and every column's
nullability is decided.  A failure at any point leaves no partial result.
-/

namespace QueryTyping

open Text

/-- A documentation line without its comment dashes and white space. -/
def docLine (line : String) : String :=
  String.ofList (trim ((trim line.toList).dropWhile (· = '-')))

/-- A query's documentation: its comment block without annotations. -/
def normalizeDoc (lines : List String) : List String :=
  (lines.map docLine).filter fun line => !line.startsWith "name:"

/-- Whether a statement with so many result columns can have the declared kind. -/
def checkResultKind (name : String) (kind : ResultKind) (columns : Nat) : Except Failure Unit :=
  if kind ≠ .exec ∧ columns = 0 then
    .error (.inference
      { cause := .resultCardinality
        message := "query " ++ name ++ " has incompatible result kind " ++ kind.text ++
          "; the query doesn't return any rows; use :exec if query shouldn't return rows"
        query := some name })
  else .ok ()

namespace Inference

variable {σ : Type}

/-- A rejection of the statement, told of the query. -/
def rejection (query message : String) : Error :=
  .failure (.inference
    { cause := .catalog, message := "query " ++ query ++ ": " ++ message, query := some query })

open Resolving in
/-- Describe the statement; a rejection names the query. -/
def describe (session : Session σ) (query : SourceQuery) :
    Attempt (Resolving σ) StatementDescription :=
  tryCatch (asking (session.describe query.preparedSql)) fun
    | .failure (.inference ⟨.catalog, message, _⟩) => throw (rejection query.name message)
    | error => throw error

/-- As many parameters as the database reports. -/
def checkParams (query : SourceQuery) (description : StatementDescription) : Except Error Unit :=
  let expected := query.paramNames.length
  let reported := description.paramOids.length
  if reported ≠ expected then
    .error (rejection query.name
      ("expected " ++ toString expected ++ " parameters but the database reported " ++
        toString reported))
  else .ok ()

/-- The catalog column that a result column is read from. -/
def provenance (session : Session σ) (field : FieldDescription) :
    Attempt (Resolving σ) (Option CatalogColumn) :=
  if field.tableOid = 0 ∨ field.tableColumn ≤ 0 then pure none
  else Resolving.asking (session.lookupColumn field.tableOid field.tableColumn)

/-- The result columns, given their types. -/
def outputColumns (session : Session σ) (shape : QueryShape) :
    Nat → List (FieldDescription × TypeDescriptor) → Attempt (Resolving σ) (List OutputColumn)
  | _, [] => return []
  | index, (field, type) :: rest => do
    let source ← provenance session field
    let column : OutputColumn :=
      { name := field.name, type, nullable := mayBeNull shape index source }
    return column :: (← outputColumns session shape (index + 1) rest)

end Inference

open Inference in
/-- The typed query of a source query. -/
def inferQuery {σ : Type} (session : Session σ) (query : SourceQuery) :
    Attempt (Resolving σ) TypedQuery := do
  let description ← describe session query
  liftExcept (checkParams query description)
  liftExcept ((checkResultKind query.name query.resultKind description.fields.length).mapError
    .failure)
  let inputTypes ← description.paramOids.mapM fun oid => resolveType session oid (some query.name)
  let outputTypes ← description.fields.mapM fun field =>
    resolveType session field.typeOid (some query.name)
  let shape := QueryShape.ofText query.preparedSql
  let outputs ← outputColumns session shape 0 (description.fields.zip outputTypes)
  return {
    name := query.name
    resultKind := query.resultKind
    doc := normalizeDoc query.doc
    preparedSql := query.preparedSql
    inputs := (query.paramNames.zip inputTypes).map fun (name, type) => ⟨name, type⟩
    outputs }
where
  liftExcept {α : Type} : Except Error α → Attempt (Resolving σ) α
    | .ok value => pure value
    | .error error => throw error

end QueryTyping
