import QueryTyping.Catalog
import QueryTyping.Text.Blank

/-!
# A catalog in memory

A fixed set of statements, types and columns, and the session that answers from
it.  A statement is known by its text less surrounding white space and closing
semicolons.
-/

namespace QueryTyping

open Text

/-- The text by which a statement is known. -/
def statementKey (sql : String) : String :=
  String.ofList (trim (dropRightWhile (· = ';') (trim sql.toList)))

structure CatalogSnapshot where
  /-- Statements by key, each with its description or the error it meets. -/
  statements : List (String × Except Failure StatementDescription) := []
  types : List CatalogType := []
  columns : List CatalogColumn := []

namespace CatalogSnapshot

/-- A rejection of a statement. -/
def rejection (message : String) : Failure :=
  .inference { cause := .catalog, message, query := none }

def describe (snapshot : CatalogSnapshot) (sql : String) : Except Failure StatementDescription :=
  (snapshot.statements.lookup (statementKey sql)).getD (.error (rejection "no such statement"))

def typeRow? (snapshot : CatalogSnapshot) (oid : Int) : Option CatalogType :=
  snapshot.types.find? fun row => row.oid = oid

def column? (snapshot : CatalogSnapshot) (table number : Int) : Option CatalogColumn :=
  snapshot.columns.find? fun row => row.tableOid = table ∧ row.number = number

/-- The session that answers from the catalog it is at. -/
def session : Session CatalogSnapshot where
  describe sql := do
    match (← get).describe sql with
    | .ok description => return description
    | .error failure => throw (.failure failure)
  lookupType oid := do return (← get).typeRow? oid
  lookupColumn table number := do return (← get).column? table number
  chainBound snapshot := snapshot.types.length + 2

/-- Add a type. -/
def addType (snapshot : CatalogSnapshot) (row : CatalogType) : CatalogSnapshot :=
  { snapshot with types := snapshot.types ++ [row] }

end CatalogSnapshot

end QueryTyping
