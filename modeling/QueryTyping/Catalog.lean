import QueryTyping.Failure

/-!
# The catalog

What the database tells about statements, types and columns, and the session
through which it is asked.  A session keeps a state of its own, for instance a
connection; each question may change it and may fail.
-/

namespace QueryTyping

/-- A result column of a prepared statement.  Table and column number are zero if the column is
no plain reference to a table column. -/
structure FieldDescription where
  name : String
  typeOid : Int
  tableOid : Int := 0
  tableColumn : Int := 0
  deriving DecidableEq, Repr

/-- Parameter types and result columns of a prepared statement. -/
structure StatementDescription where
  paramOids : List Int
  fields : List FieldDescription
  deriving DecidableEq, Repr

/-- A type of the catalog. -/
structure CatalogType where
  oid : Int
  name : String
  /-- The element type of an array, else zero. -/
  elemOid : Int := 0
  /-- The letter for the kind of type. -/
  kindCode : String := "b"
  /-- The letter for the category; arrays have `A`. -/
  category : String := "U"
  deriving DecidableEq, Repr

/-- A table column of the catalog. -/
structure CatalogColumn where
  tableOid : Int
  number : Int
  table : String
  column : String
  notNull : Bool
  deriving DecidableEq, Repr

/-- Computations that change a state and may fail; the state survives a failure. -/
abbrev Attempt (σ : Type) := ExceptT Error (StateM σ)

/-- A database that answers questions about its catalog. -/
structure Session (σ : Type) where
  describe : String → Attempt σ StatementDescription
  lookupType : Int → Attempt σ (Option CatalogType)
  lookupColumn : Int → Int → Attempt σ (Option CatalogColumn)
  /-- A bound on the length of a chain of element types. -/
  chainBound : σ → Nat

/-- A question that a session was asked. -/
inductive Question where
  | describe (sql : String)
  | type (oid : Int)
  | column (tableOid number : Int)
  deriving DecidableEq, Repr

/-- A session that also keeps the questions it was asked, latest first. -/
def Session.traced {σ : Type} (session : Session σ) : Session (σ × List Question) where
  describe sql := ask (.describe sql) (session.describe sql)
  lookupType oid := ask (.type oid) (session.lookupType oid)
  lookupColumn table number := ask (.column table number) (session.lookupColumn table number)
  chainBound state := session.chainBound state.1
where
  ask {α : Type} (question : Question) (answer : Attempt σ α) :
      Attempt (σ × List Question) α := fun state =>
    let (result, next) := answer.run state.1
    (result, next, question :: state.2)

end QueryTyping
