import QueryTyping.Catalog
import QueryTyping.Json.Value
import QueryTyping.Settings.Resolution

/-!
# Connections

What a client does with a database connection, as events, and the server at its
other end.  A server is any state machine that answers; it may refuse, raise an
error, or lose the connection at every point.
-/

namespace QueryTyping

open Text

/-- What happens on a connection. -/
inductive ConnectionEvent where
  | connect (settings : ConnectionSettings)
  | execute (sql : String)
  /-- A transaction block begins, or a savepoint in one that is open. -/
  | begin (forceRollback : Bool)
  | commit
  | rollback
  | prepare (sql : String)
  | describePrepared
  /-- The catalog is asked for a type. -/
  | type (oid : Int)
  /-- The catalog is asked for a table column. -/
  | column (tableOid number : Int)
  | query (sql : String) (params : Option (List (String × Json)))
  | close

namespace Connection

/-- The name under which a client connects. -/
def applicationName : String := "pgquerygen"

/-- How long a client waits for a connection, in seconds. -/
def connectTimeout : Nat := 10

end Connection

/-- A server's answer about a statement. -/
inductive ServerReply (α : Type) where
  | done (value : α)
  /-- The statement is at fault; the message comes as bytes. -/
  | rejected (message : Bytes)
  | raised (error : DatabaseError)

/-- A result column of a prepared statement as the server describes it: it may have no name. -/
structure ServerField where
  name : Option String
  typeOid : Int
  tableOid : Int := 0
  tableColumn : Int := 0

structure ServerDescription where
  paramOids : List Int
  fields : List ServerField

/-- What a query returns: columns with their types, rows, and a status. -/
structure ServerResult where
  columns : List (String × Int) := []
  rows : List (List Json) := []
  status : Option String := none

/-- The other end of a connection. -/
structure Server (σ : Type) where
  connect : ConnectionSettings → StateM σ (Except DatabaseError Unit)
  execute : String → StateM σ (Except DatabaseError Unit)
  prepare : String → StateM σ (ServerReply Unit)
  /-- Describe the statement just prepared. -/
  describePrepared : String → StateM σ (ServerReply ServerDescription)
  lookupType : Int → StateM σ (Except DatabaseError (Option CatalogType))
  lookupColumn : Int → Int → StateM σ (Except DatabaseError (Option CatalogColumn))
  query : String → Option (List (String × Json)) → StateM σ (Except DatabaseError ServerResult)
  /-- Whether the connection is broken, which a client learns from a rejection. -/
  isLost : σ → Bool
  /-- Whether the connection is closed at the server's end. -/
  isClosed : σ → Bool
  /-- A bound on the length of a chain of element types. -/
  chainBound : σ → Nat

end QueryTyping
