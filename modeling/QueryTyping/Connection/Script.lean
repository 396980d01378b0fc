import QueryTyping.Catalog.Snapshot
import QueryTyping.Connection

/-!
# Scripted servers

A server that answers by a fixed script: which statements it knows, what it
raises, and when the connection breaks.
-/

namespace QueryTyping

open Text

/-- What the script says about preparing a statement. -/
inductive ScriptedStatement where
  | described (description : ServerDescription)
  /-- A rejection, while it is prepared or while it is described; it may break the connection. -/
  | rejected (whileDescribed loses : Bool) (message : Bytes)
  | raised (error : DatabaseError)

structure ServerScript where
  connectError : Option String := none
  /-- Statements by key. -/
  statements : List (String × ScriptedStatement) := []
  /-- Errors of statements that are run, by their text. -/
  executions : List (String × DatabaseError) := []
  queries : List (String × Except DatabaseError ServerResult) := []
  catalog : CatalogSnapshot := {}

/-- A scripted server and how its connection stands. -/
structure ScriptedServer where
  script : ServerScript
  isLost : Bool := false
  isClosed : Bool := false

namespace ScriptedServer

def connect : StateM ScriptedServer (Except DatabaseError Unit) := do
  match (← get).script.connectError with
  | some message => return .error ⟨.operational, message⟩
  | none =>
    modify fun state => { state with isLost := false, isClosed := false }
    return .ok ()

def statement? (sql : String) : StateM ScriptedServer (Option ScriptedStatement) := do
  return (← get).script.statements.lookup (statementKey sql)

def reject {α : Type} (loses : Bool) (message : Bytes) : StateM ScriptedServer (ServerReply α) := do
  if loses then modify fun state => { state with isLost := true }
  return .rejected message

def prepare (sql : String) : StateM ScriptedServer (ServerReply Unit) := do
  match ← statement? sql with
  | some (.rejected false loses message) => reject loses message
  | some (.raised error) => return .raised error
  | some _ => return .done ()
  | none => return .rejected (encodeUtf8 "no such statement".toList)

def describePrepared (sql : String) : StateM ScriptedServer (ServerReply ServerDescription) := do
  match ← statement? sql with
  | some (.described description) => return .done description
  | some (.rejected _ loses message) => reject loses message
  | some (.raised error) => return .raised error
  | none => return .done ⟨[], []⟩

def server : Server ScriptedServer where
  connect _ := connect
  execute sql := do
    match (← get).script.executions.lookup sql with
    | some error => return .error error
    | none => return .ok ()
  prepare := prepare
  describePrepared := describePrepared
  lookupType oid := do return .ok ((← get).script.catalog.typeRow? oid)
  lookupColumn table number := do return .ok ((← get).script.catalog.column? table number)
  query sql _ := do return ((← get).script.queries.lookup sql).getD (.ok {})
  isLost := isLost
  isClosed := isClosed
  chainBound state := state.script.catalog.types.length + 2

end ScriptedServer

end QueryTyping
