import QueryTyping.Connection.Script
import QueryTyping.Json.Access

/-!
# Recordings

A server's script as a JSON document, so that a run can be repeated without the
server.  What a document leaves out is empty, zero or false.
-/

namespace QueryTyping

open Text

namespace CatalogType

/-- A row of the type catalog; without a category it is one of the user's base types. -/
def ofJson (json : Json) : CatalogType :=
  ⟨json.integerAt "oid", json.textAt "name", json.integerAt "elem_oid",
    (json.textAt? "type_type").getD "b", (json.textAt? "category").getD "U"⟩

end CatalogType

namespace CatalogColumn

def ofJson (json : Json) : CatalogColumn :=
  ⟨json.integerAt "table_oid", json.integerAt "attnum", json.textAt "table_name",
    json.textAt "column_name", json.flagAt "not_null"⟩

end CatalogColumn

namespace DatabaseError

/-- The class of an error by its word; any other word stands for an error in the data. -/
def classOfWord (word : String) : DatabaseErrorClass :=
  match word with
  | "operational" => .operational
  | "canceled" => .canceled
  | "syntax" => .syntaxError
  | "undefined" => .undefinedTable
  | _ => .dataError

def ofJson (json : Json) : DatabaseError :=
  ⟨classOfWord (json.textAt "raise"), json.textAt "message"⟩

/-- Whether a part of a document says that an error is raised. -/
def isIn (json : Json) : Bool := (json.member? "raise").isSome

end DatabaseError

namespace ServerField

def ofJson (json : Json) : ServerField :=
  { name := json.textAt? "name", typeOid := json.integerAt "type_oid"
    tableOid := json.integerAt "table_oid", tableColumn := json.integerAt "table_column" }

end ServerField

namespace ScriptedStatement

/-- A rejection's message is a text, or bytes. -/
def ofJson (json : Json) : ScriptedStatement :=
  let rejection (message : Bytes) : ScriptedStatement :=
    .rejected (json.textAt? "at" = some "describe") (json.flagAt "lost") message
  if DatabaseError.isIn json then .raised (DatabaseError.ofJson json)
  else
    match json.member? "error_bytes", json.textAt? "error" with
    | some (.list bytes), _ => rejection (bytes.map fun b => b.wholeNumber.toNat.toUInt8)
    | _, some message => rejection (encodeUtf8 message.toList)
    | _, none => .described
        ⟨(json.itemsAt "param_oids").map Json.wholeNumber,
          (json.itemsAt "fields").map ServerField.ofJson⟩

end ScriptedStatement

namespace ServerResult

def ofJson (json : Json) : ServerResult where
  columns := (json.itemsAt "columns").map fun
    | .list [.text name, oid] => (name, oid.wholeNumber)
    | _ => ("", 0)
  rows := (json.itemsAt "rows").map fun
    | .list cells => cells
    | _ => []
  status := json.textAt? "status"

end ServerResult

namespace ServerScript

def ofJson (json : Json) : ServerScript where
  connectError := json.textAt? "connect_error"
  statements := (json.itemsAt "statements").map fun part =>
    (statementKey (part.textAt "sql"), ScriptedStatement.ofJson part)
  executions := (json.itemsAt "scripts").map fun part =>
    (part.textAt "sql", DatabaseError.ofJson part)
  queries := (json.itemsAt "queries").map fun part =>
    (part.textAt "sql",
      if DatabaseError.isIn part then .error (DatabaseError.ofJson part)
      else .ok (ServerResult.ofJson part))
  catalog := {
    types := (json.itemsAt "types").map CatalogType.ofJson
    columns := (json.itemsAt "columns").map CatalogColumn.ofJson }

end ServerScript

end QueryTyping
