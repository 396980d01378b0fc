import QueryTyping.Json.Value
import QueryTyping.TypedQuery

/-!
# Typed queries as JSON

The members of a document keep the order of the model's fields.
-/

namespace QueryTyping

namespace TypeDescriptor

def json : TypeDescriptor → Json
  | plain oid name kind =>
    .object [("oid", .integer oid), ("name", .text name), ("kind", .text kind.text),
      ("elem", .null)]
  | derived oid name kind elem =>
    .object [("oid", .integer oid), ("name", .text name), ("kind", .text kind.text),
      ("elem", json elem)]

end TypeDescriptor

def InputParam.json (param : InputParam) : Json :=
  .object [("pg_name", .text param.name), ("pg_type", param.type.json)]

def OutputColumn.json (column : OutputColumn) : Json :=
  .object [("pg_name", .text column.name), ("pg_type", column.type.json),
    ("nullable", .bool column.nullable)]

namespace TypedQuery

def json (query : TypedQuery) : Json :=
  .object [("name", .text query.name), ("result_kind", .text query.resultKind.text),
    ("doc", .texts query.doc), ("prepared_sql", .text query.preparedSql),
    ("inputs", .list (query.inputs.map InputParam.json)),
    ("outputs", .list (query.outputs.map OutputColumn.json))]

/-- A list of queries. -/
def jsonList (queries : List TypedQuery) : Json := .list (queries.map json)

end TypedQuery

end QueryTyping
