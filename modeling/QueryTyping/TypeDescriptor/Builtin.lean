import QueryTyping.TypeDescriptor

/-!
# Well-known types

The identifiers of built-in types are the same in every database, so these are
never asked for.
-/

namespace QueryTyping

namespace TypeDescriptor

/-- Built-in types without elements. -/
def builtinScalars : List TypeDescriptor :=
  [.plain 16 "bool" .base, .plain 17 "bytea" .base, .plain 18 "char" .base, .plain 19 "name" .base,
    .plain 20 "int8" .base, .plain 21 "int2" .base, .plain 23 "int4" .base, .plain 25 "text" .base,
    .plain 26 "oid" .base, .plain 114 "json" .base, .plain 142 "xml" .base, .plain 650 "cidr" .base,
    .plain 700 "float4" .base, .plain 701 "float8" .base, .plain 705 "unknown" .pseudo,
    .plain 790 "money" .base, .plain 829 "macaddr" .base, .plain 869 "inet" .base,
    .plain 1042 "bpchar" .base, .plain 1043 "varchar" .base, .plain 1082 "date" .base,
    .plain 1083 "time" .base, .plain 1114 "timestamp" .base, .plain 1184 "timestamptz" .base,
    .plain 1186 "interval" .base, .plain 1266 "timetz" .base, .plain 1560 "bit" .base,
    .plain 1562 "varbit" .base, .plain 1700 "numeric" .base, .plain 2205 "regclass" .base,
    .plain 2206 "regtype" .base, .plain 2249 "record" .pseudo, .plain 2278 "void" .pseudo,
    .plain 2950 "uuid" .base, .plain 3614 "tsvector" .base, .plain 3615 "tsquery" .base,
    .plain 3802 "jsonb" .base, .plain 3904 "int4range" .range, .plain 3906 "numrange" .range,
    .plain 3908 "tsrange" .range, .plain 3910 "tstzrange" .range, .plain 3912 "daterange" .range,
    .plain 3926 "int8range" .range]

/-- The array of a type: its name has an underscore in front. -/
def arrayOf (oid : Int) (elem : TypeDescriptor) : TypeDescriptor :=
  .derived oid ("_" ++ elem.name) .array elem

/-- Built-in arrays: their identifiers and those of their elements. -/
def builtinArrays : List (Int × Int) :=
  [(1000, 16), (1001, 17), (1005, 21), (1007, 23), (1009, 25), (1014, 1042), (1015, 1043),
    (1016, 20), (1021, 700), (1022, 701), (1028, 26), (1041, 869), (1115, 1114), (1182, 1082),
    (1183, 1083), (1185, 1184), (1187, 1186), (1231, 1700), (199, 114), (2951, 2950), (3807, 3802)]

/-- The type without elements of an identifier. -/
def builtinScalar? (oid : Int) : Option TypeDescriptor :=
  builtinScalars.find? fun type => type.oid = oid

/-- The built-in type of an identifier. -/
def builtin? (oid : Int) : Option TypeDescriptor :=
  match builtinScalar? oid with
  | some type => some type
  | none => do
    let elemOid ← builtinArrays.lookup oid
    return arrayOf oid (← builtinScalar? elemOid)

/-- The name of a built-in type. -/
def builtinName (oid : Int) : String := ((builtin? oid).map name).getD "unknown"

end TypeDescriptor

end QueryTyping
