import QueryTyping.TypedQuery
import QueryTyping.Validation

/-!
# Admitting queries from data

Source queries, types and typed queries as tables.
-/

namespace QueryTyping

open Check

def ResultKind.check : Check ResultKind := word ResultKind.ofText? (ResultKind.all.map (·.text))

def TypeKind.check : Check TypeKind := word TypeKind.ofText? (TypeKind.all.map (·.text))

instance : Inhabited ResultKind := ⟨.exec⟩

instance : Inhabited SourceQuery := ⟨⟨"", "", [], .exec, []⟩⟩

instance : Inhabited InputParam := ⟨⟨"", default⟩⟩

instance : Inhabited OutputColumn := ⟨⟨"", default, true⟩⟩

def SourceQuery.check : Check SourceQuery :=
  model "SourceQuery" fun members => do
    return {
      name := ← field members "name" text
      preparedSql := ← field members "prepared_sql" text
      paramNames := ← fieldOr members "param_names" [] (tuple text)
      resultKind := ← field members "result_kind" ResultKind.check
      doc := ← fieldOr members "doc" [] (tuple text) }

/-- A type whose elements are nested at most so deep. -/
def TypeDescriptor.checkWithin : Nat → Check TypeDescriptor
  | 0 => fun _ => refuse "model_type" "Input should be a valid dictionary or instance of TypeDescriptor"
  | depth + 1 =>
    model "TypeDescriptor" fun members => do
      let oid ← field members "oid" integer
      let name ← field members "name" text
      let kind ← fieldOr members "kind" .base TypeKind.check
      match ← fieldOr members "elem" none (optional (checkWithin depth)) with
      | some elem => return .derived oid name kind elem
      | none => return .plain oid name kind

mutual

/-- How deep tables and lists are nested. -/
def Datum.depth : Datum → Nat
  | .list items => Datum.depthOfItems items + 1
  | .table members => Datum.depthOfMembers members + 1
  | _ => 0

def Datum.depthOfItems : List Datum → Nat
  | [] => 0
  | item :: rest => max (Datum.depth item) (Datum.depthOfItems rest)

def Datum.depthOfMembers : List (String × Datum) → Nat
  | [] => 0
  | (_, value) :: rest => max (Datum.depth value) (Datum.depthOfMembers rest)

end

def TypeDescriptor.check : Check TypeDescriptor := fun datum =>
  TypeDescriptor.checkWithin (datum.depth + 1) datum

def InputParam.check : Check InputParam :=
  model "InputParam" fun members => do
    return ⟨← field members "pg_name" text, ← field members "pg_type" TypeDescriptor.check⟩

def OutputColumn.check : Check OutputColumn :=
  model "OutputColumn" fun members => do
    return {
      name := ← field members "pg_name" text
      type := ← field members "pg_type" TypeDescriptor.check
      nullable := ← field members "nullable" truth }

def TypedQuery.check : Check TypedQuery :=
  model "TypedQuery" fun members => do
    return {
      name := ← field members "name" text
      resultKind := ← field members "result_kind" ResultKind.check
      doc := ← fieldOr members "doc" [] (tuple text)
      preparedSql := ← field members "prepared_sql" text
      inputs := ← fieldOr members "inputs" [] (tuple InputParam.check)
      outputs := ← fieldOr members "outputs" [] (tuple OutputColumn.check) }

end QueryTyping
