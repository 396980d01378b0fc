import QueryTyping.QueryFile.Query
import QueryTyping.TypeDescriptor

/-!
# Typed queries

A query whose parameters and result columns have types.
-/

namespace QueryTyping

structure InputParam where
  name : String
  type : TypeDescriptor
  deriving DecidableEq, Repr

structure OutputColumn where
  name : String
  type : TypeDescriptor
  nullable : Bool
  deriving DecidableEq, Repr

structure TypedQuery where
  name : String
  resultKind : ResultKind
  doc : List String
  preparedSql : String
  inputs : List InputParam
  outputs : List OutputColumn
  deriving DecidableEq, Repr

end QueryTyping
