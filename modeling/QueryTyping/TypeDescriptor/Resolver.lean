import QueryTyping.Catalog
import QueryTyping.TypeDescriptor.Builtin

/-!
# Resolving types

A type identifier is resolved from the memo, else from the built-in types, else
from the catalog, where an array leads on to its element.  Every resolved type
is kept, also when a later step fails.
-/

namespace QueryTyping

/-- Types resolved before. -/
structure TypeMemo where
  entries : List (Int × TypeDescriptor) := []

namespace TypeMemo

def find? (memo : TypeMemo) (oid : Int) : Option TypeDescriptor := memo.entries.lookup oid

def insert (memo : TypeMemo) (oid : Int) (type : TypeDescriptor) : TypeMemo :=
  ⟨(oid, type) :: memo.entries⟩

end TypeMemo

/-- A session's state with the memo. -/
structure Resolving (σ : Type) where
  session : σ
  memo : TypeMemo := {}

namespace Resolving

variable {σ α : Type}

/-- A question to the session leaves the memo alone. -/
def asking (question : Attempt σ α) : Attempt (Resolving σ) α := fun state =>
  let (result, session) := question.run state.session
  (result, { state with session })

/-- Keep a resolved type. -/
def remember (oid : Int) (type : TypeDescriptor) : Attempt (Resolving σ) Unit :=
  modify fun state => { state with memo := state.memo.insert oid type }

end Resolving

/-- The kind of a type of the catalog. -/
def CatalogType.kind (type : CatalogType) : TypeKind :=
  if type.category = "A" ∧ type.elemOid ≠ 0 then .array else .ofCode type.kindCode

/-- A type identifier is absent from the catalog. -/
def Failure.unknownType (oid : Int) (query : Option String) : Failure :=
  let message := "unknown type oid " ++ toString oid
  .inference
    { cause := .unknownType oid
      message := match query.filter (!·.isEmpty) with
        | some name => "query " ++ name ++ ": " ++ message
        | none => message
      query }

open Resolving in
/-- Resolve a type whose chain of elements has at most so many links. -/
def resolveWithin {σ : Type} (session : Session σ) (query : Option String) :
    Nat → Int → Attempt (Resolving σ) TypeDescriptor
  | 0, _ => throw (.unforeseen .endlessType)
  | links + 1, oid => do
    match (← get).memo.find? oid with
    | some type => return type
    | none =>
      let type ←
        match TypeDescriptor.builtin? oid with
        | some type => pure type
        | none => do
          match ← asking (session.lookupType oid) with
          | none => throw (.failure (.unknownType oid query))
          | some row =>
            if row.kind = .array then
              let elem ← resolveWithin session query links row.elemOid
              pure (.derived oid row.name row.kind elem)
            else pure (.plain oid row.name row.kind)
      remember oid type
      return type

/-- Resolve a type, for a query if one is named. -/
def resolveType {σ : Type} (session : Session σ) (oid : Int) (query : Option String) :
    Attempt (Resolving σ) TypeDescriptor := do
  resolveWithin session query (session.chainBound (← get).session) oid

end QueryTyping
