import QueryTyping.Nullability
import QueryTyping.Proofs.LowerCase

/-!
# When an output counts as never null

The rules together call an output never null in two cases alone: it is a literal,
or it is a reference that they trust (`mayBeNull_eq_false_iff`).
-/

namespace QueryTyping

open Text

theorem QueryShape.mem_sourceRelations_qualified (shape : QueryShape) {qualifier : String}
    (written : qualifier ≠ "") (table : Option String) (relation : Relation) :
    relation ∈ shape.sourceRelations (some qualifier) table ↔
      relation ∈ shape.relations ∧ relation.label = lower qualifier := by
  simp [sourceRelations, Option.filter, written]

theorem QueryShape.mem_sourceRelations_unqualified (shape : QueryShape) (table : String)
    (relation : Relation) :
    relation ∈ shape.sourceRelations none (some table) ↔
      table ≠ "" ∧ relation ∈ shape.relations ∧ relation.name = some (lower table) := by
  by_cases empty : table = ""
  · simp [sourceRelations, Option.filter, empty]
  · simp [sourceRelations, Option.filter, empty]

theorem QueryShape.mem_relations_of_mem_sourceRelations {shape : QueryShape}
    {qualifier table : Option String} {relation : Relation}
    (source : relation ∈ shape.sourceRelations qualifier table) : relation ∈ shape.relations := by
  unfold sourceRelations at source
  split at source
  · exact (List.mem_filter.mp source).1
  · exact (List.mem_filter.mp source).1
  · cases source

/-- The rules trust a reference to be the value of a catalog column that is never null. -/
structure QueryShape.Trusts (shape : QueryShape) (name qualifier : Option String)
    (column : CatalogColumn) : Prop where
  single : shape.setOperation = false
  notNull : column.notNull = true
  sameName : ∀ written, name = some written → written = lower column.column
  plain : qualifier = none → shape.hasDerived = false
  found : shape.sourceRelations qualifier (some column.table) ≠ []
  sources : ∀ relation ∈ shape.sourceRelations qualifier (some column.table),
    relation.name = some (lower column.table) ∧ relation.nullable = false

namespace Nullability

/-- The second rule only ever says that an output is never null. -/
theorem notNullRule_cases (shape : QueryShape) (output : Output)
    (provenance : Option CatalogColumn) :
    notNullRule shape output provenance = some false ∨
      notNullRule shape output provenance = none := by
  unfold notNullRule
  split
  · dsimp only
    split
    · exact .inr rfl
    · split
      · exact .inr rfl
      · split
        · exact .inr rfl
        · split
          · exact .inl rfl
          · exact .inr rfl
  · exact .inr rfl

/-- The third rule only ever says that an output may be null. -/
theorem outerJoinRule_cases (shape : QueryShape) (output : Output)
    (provenance : Option CatalogColumn) :
    outerJoinRule shape output provenance = some true ∨
      outerJoinRule shape output provenance = none := by
  unfold outerJoinRule
  split
  · exact .inl rfl
  · split
    · dsimp only
      split
      · exact .inl rfl
      · exact .inr rfl
    · exact .inr rfl

theorem notNullRule_column_iff (shape : QueryShape) (name qualifier : Option String)
    (column : CatalogColumn) :
    notNullRule shape (.column name qualifier) (some column) = some false ↔
      shape.Trusts name qualifier column := by
  constructor
  · intro verdict
    unfold notNullRule at verdict
    dsimp only at verdict
    split at verdict
    · cases verdict
    next trusted =>
      split at verdict
      · cases verdict
      next named =>
        split at verdict
        · cases verdict
        next guarded =>
          split at verdict
          next listed =>
            simp only [Bool.or_eq_true, Bool.not_eq_true', not_or, Bool.not_eq_false,
              Bool.not_eq_true] at trusted
            simp only [Bool.and_eq_true, Bool.not_eq_true', List.isEmpty_eq_false_iff,
              List.all_eq_true, decide_eq_true_eq] at listed
            refine ⟨trusted.1, trusted.2, ?_, ?_, listed.1, listed.2⟩
            · rintro written rfl
              simpa using named
            · rintro rfl
              simpa using guarded
          · cases verdict
  · rintro ⟨single, notNull, sameName, plain, found, sources⟩
    have named : name.any (· ≠ lower column.column) = false := by
      cases name with
      | none => rfl
      | some written => simp [sameName written rfl]
    have guarded : (qualifier.isNone && shape.hasDerived) = false := by
      cases qualifier with
      | none => simp [plain rfl]
      | some written => rfl
    have listed : (shape.sourceRelations qualifier (some column.table)).isEmpty = false := by
      simpa using found
    have allPlain : (shape.sourceRelations qualifier (some column.table)).all (fun relation =>
        relation.name = some (lower column.table) && !relation.nullable) = true := by
      simpa using sources
    simp only [notNullRule, single, notNull, named, guarded, listed, allPlain, Bool.not_true,
      Bool.false_or, Bool.false_eq_true, if_false, Bool.not_false, Bool.true_and, if_true]

end Nullability

open Nullability in
/-- An output counts as never null exactly if it is a literal or a trusted reference. -/
theorem mayBeNull_eq_false_iff (shape : QueryShape) (index : Int)
    (provenance : Option CatalogColumn) :
    mayBeNull shape index provenance = false ↔
      shape.output index = .literal ∨
        ∃ name qualifier column, shape.output index = .column name qualifier ∧
          provenance = some column ∧ shape.Trusts name qualifier column := by
  have last := outerJoinRule_cases shape (shape.output index) provenance
  unfold mayBeNull rules
  simp only [List.findSome?_cons, List.findSome?_nil]
  cases written : shape.output index with
  | literal => simp [literalRule]
  | other =>
    have silent : notNullRule shape .other provenance = none := rfl
    rw [written] at last
    rcases last with verdict | verdict <;> simp [literalRule, silent, verdict]
  | column name qualifier =>
    rw [written] at last
    rcases notNullRule_cases shape (.column name qualifier) provenance with trusted | silent
    · cases provenance with
      | none => cases trusted
      | some column =>
        have trusts := (notNullRule_column_iff shape name qualifier column).mp trusted
        simp only [literalRule, trusted, Option.getD_some, true_iff]
        exact .inr ⟨name, qualifier, column, rfl, rfl, trusts⟩
    · have untrusted : ∀ column, provenance = some column →
          ¬ shape.Trusts name qualifier column := by
        rintro column rfl trusts
        rw [(notNullRule_column_iff shape name qualifier column).mpr trusts] at silent
        cases silent
      constructor
      · intro never
        rcases last with verdict | verdict <;> simp [literalRule, silent, verdict] at never
      · rintro (literal | ⟨_, _, column, same, known, trusts⟩)
        · cases literal
        · cases same
          exact absurd trusts (untrusted column known)

/-- Of the references, the rules call those never null that they trust. -/
theorem mayBeNull_reference_iff {shape : QueryShape} {index : Int}
    {name qualifier : Option String} (reference : shape.output index = .column name qualifier)
    (column : CatalogColumn) :
    mayBeNull shape index (some column) = false ↔ shape.Trusts name qualifier column := by
  rw [mayBeNull_eq_false_iff, reference]
  constructor
  · rintro (literal | ⟨_, _, _, same, known, trusts⟩)
    · cases literal
    · cases same
      cases known
      exact trusts
  · exact fun trusts => .inr ⟨name, qualifier, column, rfl, rfl, trusts⟩

end QueryTyping
