import QueryTyping.Proofs.NeverNull

/-!
# Set operations

A set operation is a tree whose leaves are SELECTs and lists of values, with
parentheses anywhere.  The reduction goes up this tree and keeps one output for each
column, but what it keeps hangs on the leaves alone: an output is a literal exactly
if every leaf has a literal there (`Query.output_eq_literal_iff`), and there are as
many outputs as the leftmost leaf is known to have (`Query.shape_width`).

So a column of a set operation is called never null exactly if all leaves have a
literal in its place, whatever the database says of where it comes from
(`Query.setOperation_by_leaves`).
-/

namespace QueryTyping

/-- The number of outputs whose positions are known. -/
def QueryShape.width (shape : QueryShape) : Nat := if shape.star then 0 else shape.outputs.length

/-- A literal stands at one of the known positions. -/
theorem QueryShape.lt_width_of_literal {shape : QueryShape} {index : Nat}
    (literal : shape.output index = .literal) : index < shape.width := by
  have inside : ¬ (index : Int) < 0 := by omega
  unfold output at literal
  unfold width
  rw [if_neg inside, Int.toNat_natCast] at literal
  split at literal
  · cases literal
  next aligned =>
    rw [if_neg aligned]
    by_contra beyond
    rw [List.getElem?_eq_none (Nat.le_of_not_lt beyond)] at literal
    cases literal

theorem QueryShape.output_of_neg (shape : QueryShape) (aligned : shape.star = false) {index : Int}
    (before : index < 0) : shape.output index = .other := by
  simp [output, aligned, before]

namespace Sql

/-- The leaves of a tree of set operations, from left to right. -/
def Query.leaves : Query → List Query
  | .combined _ _ left right => left.leaves ++ right.leaves
  | .paren _ inner _ => inner.leaves
  | .select ctes outputs first joins grouping => [.select ctes outputs first joins grouping]
  | .values ctes => [.values ctes]

/-- The query is a set operation, in parentheses or not. -/
def Query.IsSetOperation : Query → Prop
  | .combined _ _ _ _ => True
  | .paren _ inner _ => inner.IsSetOperation
  | .select _ _ _ _ _ => False
  | .values _ => False

/-- The query is a SELECT without a star, and has a literal at the position. -/
inductive Query.LiteralAt : Query → Nat → Prop
  | select {ctes : List Cte} {outputs : List Expr} {first : Option Source} {joins : List Join}
    {grouping : List Grouping} {position : Nat} {output : Expr} (starless : anyStar outputs = false)
    (placed : outputs[position]? = some output) (literal : output.unaliased.isLiteral = true) :
    LiteralAt (.select ctes outputs first joins grouping) position

/-- The number of columns that a leaf shows: none behind a star, and none in a list of values. -/
def Query.writtenWidth : Query → Nat
  | .select _ outputs _ _ _ => if anyStar outputs then 0 else outputs.length
  | .combined _ _ _ _ | .paren _ _ _ | .values _ => 0

/-- Induction over a tree of set operations. -/
@[elab_as_elim]
theorem Query.tree_induction {motive : Query → Prop}
    (select : ∀ ctes outputs first joins grouping,
      motive (.select ctes outputs first joins grouping))
    (combined : ∀ ctes operator left right, motive left → motive right →
      motive (.combined ctes operator left right))
    (paren : ∀ ctes inner bare, motive inner → motive (.paren ctes inner bare))
    (values : ∀ ctes, motive (.values ctes)) (query : Query) : motive query :=
  Query.shape.induct motive select combined paren values query

theorem Query.leaves_ne_nil (query : Query) : query.leaves ≠ [] := by
  induction query using Query.tree_induction with
  | select => exact List.cons_ne_nil _ _
  | combined ctes operator left right inLeft _ =>
    exact List.append_ne_nil_of_left_ne_nil inLeft _
  | paren ctes inner bare inside => exact inside
  | values => exact List.cons_ne_nil _ _

theorem combinedShape_width (left right : QueryShape) :
    (combinedShape left right).width = left.width := by
  simp [combinedShape, QueryShape.width]

/-- Of two branches the operation keeps the literals that they share. -/
theorem combinedShape_literal_iff (left right : QueryShape) (index : Nat) :
    (combinedShape left right).output index = .literal ↔
      left.output index = .literal ∧ right.output index = .literal := by
  refine ⟨combinedShape_literal, fun both => ?_⟩
  have inside : ¬ (index : Int) < 0 := by omega
  -- The width is that of the left branch, which has a literal at the position.
  have known : index < (if left.star then 0 else left.outputs.length) :=
    QueryShape.lt_width_of_literal both.1
  unfold QueryShape.output
  simp only [combinedShape, Bool.false_eq_true, if_false, inside, Int.toNat_natCast,
    List.getElem?_map, List.getElem?_range known, Option.map_some, Option.getD_some]
  exact if_pos both

/-- Nothing but literals is told apart behind an operation. -/
theorem combinedShape_output (left right : QueryShape) (index : Int) :
    (combinedShape left right).output index = .literal ∨
      (combinedShape left right).output index = .other := by
  unfold QueryShape.output
  simp only [combinedShape, Bool.false_eq_true, if_false, List.getElem?_map]
  split
  · exact .inr rfl
  · cases (List.range (if left.star then 0 else left.outputs.length))[index.toNat]? with
    | none => exact .inr rfl
    | some position =>
      simp only [Option.map_some, Option.getD_some]
      split
      · exact .inl rfl
      · exact .inr rfl

theorem shapeOf_literal_iff (relations : List Relation) (outputs : List Expr) (position : Nat) :
    (shapeOf relations outputs).output position = .literal ↔
      anyStar outputs = false ∧
        ∃ output, outputs[position]? = some output ∧ output.unaliased.isLiteral = true := by
  cases star : anyStar outputs with
  | true => simp [shapeOf_output_of_star _ star]
  | false =>
    cases placed : outputs[position]? with
    | none =>
      have inside : ¬ (position : Int) < 0 := by omega
      simp [shapeOf, star, QueryShape.output, placed, inside]
    | some output =>
      rw [shapeOf_output star placed]
      constructor
      · exact fun literal => ⟨rfl, output, rfl, Expr.isLiteral_of_output literal⟩
      · rintro ⟨-, _, ⟨⟩, literal⟩
        unfold Expr.output
        exact if_pos literal

/-- The reduction of a tree loses nothing of the literals of its leaves. -/
theorem Query.output_eq_literal_iff (query : Query) (position : Nat) :
    query.shape.output position = .literal ↔ ∀ leaf ∈ query.leaves, leaf.LiteralAt position := by
  induction query using Query.tree_induction with
  | select ctes outputs first joins grouping =>
    rw [Query.shape, shapeOf_literal_iff, Query.leaves, List.forall_mem_singleton]
    constructor
    · rintro ⟨starless, output, placed, literal⟩
      exact .select starless placed literal
    · rintro ⟨starless, placed, literal⟩
      exact ⟨starless, _, placed, literal⟩
  | combined ctes operator left right inLeft inRight =>
    rw [Query.shape, combinedShape_literal_iff, inLeft, inRight, Query.leaves,
      List.forall_mem_append]
  | paren ctes inner bare inside => exact inside
  | values ctes =>
    rw [Query.shape, unknown_output, Query.leaves, List.forall_mem_singleton]
    constructor
    · intro other
      cases other
    · intro literal
      cases literal

theorem Query.shape_width (query : Query) :
    query.leaves.head?.map Query.writtenWidth = some query.shape.width := by
  induction query using Query.tree_induction with
  | select ctes outputs first joins grouping =>
    cases star : anyStar outputs <;>
      simp [Query.leaves, Query.writtenWidth, Query.shape, shapeOf, QueryShape.width, star]
  | combined ctes operator left right inLeft _ =>
    rw [Query.leaves, List.head?_append_of_ne_nil _ left.leaves_ne_nil, inLeft, Query.shape,
      combinedShape_width]
  | paren ctes inner bare inside => exact inside
  | values ctes => rfl

/-- The shape of a set operation is that of its outermost operator. -/
theorem Query.IsSetOperation.exists_combined {query : Query} (combines : query.IsSetOperation) :
    ∃ left right, query.shape = combinedShape left right := by
  induction query using Query.tree_induction with
  | select => exact combines.elim
  | combined ctes operator left right => exact ⟨left.shape, right.shape, rfl⟩
  | paren ctes inner bare inside => exact inside combines
  | values => exact combines.elim

/-- Behind a set operation only literals are never null. -/
theorem mayBeNull_of_setOperation {shape : QueryShape} (combined : shape.setOperation = true)
    (index : Int) (provenance : Option CatalogColumn) :
    mayBeNull shape index provenance = false ↔ shape.output index = .literal := by
  rw [mayBeNull_eq_false_iff]
  refine ⟨?_, .inl⟩
  rintro (literal | ⟨_, _, _, -, -, trusts⟩)
  · exact literal
  · rw [trusts.single] at combined
    cases combined

/-- A set operation has no relations and no star, as many outputs as its leftmost leaf is known to
have, and of its outputs those are literals for which every leaf has a literal.  These are the
columns that are never null; where the database says that a column comes from has no part in it. -/
theorem Query.setOperation_by_leaves {query : Query} (combines : query.IsSetOperation) :
    (query.shape.setOperation = true ∧ query.shape.relations = [] ∧ query.shape.star = false ∧
      query.shape.unreadable = false) ∧
    (∃ leftmost others, query.leaves = leftmost :: others ∧
      query.shape.outputs.length = leftmost.writtenWidth) ∧
    ∀ index : Int,
      (query.shape.output index = .literal ∨ query.shape.output index = .other) ∧
      (query.shape.output index = .literal ↔
        ∃ position : Nat, index = position ∧ position < query.shape.outputs.length ∧
          ∀ leaf ∈ query.leaves, leaf.LiteralAt position) ∧
      ∀ provenance, mayBeNull query.shape index provenance = false ↔
        query.shape.output index = .literal := by
  obtain ⟨left, right, combined⟩ := combines.exists_combined
  have single : query.shape.setOperation = true := by
    rw [combined]
    rfl
  have aligned : query.shape.star = false := by
    rw [combined]
    rfl
  have width : query.shape.width = query.shape.outputs.length := by
    rw [QueryShape.width, aligned, if_neg (by decide)]
  refine ⟨⟨single, by rw [combined]; rfl, aligned, by rw [combined]; rfl⟩, ?_,
    fun index => ⟨?_, ?_, mayBeNull_of_setOperation single index⟩⟩
  · obtain ⟨leftmost, others, leaves⟩ := List.exists_cons_of_ne_nil query.leaves_ne_nil
    have outputs := query.shape_width
    rw [leaves, width] at outputs
    exact ⟨leftmost, others, leaves, (Option.some.inj outputs).symm⟩
  · rw [combined]
    exact combinedShape_output left right index
  · constructor
    · intro literal
      by_cases before : index < 0
      · rw [query.shape.output_of_neg aligned before] at literal
        cases literal
      · obtain ⟨position, rfl⟩ := Int.eq_ofNat_of_zero_le (Int.not_lt.mp before)
        have known := QueryShape.lt_width_of_literal literal
        rw [width] at known
        exact ⟨position, rfl, known, (query.output_eq_literal_iff position).mp literal⟩
    · rintro ⟨position, rfl, -, literals⟩
      exact (query.output_eq_literal_iff position).mpr literals

/-- `SELECT 1, 'a' UNION (SELECT 2, 'b' EXCEPT SELECT 3, c)`. -/
def numberedLetters : Query :=
  .combined [] .union (.select [] [.number "1", .string "a"] none [] [])
    (.paren [] (.combined [] .except (.select [] [.number "2", .string "b"] none [] [])
      (.select [] [.number "3", .column [] "c"] none [] [])) true)

theorem numberedLetters_by_leaves :
    numberedLetters.IsSetOperation ∧
      (∀ leaf ∈ numberedLetters.leaves, leaf.LiteralAt 0) ∧
      ¬ (∀ leaf ∈ numberedLetters.leaves, leaf.LiteralAt 1) ∧
      (∀ provenance, mayBeNull numberedLetters.shape 0 provenance = false) ∧
      ∀ provenance, mayBeNull numberedLetters.shape 1 provenance = true := by
  have combines : numberedLetters.IsSetOperation := trivial
  obtain ⟨-, -, decided⟩ := Query.setOperation_by_leaves combines
  obtain ⟨-, first, never⟩ := decided 0
  obtain ⟨-, second, sometimes⟩ := decided 1
  have numbers : numberedLetters.shape.output 0 = .literal := by decide
  have letters : numberedLetters.shape.output 1 ≠ .literal := by decide
  refine ⟨combines, ?_, fun literals => ?_, fun provenance => (never provenance).mpr numbers,
    fun provenance => ?_⟩
  · obtain ⟨position, same, -, literals⟩ := first.mp numbers
    obtain rfl : position = 0 := by omega
    exact literals
  · exact letters (second.mpr ⟨1, rfl, by decide, literals⟩)
  · rw [← Bool.not_eq_false]
    exact fun never => letters ((sometimes provenance).mp never)

end Sql

end QueryTyping
