import Mathlib.Data.List.Basic
import QueryTyping.QueryShape.Reduction

/-!
# The relations of a FROM list

The reduction of a FROM list keeps its items in order: up to the marks, the
relation at a position is that of the item there (`relations_unmarked`).  A mark
says that some join may put NULLs in the place of the item
(`relation_nullable_iff`); which joins those are is told by `MayNull` from the
meaning of the joins, not from the reduction.
-/

namespace QueryTyping

/-- A relation without its mark. -/
def Relation.unmarked (relation : Relation) : Relation := { relation with nullable := false }

namespace Sql

/-- The items of a FROM list in order. -/
def fromItems (first : Option Source) (joins : List Join) : List Source :=
  first.toList ++ joins.map Join.source

/-- A join may put NULLs in the place of an item: LEFT and FULL of the one that the join adds,
RIGHT and FULL of any before it. -/
def JoinSide.Reaches (side : JoinSide) (added item : Nat) : Prop :=
  ((side = .left ∨ side = .full) ∧ item = added) ∨ ((side = .right ∨ side = .full) ∧ item < added)

/-- Some join of the list may put NULLs in the place of the item.  The first join adds the item
`added`. -/
def MayNull (added : Nat) (joins : List Join) (item : Nat) : Prop :=
  ∃ (k : Nat) (join : Join), joins[k]? = some join ∧ join.side.Reaches (added + k) item

theorem JoinSide.nullsLeft_iff (side : JoinSide) :
    side.nullsLeft = true ↔ side = .right ∨ side = .full := by
  cases side <;> simp [nullsLeft]

theorem JoinSide.nullsRight_iff (side : JoinSide) :
    side.nullsRight = true ↔ side = .left ∨ side = .full := by
  cases side <;> simp [nullsRight]

theorem mayNull_nil (added item : Nat) : ¬ MayNull added [] item := by
  rintro ⟨k, join, listed, -⟩
  simp at listed

theorem mayNull_cons (added : Nat) (join : Join) (rest : List Join) (item : Nat) :
    MayNull added (join :: rest) item ↔
      join.side.Reaches added item ∨ MayNull (added + 1) rest item := by
  constructor
  · rintro ⟨k, found, listed, reaches⟩
    cases k with
    | zero =>
      obtain rfl : join = found := by simpa using listed
      exact .inl reaches
    | succ k =>
      refine .inr ⟨k, found, by simpa using listed, ?_⟩
      rwa [Nat.add_assoc, Nat.add_comm 1 k]
  · rintro (reaches | ⟨k, found, listed, reaches⟩)
    · exact ⟨0, join, rfl, reaches⟩
    · refine ⟨k + 1, found, by simpa using listed, ?_⟩
      rwa [← Nat.add_assoc, Nat.add_right_comm]

@[simp] theorem Source.relation_nullable (ctes : List String) (item : Nat) (nullable : Bool)
    (source : Source) : (source.relation ctes item nullable).nullable = nullable := by
  cases source <;> rfl

@[simp] theorem Source.relation_index (ctes : List String) (item : Nat) (nullable : Bool)
    (source : Source) : (source.relation ctes item nullable).index = item := by
  cases source <;> rfl

@[simp] theorem Source.relation_unmarked (ctes : List String) (item : Nat) (nullable : Bool)
    (source : Source) :
    (source.relation ctes item nullable).unmarked = source.relation ctes item false := by
  cases source <;> rfl

/-- The relations before a join, with the marks that the join adds. -/
def Join.marked (join : Join) (relations : List Relation) : List Relation :=
  relations.map fun relation =>
    { relation with nullable := relation.nullable || join.side.nullsLeft }

theorem Join.length_marked (join : Join) (relations : List Relation) :
    (join.marked relations).length = relations.length := by
  simp [marked]

theorem Join.marked_append (join : Join) (before after : List Relation) :
    join.marked (before ++ after) = join.marked before ++ join.marked after := by
  simp [marked]

/-- The relations after a join whose item has the position `added`. -/
def Join.extendAt (join : Join) (ctes : List String) (added : Nat) (relations : List Relation) :
    List Relation :=
  join.marked relations ++ [join.source.relation ctes added join.side.nullsRight]

theorem Join.length_extendAt (join : Join) (ctes : List String) (added : Nat)
    (relations : List Relation) :
    (join.extendAt ctes added relations).length = relations.length + 1 := by
  simp [extendAt, length_marked]

theorem Join.extend_eq (ctes : List String) (relations : List Relation) (join : Join) :
    join.extend ctes relations = join.extendAt ctes relations.length relations := by
  cases marks : join.side.nullsLeft <;> simp [extend, extendAt, marked, marks]

/-- Marks apart, a join keeps the relations before it. -/
theorem Join.extend_unmarked (ctes : List String) (relations : List Relation) (join : Join) :
    (join.extend ctes relations).map Relation.unmarked =
      relations.map Relation.unmarked ++
        [join.source.relation ctes relations.length false] := by
  rw [extend_eq, extendAt, List.map_append, List.map_singleton, Source.relation_unmarked]
  simp [marked, Function.comp_def, Relation.unmarked]

theorem foldl_extend_unmarked (ctes : List String) (joins : List Join) (sources : List Source)
    (before : List Relation)
    (described : before.map Relation.unmarked =
      sources.mapIdx fun item source => source.relation ctes item false) :
    (joins.foldl (Join.extend ctes) before).map Relation.unmarked =
      (sources ++ joins.map Join.source).mapIdx fun item source =>
        source.relation ctes item false := by
  induction joins generalizing sources before with
  | nil => simpa using described
  | cons join rest ih =>
    have length : before.length = sources.length := by
      simpa using congrArg List.length described
    have step : (join.extend ctes before).map Relation.unmarked =
        (sources ++ [join.source]).mapIdx fun item source => source.relation ctes item false := by
      rw [Join.extend_unmarked, described, length, List.mapIdx_concat]
    simpa using ih (sources ++ [join.source]) (join.extend ctes before) step

/-- Marks apart, the relations of a FROM list are those of its items. -/
theorem relations_unmarked (ctes : List String) (first : Option Source) (joins : List Join) :
    (relations ctes first joins).map Relation.unmarked =
      (fromItems first joins).mapIdx fun item source => source.relation ctes item false := by
  apply foldl_extend_unmarked
  cases first <;> simp

theorem length_relations (ctes : List String) (first : Option Source) (joins : List Join) :
    (relations ctes first joins).length = (fromItems first joins).length := by
  simpa using congrArg List.length (relations_unmarked ctes first joins)

/-- The relation at a position is, its mark apart, that of the item there. -/
theorem source_of_relation {ctes : List String} {first : Option Source} {joins : List Join}
    {item : Nat} {relation : Relation}
    (listed : (relations ctes first joins)[item]? = some relation) :
    ∃ source, (fromItems first joins)[item]? = some source ∧
      relation.unmarked = source.relation ctes item false := by
  have same := congrArg (·[item]?) (relations_unmarked ctes first joins)
  simp only [List.getElem?_map, List.getElem?_mapIdx, listed, Option.map_some] at same
  obtain ⟨source, found, equal⟩ := Option.map_eq_some_iff.mp same.symm
  exact ⟨source, found, equal.symm⟩

theorem relation_of_source (ctes : List String) {first : Option Source} {joins : List Join}
    {item : Nat} {source : Source} (found : (fromItems first joins)[item]? = some source) :
    ∃ relation, (relations ctes first joins)[item]? = some relation ∧
      relation.unmarked = source.relation ctes item false := by
  have same := congrArg (·[item]?) (relations_unmarked ctes first joins)
  simp only [List.getElem?_map, List.getElem?_mapIdx, found, Option.map_some] at same
  exact Option.map_eq_some_iff.mp same

/-- After a join an item is marked if it was before or the join reaches it. -/
theorem Join.extend_nullable_iff (ctes : List String) (before : List Relation) (join : Join)
    (item : Nat) :
    (∃ relation, (join.extend ctes before)[item]? = some relation ∧ relation.nullable = true) ↔
      (∃ relation, before[item]? = some relation ∧ relation.nullable = true) ∨
        join.side.Reaches before.length item := by
  rw [extend_eq, extendAt]
  rcases Nat.lt_trichotomy item before.length with inside | last | outside
  · have placed : item < (join.marked before).length := by rwa [length_marked]
    rw [List.getElem?_append_left placed]
    simp [marked, inside, JoinSide.Reaches, Nat.ne_of_lt inside, JoinSide.nullsLeft_iff]
  · subst last
    rw [← join.length_marked before, List.getElem?_concat_length]
    simp [length_marked, JoinSide.Reaches, JoinSide.nullsRight_iff]
  · have beyond : (join.marked before ++
        [join.source.relation ctes before.length join.side.nullsRight]).length ≤ item := by
      simp [length_marked]
      omega
    have absent : before.length ≤ item := by omega
    rw [List.getElem?_eq_none beyond, List.getElem?_eq_none absent]
    simp [JoinSide.Reaches]
    omega

theorem foldl_extend_nullable_iff (ctes : List String) (joins : List Join)
    (before : List Relation) (item : Nat) :
    (∃ relation, (joins.foldl (Join.extend ctes) before)[item]? = some relation ∧
        relation.nullable = true) ↔
      (∃ relation, before[item]? = some relation ∧ relation.nullable = true) ∨
        MayNull before.length joins item := by
  induction joins generalizing before with
  | nil => simp [mayNull_nil]
  | cons join rest ih =>
    have length : (join.extend ctes before).length = before.length + 1 := by
      rw [Join.extend_eq, Join.length_extendAt]
    rw [List.foldl_cons, ih, Join.extend_nullable_iff, length, mayNull_cons, or_assoc]

/-- The marks of the reduction say which items some join may put NULLs in the place of. -/
theorem relation_nullable_iff {ctes : List String} {first : Option Source} {joins : List Join}
    {item : Nat} {relation : Relation}
    (listed : (relations ctes first joins)[item]? = some relation) :
    relation.nullable = true ↔ MayNull first.toList.length joins item := by
  have marks := foldl_extend_nullable_iff ctes joins
    (first.map (Source.relation ctes 0 false)).toList item
  have unmarked : ¬ ∃ relation : Relation,
      (first.map (Source.relation ctes 0 false)).toList[item]? = some relation ∧
        relation.nullable = true := by
    cases first with
    | none => simp
    | some source => cases item <;> simp
  have length : (first.map (Source.relation ctes 0 false)).toList.length =
      first.toList.length := by
    cases first <;> rfl
  rw [or_iff_right unmarked, length] at marks
  rw [← marks]
  constructor
  · exact fun nullable => ⟨relation, listed, nullable⟩
  · rintro ⟨other, same, nullable⟩
    change (relations ctes first joins)[item]? = some other at same
    obtain rfl : relation = other := by simpa [listed] using same
    exact nullable

end Sql

end QueryTyping
