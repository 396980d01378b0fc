import Mathlib.Data.List.Infix
import Mathlib.Data.List.Sublists
import QueryTyping.Proofs.NeverNull

/-!
# Grouping sets

`ROLLUP`, `CUBE` and `GROUPING SETS` group the same rows more than once, each time
by a set of keys.  In the rows of a set, references to the columns that only other
sets group by are NULL, while the database still names the columns as their
origins.

The reduction drops the GROUP BY list, so the verdict on such a reference is that
of the query without it (`mayBeNull_grouped_iff`): a column that is never null in
its table is called never null though a set leaves it out
(`rollup_called_never_null`).
-/

namespace QueryTyping.Sql

open Text

mutual

/-- The keys of an element of a GROUP BY list; parentheses hold any number of them. -/
def Expr.keys : Expr → List Expr
  | .paren operand => operand.keys
  | .operation name operands =>
    if name = "()" then keysOf operands else [.operation name operands]
  | expr => [expr]

def keysOf : List Expr → List Expr
  | [] => []
  | expr :: rest => expr.keys ++ keysOf rest

end

mutual

/-- The grouping sets of an element. -/
def Grouping.keySets : Grouping → List (List Expr)
  | .plain key => [key.keys]
  | .rollup keys => (keys.map Expr.keys).inits.map List.flatten
  | .cube keys => (keys.map Expr.keys).sublists.map List.flatten
  | .sets elements => keySetsOf elements

def keySetsOf : List Grouping → List (List Expr)
  | [] => []
  | element :: rest => element.keySets ++ keySetsOf rest

end

/-- The grouping sets of a GROUP BY list: every choice of one set for each element. -/
def groupingSets : List Grouping → List (List Expr)
  | [] => [[]]
  | element :: rest => element.keySets.flatMap fun set => (groupingSets rest).map (set ++ ·)

theorem nil_mem_rollup (keys : List Expr) : [] ∈ (Grouping.rollup keys).keySets :=
  List.mem_map.mpr ⟨[], (List.mem_inits _ _).mpr List.nil_prefix, rfl⟩

theorem nil_mem_cube (keys : List Expr) : [] ∈ (Grouping.cube keys).keySets :=
  List.mem_map.mpr ⟨[], List.mem_sublists.mpr (List.nil_sublist _), rfl⟩

/-- A list of `ROLLUP` and `CUBE` alone has a set without keys, which leaves out all columns. -/
theorem nil_mem_groupingSets {grouping : List Grouping}
    (each : ∀ element ∈ grouping, ∃ keys, element = .rollup keys ∨ element = .cube keys) :
    [] ∈ groupingSets grouping := by
  induction grouping with
  | nil => exact List.mem_singleton_self []
  | cons element rest ih =>
    have later : [] ∈ groupingSets rest := ih fun other member => each other (by simp [member])
    have empty : [] ∈ element.keySets := by
      obtain ⟨keys, rfl | rfl⟩ := each element (by simp)
      · exact nil_mem_rollup keys
      · exact nil_mem_cube keys
    exact List.mem_flatMap.mpr ⟨[], empty, List.mem_map.mpr ⟨[], later, rfl⟩⟩

namespace Content

variable {V : Type} (content : Content V)

/-- A reference means the column and no other. -/
structure ReadsOnly (items : List Source) (qualifiers : List String) (name : String)
    (item position : Nat) : Prop where
  reads : content.Reads items qualifiers name item position
  only : ∀ other place, content.Reads items qualifiers name other place →
    other = item ∧ place = position

/-- A key means the column of an item: by a reference, by the position of an output that is one,
or by such an output's name where no column has it. -/
inductive KeyReads (items : List Source) (outputs : List Expr) : Expr → Nat → Nat → Prop
  | column {qualifiers : List String} {name : String} {item position : Nat}
    (reads : content.Reads items qualifiers name item position) :
    KeyReads items outputs (.column qualifiers name) item position
  | ordinal {index : Nat} {output : Expr} {qualifiers : List String} {name : String}
    {item position : Nat} (placed : outputs[index]? = some output)
    (reference : output.unaliased = .column qualifiers name)
    (reads : content.Reads items qualifiers name item position) :
    KeyReads items outputs (.number (toString (index + 1))) item position
  | label {label written : String} {qualifiers : List String} {name : String} {item position : Nat}
    (absent : ∀ other place, ¬ content.Reads items [] label other place)
    (member : Expr.aliased (.column qualifiers name) written ∈ outputs)
    (same : lower written = lower label)
    (reads : content.Reads items qualifiers name item position) :
    KeyReads items outputs (.column [] label) item position

/-- The set groups by the column. -/
def Groups (items : List Source) (outputs set : List Expr) (item position : Nat) : Prop :=
  ∃ key ∈ set, content.KeyReads items outputs key item position

/-- The column is a grouping column, but not one of the set. -/
def LeavesOut (items : List Source) (outputs : List Expr) (grouping : List Grouping)
    (set : List Expr) (item position : Nat) : Prop :=
  (∃ other ∈ groupingSets grouping, content.Groups items outputs other item position) ∧
    ¬ content.Groups items outputs set item position

open Classical in
/-- A joined row as the rows of a grouping set see it. -/
noncomputable def masked (items : List Source) (outputs : List Expr) (grouping : List Grouping)
    (set : List Expr) (joined : JoinedRow V) : JoinedRow V :=
  joined.mapIdx fun item entry => entry.map fun record position =>
    if content.LeavesOut items outputs grouping set item position then none else record position

/-- A row of a grouping set.  The set without keys has one even if there are no rows to group. -/
def GroupRow (outputs : List Expr) (first : Option Source) (joins : List Join)
    (grouping : List Grouping) (set : List Expr) (row : List (Cell V)) : Prop :=
  set ∈ groupingSets grouping ∧
    ∃ joined, (joined ∈ content.joinedRows first joins ∨ (set = [] ∧ joined = [])) ∧
      content.Projects (fromItems first joins)
        (content.masked (fromItems first joins) outputs grouping set joined) outputs row

variable {content} {items : List Source} {outputs : List Expr} {grouping : List Grouping}
  {set : List Expr} {item position : Nat}

/-- A column that the set leaves out is NULL. -/
theorem cell_masked (leaves : content.LeavesOut items outputs grouping set item position)
    (joined : JoinedRow V) :
    (content.cell (content.masked items outputs grouping set joined) item position).value =
      none := by
  simp only [cell, masked, List.getElem?_mapIdx]
  cases joined[item]? with
  | none => rfl
  | some entry =>
    cases entry with
    | none => rfl
    | some record => simp [leaves]

/-- Where a set leaves out the column that a reference means, the reference is NULL. -/
theorem null_of_leavesOut {output : Expr} {qualifiers : List String} {name : String}
    (reference : output.unaliased = .column qualifiers name)
    (reads : content.ReadsOnly items qualifiers name item position)
    (leaves : content.LeavesOut items outputs grouping set item position) {joined : JoinedRow V}
    {cell : Cell V}
    (yields : content.Yields items (content.masked items outputs grouping set joined) output cell)
    {column : CatalogColumn} (origin : cell.origin = some column) : cell.value = none := by
  have plain := yields.unaliased
  rw [reference] at plain
  cases plain with
  | computed => cases origin
  | column found =>
    obtain ⟨rfl, rfl⟩ := reads.only _ _ found
    exact cell_masked leaves joined

end Content

/-- The qualifier of a reference as the rules see it: behind a star they see none. -/
def seenQualifier (outputs : List Expr) (qualifiers : List String) : Option String :=
  if anyStar outputs then none else (qualifiers.getLast?.map lower).filter (!·.isEmpty)

/-- The name of a reference as the rules see it. -/
def seenName (outputs : List Expr) (name : String) : Option String :=
  if anyStar outputs then none else some (lower name)

theorem shapeOf_output_of_reference (relations : List Relation) {outputs : List Expr}
    {output : Expr} {qualifiers : List String} {name : String} {index : Nat}
    (placed : anyStar outputs = false → outputs[index]? = some output)
    (reference : output.unaliased = .column qualifiers name) :
    (shapeOf relations outputs).output index =
      .column (seenName outputs name) (seenQualifier outputs qualifiers) := by
  cases star : anyStar outputs with
  | true => simp [shapeOf_output_of_star _ star, seenName, seenQualifier, star]
  | false =>
    rw [shapeOf_output star (placed star)]
    simp [Expr.output, reference, Expr.isLiteral, seenName, seenQualifier, star]

/-- A table has one label. -/
theorem Source.IsPlain.label_of_labelled {source : Source} {table qualifier : String}
    (plain : source.IsPlain table) (labelled : source.Labelled qualifier) (ctes : List String)
    (item : Nat) (nullable : Bool) :
    (source.relation ctes item nullable).label = lower qualifier := by
  cases plain
  cases labelled with
  | table qualifiers joins same => exact same
  | hanging _ _ _ member => cases member

theorem word_of_seenQualifier {outputs : List Expr} {qualifiers : List String} {qualifier : String}
    (seen : seenQualifier outputs qualifiers = some qualifier) :
    ∃ word, qualifiers.getLast? = some word ∧ qualifier = lower word ∧ lower word ≠ "" := by
  unfold seenQualifier at seen
  split at seen
  · cases seen
  · obtain ⟨lowered, nonempty⟩ := Option.filter_eq_some_iff.mp seen
    obtain ⟨word, last, rfl⟩ := Option.map_eq_some_iff.mp lowered
    exact ⟨word, last, rfl, by simpa using nonempty⟩

/-- An item that the rules take for the source of a reference to a column of `item`: one of the
column's table, and of all those the one meant if the reference is qualified. -/
def Considered (scope : List Cte) (items : List Source) (outputs : List Expr)
    (qualifiers : List String) (column : CatalogColumn) (item other : Nat) : Prop :=
  ∃ source table, items[other]? = some source ∧ source.IsTable scope table ∧
    lower table = lower column.table ∧ (other = item ∨ seenQualifier outputs qualifiers = none)

section Considered

variable {V : Type} {content : Content V} {scope ctes : List Cte} (outputs : List Expr)
  {first : Option Source} {joins : List Join} {qualifiers : List String} {name : String}
  {item position other : Nat} {column : CatalogColumn} {relation : Relation}
  (tables : ∀ source ∈ fromItems first joins, ∃ table, source.IsTable (scope ++ ctes) table)
  (respects : content.Respects (scope ++ ctes) (fromItems first joins))
  (reads : content.Reads (fromItems first joins) qualifiers name item position)
  (origin : (content.columns item)[position]?.bind Column.origin = some column)
  (named : column.table ≠ "")

include tables in
/-- Where all items are tables, every relation has the name of its own. -/
theorem table_of_relation
    (listed : (relations (cteNames ctes) first joins)[other]? = some relation) :
    ∃ source table, (fromItems first joins)[other]? = some source ∧
      source.IsTable (scope ++ ctes) table ∧ relation.name = some (lower table) ∧
      relation.label = (source.relation (cteNames ctes) other false).label := by
  obtain ⟨source, found, same⟩ := source_of_relation listed
  obtain ⟨table, plain, free⟩ := tables source (List.mem_of_getElem? found)
  have own : source.IsTable ctes table :=
    ⟨plain, fun cte member => free cte (List.mem_append_right scope member)⟩
  refine ⟨source, table, found, ⟨plain, free⟩, ?_, (Relation.unmarked_label same).symm⟩
  rw [← Relation.unmarked_name same]
  exact (relation_name_eq_some_iff ctes source other false _).mpr ⟨table, own, rfl⟩

include tables respects reads origin named in
/-- The relations that a reference may come from are those of the items considered. -/
theorem mem_sources_iff (listed : (relations (cteNames ctes) first joins)[other]? = some relation) :
    relation ∈ (shapeOf (relations (cteNames ctes) first joins) outputs).sourceRelations
        (seenQualifier outputs qualifiers) (some column.table) ↔
      Considered (scope ++ ctes) (fromItems first joins) outputs qualifiers column item other := by
  obtain ⟨source, table, found, isTable, nameOf, label⟩ := table_of_relation tables listed
  have member := List.mem_of_getElem? listed
  cases seen : seenQualifier outputs qualifiers with
  | none =>
    rw [QueryShape.mem_sourceRelations_unqualified, shapeOf_relations, nameOf]
    constructor
    · rintro ⟨-, -, same⟩
      exact ⟨source, table, found, isTable, Option.some.inj same, .inr seen⟩
    · rintro ⟨_, _, again, ⟨plain, -⟩, same, -⟩
      obtain rfl := Option.some.inj (found.symm.trans again)
      obtain rfl := plain.unique isTable.1
      exact ⟨named, member, by rw [same]⟩
  | some qualifier =>
    -- By the label the rules find the item that is meant and no other, and it is the column's.
    obtain ⟨word, last, rfl, nonempty⟩ := word_of_seenQualifier seen
    have labelled := reads.qualified word last other source found
    rw [QueryShape.mem_sourceRelations_qualified _ nonempty, shapeOf_relations, lower_lower, label]
    constructor
    · rintro ⟨-, same⟩
      obtain rfl := labelled.mp (Source.labelled_of_label nonempty same)
      have holds := respects other source table found isTable
      have same := holds.table_of_origin origin
      exact ⟨source, table, found, isTable, same.symm, .inl rfl⟩
    · rintro ⟨_, _, -, -, -, rfl | unqualified⟩
      · exact ⟨member, isTable.1.label_of_labelled (labelled.mpr rfl) _ _ _⟩
      · rw [seen] at unqualified
        cases unqualified

include tables respects reads origin named in
/-- The rules trust a reference whose column is never null, not renamed, and of a table that no
join may null wherever they consider it. -/
theorem trusts_iff :
    (shapeOf (relations (cteNames ctes) first joins) outputs).Trusts (seenName outputs name)
        (seenQualifier outputs qualifiers) column ↔
      column.notNull = true ∧ (anyStar outputs = false → lower name = lower column.column) ∧
        ∀ other, Considered (scope ++ ctes) (fromItems first joins) outputs qualifiers column item
          other → ¬ MayNull first.toList.length joins other := by
  have considered {other : Nat} {relation : Relation}
      (listed : (relations (cteNames ctes) first joins)[other]? = some relation) :=
    mem_sources_iff outputs tables respects reads origin named listed
  have relationAt {other : Nat} (inside : other < (fromItems first joins).length) :
      ∃ relation, (relations (cteNames ctes) first joins)[other]? = some relation :=
    ⟨_, List.getElem?_eq_getElem (by rwa [length_relations])⟩
  constructor
  · rintro ⟨-, notNull, sameName, -, -, sources⟩
    refine ⟨notNull, fun plain => sameName _ (by simp [seenName, plain]), ?_⟩
    rintro other candidate nulled
    have ⟨source, table, found, _⟩ := candidate
    obtain ⟨relation, listed⟩ := relationAt (List.getElem?_eq_some_iff.mp found).1
    have unmarked := (sources relation ((considered listed).mpr candidate)).2
    rw [(relation_nullable_iff listed).mpr nulled] at unmarked
    cases unmarked
  · rintro ⟨notNull, sameName, never⟩
    have self : Considered (scope ++ ctes) (fromItems first joins) outputs qualifiers column item
        item := by
      obtain ⟨relation, listed⟩ := relationAt reads.listed
      obtain ⟨source, table, found, isTable, -⟩ := table_of_relation tables listed
      have holds := respects item source table found isTable
      have same := holds.table_of_origin origin
      exact ⟨source, table, found, isTable, same.symm, .inl rfl⟩
    refine ⟨?_, notNull, ?_, ?_, ?_, ?_⟩
    · unfold shapeOf
      split <;> rfl
    · intro written same
      unfold seenName at same
      split at same
      · cases same
      next plain =>
        rw [← Option.some.inj same]
        exact sameName (by simpa using plain)
    · intro _
      rw [QueryShape.hasDerived, shapeOf_relations, List.any_eq_false]
      intro relation member
      obtain ⟨place, listed⟩ := List.getElem?_of_mem member
      obtain ⟨_, _, _, _, nameOf, _⟩ := table_of_relation tables listed
      simp [nameOf]
    · obtain ⟨relation, listed⟩ := relationAt reads.listed
      exact List.ne_nil_of_mem ((considered listed).mpr self)
    · intro relation source
      have member : relation ∈ relations (cteNames ctes) first joins := by
        have belongs := QueryShape.mem_relations_of_mem_sourceRelations source
        rwa [shapeOf_relations] at belongs
      obtain ⟨other, listed⟩ := List.getElem?_of_mem member
      have candidate := (considered listed).mp source
      have ⟨_, table, found, isTable, same, _⟩ := candidate
      obtain ⟨_, _, again, own, nameOf, -⟩ := table_of_relation tables listed
      obtain rfl := Option.some.inj (found.symm.trans again)
      obtain rfl := own.1.unique isTable.1
      refine ⟨by rw [nameOf, same], ?_⟩
      by_contra marked
      rw [Bool.not_eq_false] at marked
      exact never other candidate ((relation_nullable_iff listed).mp marked)

end Considered

/-- Grouping sets are not respected.  Over tables, where a grouping set leaves out the column that
a reference means, the reference is NULL in the rows of the set; the rules call it never null
exactly if the column is never null, not renamed, and of a table that no join may null wherever
they consider it. -/
theorem mayBeNull_grouped_iff {V : Type} {content : Content V} {scope ctes : List Cte}
    {outputs set : List Expr} {first : Option Source} {joins : List Join}
    {grouping : List Grouping} {output : Expr} {qualifiers : List String} {name : String}
    {item position : Nat} {column : CatalogColumn} (index : Nat)
    (tables : ∀ source ∈ fromItems first joins, ∃ table, source.IsTable (scope ++ ctes) table)
    (respects : content.Respects (scope ++ ctes) (fromItems first joins))
    (placed : anyStar outputs = false → outputs[index]? = some output)
    (reference : output.unaliased = .column qualifiers name)
    (reads : content.ReadsOnly (fromItems first joins) qualifiers name item position)
    (origin : (content.columns item)[position]?.bind Column.origin = some column)
    (named : column.table ≠ "")
    (leaves : content.LeavesOut (fromItems first joins) outputs grouping set item position) :
    (∀ joined cell, content.Yields (fromItems first joins)
        (content.masked (fromItems first joins) outputs grouping set joined) output cell →
      cell.origin = some column → cell.value = none) ∧
    (mayBeNull (Query.select ctes outputs first joins grouping).shape index (some column) = false ↔
      column.notNull = true ∧ (anyStar outputs = false → lower name = lower column.column) ∧
        ∀ other, Considered (scope ++ ctes) (fromItems first joins) outputs qualifiers column item
          other → ¬ MayNull first.toList.length joins other) := by
  constructor
  · intro joined cell yields same
    exact Content.null_of_leavesOut reference reads leaves yields same
  · rw [Query.shape, mayBeNull_reference_iff (shapeOf_output_of_reference _ placed reference)]
    exact trusts_iff outputs tables respects reads.reads origin named

/-- The outputs of `namesRollup`. -/
def namesOutputs : List Expr := [.column [] "first_name"]

/-- The GROUP BY list of `namesRollup`. -/
def namesGrouping : List Grouping := [.rollup [.column [] "first_name"]]

def authorItem : Source := .table [] "author" none []

/-- `SELECT first_name FROM author GROUP BY ROLLUP (first_name)`. -/
def namesRollup : Query := .select [] namesOutputs (some authorItem) [] namesGrouping

theorem authorItem_isTable : authorItem.IsTable [] "author" :=
  ⟨.table [] "author" none, fun _ member => by cases member⟩

theorem authorItem_tables :
    ∀ source ∈ fromItems (some authorItem) [], ∃ table, source.IsTable ([] ++ []) table := by
  intro source member
  obtain rfl := List.mem_singleton.mp member
  exact ⟨"author", authorItem_isTable⟩

theorem namesRollup_respects : (oneAuthor 0).Respects [] [authorItem] :=
  oneAuthor_respects rfl authorItem_isTable.1

theorem namesRollup_readsOnly : (oneAuthor 0).ReadsOnly [authorItem] [] "first_name" 0 0 := by
  constructor
  · exact ⟨by decide, fun _ last => by simp at last, ⟨_, rfl, rfl⟩⟩
  · rintro other place ⟨inside, -, _, placed, -⟩
    obtain rfl : other = 0 := by simpa using inside
    cases place with
    | zero => exact ⟨rfl, rfl⟩
    | succ place => simp [oneAuthor] at placed

theorem namesRollup_leavesOut :
    (oneAuthor 0).LeavesOut [authorItem] namesOutputs namesGrouping [] 0 0 := by
  constructor
  · refine ⟨[.column [] "first_name"], ?_, _, List.mem_singleton_self _, .column ?_⟩
    · simp [namesGrouping, groupingSets, Grouping.keySets, Expr.keys]
    · exact namesRollup_readsOnly.reads
  · rintro ⟨key, member, -⟩
    cases member

/-- The first name in the row of the set without keys. -/
noncomputable def totalName : Cell String :=
  (oneAuthor 0).cell ((oneAuthor 0).masked [authorItem] namesOutputs namesGrouping []
    [some fun _ => some "Ursula"]) 0 0

/-- The total row of the rollup has no first name, yet the first name is called never null. -/
theorem rollup_called_never_null :
    ((oneAuthor 0).GroupRow namesOutputs (some authorItem) [] namesGrouping [] [totalName] ∧
      totalName.origin = some firstName ∧ totalName.value = none) ∧
    mayBeNull namesRollup.shape 0 (some firstName) = false := by
  constructor
  · refine ⟨⟨?_, _, .inl (List.mem_singleton_self _), ?_⟩, rfl, ?_⟩
    · exact nil_mem_groupingSets fun element member => ⟨_, .inl (List.mem_singleton.mp member)⟩
    · exact .value rfl (.column namesRollup_readsOnly.reads) .nil
    · exact Content.cell_masked namesRollup_leavesOut _
  · have reference : namesRollup.shape.output 0 =
        .column (seenName namesOutputs "first_name") (seenQualifier namesOutputs []) :=
      shapeOf_output_of_reference _ (fun _ => rfl) rfl
    refine (mayBeNull_reference_iff reference firstName).mpr ?_
    refine (trusts_iff namesOutputs authorItem_tables namesRollup_respects
      namesRollup_readsOnly.reads rfl (by decide)).mpr ⟨rfl, fun _ => rfl, fun other _ nulled => ?_⟩
    exact mayNull_nil _ _ nulled

/-- The same by the general statement. -/
theorem mayBeNull_grouped_rollup :
    totalName.value = none ∧ mayBeNull namesRollup.shape 0 (some firstName) = false := by
  have ⟨null, verdict⟩ := mayBeNull_grouped_iff 0 authorItem_tables namesRollup_respects
    (fun _ => rfl) rfl namesRollup_readsOnly rfl (by decide) namesRollup_leavesOut
  refine ⟨null _ totalName (.column namesRollup_readsOnly.reads) rfl, verdict.mpr ?_⟩
  exact ⟨rfl, fun _ => rfl, fun other _ nulled => mayNull_nil _ _ nulled⟩

end QueryTyping.Sql
