import QueryTyping.Proofs.FromList
import QueryTyping.Proofs.Verdict

/-!
# Tables and WITH queries

An unqualified name in a FROM list means a query of a WITH list if one in scope
has that name; only otherwise does it mean a table.  In scope are the WITH list of
the statement itself and those of all queries in parentheses around it.

The reduction looks at the inmost WITH list alone.  Within that list it is exact
(`relation_name_eq_some_iff`), and over a whole statement its names are those of
tables exactly if no WITH list further out has a query that the inmost SELECT
reads (`namesOnlyTables_iff`).  A WITH list that hangs on parentheses is
overlooked (`outer_cte_taken_for_table`).
-/

namespace QueryTyping.Sql

open Text

/-- The item is a plain reference by name. -/
inductive Source.IsPlain : Source → String → Prop
  | table (qualifiers : List String) (name : String) (label : Option String) :
    IsPlain (.table qualifiers name label []) name

theorem Source.IsPlain.unique {source : Source} {table other : String}
    (plain : source.IsPlain table) (again : source.IsPlain other) : other = table := by
  cases plain
  cases again
  rfl

/-- The item means the query of a WITH list.  Trees do not keep quotes, so names are compared
without regard to case. -/
inductive Source.RefersTo : Source → Cte → Prop
  | named {name : String} {cte : Cte} (label : Option String) (joins : List Join)
    (same : lower name = lower cte.name) : RefersTo (.table [] name label joins) cte

/-- The item is a table, given the WITH queries in scope. -/
def Source.IsTable (scope : List Cte) (source : Source) (name : String) : Prop :=
  source.IsPlain name ∧ ∀ cte ∈ scope, ¬ source.RefersTo cte

/-- The FROM items that the shape of a query lists, each with the WITH queries in its scope. -/
def Query.listed (scope : List Cte) : Query → List (List Cte × Option Source)
  | .select ctes _ first joins _ =>
    (fromItems first joins).map fun source => (scope ++ ctes, some source)
  | .combined _ _ _ _ => []
  | .paren ctes inner _ => inner.listed (scope ++ ctes)
  | .values _ => []

/-- The items that the shape of a statement lists.  A target that is left out counts. -/
def Statement.listed : Statement → List (List Cte × Option Source)
  | .query body => body.listed []
  | .change _ _ _ _ none => []
  | .change _ ctes target sources (some _) =>
    (target :: sources.map some).map fun source => (ctes, source)
  | .other => []

/-- Every name that a list of relations gives is that of a table. -/
def NamesOnlyTables (relations : List Relation) (listed : List (List Cte × Option Source)) : Prop :=
  ∀ (item : Nat) (relation : Relation) (table : String), relations[item]? = some relation →
    relation.name = some table →
    ∃ (scope : List Cte) (source : Source) (name : String),
      listed[item]? = some (scope, some source) ∧ source.IsTable scope name ∧ lower name = table

/-- A plain item that refers to a WITH query in scope outside a SELECT refers to one of the
SELECT's own too. -/
def Query.ShadowsOuter (scope : List Cte) : Query → Prop
  | .select ctes _ first joins _ =>
    ∀ source ∈ fromItems first joins, ∀ name, source.IsPlain name →
      ∀ cte ∈ scope, source.RefersTo cte → ∃ own ∈ ctes, source.RefersTo own
  | .combined _ _ _ _ => True
  | .paren ctes inner _ => inner.ShadowsOuter (scope ++ ctes)
  | .values _ => True

/-- No query of a WITH list on parentheses is read by the SELECT within, unless its own WITH list
has one of that name. -/
def Statement.ShadowsOuter : Statement → Prop
  | .query body => body.ShadowsOuter []
  | .change _ _ _ _ _ => True
  | .other => True

theorem contains_cteNames (ctes : List Cte) (name : String) :
    (cteNames ctes).contains (lower name) = true ↔ ∃ cte ∈ ctes, lower name = lower cte.name := by
  simp [cteNames, eq_comm]

/-- Under one WITH list, a relation has a name exactly if its item is a table. -/
theorem relation_name_eq_some_iff (ctes : List Cte) (source : Source) (item : Nat)
    (nullable : Bool) (table : String) :
    (source.relation (cteNames ctes) item nullable).name = some table ↔
      ∃ name, source.IsTable ctes name ∧ lower name = table := by
  constructor
  · intro named
    cases source with
    | table qualifiers name label joins =>
      simp only [Source.relation] at named
      split at named
      next plain =>
        simp only [Bool.and_eq_true, List.isEmpty_iff, Bool.not_eq_true', Bool.and_eq_false_iff]
          at plain
        obtain ⟨rfl, unshadowed⟩ := plain
        refine ⟨name, ⟨.table qualifiers name label, ?_⟩, by simpa using named⟩
        rintro cte member ⟨_, _, same⟩
        rcases unshadowed with qualified | absent
        · simp at qualified
        · rw [(contains_cteNames ctes name).mpr ⟨cte, member, same⟩] at absent
          cases absent
      next => cases named
    | derived label => cases named
    | query body label => cases named
    | group inner joins label => cases named
  · rintro ⟨name, ⟨⟨qualifiers, _, label⟩, unshadowed⟩, rfl⟩
    have plain : (qualifiers.isEmpty && (cteNames ctes).contains (lower name)) = false := by
      rw [Bool.and_eq_false_iff]
      by_cases qualified : qualifiers = []
      · subst qualified
        right
        rw [Bool.eq_false_iff, Ne, contains_cteNames]
        rintro ⟨cte, member, same⟩
        exact unshadowed cte member ⟨label, [], same⟩
      · left
        simpa using qualified
    simp only [Source.relation, List.isEmpty_nil, plain, Bool.not_false, Bool.and_self, if_true]

theorem Relation.unmarked_name {relation other : Relation}
    (same : relation.unmarked = other) : other.name = relation.name := by
  subst same
  rfl

/-- Under further WITH lists the names of a SELECT are those of tables exactly if it shadows what
it reads of them. -/
theorem select_namesOnlyTables_iff (scope ctes : List Cte) (outputs : List Expr)
    (first : Option Source) (joins : List Join) (grouping : List Grouping) :
    NamesOnlyTables (relations (cteNames ctes) first joins)
        ((Query.select ctes outputs first joins grouping).listed scope) ↔
      (Query.select ctes outputs first joins grouping).ShadowsOuter scope := by
  constructor
  · intro only source member name plain cte outer refers
    -- Else the item has a name, and what the name stands for is the outer WITH query.
    by_contra unshadowed
    obtain ⟨item, found⟩ := List.getElem?_of_mem member
    obtain ⟨relation, listed, same⟩ := relation_of_source (cteNames ctes) found
    have table : source.IsTable ctes name :=
      ⟨plain, fun own belongs referring => unshadowed ⟨own, belongs, referring⟩⟩
    have named := (relation_name_eq_some_iff ctes source item false (lower name)).mpr
      ⟨name, table, rfl⟩
    rw [Relation.unmarked_name same] at named
    obtain ⟨inScope, other, -, placed, ⟨-, free⟩, -⟩ := only item relation _ listed named
    simp only [Query.listed, List.getElem?_map, found, Option.map_some, Option.some.injEq,
      Prod.mk.injEq] at placed
    obtain ⟨rfl, rfl⟩ := placed
    exact free cte (List.mem_append_left _ outer) refers
  · intro shadows item relation table listed named
    obtain ⟨source, found, same⟩ := source_of_relation listed
    rw [← Relation.unmarked_name same] at named
    obtain ⟨name, ⟨plain, free⟩, rfl⟩ := (relation_name_eq_some_iff ctes source item false _).mp
      named
    refine ⟨scope ++ ctes, source, name, by simp [Query.listed, found], ⟨plain, ?_⟩, rfl⟩
    intro cte inScope refers
    rcases List.mem_append.mp inScope with outer | own
    · obtain ⟨own, belongs, referring⟩ := shadows source (List.mem_of_getElem? found) name plain
        cte outer refers
      exact free own belongs referring
    · exact free cte own refers

theorem shapeOf_relations (relations : List Relation) (outputs : List Expr) :
    (shapeOf relations outputs).relations = relations := by
  unfold shapeOf
  split <;> rfl

/-- The same of every query: the shape looks through parentheses and lists nothing of a set
operation. -/
theorem query_namesOnlyTables_iff (scope : List Cte) (query : Query) :
    NamesOnlyTables query.shape.relations (query.listed scope) ↔ query.ShadowsOuter scope := by
  fun_induction Query.listed scope query with
  | case1 scope ctes outputs first joins grouping =>
    rw [Query.shape, shapeOf_relations]
    exact select_namesOnlyTables_iff scope ctes outputs first joins grouping
  | case2 scope ctes operator left right =>
    simp [Query.shape, combinedShape, NamesOnlyTables, Query.ShadowsOuter]
  | case3 scope ctes inner bare ih => exact ih
  | case4 scope ctes =>
    simp [Query.shape, QueryShape.unknown, NamesOnlyTables, Query.ShadowsOuter]

theorem foldl_changeRelations (ctes : List String) (sources : List Source)
    (before : List Relation) :
    sources.foldl (fun relations source =>
        relations ++ [source.relation ctes relations.length false]) before =
      before ++ sources.mapIdx fun item source =>
        source.relation ctes (before.length + item) false := by
  induction sources generalizing before with
  | nil => simp
  | cons source rest ih =>
    rw [List.foldl_cons, ih, List.mapIdx_cons, List.append_assoc]
    simp [Nat.add_assoc, Nat.add_comm 1]

/-- The relations of a statement that changes rows are those of its items. -/
theorem source_of_changeRelation {ctes : List String} {target : Option Source}
    {sources : List Source} {item : Nat} {relation : Relation} {table : String}
    (listed : (changeRelations ctes target sources)[item]? = some relation)
    (named : relation.name = some table) :
    ∃ source, (target :: sources.map some)[item]? = some (some source) ∧
      relation = source.relation ctes item false := by
  unfold changeRelations at listed
  simp only [foldl_changeRelations, List.singleton_append] at listed
  cases item with
  | zero =>
    cases target with
    | none =>
      simp only [List.getElem?_cons_zero, Option.some.injEq] at listed
      subst listed
      cases named
    | some source => exact ⟨source, rfl, by simpa using listed.symm⟩
  | succ item =>
    simp only [List.getElem?_cons_succ, List.getElem?_mapIdx] at listed
    obtain ⟨source, found, rfl⟩ := Option.map_eq_some_iff.mp listed
    refine ⟨source, by simp [found], ?_⟩
    rw [List.length_singleton, Nat.add_comm]

/-- The names that the shape of a statement gives are those of tables exactly if no query of a
WITH list on parentheses is read by the SELECT within. -/
theorem namesOnlyTables_iff (statement : Statement) :
    NamesOnlyTables statement.shape.relations statement.listed ↔ statement.ShadowsOuter := by
  cases statement with
  | query body => exact query_namesOnlyTables_iff [] body
  | change kind ctes target sources returning =>
    cases returning with
    | none => simp [Statement.shape, NamesOnlyTables, Statement.ShadowsOuter]
    | some outputs =>
      refine ⟨fun _ => trivial, fun _ item relation table listed named => ?_⟩
      rw [Statement.shape, shapeOf_relations] at listed
      obtain ⟨source, found, rfl⟩ := source_of_changeRelation listed named
      obtain ⟨name, isTable, same⟩ := (relation_name_eq_some_iff ctes source item false table).mp
        named
      exact ⟨ctes, source, name, by simp only [Statement.listed, List.getElem?_map, found,
        Option.map_some], isTable, same⟩
  | other =>
    simp [Statement.shape, QueryShape.unknown, NamesOnlyTables, Statement.ShadowsOuter]

/-- The column `first_name` of the table `author`, never null there. -/
def firstName : CatalogColumn := ⟨16390, 2, "author", "first_name", true⟩

/-- `WITH author AS (SELECT NULL AS first_name) (SELECT first_name FROM author) LIMIT 1`: the
WITH list hangs on the parentheses. -/
def outerCte : Query :=
  .paren [.mk "author" (.query (.select [] [.aliased .null "first_name"] none [] []))]
    (.select [] [.column [] "first_name"] (some (.table [] "author" none [])) [] []) false

/-- The only relation of `outerCte` passes for the table. -/
theorem outerCte_relations :
    outerCte.shape.relations = [⟨0, some (lower "author"), lower "author", false⟩] := rfl

theorem outerCte_never_null : mayBeNull outerCte.shape 0 (some firstName) = false := by
  have written : outerCte.shape.output 0 = .column (some (lower "first_name")) none := rfl
  have listed (relation : Relation) :
      relation ∈ outerCte.shape.sourceRelations none (some "author") ↔
        relation = ⟨0, some (lower "author"), lower "author", false⟩ := by
    rw [QueryShape.mem_sourceRelations_unqualified, outerCte_relations, List.mem_singleton]
    constructor
    · exact fun found => found.2.1
    · rintro rfl
      exact ⟨by decide, rfl, rfl⟩
  refine (mayBeNull_reference_iff written firstName).mpr ?_
  refine ⟨rfl, rfl, fun _ same => (Option.some.inj same).symm, fun _ => rfl, ?_, ?_⟩
  · exact List.ne_nil_of_mem ((listed _).mpr rfl)
  · intro relation found
    rw [(listed relation).mp found]
    exact ⟨rfl, rfl⟩

/-- A WITH query on parentheses is taken for the table of its name, so that a NULL it returns
counts as a value of the table's column. -/
theorem outer_cte_taken_for_table :
    ¬ NamesOnlyTables (Statement.query outerCte).shape.relations (Statement.query outerCte).listed ∧
      mayBeNull (Statement.query outerCte).shape 0 (some firstName) = false := by
  refine ⟨fun only => ?_, outerCte_never_null⟩
  have shadows : outerCte.ShadowsOuter [] := (query_namesOnlyTables_iff [] outerCte).mp only
  have member : Source.table [] "author" none [] ∈
      fromItems (some (.table [] "author" none [])) [] := List.mem_singleton_self _
  obtain ⟨own, belongs, -⟩ := shadows _ member "author" (.table [] "author" none) _
    (List.mem_singleton_self _) (.named none [] rfl)
  cases belongs

end QueryTyping.Sql
