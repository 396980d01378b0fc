import Mathlib.Logic.Relation
import QueryTyping.Proofs.Verdict

/-!
# Weaker evidence

A column is judged by the shape of its query and by the table column that the
database names for it.  Either may come to say less (`Evidence.Weakens`): a relation
turns out to be nullable or no table, another one that is no table is joined, the
query is one branch of a set operation, the table column is not said to be NOT NULL
or not named at all.

Weaker evidence should never make a column count as never null.  It does not, but
for references whose qualifier is the empty word: the sources of such a reference
are found by the name of its table, like those of an unqualified one, but relations
that are no tables do not count against it.  A table that turns out to be none is
then no longer looked at (`weakened_never_null_iff`).
-/

namespace QueryTyping

open Text

/-- A reference may come from the relation. -/
def Relation.isSource (qualifier table : Option String) (relation : Relation) : Bool :=
  match qualifier.filter (!·.isEmpty), table.filter (!·.isEmpty) with
  | some qualifier, _ => relation.label = lower qualifier
  | none, some table => relation.name = some (lower table)
  | none, none => false

theorem QueryShape.sourceRelations_eq_filter (shape : QueryShape)
    (qualifier table : Option String) :
    shape.sourceRelations qualifier table =
      shape.relations.filter (·.isSource qualifier table) := by
  unfold sourceRelations
  split
  next word written => simp only [Relation.isSource, written]
  next unwritten named => simp only [Relation.isSource, unwritten, named]
  next unwritten unnamed => simp [Relation.isSource, unwritten, unnamed]

namespace Relation

variable (relation : Relation)

/-- A word finds the relations with its label, whatever their names. -/
theorem isSource_of_word {qualifier : String} (word : qualifier ≠ "") (table : Option String)
    (name : Option String) :
    ({ relation with name } : Relation).isSource (some qualifier) table =
      relation.isSource (some qualifier) table := by
  simp [isSource, Option.filter, word]

/-- The empty word finds the relations with the name of the table. -/
theorem isSource_of_empty (table : String) :
    relation.isSource (some "") (some table) =
      (decide (table ≠ "") && decide (relation.name = some (lower table))) := by
  by_cases empty : table = ""
  · simp [isSource, Option.filter, empty]
  · simp [isSource, Option.filter, empty]

end Relation

/-- What a column is judged by. -/
structure Evidence where
  shape : QueryShape
  /-- The table column that the database names. -/
  provenance : Option CatalogColumn

namespace Evidence

/-- The verdict on the column at a position. -/
def mayBeNull (evidence : Evidence) (index : Int) : Bool :=
  QueryTyping.mayBeNull evidence.shape index evidence.provenance

/-- The same with other relations. -/
def withRelations (evidence : Evidence) (relations : List Relation) : Evidence :=
  { evidence with shape := { evidence.shape with relations } }

/-- The evidence comes to say less. -/
inductive Weakens : Evidence → Evidence → Prop
  | nullable {evidence : Evidence} {before after : List Relation} {relation : Relation}
    (listed : evidence.shape.relations = before ++ relation :: after) :
    Weakens evidence
      (evidence.withRelations (before ++ { relation with nullable := true } :: after))
  | derived {evidence : Evidence} {before after : List Relation} {relation : Relation}
    (listed : evidence.shape.relations = before ++ relation :: after) :
    Weakens evidence (evidence.withRelations (before ++ { relation with name := none } :: after))
  | joined (evidence : Evidence) {relation : Relation} (derived : relation.name = none) :
    Weakens evidence (evidence.withRelations (evidence.shape.relations ++ [relation]))
  | operation (evidence : Evidence) :
    Weakens evidence { evidence with shape := { evidence.shape with setOperation := true } }
  | notNull (shape : QueryShape) (column : CatalogColumn) :
    Weakens ⟨shape, some column⟩ ⟨shape, some { column with notNull := false }⟩
  | provenance (evidence : Evidence) : Weakens evidence { evidence with provenance := none }

end Evidence

namespace QueryShape.Trusts

variable {shape : QueryShape} {name qualifier : Option String} {column : CatalogColumn}

/-- Where a reference is trusted, no relation that is nullable or no table is a source of it. -/
theorem isSource_eq_false (trusts : shape.Trusts name qualifier column) {relation : Relation}
    (listed : relation ∈ shape.relations)
    (doubtful : relation.name = none ∨ relation.nullable = true) :
    relation.isSource qualifier (some column.table) = false := by
  rw [Bool.eq_false_iff]
  intro source
  have member : relation ∈ shape.sourceRelations qualifier (some column.table) := by
    rw [sourceRelations_eq_filter]
    exact List.mem_filter.mpr ⟨listed, source⟩
  obtain ⟨named, safe⟩ := trusts.sources relation member
  rcases doubtful with unnamed | nullable
  · rw [unnamed] at named
    cases named
  · rw [nullable] at safe
    cases safe

/-- An unqualified reference is trusted among tables only. -/
theorem name_ne_none (trusts : shape.Trusts name none column) {relation : Relation}
    (listed : relation ∈ shape.relations) : relation.name ≠ none := by
  intro unnamed
  have derived : shape.hasDerived = true :=
    List.any_eq_true.mpr ⟨relation, listed, by rw [unnamed]; rfl⟩
  rw [trusts.plain rfl] at derived
  cases derived

/-- Relations that are no sources of a reference have no part in the trust, but for those that are
no tables if it is unqualified. -/
theorem withRelations {relations : List Relation} (trusts : shape.Trusts name qualifier column)
    (sources : relations.filter (·.isSource qualifier (some column.table)) =
      shape.relations.filter (·.isSource qualifier (some column.table)))
    (tables : qualifier = none → ∀ relation ∈ relations, relation.name ≠ none) :
    ({ shape with relations } : QueryShape).Trusts name qualifier column := by
  have same : ({ shape with relations } : QueryShape).sourceRelations qualifier
      (some column.table) = shape.sourceRelations qualifier (some column.table) := by
    rw [sourceRelations_eq_filter, sourceRelations_eq_filter]
    exact sources
  refine ⟨trusts.single, trusts.notNull, trusts.sameName, fun unqualified => ?_,
    same ▸ trusts.found, same ▸ trusts.sources⟩
  rw [hasDerived, List.any_eq_false]
  intro relation listed
  simpa using tables unqualified relation listed

/-- A doubtful relation in the place of another one takes no trust away from a reference that finds
both or neither. -/
theorem of_replaced {before after : List Relation} {relation doubtful : Relation}
    (trusts : ({ shape with relations := before ++ doubtful :: after } : QueryShape).Trusts
      name qualifier column)
    (listed : shape.relations = before ++ relation :: after)
    (doubt : doubtful.name = none ∨ doubtful.nullable = true)
    (found : relation.isSource qualifier (some column.table) =
      doubtful.isSource qualifier (some column.table))
    (table : qualifier = none → relation.name ≠ none) : shape.Trusts name qualifier column := by
  have unfound : doubtful.isSource qualifier (some column.table) = false :=
    trusts.isSource_eq_false (by simp) doubt
  refine @withRelations { shape with relations := before ++ doubtful :: after } _ _ _
    shape.relations trusts ?_ ?_
  · simp [listed, List.filter_append, found, unfound]
  · rintro rfl other member
    rw [listed] at member
    rcases List.mem_append.mp member with member | member
    · exact trusts.name_ne_none (List.mem_append_left _ member)
    · rcases List.mem_cons.mp member with rfl | member
      · exact table rfl
      · exact trusts.name_ne_none
          (List.mem_append_right _ (List.mem_cons_of_mem doubtful member))

/-- Without a relation that is no table a reference is trusted all the same. -/
theorem of_joined {derived : Relation}
    (trusts : ({ shape with relations := shape.relations ++ [derived] } : QueryShape).Trusts
      name qualifier column)
    (unnamed : derived.name = none) : shape.Trusts name qualifier column := by
  have unfound : derived.isSource qualifier (some column.table) = false :=
    trusts.isSource_eq_false (by simp) (.inl unnamed)
  refine @withRelations { shape with relations := shape.relations ++ [derived] } _ _ _
    shape.relations trusts ?_ ?_
  · simp [List.filter_append, unfound]
  · rintro rfl other member
    exact trusts.name_ne_none (List.mem_append_left _ member)

/-- With the empty word for a qualifier only relations with the name of the table count. -/
theorem empty_iff :
    shape.Trusts name (some "") column ↔
      shape.setOperation = false ∧ column.notNull = true ∧
        (∀ written, name = some written → written = lower column.column) ∧ column.table ≠ "" ∧
        (∃ relation ∈ shape.relations, relation.name = some (lower column.table)) ∧
        ∀ relation ∈ shape.relations, relation.name = some (lower column.table) →
          relation.nullable = false := by
  have sources (relation : Relation) :
      relation ∈ shape.sourceRelations (some "") (some column.table) ↔
        relation ∈ shape.relations ∧ column.table ≠ "" ∧
          relation.name = some (lower column.table) := by
    rw [sourceRelations_eq_filter, List.mem_filter, Relation.isSource_of_empty]
    simp
  constructor
  · intro trusts
    obtain ⟨relation, source⟩ := List.exists_mem_of_ne_nil _ trusts.found
    obtain ⟨listed, table, named⟩ := (sources relation).mp source
    refine ⟨trusts.single, trusts.notNull, trusts.sameName, table, ⟨relation, listed, named⟩, ?_⟩
    intro other member same
    exact (trusts.sources other ((sources other).mpr ⟨member, table, same⟩)).2
  · rintro ⟨single, notNull, sameName, table, ⟨relation, listed, named⟩, safe⟩
    refine ⟨single, notNull, sameName, fun unqualified => (nomatch unqualified),
      List.ne_nil_of_mem ((sources relation).mpr ⟨listed, table, named⟩), fun other source => ?_⟩
    obtain ⟨member, -, same⟩ := (sources other).mp source
    exact ⟨same, safe other member same⟩

/-- The same with one relation looked at apart from the others. -/
theorem empty_iff_of_listed {before after : List Relation} {relation : Relation}
    (listed : shape.relations = before ++ relation :: after) :
    shape.Trusts name (some "") column ↔
      (shape.setOperation = false ∧ column.notNull = true ∧
        (∀ written, name = some written → written = lower column.column) ∧ column.table ≠ "") ∧
      (relation.name = some (lower column.table) ∨
        ∃ other ∈ before ++ after, other.name = some (lower column.table)) ∧
      (relation.name = some (lower column.table) → relation.nullable = false) ∧
      ∀ other ∈ before ++ after, other.name = some (lower column.table) →
        other.nullable = false := by
  have member (other : Relation) :
      other ∈ shape.relations ↔ other = relation ∨ other ∈ before ++ after := by
    rw [listed]
    exact List.perm_middle.mem_iff.trans List.mem_cons
  rw [empty_iff]
  simp only [member, or_imp, forall_and, forall_eq, or_and_right, exists_or, exists_eq_left,
    and_assoc]

end QueryShape.Trusts

namespace Evidence

/-- A relation that turns out to be no table was the only reason to doubt a reference with the empty
word for a qualifier: it is nullable and has the name of the table, other relations have that name
too, and none of these is nullable. -/
inductive Overlooks (index : Int) : Evidence → Evidence → Prop
  | derived {evidence : Evidence} {before after : List Relation} {relation : Relation}
    {name : Option String} {column : CatalogColumn}
    (reference : evidence.shape.output index = .column name (some ""))
    (sameName : ∀ written, name = some written → written = lower column.column)
    (single : evidence.shape.setOperation = false)
    (known : evidence.provenance = some column) (notNull : column.notNull = true)
    (table : column.table ≠ "")
    (listed : evidence.shape.relations = before ++ relation :: after)
    (named : relation.name = some (lower column.table)) (nullable : relation.nullable = true)
    (others : ∃ other ∈ before ++ after, other.name = some (lower column.table))
    (safe : ∀ other ∈ before ++ after, other.name = some (lower column.table) →
      other.nullable = false) :
    Overlooks index evidence
      (evidence.withRelations (before ++ { relation with name := none } :: after))

variable {evidence weaker : Evidence} {index : Int}

/-- The written outputs stay as they are. -/
theorem Weakens.output_eq (weakens : evidence.Weakens weaker) (index : Int) :
    weaker.shape.output index = evidence.shape.output index := by
  cases weakens <;> rfl

/-- A reference is called never null if it is trusted. -/
theorem mayBeNull_reference_iff {name qualifier : Option String} {column : CatalogColumn}
    (reference : evidence.shape.output index = .column name qualifier)
    (known : evidence.provenance = some column) :
    evidence.mayBeNull index = false ↔ evidence.shape.Trusts name qualifier column := by
  rw [mayBeNull, known]
  exact QueryTyping.mayBeNull_reference_iff reference column

/-- If only the weaker evidence is trusted, the relation that is no table there was in the way. -/
theorem overlooks_of_trusts {before after : List Relation} {relation : Relation}
    {name : Option String} {column : CatalogColumn}
    (reference : evidence.shape.output index = .column name (some ""))
    (known : evidence.provenance = some column)
    (listed : evidence.shape.relations = before ++ relation :: after)
    (trusts : (evidence.withRelations
      (before ++ { relation with name := none } :: after)).shape.Trusts name (some "") column)
    (untrusted : ¬ evidence.shape.Trusts name (some "") column) :
    Overlooks index evidence
      (evidence.withRelations (before ++ { relation with name := none } :: after)) := by
  obtain ⟨⟨single, notNull, sameName, table⟩, found, -, safe⟩ :=
    (QueryShape.Trusts.empty_iff_of_listed rfl).mp trusts
  have others : ∃ other ∈ before ++ after, other.name = some (lower column.table) :=
    found.resolve_left fun named => nomatch named
  have dropped : ¬ (relation.name = some (lower column.table) → relation.nullable = false) :=
    fun harmless => untrusted ((QueryShape.Trusts.empty_iff_of_listed listed).mpr
      ⟨⟨single, notNull, sameName, table⟩, .inr others, harmless, safe⟩)
  obtain ⟨named, nullable⟩ := Classical.not_imp.mp dropped
  exact .derived reference sameName single known notNull table listed named
    (eq_true_of_ne_false nullable) others safe

/-- A reference that is trusted on weaker evidence was trusted before, unless a reason for doubt is
overlooked. -/
theorem Weakens.trusts_or_overlooks (weakens : evidence.Weakens weaker)
    {name qualifier : Option String} {column : CatalogColumn}
    (reference : evidence.shape.output index = .column name qualifier)
    (known : weaker.provenance = some column)
    (trusts : weaker.shape.Trusts name qualifier column) :
    (∃ column, evidence.provenance = some column ∧
      evidence.shape.Trusts name qualifier column) ∨ Overlooks index evidence weaker := by
  cases weakens with
  | @nullable _ before after relation listed =>
    refine .inl ⟨column, known, trusts.of_replaced listed (.inr rfl) rfl fun unqualified => ?_⟩
    subst unqualified
    have table : ({ relation with nullable := true } : Relation).name ≠ none :=
      trusts.name_ne_none (List.mem_append_right _ List.mem_cons_self)
    exact table
  | @derived _ before after relation listed =>
    have tables : qualifier = none → relation.name ≠ none := by
      rintro rfl
      exact absurd rfl (trusts.name_ne_none (List.mem_append_right _ List.mem_cons_self))
    by_cases empty : qualifier = some ""
    · subst empty
      by_cases trusted : evidence.shape.Trusts name (some "") column
      · exact .inl ⟨column, known, trusted⟩
      · exact .inr (overlooks_of_trusts reference known listed trusts trusted)
    · refine .inl ⟨column, known, trusts.of_replaced listed (.inl rfl) ?_ tables⟩
      cases qualifier with
      | none =>
        exact absurd rfl (trusts.name_ne_none (List.mem_append_right _ List.mem_cons_self))
      | some word =>
        have written : word ≠ "" := fun same => empty (same ▸ rfl)
        exact (relation.isSource_of_word written _ none).symm
  | joined _ derived => exact .inl ⟨column, known, trusts.of_joined derived⟩
  | operation => cases trusts.single
  | notNull =>
    cases known
    cases trusts.notNull
  | provenance => cases known

/-- Weaker evidence turns a verdict into never null exactly where a reason for doubt is
overlooked. -/
theorem Weakens.turns_iff :
    (evidence.Weakens weaker ∧ evidence.mayBeNull index = true ∧ weaker.mayBeNull index = false) ↔
      Overlooks index evidence weaker := by
  constructor
  · rintro ⟨weakens, doubted, never⟩
    have doubtful := doubted
    rw [mayBeNull, ← Bool.not_eq_false, QueryTyping.mayBeNull_eq_false_iff] at doubtful
    rw [mayBeNull, mayBeNull_eq_false_iff, weakens.output_eq] at never
    rcases never with literal | ⟨name, qualifier, column, reference, known, trusts⟩
    · exact absurd (.inl literal) doubtful
    · rcases weakens.trusts_or_overlooks reference known trusts with
        ⟨column, known, trusts⟩ | overlooks
      · exact absurd (.inr ⟨name, qualifier, column, reference, known, trusts⟩) doubtful
      · exact overlooks
  · intro overlooks
    cases overlooks with
    | @derived before after relation name column reference sameName single known notNull table
        listed named nullable others safe =>
      have weakens : evidence.Weakens _ := .derived listed
      refine ⟨weakens, ?_, ?_⟩
      · rw [← Bool.not_eq_false, mayBeNull_reference_iff reference known]
        intro trusts
        obtain ⟨-, -, harmless, -⟩ := (QueryShape.Trusts.empty_iff_of_listed listed).mp trusts
        rw [nullable] at harmless
        cases harmless named
      · refine (mayBeNull_reference_iff ((weakens.output_eq index).trans reference) known).mpr ?_
        exact (QueryShape.Trusts.empty_iff_of_listed rfl).mpr
          ⟨⟨single, notNull, sameName, table⟩, .inr others, fun unnamed => (nomatch unnamed), safe⟩

/-- However far the evidence weakens, a reference that is doubted stays doubted, if it has no
qualifier or a word for one. -/
theorem mayBeNull_of_weakens
    (weakens : Relation.ReflTransGen Weakens evidence weaker)
    (written : ∀ name, evidence.shape.output index ≠ .column name (some ""))
    (doubted : evidence.mayBeNull index = true) : weaker.mayBeNull index = true := by
  have kept : weaker.shape.output index = evidence.shape.output index ∧
      weaker.mayBeNull index = true := by
    induction weakens with
    | refl => exact ⟨rfl, doubted⟩
    | @tail middle weaker _ step ih =>
      obtain ⟨same, stillDoubted⟩ := ih
      refine ⟨(step.output_eq index).trans same, ?_⟩
      rw [← Bool.not_eq_false]
      intro never
      cases Weakens.turns_iff.mp ⟨step, stillDoubted, never⟩ with
      | derived reference => exact written _ (same.symm.trans reference)
  exact kept.2

end Evidence

namespace Nullability

/-- Where a reference is trusted, no relation that it may come from is nullable. -/
theorem rules_exclude (shape : QueryShape) (output : Output) (provenance : Option CatalogColumn) :
    ¬ (notNullRule shape output provenance = some false ∧
      outerJoinRule shape output provenance = some true) := by
  rintro ⟨trusted, doubted⟩
  cases output with
  | literal => cases trusted
  | other => cases trusted
  | column name qualifier =>
    cases provenance with
    | none => cases trusted
    | some column =>
      have trusts := (notNullRule_column_iff shape name qualifier column).mp trusted
      have safe : (shape.sourceRelations qualifier (some column.table)).any (·.nullable) = false :=
        List.any_eq_false.mpr fun relation source =>
          Bool.eq_false_iff.mp (trusts.sources relation source).2
      simp [outerJoinRule, trusts.single, safe] at doubted

/-- The second and the third rule may change places. -/
theorem exchanged_rules (shape : QueryShape) (index : Int) (provenance : Option CatalogColumn) :
    (([literalRule, outerJoinRule, notNullRule].findSome? fun rule =>
      rule shape (shape.output index) provenance).getD true) =
        mayBeNull shape index provenance := by
  have apart := rules_exclude shape (shape.output index) provenance
  unfold mayBeNull rules
  simp only [List.findSome?_cons, List.findSome?_nil]
  rcases notNullRule_cases shape (shape.output index) provenance with trusted | silent
  · rcases outerJoinRule_cases shape (shape.output index) provenance with doubted | silent
    · exact absurd ⟨trusted, doubted⟩ apart
    · rw [trusted, silent]
  · rw [silent]

end Nullability

open Nullability in
/-- Weaker evidence turns a verdict into never null exactly where a reason for doubt is overlooked,
so never for a reference that has no qualifier or a word for one, however far the evidence weakens.
The second and the third rule do not contradict each other, and may change places. -/
theorem weakened_never_null_iff (evidence weaker : Evidence) (index : Int) :
    ((evidence.Weakens weaker ∧ evidence.mayBeNull index = true ∧
        weaker.mayBeNull index = false) ↔ evidence.Overlooks index weaker) ∧
    (Relation.ReflTransGen Evidence.Weakens evidence weaker →
      (∀ name, evidence.shape.output index ≠ .column name (some "")) →
      evidence.mayBeNull index = true → weaker.mayBeNull index = true) ∧
    (∀ output, ¬ (notNullRule evidence.shape output evidence.provenance = some false ∧
      outerJoinRule evidence.shape output evidence.provenance = some true)) ∧
    (([literalRule, outerJoinRule, notNullRule].findSome? fun rule =>
      rule evidence.shape (evidence.shape.output index) evidence.provenance).getD true) =
        evidence.mayBeNull index :=
  ⟨Evidence.Weakens.turns_iff, Evidence.mayBeNull_of_weakens,
    fun output => rules_exclude evidence.shape output evidence.provenance,
    exchanged_rules evidence.shape index evidence.provenance⟩

/-- An outer join of a table with itself, and a reference to it that has the empty word for a
qualifier. -/
def selfJoin : Evidence where
  shape :=
    { relations := [⟨0, some "author", "a", true⟩, ⟨1, some "author", "b", false⟩]
      outputs := [.column (some "first_name") (some "")] }
  provenance := some ⟨16384, 2, "author", "first_name", true⟩

/-- The same with a subquery in the place of the first table. -/
def subqueryJoin : Evidence :=
  selfJoin.withRelations [⟨0, none, "a", true⟩, ⟨1, some "author", "b", false⟩]

theorem subquery_overlooked :
    selfJoin.Weakens subqueryJoin ∧ selfJoin.mayBeNull 0 = true ∧
      subqueryJoin.mayBeNull 0 = false := by
  refine ⟨?_, by decide +kernel, by decide +kernel⟩
  exact @Evidence.Weakens.derived selfJoin [] [⟨1, some "author", "b", false⟩]
    ⟨0, some "author", "a", true⟩ rfl

end QueryTyping
