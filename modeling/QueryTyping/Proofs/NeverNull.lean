import QueryTyping.Proofs.ReturnedRows
import QueryTyping.Proofs.Verdict

/-!
# Outputs that are never null

An output that the rules call never null has a value in every row that the query
returns (`mayBeNull_sound`), whatever its tables hold and whatever the items
that are not tables give.

Literals have values in all branches of a set operation.  A trusted reference is
read from an item whose relation the rules have looked at
(`mem_sources_of_plain`, `mem_sources_of_reads`); that relation is a table that
no join null-extends, so the column keeps the value that it has in the table.
-/

namespace QueryTyping.Sql

open Text

theorem Relation.unmarked_label {relation other : Relation} (same : relation.unmarked = other) :
    other.label = relation.label := by
  subst same
  rfl

/-- The label of an item's relation is one of its labels. -/
theorem Source.labelled_of_label {ctes : List String} {source : Source} {item : Nat}
    {nullable : Bool} {qualifier : String} (written : lower qualifier ≠ "")
    (same : (source.relation ctes item nullable).label = lower qualifier) :
    source.Labelled qualifier := by
  have unlabelled : lower "" = "" := rfl
  cases source with
  | table qualifiers name label joins => exact .table qualifiers joins same
  | derived label =>
    cases label with
    | none => exact absurd (same.symm.trans unlabelled) written
    | some label => exact .derived same
  | query body label =>
    cases label with
    | none => exact absurd (same.symm.trans unlabelled) written
    | some label => exact .query body same
  | group inner joins label =>
    cases label with
    | none => exact absurd (same.symm.trans unlabelled) written
    | some label => exact .group inner joins same

namespace Content

variable {V : Type} {content : Content V} {scope ctes : List Cte} {first : Option Source}
  {joins : List Join} {joined : JoinedRow V} {shape : QueryShape} {name qualifier : Option String}
  {column : CatalogColumn} {item position : Nat} {relation : Relation}

/-- The columns of a table have their origins in it. -/
theorem HoldsTable.table_of_origin {table : String} (holds : content.HoldsTable item table)
    (origin : (content.columns item)[position]?.bind Column.origin = some column) :
    lower column.table = lower table := by
  obtain ⟨written, placed, named⟩ := Option.bind_eq_some_iff.mp origin
  exact (holds position written column placed named).1

/-- A column that is never null in its table has a value wherever no join may null the table. -/
theorem HoldsTable.value_of_origin {table : String} (holds : content.HoldsTable item table)
    (drawn : joined ∈ content.joinedRows first joins)
    (listed : (relations (cteNames ctes) first joins)[item]? = some relation)
    (unmarked : relation.nullable = false)
    (origin : (content.cell joined item position).origin = some column)
    (notNull : column.notNull = true) : (content.cell joined item position).value.isSome := by
  obtain ⟨record, left, placed, member⟩ := record_of_unmarked drawn listed unmarked
  obtain ⟨written, found, named⟩ := Option.bind_eq_some_iff.mp origin
  have stored := (holds position written column found named).2 notNull left record member
  simpa [cell, placed] using stored

section Trusted

variable (trusts : shape.Trusts name qualifier column)
  (reduced : shape.relations = relations (cteNames ctes) first joins)
  (only : NamesOnlyTables shape.relations
    ((fromItems first joins).map fun source => (scope ++ ctes, some source)))
  (respects : content.Respects (scope ++ ctes) (fromItems first joins))

include only respects in
/-- A named relation is a table and the content holds its rows. -/
theorem holdsTable_of_named (listed : shape.relations[item]? = some relation) {table : String}
    (named : relation.name = some table) :
    ∃ written, content.HoldsTable item written ∧ lower written = table := by
  obtain ⟨inScope, source, written, placed, isTable, same⟩ := only item relation table listed named
  rw [List.getElem?_map] at placed
  obtain ⟨_, found, equal⟩ := Option.map_eq_some_iff.mp placed
  cases equal
  exact ⟨written, respects item source written found isTable, same⟩

include trusts reduced only respects in
/-- A trusted reference has a value if the rules have looked at the item that it is read from. -/
theorem value_of_trusted (drawn : joined ∈ content.joinedRows first joins)
    (listed : shape.relations[item]? = some relation)
    (source : relation ∈ shape.sourceRelations qualifier (some column.table))
    (origin : (content.cell joined item position).origin = some column) :
    (content.cell joined item position).value.isSome := by
  obtain ⟨named, unmarked⟩ := trusts.sources relation source
  obtain ⟨written, holds, -⟩ := holdsTable_of_named only respects listed named
  rw [reduced] at listed
  exact holds.value_of_origin drawn listed unmarked origin trusts.notNull

include trusts only respects in
/-- Where all items are tables, the rules look at every item that holds the table's columns. -/
theorem mem_sources_of_plain (plain : shape.hasDerived = false)
    (listed : shape.relations[item]? = some relation)
    (origin : (content.cell joined item position).origin = some column)
    (unqualified : qualifier = none) :
    relation ∈ shape.sourceRelations qualifier (some column.table) := by
  subst unqualified
  have member := List.mem_of_getElem? listed
  have named : relation.name ≠ none := by
    simpa using List.any_eq_false.mp plain relation member
  obtain ⟨table, same⟩ := Option.ne_none_iff_exists'.mp named
  obtain ⟨written, holds, lowered⟩ := holdsTable_of_named only respects listed same
  obtain ⟨other, source⟩ := List.exists_mem_of_ne_nil _ trusts.found
  rw [QueryShape.mem_sourceRelations_unqualified] at source ⊢
  exact ⟨source.1, member, by rw [same, holds.table_of_origin origin, lowered]⟩

include trusts reduced in
/-- The rules look at the item that a qualifier tells from the others. -/
theorem mem_sources_of_reads {items : List Source} (items_eq : items = fromItems first joins)
    {qualifiers : List String} {written word : String}
    (reads : content.Reads items qualifiers written item position)
    (last : qualifiers.getLast? = some word) (nonempty : lower word ≠ "")
    (qualified : qualifier = some (lower word))
    (listed : shape.relations[item]? = some relation) :
    relation ∈ shape.sourceRelations qualifier (some column.table) := by
  subst qualified items_eq
  obtain ⟨other, source⟩ := List.exists_mem_of_ne_nil _ trusts.found
  obtain ⟨member, label⟩ := (shape.mem_sourceRelations_qualified nonempty _ other).mp source
  rw [lower_lower] at label
  -- The rules found a relation with that label; its item can only be the one that is read.
  obtain ⟨place, placed⟩ := List.getElem?_of_mem member
  rw [reduced] at placed
  obtain ⟨owner, found, same⟩ := source_of_relation placed
  rw [← Relation.unmarked_label same] at label
  have labelled := Source.labelled_of_label nonempty label
  obtain rfl := (reads.qualified word last place owner found).mp labelled
  rw [← reduced, listed] at placed
  obtain rfl := Option.some.inj placed
  exact source

end Trusted

end Content

theorem Expr.isLiteral_of_output {expr : Expr} (literal : expr.output = .literal) :
    expr.unaliased.isLiteral = true := by
  unfold output at literal
  dsimp only at literal
  split at literal
  next yes => exact yes
  · split at literal
    · cases literal
    · split at literal <;> cases literal
    · cases literal

/-- An output that counts as a reference is one, or a star. -/
theorem Expr.unaliased_of_output {expr : Expr} {name qualifier : Option String}
    (reference : expr.output = .column name qualifier) :
    (∃ qualifiers written, expr.unaliased = .column qualifiers written ∧
        qualifier = (qualifiers.getLast?.map lower).filter (!·.isEmpty)) ∨
      ∃ qualifiers, expr.unaliased = .star qualifiers := by
  unfold output at reference
  dsimp only at reference
  split at reference
  · cases reference
  · split at reference
    next qualifiers written same =>
      cases reference
      exact .inl ⟨qualifiers, written, same, rfl⟩
    next qualifiers same => exact .inr ⟨qualifiers, same⟩
    · cases reference

theorem shapeOf_output {relations : List Relation} {outputs : List Expr} {output : Expr}
    {index : Nat} (aligned : anyStar outputs = false) (placed : outputs[index]? = some output) :
    (shapeOf relations outputs).output index = output.output := by
  have inside : ¬ (index : Int) < 0 := by omega
  simp [shapeOf, aligned, QueryShape.output, placed, inside]

theorem shapeOf_output_of_star {relations : List Relation} {outputs : List Expr} (index : Int)
    (star : anyStar outputs = true) :
    (shapeOf relations outputs).output index = .column none none := by
  simp [shapeOf, star, QueryShape.output]

namespace Content

variable {V : Type} {content : Content V} {items : List Source} {joined : JoinedRow V}
  {outputs : List Expr} {row : List (Cell V)} {index : Nat} {cell : Cell V}

/-- A literal of a select list has a value. -/
theorem Projects.value_of_literal (projects : content.Projects items joined outputs row)
    (placed : row[index]? = some cell) {relations : List Relation}
    (literal : (shapeOf relations outputs).output index = .literal) : cell.value.isSome := by
  cases star : anyStar outputs with
  | true =>
    rw [shapeOf_output_of_star _ star] at literal
    cases literal
  | false =>
    obtain ⟨output, found, yields⟩ := projects.yields_of_getElem? star placed
    rw [shapeOf_output star found] at literal
    exact yields.unaliased.value_of_isLiteral (Expr.isLiteral_of_output literal)

/-- An output that counts as a reference and has an origin is read from an item. -/
theorem Projects.reads_of_origin (projects : content.Projects items joined outputs row)
    (placed : row[index]? = some cell) {relations : List Relation} {name qualifier : Option String}
    (reference : (shapeOf relations outputs).output index = .column name qualifier)
    {column : CatalogColumn} (origin : cell.origin = some column) :
    ∃ item position, item < items.length ∧ cell = content.cell joined item position ∧
      (qualifier = none ∨ ∃ qualifiers written word, qualifiers.getLast? = some word ∧
        lower word ≠ "" ∧ qualifier = some (lower word) ∧
        content.Reads items qualifiers written item position) := by
  cases star : anyStar outputs with
  | true =>
    rw [shapeOf_output_of_star _ star] at reference
    cases reference
    rcases projects.expanded (List.mem_of_getElem? placed) with
      absent | ⟨item, position, inside, rfl⟩
    · rw [absent] at origin
      cases origin
    · exact ⟨item, position, inside, rfl, .inl rfl⟩
  | false =>
    obtain ⟨output, found, yields⟩ := projects.yields_of_getElem? star placed
    rw [shapeOf_output star found] at reference
    have plain := yields.unaliased
    rcases Expr.unaliased_of_output reference with
      ⟨qualifiers, written, same, qualified⟩ | ⟨_, same⟩
    · rw [same] at plain
      cases plain with
      | computed => cases origin
      | @column _ _ item position reads =>
        refine ⟨item, position, reads.listed, rfl, ?_⟩
        cases last : qualifiers.getLast? with
        | none => simp [qualified, last]
        | some word =>
          by_cases empty : lower word = ""
          · simp [qualified, last, empty]
          · have named : qualifier = some (lower word) := by simp [qualified, last, empty]
            exact .inr ⟨qualifiers, written, word, last, empty, named, reads⟩
    · rw [same] at plain
      cases plain
      cases origin

end Content

/-- A trusted reference of a SELECT has a value. -/
theorem select_value_of_trusted {V : Type} {content : Content V} {scope ctes : List Cte}
    {outputs : List Expr} {first : Option Source} {joins : List Join} {joined : JoinedRow V}
    {row : List (Cell V)} {index : Nat} {cell : Cell V} {name qualifier : Option String}
    {column : CatalogColumn}
    (respects : content.Respects (scope ++ ctes) (fromItems first joins))
    (drawn : joined ∈ content.joinedRows first joins)
    (projects : content.Projects (fromItems first joins) joined outputs row)
    (only : NamesOnlyTables (relations (cteNames ctes) first joins)
      ((fromItems first joins).map fun source => (scope ++ ctes, some source)))
    (placed : row[index]? = some cell) (origin : cell.origin = some column)
    (reference : (shapeOf (relations (cteNames ctes) first joins) outputs).output index =
      .column name qualifier)
    (trusts : (shapeOf (relations (cteNames ctes) first joins) outputs).Trusts name qualifier
      column) : cell.value.isSome := by
  have reduced := shapeOf_relations (relations (cteNames ctes) first joins) outputs
  rw [← reduced] at only
  obtain ⟨item, position, inside, rfl, qualification⟩ :=
    projects.reads_of_origin placed reference origin
  have listed : ∃ relation, (shapeOf (relations (cteNames ctes) first joins)
      outputs).relations[item]? = some relation := by
    rw [reduced]
    exact ⟨_, List.getElem?_eq_getElem (by rwa [length_relations])⟩
  obtain ⟨relation, listed⟩ := listed
  refine Content.value_of_trusted trusts reduced only respects drawn listed ?_ origin
  rcases qualification with
    unqualified | ⟨qualifiers, written, word, last, nonempty, qualified, reads⟩
  · exact Content.mem_sources_of_plain trusts only respects (trusts.plain unqualified) listed
      origin unqualified
  · exact Content.mem_sources_of_reads trusts reduced rfl reads last nonempty qualified listed

theorem combinedShape_literal {left right : QueryShape} {index : Nat}
    (literal : (combinedShape left right).output index = .literal) :
    left.output index = .literal ∧ right.output index = .literal := by
  have inside : ¬ (index : Int) < 0 := by omega
  rw [QueryShape.output] at literal
  simp only [combinedShape, Bool.false_eq_true, if_false, inside, Int.toNat_natCast,
    List.getElem?_map] at literal
  cases placed : (List.range (if left.star then 0 else left.outputs.length))[index]? with
  | none => simp [placed] at literal
  | some other =>
    obtain ⟨_, rfl⟩ := List.getElem?_eq_some_iff.mp placed
    simpa [placed] using literal

theorem unknown_output (index : Int) : QueryShape.unknown.output index = .other := by
  simp [QueryShape.output, QueryShape.unknown]

/-- A conversion keeps values. -/
theorem Converted.isSome {V : Type} {before after : List (Cell V)}
    (converted : Converted before after) {index : Nat} {cell : Cell V}
    (placed : after[index]? = some cell)
    (value : ∀ old, before[index]? = some old → old.value.isSome) : cell.value.isSome := by
  have same := congrArg (·[index]?) converted
  simp only [List.getElem?_map, placed, Option.map_some] at same
  obtain ⟨old, found, equal⟩ := Option.map_eq_some_iff.mp same.symm
  rw [← equal]
  exact value old found

/-- A literal has a value in every row, also in those of a set operation. -/
theorem Query.Returns.value_of_literal {V : Type} {scope : List Cte} {query : Query}
    {row : List (Cell V)} (returned : query.Returns scope row) {index : Nat} {cell : Cell V}
    (placed : row[index]? = some cell) (literal : query.shape.output index = .literal) :
    cell.value.isSome := by
  induction returned generalizing cell with
  | select content respects drawn projects => exact projects.value_of_literal placed literal
  | aggregate content computed projects => exact projects.value_of_literal placed literal
  | unionLeft right branch converted ih =>
    exact converted.isSome placed fun old found => ih found (combinedShape_literal literal).1
  | unionRight left branch converted ih =>
    exact converted.isSome placed fun old found => ih found (combinedShape_literal literal).2
  | except right branch converted ih =>
    exact converted.isSome placed fun old found => ih found (combinedShape_literal literal).1
  | intersect branch converted counterpart matched ih _ =>
    exact converted.isSome placed fun old found => ih found (combinedShape_literal literal).1
  | paren bare within ih => exact ih placed literal
  | values scope ctes row =>
    rw [Query.shape, unknown_output] at literal
    cases literal

/-- A trusted reference has a value in every row. -/
theorem Query.Returns.value_of_trusted {V : Type} {scope : List Cte} {query : Query}
    {row : List (Cell V)} (returned : query.Returns scope row)
    (only : NamesOnlyTables query.shape.relations (query.listed scope)) {index : Nat}
    {cell : Cell V} (placed : row[index]? = some cell) {name qualifier : Option String}
    (reference : query.shape.output index = .column name qualifier) {column : CatalogColumn}
    (origin : cell.origin = some column) (trusts : query.shape.Trusts name qualifier column) :
    cell.value.isSome := by
  induction returned with
  | select content respects drawn projects =>
    rw [Query.shape, shapeOf_relations] at only
    exact select_value_of_trusted respects drawn projects only placed origin reference trusts
  | aggregate content computed projects =>
    rw [computed cell (List.mem_of_getElem? placed)] at origin
    cases origin
  -- The shape of a set operation has no references.
  | unionLeft | unionRight | except | intersect => cases trusts.single
  | paren bare within ih => exact ih only placed reference trusts
  | values scope ctes row =>
    rw [Query.shape, unknown_output] at reference
    cases reference

/-- `SELECT a.first_name FROM book b RIGHT JOIN author a ON TRUE`. -/
def authorsByBook : Query :=
  .select [] [.column ["a"] "first_name"] (some (.table [] "book" (some "b") []))
    [.mk .right (.table [] "author" (some "a") []) (some (.boolean true))] []

/-- One author is all that the items hold, by the item at a place. -/
def oneAuthor (place : Nat) : Content String where
  columns item := if item = place then [⟨"first_name", some firstName⟩] else []
  records item _ := if item = place then [fun _ => some "Ursula"] else []
  admits _ _ _ := true

theorem oneAuthor_respects {scope : List Cte} {items : List Source} {place : Nat}
    {author : Source} (found : items[place]? = some author) (plain : author.IsPlain "author") :
    (oneAuthor place).Respects scope items := by
  intro item source name listed isTable position column origin placed named
  by_cases same : item = place
  · subst same
    obtain rfl := Option.some.inj (found.symm.trans listed)
    obtain rfl := plain.unique isTable.1
    cases position with
    | zero =>
      obtain rfl : (⟨"first_name", some firstName⟩ : Column) = column := by
        simpa [oneAuthor] using placed
      obtain rfl := Option.some.inj named
      refine ⟨rfl, fun _ left record member => ?_⟩
      obtain rfl : record = fun _ => some "Ursula" := by simpa [oneAuthor] using member
      rfl
    | succ position => simp [oneAuthor] at placed
  · simp [oneAuthor, same] at placed

theorem authorsByBook_reads :
    (oneAuthor 1).Reads [.table [] "book" (some "b") [], .table [] "author" (some "a") []] ["a"]
      "first_name" 1 0 := by
  refine ⟨by decide, ?_, ⟨_, rfl, rfl⟩⟩
  rintro qualifier last other source found
  obtain rfl : "a" = qualifier := by simpa using last
  match other with
  | 0 =>
    obtain rfl : Source.table [] "book" (some "b") [] = source := by simpa using found
    refine iff_of_false ?_ (by decide)
    rintro (⟨_, _, same⟩ | ⟨_, _, _, member, _⟩)
    · change lower "b" = lower "a" at same
      rw [lower_of_small (by decide), lower_of_small (by decide)] at same
      exact absurd same (by decide)
    · cases member
  | 1 =>
    obtain rfl : Source.table [] "author" (some "a") [] = source := by simpa using found
    exact iff_of_true (.table [] [] rfl) rfl
  | other + 2 => simp at found

theorem authorsByBook_returns :
    authorsByBook.Returns [] [(oneAuthor 1).cell [none, some fun _ => some "Ursula"] 1 0] :=
  .select (oneAuthor 1) (oneAuthor_respects rfl (.table [] "author" (some "a")))
    (List.mem_singleton.mpr rfl) (.value rfl (.column authorsByBook_reads) .nil)

theorem authorsByBook_relations :
    authorsByBook.shape.relations =
      [⟨0, some (lower "book"), lower "b", true⟩, ⟨1, some (lower "author"), lower "a", false⟩] :=
  rfl

theorem authorsByBook_never_null : mayBeNull authorsByBook.shape 0 (some firstName) = false := by
  have a : lower "a" = "a" := lower_of_small (by decide)
  have b : lower "b" = "b" := lower_of_small (by decide)
  have written : authorsByBook.shape.output 0 = .column (some (lower "first_name")) (some "a") := by
    change Output.column _ ((some (lower "a")).filter _) = _
    rw [a]
    rfl
  have listed (relation : Relation) :
      relation ∈ authorsByBook.shape.sourceRelations (some "a") (some "author") ↔
        relation = ⟨1, some (lower "author"), "a", false⟩ := by
    rw [QueryShape.mem_sourceRelations_qualified _ (by decide), authorsByBook_relations, a, b]
    constructor
    · rintro ⟨member, label⟩
      simp only [List.mem_cons, List.not_mem_nil, or_false] at member
      rcases member with rfl | rfl
      · exact absurd label (by decide)
      · rfl
    · rintro rfl
      exact ⟨by simp, rfl⟩
  refine (mayBeNull_reference_iff written firstName).mpr ?_
  have qualified : some "a" = none → authorsByBook.shape.hasDerived = false := by
    intro absent
    cases absent
  refine ⟨rfl, rfl, fun _ same => (Option.some.inj same).symm, qualified, ?_, ?_⟩
  · exact List.ne_nil_of_mem ((listed _).mpr rfl)
  · intro relation found
    rw [(listed relation).mp found]
    exact ⟨rfl, rfl⟩

end QueryTyping.Sql
