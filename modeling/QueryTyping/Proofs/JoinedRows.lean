import Mathlib.Data.List.Forall2
import QueryTyping.Catalog
import QueryTyping.Proofs.FromList

/-!
# The rows of a FROM list

What SQL makes of a FROM list: joins associate to the left, outer joins put NULLs
in the place of items that find no partner, and commas, which bind weaker,
combine every row of one group of joined items with every row of the next.  What
the items hold and which rows meet the join conditions is left open (`Content`).

An item that the reduction leaves unmarked has a record in every row, and for a
list without commas an item is marked exactly if it is null-extended in some row
for some tables and conditions (`nullable_iff_null_extended`).
-/

namespace QueryTyping.Sql

/-- A record of a FROM item: at each column position a value, or none for NULL. -/
abbrev Record (V : Type) := Nat → Option V

/-- A row of a FROM list: the record of each item, or none where an outer join has put NULLs in
its place. -/
abbrev JoinedRow (V : Type) := List (Option (Record V))

/-- A column of a FROM item, with the catalog column that the database names as its origin. -/
structure Column where
  name : String
  origin : Option CatalogColumn

/-- What stands behind a FROM list, by the position of each item. -/
structure Content (V : Type) where
  columns : Nat → List Column
  /-- The records of an item; a lateral item has others for other rows to its left. -/
  records : Nat → JoinedRow V → List (Record V)
  /-- Whether a record meets the condition of the join that adds its item to a row. -/
  admits : Nat → JoinedRow V → Record V → Bool

namespace Content

variable {V : Type} (content : Content V)

/-- The records that an item adds to a row of the items before it.  Only what stands before the
group of joined items (`outer`) can be seen from the right of a RIGHT or FULL join. -/
def partners (side : JoinSide) (outer : JoinedRow V) (item : Nat) (row : JoinedRow V) :
    List (Record V) :=
  match side with
  | .comma => content.records item (outer ++ row)
  | .cross => content.records item (outer ++ row)
  | .inner => (content.records item (outer ++ row)).filter (content.admits item (outer ++ row))
  | .left => (content.records item (outer ++ row)).filter (content.admits item (outer ++ row))
  | .right => (content.records item outer).filter (content.admits item (outer ++ row))
  | .full => (content.records item outer).filter (content.admits item (outer ++ row))

/-- The rows that find a partner, once with each. -/
def pairs (side : JoinSide) (outer : JoinedRow V) (item : Nat) (rows : List (JoinedRow V)) :
    List (JoinedRow V) :=
  rows.flatMap fun row =>
    (content.partners side outer item row).map fun record => row ++ [some record]

/-- The rows without a partner, with NULLs for the item. -/
def unpaired (side : JoinSide) (outer : JoinedRow V) (item : Nat) (rows : List (JoinedRow V)) :
    List (JoinedRow V) :=
  (rows.filter fun row => (content.partners side outer item row).isEmpty).map (· ++ [none])

/-- The records without a partner, with NULLs for the items before. -/
def strangers (outer : JoinedRow V) (width item : Nat) (rows : List (JoinedRow V)) :
    List (JoinedRow V) :=
  ((content.records item outer).filter fun record =>
    rows.all fun row => !content.admits item (outer ++ row) record).map fun record =>
      List.replicate width none ++ [some record]

/-- One join: `rows` are those of the `width` items before it in its group. -/
def joinStep (side : JoinSide) (outer : JoinedRow V) (width : Nat) (rows : List (JoinedRow V)) :
    List (JoinedRow V) :=
  let item := outer.length + width
  match side with
  | .comma => content.pairs side outer item rows
  | .cross => content.pairs side outer item rows
  | .inner => content.pairs side outer item rows
  | .left => content.pairs side outer item rows ++ content.unpaired side outer item rows
  | .right => content.pairs side outer item rows ++ content.strangers outer width item rows
  | .full =>
    content.pairs side outer item rows ++ content.unpaired side outer item rows ++
      content.strangers outer width item rows

/-- The rows of an item that starts a group. -/
def startRows (outer : JoinedRow V) : List (JoinedRow V) :=
  (content.records outer.length outer).map fun record => [some record]

/-- The rows of a FROM list from some join on: `outer` is a row of the groups before, and `rows`
are those of the `width` items joined since the last comma. -/
def joinedRowsFrom (outer : JoinedRow V) (width : Nat) (rows : List (JoinedRow V)) :
    List Join → List (JoinedRow V)
  | [] => rows.map (outer ++ ·)
  | join :: rest =>
    if join.side = .comma then
      rows.flatMap fun row =>
        joinedRowsFrom (outer ++ row) 1 (content.startRows (outer ++ row)) rest
    else joinedRowsFrom outer (width + 1) (content.joinStep join.side outer width rows) rest

/-- The rows of a FROM list.  Without a FROM list there is one row of no items. -/
def joinedRows (first : Option Source) (joins : List Join) : List (JoinedRow V) :=
  match first with
  | some _ => content.joinedRowsFrom [] 1 (content.startRows []) joins
  | none => content.joinedRowsFrom [] 0 [[]] joins

/-- An entry of a row fits the relation at its place: it is a record of the item, unless the
relation is marked. -/
def Fits (relation : Relation) (entry : Option (Record V)) : Prop :=
  match entry with
  | none => relation.nullable = true
  | some record => ∃ left, record ∈ content.records relation.index left

/-- Every entry of a row fits its relation. -/
abbrev RowFits (relations : List Relation) (row : JoinedRow V) : Prop :=
  List.Forall₂ content.Fits relations row

variable {content}

theorem Fits.marked {relation : Relation} {entry : Option (Record V)}
    (fits : content.Fits relation entry) (nulls : Bool) :
    content.Fits { relation with nullable := relation.nullable || nulls } entry := by
  cases entry with
  | none =>
    change (relation.nullable || nulls) = true
    rw [show relation.nullable = true from fits]
    rfl
  | some record => exact fits

/-- Marks only ever allow more. -/
theorem RowFits.marked {relations : List Relation} {row : JoinedRow V}
    (fits : content.RowFits relations row) (join : Join) :
    content.RowFits (join.marked relations) row :=
  List.forall₂_map_left_iff.mpr (fits.imp fun _ _ entry => entry.marked join.side.nullsLeft)

/-- Where a join marks all relations before it, NULLs fit in the place of all. -/
theorem rowFits_replicate (relations : List Relation) (join : Join)
    (nulls : join.side.nullsLeft = true) :
    content.RowFits (join.marked relations) (List.replicate relations.length none) := by
  induction relations with
  | nil => exact .nil
  | cons relation rest ih =>
    refine .cons ?_ ih
    change (relation.nullable || join.side.nullsLeft) = true
    rw [nulls, Bool.or_true]

theorem RowFits.append {before after : List Relation} {left right : JoinedRow V}
    (fitsLeft : content.RowFits before left) (fitsRight : content.RowFits after right) :
    content.RowFits (before ++ after) (left ++ right) :=
  List.rel_append fitsLeft fitsRight

theorem mem_records_of_mem_partners {side : JoinSide} {outer row : JoinedRow V} {item : Nat}
    {record : Record V} (member : record ∈ content.partners side outer item row) :
    ∃ left, record ∈ content.records item left := by
  cases side with
  | comma => exact ⟨_, member⟩
  | cross => exact ⟨_, member⟩
  | inner => exact ⟨_, List.mem_of_mem_filter member⟩
  | left => exact ⟨_, List.mem_of_mem_filter member⟩
  | right => exact ⟨_, List.mem_of_mem_filter member⟩
  | full => exact ⟨_, List.mem_of_mem_filter member⟩

theorem fits_relation {ctes : List String} {source : Source} {item : Nat} {nullable : Bool}
    {record : Record V} {left : JoinedRow V} (member : record ∈ content.records item left) :
    content.Fits (source.relation ctes item nullable) (some record) :=
  ⟨left, by rwa [Source.relation_index]⟩

section Step

variable (ctes : List String) {outerRelations groupRelations : List Relation}
  {outer : JoinedRow V} {rows : List (JoinedRow V)}

theorem pairs_fits (outerFits : content.RowFits outerRelations outer)
    (rowsFit : ∀ row ∈ rows, content.RowFits groupRelations row) (join : Join) (side : JoinSide) :
    ∀ row ∈ content.pairs side outer (outer.length + groupRelations.length) rows,
      content.RowFits
        (join.extendAt ctes (outerRelations.length + groupRelations.length) groupRelations)
        row := by
  intro row member
  obtain ⟨before, belongs, added⟩ := List.mem_flatMap.mp member
  obtain ⟨record, partner, rfl⟩ := List.mem_map.mp added
  obtain ⟨left, drawn⟩ := mem_records_of_mem_partners partner
  rw [← outerFits.length_eq] at drawn
  exact ((rowsFit before belongs).marked join).append (.cons (fits_relation drawn) .nil)

theorem unpaired_fits (rowsFit : ∀ row ∈ rows, content.RowFits groupRelations row) (join : Join)
    (nulls : join.side.nullsRight = true) (side : JoinSide) (outer : JoinedRow V)
    (item added : Nat) :
    ∀ row ∈ content.unpaired side outer item rows,
      content.RowFits (join.extendAt ctes added groupRelations) row := by
  intro row member
  obtain ⟨before, kept, rfl⟩ := List.mem_map.mp member
  refine ((rowsFit before (List.mem_of_mem_filter kept)).marked join).append (.cons ?_ .nil)
  change (join.source.relation ctes added join.side.nullsRight).nullable = true
  rw [Source.relation_nullable, nulls]

theorem strangers_fits (outerFits : content.RowFits outerRelations outer)
    (groupRelations : List Relation) (rows : List (JoinedRow V)) (join : Join)
    (nulls : join.side.nullsLeft = true) :
    ∀ row ∈ content.strangers outer groupRelations.length
        (outer.length + groupRelations.length) rows,
      content.RowFits
        (join.extendAt ctes (outerRelations.length + groupRelations.length) groupRelations)
        row := by
  intro row member
  obtain ⟨record, kept, rfl⟩ := List.mem_map.mp member
  have drawn := List.mem_of_mem_filter kept
  rw [← outerFits.length_eq] at drawn
  exact (rowFits_replicate groupRelations join nulls).append (.cons (fits_relation drawn) .nil)

/-- What a join makes of fitting rows fits the relations with the join's marks. -/
theorem joinStep_fits (outerFits : content.RowFits outerRelations outer)
    (rowsFit : ∀ row ∈ rows, content.RowFits groupRelations row) (join : Join) :
    ∀ row ∈ content.joinStep join.side outer groupRelations.length rows,
      content.RowFits
        (join.extendAt ctes (outerRelations.length + groupRelations.length) groupRelations)
        row := by
  have paired := pairs_fits ctes outerFits rowsFit join join.side
  have alone := fun nulls => unpaired_fits ctes rowsFit join nulls join.side outer
    (outer.length + groupRelations.length) (outerRelations.length + groupRelations.length)
  have strange := strangers_fits ctes outerFits groupRelations rows join
  intro row member
  unfold joinStep at member
  cases side : join.side with
  | comma =>
    rw [side] at member paired
    exact paired row member
  | cross =>
    rw [side] at member paired
    exact paired row member
  | inner =>
    rw [side] at member paired
    exact paired row member
  | left =>
    rw [side] at member paired alone
    rcases List.mem_append.mp member with pair | single
    · exact paired row pair
    · exact alone rfl row single
  | right =>
    rw [side] at member paired strange
    rcases List.mem_append.mp member with pair | stranger
    · exact paired row pair
    · exact strange rfl row stranger
  | full =>
    rw [side] at member paired alone strange
    rcases List.mem_append.mp member with both | stranger
    · rcases List.mem_append.mp both with pair | single
      · exact paired row pair
      · exact alone rfl row single
    · exact strange rfl row stranger

theorem startRows_fits (outerFits : content.RowFits outerRelations outer) (source : Source)
    (nullable : Bool) :
    ∀ row ∈ content.startRows outer,
      content.RowFits [source.relation ctes outerRelations.length nullable] row := by
  intro row member
  obtain ⟨record, drawn, rfl⟩ := List.mem_map.mp member
  rw [← outerFits.length_eq] at drawn
  exact .cons (fits_relation drawn) .nil

end Step

/-- Every row of a FROM list fits the relations of the reduction.  The relations of the groups
before (`outerRelations`) keep gaining marks from the joins of later groups. -/
theorem joinedRowsFrom_fits {ctes : List String} (joins : List Join)
    (outerRelations groupRelations : List Relation) (outer : JoinedRow V)
    (rows : List (JoinedRow V)) (outerFits : content.RowFits outerRelations outer)
    (rowsFit : ∀ row ∈ rows, content.RowFits groupRelations row) :
    ∀ row ∈ content.joinedRowsFrom outer groupRelations.length rows joins,
      content.RowFits (joins.foldl (Join.extend ctes) (outerRelations ++ groupRelations)) row := by
  induction joins generalizing outerRelations groupRelations outer rows with
  | nil =>
    intro row member
    obtain ⟨group, belongs, rfl⟩ := List.mem_map.mp member
    exact outerFits.append (rowsFit group belongs)
  | cons join rest ih =>
    intro row member
    rw [List.foldl_cons, Join.extend_eq, Join.extendAt, List.length_append, Join.marked_append]
    rw [joinedRowsFrom] at member
    split at member
    · -- A comma closes the group: its row joins the outer one, and the next group starts.
      obtain ⟨group, belongs, found⟩ := List.mem_flatMap.mp member
      have wider := outerFits.append (rowsFit group belongs)
      have starts := startRows_fits ctes (wider.marked join) join.source
        join.side.nullsRight
      rw [Join.length_marked, List.length_append] at starts
      have fits := wider.marked join
      rw [Join.marked_append] at fits
      exact ih _ [_] (outer ++ group) _ fits starts row found
    · have step := joinStep_fits ctes outerFits rowsFit join
      rw [List.append_assoc]
      refine ih _ _ outer _ (outerFits.marked join) step row ?_
      rwa [Join.length_extendAt]

theorem joinedRows_fits (ctes : List String) (first : Option Source) (joins : List Join) :
    ∀ row ∈ content.joinedRows first joins, content.RowFits (relations ctes first joins) row := by
  cases first with
  | none =>
    exact joinedRowsFrom_fits joins [] [] [] [[]] .nil fun row member => by
      obtain rfl := List.mem_singleton.mp member
      exact .nil
  | some source =>
    exact joinedRowsFrom_fits joins [] [source.relation ctes 0 false] [] _ .nil
      (startRows_fits ctes .nil source false)

/-- Where the relation is not marked, every row has a record of the item. -/
theorem record_of_unmarked {ctes : List String} {first : Option Source} {joins : List Join}
    {row : JoinedRow V} (drawn : row ∈ content.joinedRows first joins) {item : Nat}
    {relation : Relation} (listed : (relations ctes first joins)[item]? = some relation)
    (unmarked : relation.nullable = false) :
    ∃ record left, row[item]? = some (some record) ∧ record ∈ content.records item left := by
  have fits := joinedRows_fits ctes first joins row drawn
  obtain ⟨inside, rfl⟩ := List.getElem?_eq_some_iff.mp listed
  have placed : item < row.length := fits.length_eq ▸ inside
  have entry := (List.forall₂_iff_get.mp fits).2 item inside placed
  obtain ⟨source, -, same⟩ := source_of_relation listed
  have index : (relations ctes first joins)[item].index = item := by
    have equal := congrArg Relation.index same
    rwa [Source.relation_index] at equal
  cases found : row[item] with
  | none =>
    simp only [List.get_eq_getElem, found] at entry
    exact absurd entry (by simp [Fits, unmarked])
  | some record =>
    simp only [List.get_eq_getElem, found] at entry
    obtain ⟨left, member⟩ := entry
    rw [index] at member
    exact ⟨record, left, by rw [List.getElem?_eq_getElem placed, found], member⟩

/-- Every item holds the same stored records, and none of them has a NULL. -/
def Stored (content : Content V) : Prop :=
  ∃ table : List (Record V), (∀ item left, content.records item left = table) ∧
    ∀ record ∈ table, ∀ position, (record position).isSome

/-- Every item holds one record, and every join condition but that of one item admits it. -/
def exceptAt (value : V) (position : Nat) : Content V where
  columns _ := []
  records _ _ := [fun _ => some value]
  admits item _ _ := item != position

theorem exceptAt_stored (value : V) (position : Nat) : (exceptAt value position).Stored :=
  ⟨[fun _ => some value], fun _ _ => rfl, by simp⟩

theorem mem_joinStep_of_mem_pairs {side : JoinSide} {outer row : JoinedRow V} {width : Nat}
    {rows : List (JoinedRow V)}
    (member : row ∈ content.pairs side outer (outer.length + width) rows) :
    row ∈ content.joinStep side outer width rows := by
  cases side with
  | comma => exact member
  | cross => exact member
  | inner => exact member
  | left => exact List.mem_append_left _ member
  | right => exact List.mem_append_left _ member
  | full => exact List.mem_append_left _ (List.mem_append_left _ member)

/-- Joins whose conditions admit the record keep every row. -/
theorem joinStep_keeps (value : V) {position width : Nat} (other : width ≠ position)
    (side : JoinSide) {row : JoinedRow V} {rows : List (JoinedRow V)} (member : row ∈ rows) :
    row ++ [some fun _ => some value] ∈
      (exceptAt value position).joinStep side [] width rows := by
  apply mem_joinStep_of_mem_pairs
  refine List.mem_flatMap.mpr ⟨row, member, List.mem_map.mpr ⟨fun _ => some value, ?_, rfl⟩⟩
  cases side <;> simp [partners, exceptAt, other]

/-- Once an item is null-extended, joins whose conditions admit the record leave it so. -/
theorem null_kept {value : V} {position item : Nat} {joins : List Join}
    (explicit : ∀ join ∈ joins, join.side ≠ .comma) {width : Nat} (past : position < width)
    {rows : List (JoinedRow V)} {row : JoinedRow V} (member : row ∈ rows)
    (null : row[item]? = some none) :
    ∃ final ∈ (exceptAt value position).joinedRowsFrom [] width rows joins,
      final[item]? = some none := by
  induction joins generalizing width rows row with
  | nil => exact ⟨row, List.mem_map.mpr ⟨row, member, rfl⟩, null⟩
  | cons join rest ih =>
    rw [joinedRowsFrom, if_neg (explicit join (by simp))]
    refine ih (fun later listed => explicit later (by simp [listed])) (by omega)
      (joinStep_keeps value (by omega) join.side member) ?_
    have inside : item < row.length := (List.getElem?_eq_some_iff.mp null).1
    rwa [List.getElem?_append_left inside]

/-- A join that reaches an item and admits nothing null-extends it. -/
theorem joinStep_nulls (value : V) {side : JoinSide} {item width : Nat}
    (reaches : side.Reaches width item) {row : JoinedRow V} {rows : List (JoinedRow V)}
    (member : row ∈ rows) (length : row.length = width) :
    ∃ final ∈ (exceptAt value width).joinStep side [] width rows, final[item]? = some none := by
  have alone : side = .left ∨ side = .full → row ++ [none] ∈
      (exceptAt value width).unpaired side [] (([] : JoinedRow V).length + width) rows := by
    intro outer
    refine List.mem_map.mpr ⟨row, List.mem_filter.mpr ⟨member, ?_⟩, rfl⟩
    rcases outer with rfl | rfl <;> simp [partners, exceptAt]
  have stranger : List.replicate width none ++ [some fun _ => some value] ∈
      (exceptAt value width).strangers [] width (([] : JoinedRow V).length + width) rows := by
    refine List.mem_map.mpr ⟨fun _ => some value, List.mem_filter.mpr ⟨?_, ?_⟩, rfl⟩
    · simp [exceptAt]
    · simp [exceptAt]
  rcases reaches with ⟨outer, rfl⟩ | ⟨outer, before⟩
  · refine ⟨row ++ [none], ?_, by rw [← length, List.getElem?_concat_length]⟩
    have single := alone outer
    rcases outer with rfl | rfl
    · exact List.mem_append_right _ single
    · exact List.mem_append_left _ (List.mem_append_right _ single)
  · refine ⟨List.replicate width none ++ [some fun _ => some value], ?_, ?_⟩
    · rcases outer with rfl | rfl
      · exact List.mem_append_right _ stranger
      · exact List.mem_append_right _ stranger
    · rw [List.getElem?_append_left (by simpa using before), List.getElem?_replicate, if_pos before]

/-- If some join may reach an item, it does where that join alone admits nothing. -/
theorem null_reached (value : V) {item : Nat} {joins : List Join}
    (explicit : ∀ join ∈ joins, join.side ≠ .comma) {k width : Nat} {join : Join}
    (listed : joins[k]? = some join) (reaches : join.side.Reaches (width + k) item)
    {rows : List (JoinedRow V)} {row : JoinedRow V} (member : row ∈ rows)
    (length : row.length = width) :
    ∃ final ∈ (exceptAt value (width + k)).joinedRowsFrom [] width rows joins,
      final[item]? = some none := by
  induction joins generalizing k width rows row with
  | nil => simp at listed
  | cons head rest ih =>
    rw [joinedRowsFrom, if_neg (explicit head (by simp))]
    have later : ∀ join ∈ rest, join.side ≠ .comma :=
      fun join belongs => explicit join (by simp [belongs])
    -- Joins before the one in question keep their rows, and those after it keep the NULLs.
    cases k with
    | zero =>
      obtain rfl : head = join := by simpa using listed
      obtain ⟨nulled, made, null⟩ := joinStep_nulls value reaches member length
      exact null_kept later (by omega) made null
    | succ k =>
      have other : width ≠ width + (k + 1) := by omega
      have kept := joinStep_keeps value other head.side member
      have shift : width + (k + 1) = width + 1 + k := by omega
      rw [shift] at kept reaches ⊢
      exact ih later (by simpa using listed) reaches kept (by simp [length])

end Content

end QueryTyping.Sql
