import QueryTyping.Proofs.LiteralText
import QueryTyping.Proofs.TableLayout
import QueryTyping.QueryFile.Annotation
import QueryTyping.Report

/-!
# What the table of a report shows

The values of a query are cut to a number of characters and handed to a table.
A table shows them as they stand exactly when nothing in them is read as markup
(`Markup.Unmarked`); a value that has markup loses characters, or ends the
report if a tag closes what is not open.
-/

namespace QueryTyping

open Terminal Text

namespace Report

/-- What is shown of a value: all of it if it is short enough, and else its beginning and an
ellipsis, as many characters as there may be. -/
def IsCut (width : Int) (value cut : String) : Prop :=
  ((value.length : Int) ≤ width ∧ cut = value) ∨
    (width < value.length ∧ (cut.length : Int) = width ∧
      ∃ kept, kept <+: value.toList ∧ cut.toList = kept ++ ['…'])

theorem truncate_isCut {width : Int} (wide : 1 ≤ width) (value : String) :
    IsCut width value (truncate width value) := by
  have count : value.toList.length = value.length := String.length_toList
  by_cases short : (value.length : Int) ≤ width
  · refine .inl ⟨short, ?_⟩
    simp only [truncate, count, if_pos short]
  · have cut : (truncate width value).toList = value.toList.take (width - 1).toNat ++ ['…'] := by
      simp only [truncate, count, if_neg short, if_pos wide, String.toList_ofList]
    refine .inr ⟨by omega, ?_, _, List.take_prefix _ _, cut⟩
    rw [← String.length_toList, cut, List.length_append, List.length_take, count,
      List.length_singleton]
    omega

/-- The values of a query as they are handed to its table. -/
def cutRows (width : Int) (query : TypedQuery) : List (List String) :=
  query.rows.map fun row => row.cells.map (truncate width)

/-- The title of the table of a query. -/
def title (query : TypedQuery) : String := query.name ++ " " ++ query.resultKind.text

/-- Text in no style, as it stands. -/
def plainCell (s : String) : StyledText := { chars := s.toList }

/-- The table of a query whose values are shown as they stand. -/
def plainTable (width : Int) (query : TypedQuery) : Table where
  title := { chars := Markup.shown (title query).toList, base := Style.italic }
  header := tableHeader.map plainCell
  rows := (cutRows width query).map fun row => row.map plainCell

/-- Nothing in the values of a query, cut as they are, is read as markup. -/
def IsLiteral (width : Int) (query : TypedQuery) : Prop :=
  ∀ row ∈ cutRows width query, ∀ s ∈ row, Markup.Unmarked s.toList

theorem mapM_eq_some_map {α β : Type} {f : α → Option β} {g : α → β} {items : List α} :
    items.mapM f = some (items.map g) ↔ ∀ item ∈ items, f item = some (g item) := by
  induction items with
  | nil => simp
  | cons item items ih =>
    rw [List.mapM_cons, List.map_cons, List.forall_mem_cons, ← ih]
    simp [Option.bind_eq_some_iff]

theorem exists_mapM_eq_some {α β : Type} {f : α → Option β} {items : List α}
    (each : ∀ item ∈ items, ∃ result, f item = some result) :
    ∃ results, items.mapM f = some results := by
  induction items with
  | nil => exact ⟨[], rfl⟩
  | cons item items ih =>
    obtain ⟨first, same⟩ := each item (by simp)
    obtain ⟨rest, others⟩ := ih fun item listed => each item (by simp [listed])
    exact ⟨first :: rest, by simp [same, others]⟩

theorem bracket_notMem_of_isIdentifier {s : List Char}
    (identifier : QueryFile.isIdentifier s = true) : '[' ∉ s := by
  intro bracket
  cases s with
  | nil => cases bracket
  | cons c rest =>
    simp only [QueryFile.isIdentifier, Bool.and_eq_true, List.all_eq_true] at identifier
    rcases List.mem_cons.mp bracket with rfl | inside
    · exact absurd identifier.1 (by decide)
    · exact absurd (identifier.2 _ inside) (by decide)

section Query

variable {width : Int} {terminal : Nat} {query : TypedQuery}

/-- The title of a query has no tag: the names of queries are identifiers. -/
theorem not_hasTag_title (identifier : QueryFile.isIdentifier query.name.toList = true) :
    ¬ Markup.HasTag (title query).toList := by
  have name : '[' ∉ query.name.toList := bracket_notMem_of_isIdentifier identifier
  have kind : '[' ∉ query.resultKind.text.toList := by
    cases query.resultKind <;> decide
  intro has
  have bracket := has.mem
  simp [title, name, kind] at bracket

/-- With a title without tags all depends on the values. -/
theorem table?_titled (titled : ¬ Markup.HasTag (title query).toList) :
    table? width terminal query =
      (query.rows.mapM fun row : ReportRow => row.cells.mapM fun value =>
        if hasRoom terminal then StyledText.ofMarkup? {} (truncate width value)
        else some { chars := [] }).map fun rows => { plainTable width query with rows } := by
  have read := StyledText.ofMarkup?_tagless Style.italic titled
  simp only [title] at read
  simp only [table?, read, Option.map_eq_bind]
  rfl

/-- With room for cells the values are shown as they stand exactly when nothing in them is read as
markup. -/
theorem table?_literal_iff (titled : ¬ Markup.HasTag (title query).toList)
    (room : hasRoom terminal = true) :
    table? width terminal query = some (plainTable width query) ↔ IsLiteral width query := by
  have shape : (plainTable width query).rows =
      query.rows.map fun row => row.cells.map fun value => plainCell (truncate width value) := by
    simp [plainTable, cutRows]
  have same (rows : List (List StyledText)) :
      { plainTable width query with rows } = plainTable width query ↔
        rows = (plainTable width query).rows :=
    ⟨congrArg Table.rows, fun equal => by rw [equal]⟩
  simp only [table?_titled titled, Option.map_eq_some_iff, same, exists_eq_right, shape,
    mapM_eq_some_map, room, if_true, plainCell, StyledText.ofMarkup?_literal_iff]
  simp [IsLiteral, cutRows]

/-- A terminal without room shows no values; whatever their markup, they do no harm. -/
theorem exists_table_of_literal (titled : ¬ Markup.HasTag (title query).toList)
    (literal : IsLiteral width query) :
    ∃ table, table? width terminal query = some table := by
  by_cases room : hasRoom terminal = true
  · exact ⟨_, (table?_literal_iff titled room).mpr literal⟩
  · have empty : (query.rows.mapM fun row : ReportRow => row.cells.mapM fun value =>
        if hasRoom terminal then StyledText.ofMarkup? {} (truncate width value)
        else some { chars := [] }) =
          some (query.rows.map fun row => row.cells.map fun _ => plainCell "") := by
      simp only [mapM_eq_some_map, room]
      exact fun _ _ _ _ => rfl
    rw [table?_titled titled, empty]
    exact ⟨_, rfl⟩

/-- The widths of the columns: each has room for its name and for all of its values. -/
def columnWidths (width : Int) (query : TypedQuery) : List Nat :=
  (List.range tableHeader.length).map fun i =>
    (((tableHeader :: cutRows width query).filterMap (·[i]?)).map String.length).foldl max 0

/-- The columns have room on the terminal, with a space on both sides and five borders. -/
def Fits (width : Int) (terminal : Nat) (query : TypedQuery) : Prop :=
  Text.total ((columnWidths width query).map (· + 2)) + 5 ≤ terminal

/-- Whether the text is of printable ASCII characters. -/
def isPrintable (s : String) : Bool := s.toList.all fun c => ' ' ≤ c && c ≤ '~'

/-- The values of a query are of printable ASCII characters. -/
def IsPrintable (query : TypedQuery) : Prop :=
  ∀ row ∈ query.rows, ∀ value ∈ row.cells, isPrintable value = true

instance : Decidable (IsLiteral width query) :=
  inferInstanceAs (Decidable (∀ row ∈ cutRows width query, ∀ s ∈ row, _))

instance : Decidable (Fits width terminal query) := inferInstanceAs (Decidable (_ ≤ terminal))

instance : Decidable (IsPrintable query) :=
  inferInstanceAs (Decidable (∀ row ∈ query.rows, ∀ value ∈ row.cells, _))

theorem isNarrow_of_isPrintable {s : String} (printable : isPrintable s = true) :
    IsNarrow s.toList := by
  intro c inside
  have ends := List.all_eq_true.mp printable c inside
  simp only [Bool.and_eq_true, decide_eq_true_eq] at ends
  exact cellWidth_printable ends.1 ends.2

/-- The table of a query as it is printed where it fits: the lines of its title and header, a line
for each row with its values character for character, and a border. -/
def printed (width : Int) (terminal : Nat) (query : TypedQuery) : List Char :=
  ((plainTable width query).above terminal).flatMap (Table.written terminal) ++
    (cutRows width query).flatMap (fun row =>
      Table.printedRow (columnWidths width query) (row.map String.toList)) ++
    Table.printedBorder (columnWidths width query)

theorem isNarrow_cut (wide : 1 ≤ width) (printable : IsPrintable query) :
    ∀ row ∈ cutRows width query, ∀ s ∈ row, IsNarrow s.toList := by
  intro _ listed _ among
  obtain ⟨row, inRows, rfl⟩ := List.mem_map.mp listed
  obtain ⟨value, inRow, rfl⟩ := List.mem_map.mp among
  have narrow : IsNarrow value.toList := isNarrow_of_isPrintable (printable row inRows value inRow)
  rcases truncate_isCut wide value with ⟨-, same⟩ | ⟨-, -, kept, isPrefix, cut⟩
  · rwa [same]
  · rw [cut]
    refine IsNarrow.append (fun c inside => narrow c (isPrefix.subset inside)) ?_
    simp [IsNarrow, cellWidth_ellipsis]

theorem isNarrow_tableHeader : ∀ name ∈ tableHeader, IsNarrow name.toList := by
  have printable : ∀ name ∈ tableHeader, isPrintable name = true := by decide +kernel
  exact fun name listed => isNarrow_of_isPrintable (printable name listed)

theorem widest_plainTable (narrow : ∀ row ∈ cutRows width query, ∀ s ∈ row, IsNarrow s.toList) :
    (plainTable width query).widest = columnWidths width query := by
  have all : ∀ row ∈ tableHeader :: cutRows width query, ∀ s ∈ row, IsNarrow s.toList :=
    List.forall_mem_cons.mpr ⟨isNarrow_tableHeader, narrow⟩
  have cells : (plainTable width query).header :: (plainTable width query).rows =
      (tableHeader :: cutRows width query).map fun row => row.map plainCell := rfl
  have columns : (plainTable width query).header.length = tableHeader.length := rfl
  simp only [Table.widest, Table.columns, columnWidths, List.map_map, cells, columns,
    List.filterMap_map]
  refine List.map_congr_left fun i _ => ?_
  simp only [Function.comp_apply, List.map_filterMap]
  congr 1
  refine List.filterMap_congr fun row listed => ?_
  cases found : row[i]? with
  | none => simp [found]
  | some s =>
    have narrowCell := all row listed s (List.mem_of_getElem? found)
    simp only [List.getElem?_map, found, Option.map_some]
    rw [StyledText.naturalWidth_narrow narrowCell]
    exact congrArg some String.length_toList

/-- Every column has room for its name. -/
theorem columnWidths_pos : ∀ w ∈ columnWidths width query, 0 < w := by
  intro w listed
  obtain ⟨i, inRange, rfl⟩ := List.mem_map.mp listed
  rw [List.mem_range] at inRange
  have named : 0 < tableHeader[i].length := by
    have names : ∀ name ∈ tableHeader, 0 < name.length := by decide +kernel
    exact names _ (List.getElem_mem inRange)
  refine named.trans_le (Table.le_foldl_max (List.mem_map_of_mem ?_) 0)
  exact List.mem_filterMap.mpr ⟨tableHeader, List.mem_cons_self, by simp [inRange]⟩

/-- A terminal that a table fits has room for text. -/
theorem hasRoom_of_fits (fits : Fits width terminal query) : hasRoom terminal = true := by
  have spaces (widths : List Nat) : 2 * widths.length ≤ Text.total (widths.map (· + 2)) := by
    induction widths with
    | nil => rfl
    | cons w widths ih =>
      simp only [Text.total, List.map_cons, List.foldr_cons, List.length_cons] at ih ⊢
      omega
  have four : (columnWidths width query).length = 4 := rfl
  have := spaces (columnWidths width query)
  rw [Fits] at fits
  simp only [hasRoom, decide_eq_true_eq]
  omega

theorem render_plainTable (wide : 1 ≤ width) (printable : IsPrintable query)
    (fits : Fits width terminal query) :
    (plainTable width query).render terminal = printed width terminal query := by
  have narrow := isNarrow_cut wide printable
  have widths := widest_plainTable narrow
  have values : (plainTable width query).rows = ((cutRows width query).map fun row =>
      row.map String.toList).map fun row => row.map fun s => { chars := s } := by
    simp only [plainTable, List.map_map, Function.comp_def]
    rfl
  have square (row : List String) (listed : row ∈ cutRows width query) : row.length = 4 := by
    obtain ⟨source, -, rfl⟩ := List.mem_map.mp listed
    rfl
  rw [Table.render_literal values, widths, List.flatMap_map]
  · rfl
  · simpa [List.forall_mem_map] using narrow
  · rw [List.forall_mem_map]
    intro row listed
    rw [List.length_map]
    exact square row listed
  · exact List.cons_ne_nil _ _
  · rw [widths]
    exact columnWidths_pos
  · rw [Table.Fits, widths]
    exact fits

end Query

end Report

namespace ReportFormat

open Report

variable {width : Int} {terminal : Nat} {queries : List TypedQuery}

/-- The report of tables that were read. -/
theorem report_of_tables {tables : List Table} (nonempty : queries ≠ [])
    (read : queries.mapM (table? width terminal) = some tables) :
    (table width).report terminal queries = .ok (String.ofList
      (dropRightWhile (· = '\n') (tables.flatMap fun table => table.render terminal)) ++ "\n") := by
  have filled : queries.isEmpty = false := by simpa using nonempty
  simp [report, tables?, filled, read]

/-- The line end that is taken off behind the last table is put there again. -/
theorem dropped_newline (front : List Char) :
    String.ofList (dropRightWhile (· = '\n') (front ++ ['┘', '\n'])) ++ "\n" =
      String.ofList (front ++ ['┘', '\n']) := by
  have dropped : dropRightWhile (· = '\n') (front ++ ['┘', '\n']) = front ++ ['┘'] := by
    simp [dropRightWhile]
  rw [dropped, ← String.toList_inj]
  simp

/-- What is printed of queries ends with a border. -/
theorem printed_ends (width : Int) (terminal : Nat) (nonempty : queries ≠ []) :
    ∃ front, queries.flatMap (printed width terminal) = front ++ ['┘', '\n'] := by
  rw [← List.dropLast_append_getLast nonempty, List.flatMap_append, List.flatMap_singleton]
  simp only [printed, Table.printedBorder, ← List.append_assoc]
  exact ⟨_, rfl⟩

section Titled

variable (titled : ∀ query ∈ queries, ¬ Markup.HasTag (title query).toList)

include titled

theorem tables_literal_iff (room : hasRoom terminal = true) :
    queries.mapM (table? width terminal) = some (queries.map (plainTable width)) ↔
      ∀ query ∈ queries, IsLiteral width query := by
  rw [mapM_eq_some_map]
  exact forall₂_congr fun query listed => table?_literal_iff (titled query listed) room

theorem exists_report (nonempty : queries ≠ [])
    (literal : ∀ query ∈ queries, IsLiteral width query) :
    ∃ text, (table width).report terminal queries = .ok text := by
  have each (query : TypedQuery) (listed : query ∈ queries) :
      ∃ result, table? width terminal query = some result :=
    exists_table_of_literal (titled query listed) (literal query listed)
  obtain ⟨tables, read⟩ := exists_mapM_eq_some each
  exact ⟨_, report_of_tables nonempty read⟩

theorem report_printed (wide : 1 ≤ width) (nonempty : queries ≠ [])
    (literal : ∀ query ∈ queries, IsLiteral width query)
    (printable : ∀ query ∈ queries, IsPrintable query)
    (fits : ∀ query ∈ queries, Fits width terminal query) :
    (table width).report terminal queries =
      .ok (String.ofList (queries.flatMap (printed width terminal))) := by
  obtain ⟨query, listed⟩ := List.exists_mem_of_ne_nil queries nonempty
  have room : hasRoom terminal = true := hasRoom_of_fits (fits query listed)
  have read := (tables_literal_iff titled room).mpr literal
  have lines : (queries.map (plainTable width)).flatMap (fun table => table.render terminal) =
      queries.flatMap (printed width terminal) := by
    rw [List.flatMap_map]
    exact List.flatMap_congr fun query listed =>
      render_plainTable wide (printable query listed) (fits query listed)
  obtain ⟨front, ends⟩ := printed_ends width terminal nonempty
  rw [report_of_tables nonempty read, lines, ends, dropped_newline]

end Titled

/-- A table shows what was inferred as far as nothing in it is read as markup: the values are cut
as they should be, the report does not fail, and where the terminal has room for text the tables
hold the cut values as they stand exactly if nothing in them is read.  Printable ASCII characters
in tables that fit the terminal are then printed one by one. -/
theorem table_shows_values (wide : 1 ≤ width) (nonempty : queries ≠ [])
    (titled : ∀ query ∈ queries, ¬ Markup.HasTag (title query).toList) :
    (∀ query ∈ queries, ∀ row ∈ query.rows, ∀ value ∈ row.cells,
        IsCut width value (truncate width value)) ∧
      ((∀ query ∈ queries, IsLiteral width query) →
        ∃ text, (table width).report terminal queries = .ok text) ∧
      (hasRoom terminal = true →
        (queries.mapM (table? width terminal) = some (queries.map (plainTable width)) ↔
          ∀ query ∈ queries, IsLiteral width query)) ∧
      ((∀ query ∈ queries,
          IsLiteral width query ∧ IsPrintable query ∧ Fits width terminal query) →
        (table width).report terminal queries =
          .ok (String.ofList (queries.flatMap (printed width terminal)))) := by
  refine ⟨?cuts, ?returns, ?literal, ?printed⟩
  case cuts => exact fun query _ row _ value _ => truncate_isCut wide value
  case returns => exact exists_report titled nonempty
  case literal => exact tables_literal_iff titled
  case printed =>
    intro each
    exact report_printed titled wide nonempty (fun query listed => (each query listed).1)
      (fun query listed => (each query listed).2.1) fun query listed => (each query listed).2.2

/-- A query with an array as its only column, whose name takes more than eight characters. -/
def prices : TypedQuery where
  name := "Prices"
  resultKind := .many
  doc := []
  preparedSql := "SELECT amounts AS prices_of_order FROM orders WHERE id = $1"
  inputs := [⟨"id", .plain 23 "int4" .base⟩]
  outputs := [⟨"prices_of_order", .derived 1007 "_int4" .array (.plain 23 "int4" .base), true⟩]

theorem table_shows_values_prices :
    cutRows 8 prices =
        [["$1", "id", "int4", ""], ["column", "prices_…", "int4[]", "yes"]] ∧
      (table 8).report 80 [prices] = .ok (String.ofList ([prices].flatMap (printed 8 80))) := by
  have titled : ¬ Markup.HasTag (title prices).toList := not_hasTag_title (by decide +kernel)
  have literal : IsLiteral 8 prices := by decide +kernel
  have printable : IsPrintable prices := by decide +kernel
  have fits : Fits 8 80 prices := by decide +kernel
  have shown := @table_shows_values 8 80 [prices] (by decide) (by simp)
    (List.forall_mem_singleton.mpr titled)
  exact ⟨by decide +kernel,
    shown.2.2.2 (List.forall_mem_singleton.mpr ⟨literal, printable, fits⟩)⟩

/-- A query whose column has the name of a closing tag. -/
def closing : TypedQuery where
  name := "Find"
  resultKind := .one
  doc := []
  preparedSql := "SELECT id AS \"[/id]\" FROM authors"
  inputs := []
  outputs := [⟨"[/id]", .plain 23 "int4" .base, false⟩]

/-- A name that is read as a tag ends the report or is not shown. -/
theorem bracketed_names_lost :
    (table 40).report 120 [closing] = .error (.unforeseen .badMarkup) ∧
      (StyledText.ofMarkup? {} (truncate 40 "[id]")).map StyledText.chars = some [] := by
  have titled : ¬ Markup.HasTag (title closing).toList := not_hasTag_title (by decide +kernel)
  have read : table? 40 120 closing = none := by
    rw [table?_titled titled]
    rfl
  refine ⟨?_, by rfl⟩
  simp [report, tables?, read]

end ReportFormat

end QueryTyping
