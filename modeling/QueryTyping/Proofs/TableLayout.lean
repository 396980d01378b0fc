import Mathlib
import QueryTyping.Terminal.Table

/-!
# How a table is laid out

Cells of narrow characters that their column has room for are printed as they
stand: one line each, with spaces up to the width of the column, and bars
between them.  A table that fits the terminal has room for all of its cells.
-/

namespace QueryTyping.Text

/-- A text whose characters take one cell each. -/
def IsNarrow (s : List Char) : Prop := ∀ c ∈ s, cellWidth c = 1

theorem IsNarrow.append {s t : List Char} (first : IsNarrow s) (second : IsNarrow t) :
    IsNarrow (s ++ t) := List.forall_mem_append.mpr ⟨first, second⟩

theorem isNarrow_spaces (count : Nat) : IsNarrow (spaces count) := by
  intro c inside
  rw [List.eq_of_mem_replicate inside]
  rfl

theorem cellWidth_printable {c : Char} (low : ' ' ≤ c) (high : c ≤ '~') : cellWidth c = 1 := by
  have low : 0x20 ≤ c.toNat := low
  have high : c.toNat ≤ 0x7e := high
  have below : c.toNat < 0x7f := by omega
  simp [cellWidth, low, below]

theorem RangeTable.contains_iff {table : RangeTable} {c : Char} :
    table.contains c = true ↔ ∃ range ∈ table.toList, range.1 ≤ c.toNat ∧ c.toNat ≤ range.2 := by
  simp only [RangeTable.contains, Array.any_eq_true', Array.mem_toList_iff, Bool.and_eq_true,
    decide_eq_true_eq]

/-- Characters between the ranges of the tables take one cell. -/
theorem cellWidth_between {low high : Nat} {c : Char} (printable : 0x7f ≤ low)
    (gap : ∀ range ∈ cellFreeRanges.toList ++ wideRanges.toList, range.2 < low ∨ high < range.1)
    (atLeast : low ≤ c.toNat) (atMost : c.toNat ≤ high) : cellWidth c = 1 := by
  have outside (table : RangeTable)
      (listed : ∀ range ∈ table.toList, range ∈ cellFreeRanges.toList ++ wideRanges.toList) :
      ¬ table.contains c = true := by
    rw [RangeTable.contains_iff]
    rintro ⟨range, inside, first, last⟩
    rcases gap range (listed range inside) with before | behind <;> omega
  have free := outside cellFreeRanges fun range inside => List.mem_append_left _ inside
  have wide := outside wideRanges fun range inside => List.mem_append_right _ inside
  have above : ¬ c.toNat < 0x7f := by omega
  simp [cellWidth, above, free, wide]

/-- The characters that borders are drawn with. -/
theorem cellWidth_box {c : Char} (atLeast : 0x2500 ≤ c.toNat) (atMost : c.toNat ≤ 0x257f) :
    cellWidth c = 1 :=
  cellWidth_between (by decide) (by decide +kernel) atLeast atMost

theorem cellWidth_ellipsis : cellWidth '…' = 1 :=
  cellWidth_between (by decide) (by decide +kernel) (le_refl 0x2026) (le_refl 0x2026)

/-- A character that takes a cell is no control and ends no line. -/
theorem not_break_of_cellWidth {c : Char} (one : cellWidth c = 1) :
    ¬ (c.toNat < 0x20 ∨ c.toNat = 0x85 ∨ c.toNat = 0x2028 ∨ c.toNat = 0x2029) := by
  intro breaks
  let ranges := [(0x0, 0x1f), (0x7f, 0x9f), (0x2028, 0x202e)]
  have listed : ∀ range ∈ ranges, range ∈ cellFreeRanges.toList := by decide +kernel
  obtain ⟨range, among, low, high⟩ :
      ∃ range ∈ ranges, range.1 ≤ c.toNat ∧ c.toNat ≤ range.2 := by
    simp [ranges]
    omega
  have free : cellFreeRanges.contains c = true :=
    RangeTable.contains_iff.mpr ⟨range, listed range among, low, high⟩
  have control : ¬ (0x20 ≤ c.toNat ∧ c.toNat < 0x7f) := by omega
  simp [cellWidth, control, free] at one

theorem total_eq_sum (numbers : List Nat) : total numbers = numbers.sum := rfl

theorem cells_append (s t : List Char) : cells (s ++ t) = cells s + cells t := by
  simp only [cells, total_eq_sum, List.map_append, List.sum_append]

theorem cells_narrow {s : List Char} (narrow : IsNarrow s) : cells s = s.length := by
  induction s with
  | nil => rfl
  | cons c s ih =>
    have first := narrow c (by simp)
    have rest := ih fun d inside => narrow d (by simp [inside])
    simp only [cells, total, List.map_cons, List.foldr_cons, List.length_cons] at rest ⊢
    omega

/-- The cells of parts with a narrow character around each. -/
theorem cells_framed {left divider right : Char} {parts : List (List Char)}
    (narrow : IsNarrow [left, divider, right]) (nonempty : parts ≠ []) :
    cells (left :: List.intercalate [divider] parts ++ [right]) =
      total (parts.map cells) + parts.length + 1 := by
  have inner (first : List Char) (rest : List (List Char)) :
      cells (List.intercalate [divider] (first :: rest)) =
        total ((first :: rest).map cells) + rest.length := by
    have one : cells [divider] = 1 := cells_narrow fun c inside => narrow c (by simp_all)
    induction rest generalizing first with
    | nil => simp [total]
    | cons next rest ih =>
      rw [List.intercalate_cons_cons, cells_append, cells_append, ih next, one]
      simp [total]
      omega
  obtain ⟨first, rest, rfl⟩ := List.exists_cons_of_ne_nil nonempty
  have ends : cells [left] = 1 ∧ cells [right] = 1 :=
    ⟨cells_narrow fun c inside => narrow c (by simp_all),
      cells_narrow fun c inside => narrow c (by simp_all)⟩
  rw [← List.singleton_append, cells_append, cells_append, inner, ends.1, ends.2, List.length_cons]
  omega

end QueryTyping.Text

namespace QueryTyping.Terminal

open Text

namespace StyledText

variable {text : StyledText}

theorem noBreak_of_narrow {s : List Char} (narrow : IsNarrow s) :
    s.contains '\n' = false ∧ s.contains '\t' = false := by
  have breaks (c : Char) (low : c.toNat < 0x20) : c ∉ s := fun inside =>
    not_break_of_cellWidth (narrow c inside) (.inl low)
  simpa using ⟨breaks '\n' (by decide), breaks '\t' (by decide)⟩

/-- Where no character ends a line there is one line. -/
theorem naturalWidth_go {isBreak : Char → Bool} (line s : List Char)
    (one : ∀ c ∈ s, isBreak c = false) :
    naturalWidth.go isBreak line s = Text.cells (line.reverse ++ s) := by
  induction s generalizing line with
  | nil => simp [naturalWidth.go]
  | cons c s ih =>
    rw [naturalWidth.go, if_neg (by simp [one c]), ih _ fun d inside => one d (by simp [inside])]
    simp

/-- A text of narrow characters is one line as long as it has characters. -/
theorem naturalWidth_narrow (narrow : IsNarrow text.chars) :
    text.naturalWidth = text.chars.length := by
  rw [← cells_narrow narrow]
  refine naturalWidth_go [] text.chars fun c inside => ?_
  have printed := not_break_of_cellWidth (narrow c inside)
  have newline : c ≠ '\n' := by
    rintro rfl
    exact printed (by decide)
  simp [newline]
  omega

theorem lines_narrow (narrow : IsNarrow text.chars) : text.lines = [text] := by
  rw [lines, (noBreak_of_narrow narrow).1]
  rfl

theorem expandTabs_narrow (narrow : IsNarrow text.chars) : text.expandTabs = text := by
  rw [expandTabs, (noBreak_of_narrow narrow).2]
  rfl

theorem dropExcessBlank_of_le {width : Nat} (room : text.chars.length ≤ width) :
    text.dropExcessBlank width = text := if_pos room

theorem truncate_of_le {ellipsis : Bool} {width : Nat} (room : text.cells ≤ width) :
    text.truncate ellipsis width = text := if_pos room

/-- Narrow text that a column has room for is one line, with spaces behind it. -/
theorem paddedLines_narrow {width : Nat} (narrow : IsNarrow text.chars)
    (room : text.chars.length ≤ width) :
    text.paddedLines width =
      [{ text with chars := text.chars ++ spaces (width - text.chars.length) }] := by
  have taken : text.cells = text.chars.length := cells_narrow narrow
  rw [paddedLines, lines_narrow narrow, List.map_singleton, expandTabs_narrow narrow,
    dropExcessBlank_of_le room, truncate_of_le (taken.trans_le room), padRight, taken]

/-- Text in one style is one segment. -/
theorem segments_plain (s : List Char) (base : Style) (nonempty : s ≠ []) :
    segments { chars := s, base } = [⟨s, base⟩] := by
  simp [segments, nonempty, segments.go, styleAt]

end StyledText

namespace SegmentLine

/-- The text of a line without its styles. -/
def text (line : SegmentLine) : List Char := line.flatMap Segment.chars

@[simp] theorem text_nil : text [] = [] := rfl

@[simp] theorem text_cons (segment : Segment) (line : SegmentLine) :
    text (segment :: line) = segment.chars ++ text line := rfl

@[simp] theorem text_append (first second : SegmentLine) :
    text (first ++ second) = text first ++ text second := List.flatMap_append

theorem cells_eq (line : SegmentLine) : line.cells = Text.cells line.text := by
  induction line with
  | nil => rfl
  | cons segment line ih =>
    rw [text_cons, cells_append, ← ih]
    rfl

theorem fit_of_cells_eq {width : Nat} {style : Style} {line : SegmentLine}
    (full : line.cells = width) : fit width style line = line := by
  simp [fit, full]

theorem text_intercalate (separator : SegmentLine) (parts : List SegmentLine) :
    text (List.intercalate separator parts) =
      List.intercalate separator.text (parts.map text) := by
  induction parts with
  | nil => rfl
  | cons first rest ih =>
    cases rest with
    | nil => simp
    | cons next rest =>
      rw [List.intercalate_cons_cons, text_append, text_append, ih]
      simp

/-- No part of the line has a style. -/
def IsPlain (line : SegmentLine) : Prop := ∀ segment ∈ line, segment.style = {}

theorem IsPlain.append {first second : SegmentLine} (plain : first.IsPlain)
    (others : second.IsPlain) : IsPlain (first ++ second) :=
  List.forall_mem_append.mpr ⟨plain, others⟩

theorem isPlain_singleton (s : List Char) : IsPlain [⟨s, {}⟩] := by simp [IsPlain]

theorem isPlain_intercalate {separator : SegmentLine} {parts : List SegmentLine}
    (plain : separator.IsPlain) (others : ∀ part ∈ parts, part.IsPlain) :
    IsPlain (List.intercalate separator parts) := by
  induction parts with
  | nil => simp [IsPlain]
  | cons first rest ih =>
    have firstPlain := others first (by simp)
    have restPlain := ih fun part inside => others part (by simp [inside])
    cases rest with
    | nil => simpa using firstPlain
    | cons next rest =>
      rw [List.intercalate_cons_cons]
      exact (firstPlain.append plain).append restPlain

/-- Text without a style is written as it stands. -/
theorem render_plain {line : SegmentLine} (plain : line.IsPlain) :
    line.render = line.text := by
  induction line with
  | nil => rfl
  | cons segment line ih =>
    have unstyled : segment.style.render segment.chars = segment.chars := by
      rw [plain segment (by simp)]
      simp [Style.render, show Style.codes {} = [] from rfl]
    have rest := ih fun other inside => plain other (by simp [inside])
    rw [render, List.flatMap_cons, unstyled, text_cons, ← rest]
    rfl

end SegmentLine

namespace Table

/-- A cell of a width: its text, spaces, and a space on both sides. -/
def cellLine (width : Nat) (s : List Char) : SegmentLine :=
  [⟨[' '], {}⟩, ⟨s ++ spaces (width - s.length), {}⟩, ⟨[' '], {}⟩]

theorem length_filled {width : Nat} {s : List Char} (room : s.length ≤ width) :
    (s ++ spaces (width - s.length)).length = width := by
  simp [spaces]
  omega

theorem cells_cellLine {width : Nat} {s : List Char} (narrow : IsNarrow s)
    (room : s.length ≤ width) : (cellLine width s).cells = width + 2 := by
  have filled : Text.cells (s ++ spaces (width - s.length)) = width := by
    rw [cells_narrow (narrow.append (isNarrow_spaces _)), length_filled room]
  have parts : (cellLine width s).cells =
      1 + (Text.cells (s ++ spaces (width - s.length)) + 1) := rfl
  omega

/-- A narrow cell that its column has room for is one line. -/
theorem cellLines_narrow {width : Nat} {s : List Char} (narrow : IsNarrow s)
    (room : s.length ≤ width) (wide : 0 < width) :
    cellLines {} (width + 2) { chars := s } = [cellLine width s] := by
  have filled := length_filled room
  have content : s ++ spaces (width - s.length) ≠ [] := by
    rw [← List.length_pos_iff, filled]
    exact wide
  have inner : SegmentLine.cells [⟨s ++ spaces (width - s.length), {}⟩] = width := by
    rw [SegmentLine.cells_eq, SegmentLine.text_cons, SegmentLine.text_nil, List.append_nil,
      cells_narrow (narrow.append (isNarrow_spaces _)), filled]
  simp only [cellLines, Nat.add_sub_cancel]
  rw [if_neg (by omega), StyledText.paddedLines_narrow narrow room]
  simp only [List.map_singleton]
  rw [StyledText.segments_plain _ _ content, SegmentLine.fit_of_cells_eq inner]
  exact congrArg (fun line => [line]) (SegmentLine.fit_of_cells_eq (cells_cellLine narrow room))

/-- A line of cells between bars. -/
def barred (edge : Char) (parts : List SegmentLine) : SegmentLine :=
  ⟨[edge], {}⟩ :: List.intercalate [⟨[edge], {}⟩] parts ++ [⟨[edge], {}⟩]

theorem text_barred (edge : Char) (parts : List SegmentLine) :
    (barred edge parts).text =
      edge :: List.intercalate [edge] (parts.map SegmentLine.text) ++ [edge] := by
  simp [barred, SegmentLine.text_intercalate]

theorem isPlain_barred (edge : Char) (row : List (Nat × List Char)) :
    SegmentLine.IsPlain (barred edge (row.map fun cell => cellLine cell.1 cell.2)) := by
  have bar := SegmentLine.isPlain_singleton [edge]
  refine (bar.append (SegmentLine.isPlain_intercalate bar fun part inside => ?_)).append bar
  obtain ⟨cell, -, rfl⟩ := List.mem_map.mp inside
  simp [SegmentLine.IsPlain, cellLine]

/-- A row of narrow cells that their columns have room for is one line. -/
theorem rowLines_narrow (edge : Char) {row : List (Nat × List Char)} (nonempty : row ≠ [])
    (narrow : ∀ cell ∈ row, IsNarrow cell.2)
    (room : ∀ cell ∈ row, 0 < cell.1 ∧ cell.2.length ≤ cell.1) :
    rowLines edge {} false (row.map (·.1 + 2)) (row.map fun cell => { chars := cell.2 }) =
      [barred edge (row.map fun cell => cellLine cell.1 cell.2)] := by
  have cells (lines : Nat × StyledText → Nat × List SegmentLine)
      (each : ∀ cell, lines cell = (cell.1, cellLines {} cell.1 cell.2)) :
      ((row.map (·.1 + 2)).zip (row.map fun cell =>
        ({ chars := cell.2 } : StyledText))).map lines =
          row.map fun cell => (cell.1 + 2, [cellLine cell.1 cell.2]) := by
    rw [List.zip_map', List.map_map]
    refine List.map_congr_left fun cell inside => ?_
    obtain ⟨wide, fits⟩ := room cell inside
    simp [each, cellLines_narrow (narrow cell inside) fits wide]
  have height (count : Nat × List SegmentLine → Nat) (each : ∀ cell, count cell = cell.2.length) :
      ((row.map fun cell => (cell.1 + 2, [cellLine cell.1 cell.2])).map count).foldl max 0 = 1 := by
    have ones (rest : List (Nat × List Char)) : (rest.map fun _ => 1).foldl max 1 = 1 := by
      induction rest with
      | nil => rfl
      | cons cell rest ih => exact ih
    obtain ⟨first, rest, rfl⟩ := List.exists_cons_of_ne_nil nonempty
    simpa [each, Function.comp_def] using ones rest
  simp only [rowLines]
  rw [cells _ fun _ => rfl, height _ fun _ => rfl]
  simp [barred, Function.comp_def]

/-- The width of the widest cell of each column. -/
def widest (table : Table) : List Nat :=
  table.columns.map fun column => (column.map StyledText.naturalWidth).foldl max 0

/-- All cells have room on the terminal, with a space on both sides and the borders. -/
def Fits (table : Table) (terminal : Nat) : Prop :=
  Text.total (table.widest.map (· + 2)) + table.borderWidth ≤ terminal

theorem widths_of_fits {table : Table} {terminal : Nat} (fits : table.Fits terminal) :
    table.widths terminal = table.widest.map (· + 2) := by
  have natural : table.columns.map (fun column =>
      max 1 (columnWidth (terminal - table.borderWidth) column)) = table.widest.map (· + 2) := by
    rw [widest, List.map_map]
    refine List.map_congr_left fun column inside => ?_
    have bound : (column.map StyledText.naturalWidth).foldl max 0 + 2 ≤
        Text.total (table.widest.map (· + 2)) :=
      List.le_sum_of_mem (List.mem_map.mpr ⟨_, List.mem_map_of_mem inside, rfl⟩)
    rw [Fits] at fits
    simp only [columnWidth, Function.comp_apply]
    split <;> omega
  have enough : Text.total (table.widest.map (· + 2)) ≤ terminal - table.borderWidth := by
    rw [Fits] at fits
    omega
  simp only [widths, natural, enough, if_true]

/-- The lines above the rows, of a table that fits. -/
def above (table : Table) (terminal : Nat) : List SegmentLine :=
  let widths := table.widths terminal
  (table.title.centeredLines (Text.total widths + table.borderWidth)).map StyledText.segments ++
    [border '┏' '━' '┳' '┓' widths] ++ rowLines '┃' Style.bold true widths table.header ++
    [border '┡' '━' '╇' '┩' widths]

/-- A line with its end as it is written on a terminal. -/
def written (terminal : Nat) (line : SegmentLine) : List Char :=
  (if terminal < line.cells then line.crop terminal else line).render ++ ['\n']

/-- A row as it is printed: its cells between bars, each with spaces up to the width of its
column and a space on both sides. -/
def printedRow (widths : List Nat) (row : List (List Char)) : List Char :=
  '│' :: List.intercalate ['│'] ((widths.zip row).map fun (width, s) =>
    ' ' :: s ++ spaces (width - s.length) ++ [' ']) ++ ['│', '\n']

/-- The line below the rows. -/
def printedBorder (widths : List Nat) : List Char :=
  '└' :: List.intercalate ['┴'] (widths.map fun width => List.replicate (width + 2) '─') ++
    ['┘', '\n']

theorem render_eq (table : Table) (terminal : Nat) :
    table.render terminal = (table.above terminal).flatMap (written terminal) ++
      (table.rows.flatMap (rowLines '│' {} false (table.widths terminal))).flatMap
        (written terminal) ++
      written terminal (border '└' '─' '┴' '┘' (table.widths terminal)) := by
  simp only [render, lines, above, List.flatMap_map]
  change List.flatMap (written terminal) _ = _
  simp only [List.flatMap_append, List.flatMap_singleton, List.append_assoc]

theorem le_foldl_max {n : Nat} {numbers : List Nat} (inside : n ∈ numbers) (start : Nat) :
    n ≤ numbers.foldl max start := by
  have atLeast (rest : List Nat) : ∀ start, start ≤ rest.foldl max start := by
    induction rest with
    | nil => exact fun _ => le_rfl
    | cons m rest ih => exact fun start => (le_max_left start m).trans (ih _)
  induction numbers generalizing start with
  | nil => cases inside
  | cons m rest ih =>
    rcases List.mem_cons.mp inside with rfl | later
    · exact (le_max_right start n).trans (atLeast rest _)
    · exact ih later _

section Literal

variable {table : Table} {terminal : Nat} {values : List (List (List Char))}

/-- Every cell of a row has room in its column. -/
theorem length_le_widest {row : List (List Char)} {cell : Nat × List Char}
    (listed : row.map (fun s => ({ chars := s } : StyledText)) ∈ table.rows)
    (narrow : ∀ s ∈ row, IsNarrow s) (inside : cell ∈ table.widest.zip row) :
    cell.2.length ≤ cell.1 := by
  obtain ⟨i, bound, rfl⟩ := List.mem_iff_getElem.mp inside
  rw [List.length_zip, Nat.lt_min] at bound
  simp only [List.getElem_zip, widest, columns, List.getElem_map, List.getElem_range]
  have taken : StyledText.naturalWidth { chars := row[i] } = row[i].length :=
    StyledText.naturalWidth_narrow (narrow _ (List.getElem_mem bound.2))
  have member : { chars := row[i] } ∈ (table.header :: table.rows).filterMap (·[i]?) :=
    List.mem_filterMap.mpr ⟨_, List.mem_cons_of_mem _ listed, by simp [bound.2]⟩
  rw [← taken]
  exact le_foldl_max (List.mem_map_of_mem member) 0

/-- A line that fits is written as it stands. -/
theorem written_plain {line : SegmentLine} (plain : line.IsPlain)
    (room : line.cells ≤ terminal) : written terminal line = line.text ++ ['\n'] := by
  rw [written, if_neg (by omega), SegmentLine.render_plain plain]

/-- The cells of a row of a table that fits. -/
theorem cells_barred {row : List (Nat × List Char)} (nonempty : row ≠ [])
    (narrow : ∀ cell ∈ row, IsNarrow cell.2) (room : ∀ cell ∈ row, cell.2.length ≤ cell.1) :
    (barred '│' (row.map fun cell => cellLine cell.1 cell.2)).cells =
      Text.total (row.map (·.1 + 2)) + row.length + 1 := by
  have bars : IsNarrow ['│', '│', '│'] := by
    simp [IsNarrow, cellWidth_box]
  have widths : (row.map fun cell => Text.cells (cellLine cell.1 cell.2).text) =
      row.map (·.1 + 2) := by
    refine List.map_congr_left fun cell inside => ?_
    rw [← SegmentLine.cells_eq, cells_cellLine (narrow cell inside) (room cell inside)]
  rw [SegmentLine.cells_eq, text_barred, cells_framed bars (by simpa using nonempty)]
  simp only [List.map_map, List.length_map, Function.comp_def, widths]

section Lines

variable {widths : List Nat} (nonempty : widths ≠ [])
  (fits : Text.total (widths.map (· + 2)) + (widths.length + 1) ≤ terminal)

include nonempty fits

theorem written_row {row : List (List Char)} (lengths : row.length = widths.length)
    (narrow : ∀ s ∈ row, IsNarrow s)
    (room : ∀ cell ∈ widths.zip row, 0 < cell.1 ∧ cell.2.length ≤ cell.1) :
    (rowLines '│' {} false (widths.map (· + 2)) (row.map fun s => { chars := s })).flatMap
      (written terminal) = printedRow widths row := by
  have first : (widths.zip row).map (·.1) = widths := List.map_fst_zip lengths.ge
  have second : (widths.zip row).map (·.2) = row := List.map_snd_zip lengths.le
  have narrowCell (cell : Nat × List Char) (inside : cell ∈ widths.zip row) : IsNarrow cell.2 :=
    narrow _ (second ▸ List.mem_map_of_mem inside)
  have cells : widths.zip row ≠ [] := by
    intro empty
    rw [empty] at first
    exact nonempty first.symm
  have lines := rowLines_narrow '│' cells narrowCell room
  have taken := cells_barred cells narrowCell fun cell inside => (room cell inside).2
  have outer : widths.map (· + 2) = (widths.zip row).map (·.1 + 2) := by
    nth_rewrite 1 [← first]
    exact List.map_map
  have inner : row.map (fun s => ({ chars := s } : StyledText)) =
      (widths.zip row).map fun cell => { chars := cell.2 } := by
    nth_rewrite 1 [← second]
    exact List.map_map
  have count : (widths.zip row).length = widths.length := by rw [← List.length_map, first]
  have enough : (barred '│' ((widths.zip row).map fun cell => cellLine cell.1 cell.2)).cells ≤
      terminal := by
    rw [taken, ← outer]
    omega
  rw [outer, inner, lines, List.flatMap_singleton, written_plain (isPlain_barred '│' _) enough,
    text_barred]
  simp [printedRow, cellLine, Function.comp_def]

theorem written_border : written terminal (border '└' '─' '┴' '┘' (widths.map (· + 2))) =
    printedBorder widths := by
  have corners : IsNarrow ['└', '┴', '┘'] := by
    simp [IsNarrow, cellWidth_box]
  have rule (width : Nat) : Text.cells (List.replicate width '─') = width := by
    have one : cellWidth '─' = 1 := cellWidth_box (by decide) (by decide)
    rw [cells_narrow fun c inside => by rwa [List.eq_of_mem_replicate inside],
      List.length_replicate]
  let rules := widths.map fun width => List.replicate (width + 2) '─'
  have shape : border '└' '─' '┴' '┘' (widths.map (· + 2)) =
      [⟨'└' :: List.intercalate ['┴'] rules ++ ['┘'], {}⟩] := by
    simp [border, rules, Function.comp_def]
  have taken : rules.map Text.cells = widths.map (· + 2) := by
    simp [rules, Function.comp_def, rule]
  have enough : SegmentLine.cells [⟨'└' :: List.intercalate ['┴'] rules ++ ['┘'], {}⟩] ≤
      terminal := by
    rw [SegmentLine.cells_eq, SegmentLine.text_cons, SegmentLine.text_nil, List.append_nil,
      cells_framed corners (by simpa [rules] using nonempty), taken, List.length_map]
    omega
  rw [shape, written_plain (SegmentLine.isPlain_singleton _) enough]
  simp [printedBorder, rules]

end Lines

/-- A table that fits shows narrow cells as they stand. -/
theorem render_literal
    (literal : table.rows = values.map fun row => row.map fun s => { chars := s })
    (narrow : ∀ row ∈ values, ∀ s ∈ row, IsNarrow s)
    (square : ∀ row ∈ values, row.length = table.header.length)
    (headed : table.header ≠ []) (named : ∀ width ∈ table.widest, 0 < width)
    (fits : table.Fits terminal) :
    table.render terminal = (table.above terminal).flatMap (written terminal) ++
      values.flatMap (printedRow table.widest) ++ printedBorder table.widest := by
  have columns : table.widest.length = table.header.length := by simp [widest, Table.columns]
  have nonempty : table.widest ≠ [] := by
    rw [← List.length_pos_iff, columns]
    exact List.length_pos_iff.mpr headed
  have enough : Text.total (table.widest.map (· + 2)) + (table.widest.length + 1) ≤ terminal := by
    rw [columns]
    exact fits
  have row (row : List (List Char)) (listed : row ∈ values) :
      (rowLines '│' {} false (table.widest.map (· + 2)) (row.map fun s => { chars := s })).flatMap
        (written terminal) = printedRow table.widest row := by
    have styled : row.map (fun s => ({ chars := s } : StyledText)) ∈ table.rows := by
      rw [literal]
      exact List.mem_map_of_mem listed
    refine written_row nonempty enough (by rw [square row listed, columns]) (narrow row listed)
      fun cell inside => ⟨named _ ?_, length_le_widest styled (narrow row listed) inside⟩
    exact (List.of_mem_zip inside).1
  rw [render_eq, widths_of_fits fits, written_border nonempty enough, literal, List.flatMap_map,
    List.flatMap_assoc, List.flatMap_congr row]

end Literal

end Table

end QueryTyping.Terminal
