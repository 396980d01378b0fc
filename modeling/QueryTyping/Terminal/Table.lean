import QueryTyping.Terminal.StyledText

/-!
# Tables

A table with a title, a header and rows, drawn with box characters.  Columns are
as wide as their widest cell; a table that is too wide for the terminal has its
columns reduced evenly and their cells cut.
-/

namespace QueryTyping.Terminal

open Text

structure Table where
  title : StyledText
  header : List StyledText
  rows : List (List StyledText)
  deriving Repr

namespace Table

/-- Round a quotient to the nearest number; a half goes to the even neighbor. -/
def roundedQuotient (n d : Nat) : Nat :=
  let q := n / d
  let twice := 2 * (n % d)
  if twice < d || (twice = d && q % 2 = 0) then q else q + 1

/-- Take an amount from widths in equal parts. -/
def reduced (amount : Nat) : List Nat → List Nat
  | [] => []
  | width :: rest =>
    let part := min width (roundedQuotient amount (rest.length + 1))
    (width - part) :: reduced (amount - part) rest

/-- The width of a column between its borders, with a space on both sides of a cell, if so much
is there. -/
def columnWidth (available : Nat) (column : List StyledText) : Nat :=
  let widest := (column.map StyledText.naturalWidth).foldl max 0
  if available < 3 then available else min available (widest + 2)

/-- The cells of each column, from the header down. -/
def columns (table : Table) : List (List StyledText) :=
  (List.range table.header.length).map fun i =>
    (table.header :: table.rows).filterMap fun row => row[i]?

/-- The width that borders take. -/
def borderWidth (table : Table) : Nat := table.header.length + 1

/-- The widths of the columns on a terminal of a width. -/
def widths (table : Table) (terminal : Nat) : List Nat :=
  let available := terminal - table.borderWidth
  let natural := table.columns.map fun column => max 1 (columnWidth available column)
  if Text.total natural ≤ available then natural
  else
    let narrow := reduced (Text.total natural - available) natural
    (narrow.zip table.columns).map fun (width, column) => columnWidth width column

/-- A line of box characters. -/
def border (left line divider right : Char) (widths : List Nat) : SegmentLine :=
  let parts := widths.map fun width => List.replicate width line
  [⟨left :: List.intercalate [divider] parts ++ [right], {}⟩]

/-- The lines of a cell, padded and made to fit its column; a column without room for text has
none. -/
def cellLines (style : Style) (width : Nat) (cell : StyledText) : List SegmentLine :=
  let inner := width - 2
  (if inner = 0 then [] else cell.paddedLines inner).map fun line =>
    let content := SegmentLine.fit inner {} line.segments
    let padded := ⟨[' '], {}⟩ :: content ++ [⟨[' '], {}⟩]
    SegmentLine.fit width style (padded.map fun segment =>
      { segment with style := style.under segment.style })

/-- The lines of a row: all cells have as many as the highest, and at least one. -/
def rowLines (edge : Char) (style : Style) (bottom : Bool) (widths : List Nat)
    (row : List StyledText) : List SegmentLine :=
  let cells := (widths.zip row).map fun (width, cell) => (width, cellLines style width cell)
  let height := (cells.map fun (_, lines) => lines.length).foldl max 0
  let shaped := cells.map fun (width, lines) =>
    let blank := List.replicate (height - lines.length) [(⟨spaces width, style⟩ : Segment)]
    if height = 0 then [[(⟨spaces width, {}⟩ : Segment)]]
    else if bottom then blank ++ lines
    else lines ++ blank
  (List.range (max 1 height)).map fun i =>
    let parts := shaped.map fun lines => (lines[i]?).getD []
    let bar : Segment := ⟨[edge], {}⟩
    bar :: List.intercalate [bar] parts ++ [bar]

/-- The lines of a table on a terminal of a width. -/
def lines (table : Table) (terminal : Nat) : List SegmentLine :=
  let widths := table.widths terminal
  let title := (table.title.centeredLines (Text.total widths + table.borderWidth)).map
    StyledText.segments
  let drawn := title ++ [border '┏' '━' '┳' '┓' widths] ++
    rowLines '┃' Style.bold true widths table.header ++
    [border '┡' '━' '╇' '┩' widths] ++
    table.rows.flatMap (rowLines '│' {} false widths) ++
    [border '└' '─' '┴' '┘' widths]
  drawn.map fun line => if terminal < line.cells then line.crop terminal else line

/-- A table as text, every line with its end. -/
def render (table : Table) (terminal : Nat) : List Char :=
  (table.lines terminal).flatMap fun line => line.render ++ ['\n']

end Table

end QueryTyping.Terminal
