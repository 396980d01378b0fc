import QueryTyping.Report.Rows
import QueryTyping.Terminal.Markup
import QueryTyping.Terminal.Table

/-!
# Reports as tables

One table for each query.  Cells are cut to a number of characters before their
markup is read.
-/

namespace QueryTyping

open Terminal

namespace Report

/-- A text cut to a number of characters, the last of them an ellipsis.  A number below one takes
away that many characters from the end, and one more. -/
def truncate (width : Int) (s : String) : String :=
  let chars := s.toList
  if (chars.length : Int) ≤ width then s
  else
    let kept := if 1 ≤ width then (width - 1).toNat else ((chars.length : Int) + width - 1).toNat
    String.ofList (chars.take kept ++ ['…'])

def tableHeader : List String := ["role", "name", "type", "nullable"]

/-- Whether a terminal has room for text in a table of four columns, next to their borders and a
space on both sides of a cell. -/
def hasRoom (terminal : Nat) : Bool := 5 + 2 < terminal

/-- The table of a query, unless its markup makes no sense.  Cells that have no room are not
read. -/
def table? (width : Int) (terminal : Nat) (query : TypedQuery) : Option Table := do
  let readCell (cell : String) : Option StyledText :=
    if hasRoom terminal then StyledText.ofMarkup? {} (truncate width cell) else some { chars := [] }
  return {
    title := ← StyledText.ofMarkup? Style.italic (query.name ++ " " ++ query.resultKind.text)
    header := tableHeader.map fun name => { chars := name.toList }
    rows := ← query.rows.mapM fun row => row.cells.mapM readCell }

/-- The tables of queries on a terminal of a width, without the last line ends. -/
def tables? (width : Int) (terminal : Nat) (queries : List TypedQuery) : Option String :=
  if queries.isEmpty then some "No queries"
  else do
    let tables ← queries.mapM (table? width terminal)
    return String.ofList (Text.dropRightWhile (· = '\n')
      (tables.flatMap fun table => table.render terminal))

end Report

end QueryTyping
