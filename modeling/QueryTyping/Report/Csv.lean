import QueryTyping.Report.Rows
import QueryTyping.Text.Blank

/-!
# Reports as CSV

Records of fields separated by commas.  A field with a comma, a quote or a line
end is quoted, and a quote in it is written twice.
-/

namespace QueryTyping

namespace Csv

/-- Whether a character makes a field be quoted. -/
def needsQuotes (c : Char) : Bool := c = ',' || c = '"' || c = '\n' || c = '\r'

def field (s : String) : List Char :=
  if s.toList.any needsQuotes then
    '"' :: s.toList.flatMap (fun c => if c = '"' then ['"', '"'] else [c]) ++ ['"']
  else s.toList

/-- The fields of a record between commas. -/
def fields : List String → List Char
  | [] => []
  | [last] => field last
  | s :: next :: rest => field s ++ ',' :: fields (next :: rest)

/-- What a line may end in. -/
def isLineEnd (c : Char) : Bool := c = '\r' || c = '\n'

/-- A record as it is written: its fields and a line end. -/
def written (values : List String) : List Char := fields values ++ ['\r', '\n']

/-- A record without its line end. -/
def record (values : List String) : String :=
  String.ofList (Text.dropRightWhile isLineEnd (written values))

end Csv

namespace Report

def csvHeader : List String := ["query", "result_kind", "role", "name", "type", "nullable"]

/-- The records of a query; one with neither parameters nor columns has one record all the
same. -/
def csvRecords (query : TypedQuery) : List (List String) :=
  let rows := if query.rows.isEmpty then [ReportRow.blank] else query.rows
  rows.map fun row => query.name :: query.resultKind.text :: row.cells

/-- The lines of a report. -/
def csvLines (header : Bool) (queries : List TypedQuery) : List String :=
  ((if header then [csvHeader] else []) ++ queries.flatMap csvRecords).map Csv.record

end Report

end QueryTyping
