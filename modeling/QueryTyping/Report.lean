import QueryTyping.Failure
import QueryTyping.Json.Printer
import QueryTyping.Report.Csv
import QueryTyping.Report.Table
import QueryTyping.Text.Quoted
import QueryTyping.TypedQuery.Json

/-!
# Reports

Typed queries for output, in one of three formats.
-/

namespace QueryTyping

/-- A format with its options. -/
inductive ReportFormat where
  | csv (header : Bool)
  | json (compact : Bool)
  /-- Cells of at most so many characters. -/
  | table (width : Int)
  deriving DecidableEq, Repr

/-- What a command line says about formats; each option matters to one format only. -/
structure ReportOptions where
  header : Bool := true
  compact : Bool := false
  width : Int := 40

namespace ReportFormat

/-- The names of the formats. -/
def names : List String := ["csv", "json", "table"]

/-- The format of that name. -/
def ofName (options : ReportOptions) (name : String) : Except Error ReportFormat :=
  match name with
  | "csv" => .ok (csv options.header)
  | "json" => .ok (json options.compact)
  | "table" => .ok (table options.width)
  | _ => .error (.unforeseen (.missingKey ("Unknown format " ++ Text.quoted name ++
      ". Available: " ++ ", ".intercalate names)))

/-- The name of the format to use: the one asked for, else the default on a terminal and JSON
elsewhere. -/
def chooseName (asked : Option String) (isTerminal : Bool) (fallback : String) : String :=
  asked.getD (if isTerminal then fallback else "json")

/-- A report of queries for a terminal of a width, with its last line end. -/
def report (format : ReportFormat) (terminal : Nat) (queries : List TypedQuery) :
    Except Error String :=
  match format with
  | csv header => .ok (String.join ((Report.csvLines header queries).map (· ++ "\n")))
  | json true => .ok ((TypedQuery.jsonList queries).compact ++ "\n")
  | json false => .ok ((TypedQuery.jsonList queries).pretty ++ "\n")
  | table width =>
    match Report.tables? width terminal queries with
    | some text => .ok (text ++ "\n")
    | none => .error (.unforeseen .badMarkup)

end ReportFormat

end QueryTyping
