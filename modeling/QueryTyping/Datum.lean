import QueryTyping.Json.Value
import QueryTyping.Number.Double

/-!
# Data from outside

Values as they come from a document before any model has admitted them.
-/

namespace QueryTyping

/-- A date, a time of day, or both. -/
inductive Moment where
  | date
  | time
  | dateTime
  deriving DecidableEq, Repr

inductive Datum where
  | null
  | bool (value : Bool)
  | integer (value : Int)
  | number (value : Double)
  | text (value : String)
  /-- A date or a time; no model admits one. -/
  | moment (moment : Moment)
  | list (items : List Datum)
  | table (members : List (String × Datum))
  deriving Inhabited

namespace Datum

mutual

/-- The value that a JSON document writes. -/
def ofJson : Json → Datum
  | .null => null
  | .bool value => bool value
  | .integer value => integer value
  | .decimal negative coefficient exponent =>
    number (Double.ofDecimal negative coefficient exponent)
  | .text value => text value
  | .list items => list (ofJsonItems items)
  | .object members => table (ofJsonMembers members)

def ofJsonItems : List Json → List Datum
  | [] => []
  | item :: rest => ofJson item :: ofJsonItems rest

def ofJsonMembers : List (String × Json) → List (String × Datum)
  | [] => []
  | (key, value) :: rest => (key, ofJson value) :: ofJsonMembers rest

end

/-- The kind of the value, as a message names it. -/
def kind : Datum → String
  | null => "NoneType"
  | bool _ => "bool"
  | integer _ => "int"
  | number _ => "float"
  | text _ => "str"
  | moment .date => "datetime.date"
  | moment .time => "datetime.time"
  | moment .dateTime => "datetime.datetime"
  | list _ => "list"
  | table _ => "dict"

/-- Whether the value counts as given: not null, false, zero or empty. -/
def isGiven : Datum → Bool
  | null => false
  | bool value => value
  | integer value => value ≠ 0
  | number value => !value.same Double.zero
  | text value => !value.isEmpty
  | moment _ => true
  | list items => !items.isEmpty
  | table members => !members.isEmpty

end Datum

end QueryTyping
