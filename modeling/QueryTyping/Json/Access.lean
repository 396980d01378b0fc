import QueryTyping.Json.Value

/-!
# Looking into JSON documents

The members of an object, read as what they should be; one that is absent or
something else is read as nothing, as empty or as zero.
-/

namespace QueryTyping.Json

def textAt? (json : Json) (name : String) : Option String :=
  match json.member? name with
  | some (.text s) => some s
  | _ => none

def textAt (json : Json) (name : String) : String := (json.textAt? name).getD ""

def itemsAt (json : Json) (name : String) : List Json :=
  match json.member? name with
  | some (.list items) => items
  | _ => []

def flagAt (json : Json) (name : String) : Bool :=
  match json.member? name with
  | some (.bool b) => b
  | _ => false

/-- The number that a value stands for; a truth value is zero or one. -/
def wholeNumber : Json → Int
  | .integer n => n
  | .bool true => 1
  | _ => 0

def integerAt (json : Json) (name : String) : Int :=
  ((json.member? name).map wholeNumber).getD 0

end QueryTyping.Json
