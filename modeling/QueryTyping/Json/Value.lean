/-!
# JSON documents

Numbers keep the difference between whole numbers and decimals, and an object
keeps its members in order of writing, so a printed document is determined by
its value.
-/

namespace QueryTyping

/-- A JSON document. -/
inductive Json where
  | null
  | bool (value : Bool)
  | integer (value : Int)
  /-- The number `coefficient · 10 ^ exponent`, written with a point or an exponent. -/
  | decimal (negative : Bool) (coefficient : Nat) (exponent : Int)
  | text (value : String)
  | list (items : List Json)
  | object (members : List (String × Json))
  deriving Repr, Inhabited

namespace Json

/-- The value of the first member of that name. -/
def member? (name : String) : Json → Option Json
  | object members => members.lookup name
  | _ => none

def ofOption {α : Type} (encode : α → Json) : Option α → Json
  | none => null
  | some value => encode value

/-- A list of texts. -/
def texts (items : List String) : Json := list (items.map text)

/-- A number from zero up. -/
def nat (n : Nat) : Json := integer n

end Json

end QueryTyping
