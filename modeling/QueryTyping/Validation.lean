import QueryTyping.Datum
import QueryTyping.Failure
import QueryTyping.Number.Numeral

/-!
# Validating data against models

A check turns a datum into a value of a model or refuses it, with every
violation it finds.  A model's fields are checked in order, and each goes on
after a violation of another; only an error of another kind ends the check at
once.  Values are admitted generously: a text that reads as a number is a
number.
-/

namespace QueryTyping

/-- Why a datum is not admitted. -/
inductive Refusal where
  | violations (items : List Violation)
  | error (error : Error)

abbrev Check (α : Type) := Datum → Except Refusal α

namespace Check

variable {α β : Type}

/-- Refuse the datum itself. -/
def refuse (kind message : String) : Except Refusal α :=
  .error (.violations [⟨[], kind, message⟩])

/-- Refuse a value for breaking a rule. -/
def breaks (message : String) : Except Refusal α :=
  refuse "value_error" ("Value error, " ++ message)

def text : Check String
  | .text value => .ok value
  | _ => refuse "string_type" "Input should be a valid string"

/-- A whole number, also as a truth value, a number without fraction or a text. -/
def integer : Check Int
  | .integer value => .ok value
  | .bool value => .ok (if value then 1 else 0)
  | .number value =>
    match value.whole? with
    | some whole => .ok whole
    | none =>
      match value with
      | .finite _ _ _ => refuse "int_from_float"
          "Input should be a valid integer, got a number with a fractional part"
      | _ => refuse "finite_number" "Input should be a finite number"
  | .text value =>
    match Numeral.looseInteger? value with
    | some whole => .ok whole
    | none => refuse "int_parsing"
        "Input should be a valid integer, unable to parse string as an integer"
  | _ => refuse "int_type" "Input should be a valid integer"

def number : Check Double
  | .number value => .ok value
  | .integer value =>
    match Double.ofInt value with
    | .infinite _ => refuse "float_type" "Input should be a valid number"
    | nearest => .ok nearest
  | .bool value => .ok (Double.ofInt (if value then 1 else 0))
  | .text value =>
    match Numeral.double? value with
    | some value => .ok value
    | none => refuse "float_parsing"
        "Input should be a valid number, unable to parse string as a number"
  | _ => refuse "float_type" "Input should be a valid number"

/-- The words for the two truth values. -/
def truthWords : List (String × Bool) :=
  [("0", false), ("off", false), ("f", false), ("false", false), ("n", false), ("no", false),
    ("1", true), ("on", true), ("t", true), ("true", true), ("y", true), ("yes", true)]

def truth : Check Bool
  | .bool value => .ok value
  | .integer value => ofWhole value
  | .number value =>
    match value.whole? with
    | some whole => ofWhole whole
    | none => refuse "bool_type" "Input should be a valid boolean"
  | .text value =>
    match truthWords.lookup value.toLower with
    | some truth => .ok truth
    | none => unclear
  | _ => refuse "bool_type" "Input should be a valid boolean"
where
  unclear : Except Refusal Bool :=
    refuse "bool_parsing" "Input should be a valid boolean, unable to interpret input"
  ofWhole : Int → Except Refusal Bool
    | 0 => .ok false
    | 1 => .ok true
    | _ => unclear

/-- A value that may be null. -/
def optional (check : Check α) : Check (Option α)
  | .null => .ok none
  | datum => (check datum).map some

/-- The same refusal, seen from one level further out. -/
def under (step : String) : Except Refusal α → Except Refusal α
  | .error (.violations items) => .error (.violations (items.map (·.under step)))
  | result => result

/-- Check elements in order and collect the violations of all. -/
def collect (check : α → Except Refusal β) : List α → Except Refusal (List β)
  | [] => .ok []
  | item :: rest =>
    match check item with
    | .error (.error error) => .error (.error error)
    | .ok value => (collect check rest).map (value :: ·)
    | .error (.violations items) =>
      match collect check rest with
      | .ok _ => .error (.violations items)
      | .error (.violations others) => .error (.violations (items ++ others))
      | .error (.error error) => .error (.error error)

/-- Elements of a list, each checked at its position. -/
def elements (check : Check α) (items : List Datum) : Except Refusal (List α) :=
  collect (fun (item : Datum × Nat) => under (toString item.2) (check item.1)) items.zipIdx

def list (check : Check α) : Check (List α)
  | .list items => elements check items
  | _ => refuse "list_type" "Input should be a valid list"

/-- A list that a model keeps as it is. -/
def tuple (check : Check α) : Check (List α)
  | .list items => elements check items
  | _ => refuse "tuple_type" "Input should be a valid tuple"

/-- A table with values of one kind. -/
def dictionary (check : Check α) : Check (List (String × α))
  | .table members =>
    collect (fun (member : String × Datum) =>
      (under member.1 (check member.2)).map fun value => (member.1, value)) members
  | _ => refuse "dict_type" "Input should be a valid dictionary"

/-- One of a list of words. -/
def word (ofText? : String → Option α) (choices : List String) : Check α := fun datum =>
  let expected := match choices.reverse with
    | last :: before =>
      ", ".intercalate (before.reverse.map fun choice => "'" ++ choice ++ "'") ++ " or '" ++
        last ++ "'"
    | [] => ""
  let wrong : Except Refusal α := refuse "enum" ("Input should be " ++ expected)
  match datum with
  | .text value =>
    match ofText? value with
    | some found => .ok found
    | none => wrong
  | _ => wrong

/-- The fields of a table being checked, with the violations found so far. -/
abbrev Fields := StateT (List Violation) (Except Refusal)

/-- Note the outcome of a check. -/
def note [Inhabited α] (step : String) (result : Except Refusal α) : Fields α :=
  match under step result with
  | .ok value => pure value
  | .error (.violations items) => do
    modify (· ++ items)
    pure default
  | .error refusal => throw refusal

/-- A field that has a value of its own if it is not given. -/
def fieldOr [Inhabited α] (members : List (String × Datum)) (name : String) (fallback : α)
    (check : Check α) : Fields α :=
  match members.lookup name with
  | some datum => note name (check datum)
  | none => pure fallback

/-- A field that must be given. -/
def field [Inhabited α] (members : List (String × Datum)) (name : String) (check : Check α) :
    Fields α :=
  match members.lookup name with
  | some datum => note name (check datum)
  | none => note name (refuse "missing" "Field required")

/-- No other fields are allowed. -/
def nothingElse (members : List (String × Datum)) (names : List String) : Fields Unit :=
  (members.filter fun member => !names.contains member.1).forM fun member =>
    (note member.1 (refuse "extra_forbidden" "Extra inputs are not permitted") : Fields Unit)

/-- A model: a table whose fields are all admitted. -/
def model (name : String) (fields : List (String × Datum) → Fields α) : Check α
  | .table members =>
    match (fields members).run [] with
    | .ok (value, []) => .ok value
    | .ok (_, items) => .error (.violations items)
    | .error refusal => .error refusal
  | _ => refuse "model_type" ("Input should be a valid dictionary or instance of " ++ name)

/-- The outcome of validating a datum as a whole. -/
def validate (name : String) (check : Check α) (datum : Datum) : Except Error α :=
  match check datum with
  | .ok value => .ok value
  | .error (.violations items) => .error (.unforeseen (.invalid ⟨name, items⟩))
  | .error (.error error) => .error error

end Check

end QueryTyping
