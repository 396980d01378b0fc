import QueryTyping.QueryFile.Query
import QueryTyping.Text.Blank
import QueryTyping.Text.Quoted

/-!
# Annotations and the faults of a query file

The last line comment in front of a statement is its annotation,
`-- name: <Name> <:kind>`.  Every fault is reported with the line of its
culprit: the statement, or the lexeme that is left open.
-/

namespace QueryTyping.QueryFile

open QueryTyping.Text

/-- What can be wrong with a query file. -/
inductive Fault where
  | unannotated
  | invalidName (name : String)
  | missingKind (query : String)
  | unknownKind (query kind : String)
  | duplicateName (query : String) (firstLine : Nat)
  | noSql (query : String)
  | openString
  | openDollarQuote
  | openComment
  deriving DecidableEq, Repr

def Fault.message : Fault → String
  | unannotated => "query is missing a '-- name: <Name> <:kind>' annotation"
  | invalidName name => "invalid query name " ++ quoted name
  | missingKind query =>
    "query " ++ query ++ " is missing a result kind; expected one of " ++ ResultKind.choices
  | unknownKind query kind =>
    "query " ++ query ++ " has unknown result kind " ++ quoted kind ++ "; expected one of " ++
      ResultKind.choices
  | duplicateName query firstLine =>
    "duplicate query name " ++ query ++ " (first declared on line " ++ toString firstLine ++ ")"
  | noSql query => "query " ++ query ++ " has no SQL"
  | openString => "unterminated quoted string"
  | openDollarQuote => "unterminated dollar-quoted string"
  | openComment => "unterminated block comment"

/-- A fault and the line of its culprit. -/
structure LocatedFault where
  line : Nat
  fault : Fault
  deriving DecidableEq, Repr

/-- The message, prefixed by where the text came from. -/
def LocatedFault.message (source : String) (located : LocatedFault) : String :=
  source ++ ":" ++ toString located.line ++ ": " ++ located.fault.message

/-- Whether the text is an ASCII identifier. -/
def isIdentifier : List Char → Bool
  | [] => false
  | c :: rest => (c.isAlpha || c = '_') && rest.all fun d => d.isAlphanum || d = '_'

/-- The words after `-- name:` if the comment is an annotation: one or two of them. -/
def annotationWords? (comment : List Char) : Option (List Char × Option (List Char)) :=
  match trim comment with
  | '-' :: '-' :: body =>
    match trimLeft body with
    | 'n' :: 'a' :: 'm' :: 'e' :: ':' :: tail =>
      match words tail with
      | [name] => some (name, none)
      | [name, kind] => some (name, some kind)
      | _ => none
    | _ => none
  | _ => none

/-- The name and kind that a comment block gives to the statement after it. -/
def annotation (comments : List (List Char)) : Except Fault (String × ResultKind) :=
  match comments.getLast?.bind annotationWords? with
  | none => .error .unannotated
  | some (name, kind?) =>
    let query := String.ofList name
    if !isIdentifier name then .error (.invalidName query)
    else
      match kind? with
      | none => .error (.missingKind query)
      | some word =>
        match ResultKind.ofText? (String.ofList word) with
        | some kind => .ok (query, kind)
        | none => .error (.unknownKind query (String.ofList word))

end QueryTyping.QueryFile
