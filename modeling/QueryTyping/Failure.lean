import QueryTyping.FilePath.Problem
import QueryTyping.Gzip.Problem
import QueryTyping.Text.Quoted
import QueryTyping.Violation

/-!
# Failures

A `Failure` is a refusal that the program foresees; it carries a message and
determines the exit status.  What the program does not foresee, such as a file
that is no text or a database error outside the mapped classes, is
`Unforeseen` and ends a run with the general status.
-/

namespace QueryTyping

/-- Why a single query has no types. -/
inductive InferenceCause where
  | unspecified
  /-- The database rejected the statement. -/
  | catalog
  /-- Rows were declared for a statement that returns none. -/
  | resultCardinality
  /-- A type identifier is absent from the catalog. -/
  | unknownType (oid : Int)
  deriving DecidableEq, Repr

/-- The failure of a single query. -/
structure InferenceFailure where
  cause : InferenceCause
  message : String
  query : Option String
  deriving DecidableEq, Repr

/-- A refusal that the program foresees. -/
inductive Failure where
  | general (message : String)
  | network (message : String)
  | timeout (message : String)
  | input (message : String)
  | output (message : String)
  | config (message : String) (violations : Option Violations)
  | inference (failure : InferenceFailure)
  deriving DecidableEq, Repr

namespace Failure

def message : Failure → String
  | general message => message
  | network message => message
  | timeout message => message
  | input message => message
  | output message => message
  | config message _ => message
  | inference failure => failure.message

/-- The exit status of a run that ends with this failure. -/
def exitStatus : Failure → Nat
  | general _ => 1
  | input _ => 3
  | output _ => 4
  | network _ => 5
  | timeout _ => 6
  | config _ _ => 7
  | inference _ => 8

/-- The line that reports the failure: its message, with the headline of what was violated. -/
def report : Failure → String
  | config message (some violations) => message ++ ": " ++ violations.headline
  | failure => failure.message

end Failure

/-- The exit status of a command line that does not make sense. -/
def usageStatus : Nat := 2

/-- The classes of database errors that matter to a caller. -/
inductive DatabaseErrorClass where
  /-- The connection is at fault. -/
  | operational
  /-- The server cancelled the statement; a special operational error. -/
  | canceled
  | syntaxError
  | undefinedTable
  | dataError
  deriving DecidableEq, Repr

/-- Whether the connection is at fault. -/
def DatabaseErrorClass.isOperational : DatabaseErrorClass → Bool
  | operational => true
  | canceled => true
  | _ => false

/-- An error as the database reports it. -/
structure DatabaseError where
  errorClass : DatabaseErrorClass
  message : String
  deriving DecidableEq, Repr

/-- What the program does not foresee. -/
inductive Unforeseen where
  | badValue (message : String)
  | missingKey (message : String)
  | notUtf8 (defect : Text.Utf8Defect)
  | path (problem : PathProblem)
  | packed (problem : Gzip.Problem)
  | numberOutOfRange
  | badMarkup
  /-- A chain of element types does not end. -/
  | endlessType
  /-- A value of some kind stands where a text was taken for granted, and an operation asked of
  it. -/
  | notText (kind operation : String)
  | database (error : DatabaseError)
  | invalid (violations : Violations)
  deriving DecidableEq, Repr

namespace Unforeseen

/-- What a run that ends with it says. -/
def message : Unforeseen → String
  | badValue message => message
  | missingKey message => Text.quoted message
  | notUtf8 defect => defect.message
  | path problem => problem.message
  | packed problem => problem.message
  | numberOutOfRange => "cannot convert float infinity to integer"
  | badMarkup => "a tag closes what is not open"
  | endlessType => "maximum recursion depth exceeded"
  | notText kind operation => "'" ++ kind ++ "' object has no attribute '" ++ operation ++ "'"
  | database error => error.message
  | invalid violations => violations.headline

end Unforeseen

/-- Anything that keeps an operation from answering. -/
inductive Error where
  | failure (failure : Failure)
  | unforeseen (cause : Unforeseen)
  deriving DecidableEq, Repr

namespace Error

/-- What a run that ends with the error says. -/
def report : Error → String
  | .failure refusal => refusal.report
  | .unforeseen cause => cause.message

/-- The exit status of a run that ends with the error. -/
def exitStatus : Error → Nat
  | .failure refusal => refusal.exitStatus
  | .unforeseen _ => 1

end Error

end QueryTyping
