/-!
# Annotated queries

A query file names each statement and declares how many rows it returns.  A
`SourceQuery` is one such statement with its markers already replaced by
numbered placeholders.
-/

namespace QueryTyping

/-- Declared cardinality of a query's result. -/
inductive ResultKind where
  | one
  | many
  | exec
  deriving DecidableEq, Repr

namespace ResultKind

/-- The word that declares the kind. -/
def text : ResultKind → String
  | one => ":one"
  | many => ":many"
  | exec => ":exec"

def all : List ResultKind := [one, many, exec]

/-- The kind that a word declares, if it declares one. -/
def ofText? (word : String) : Option ResultKind :=
  all.find? fun kind => kind.text = word

/-- Every word that declares a kind, for messages. -/
def choices : String := ", ".intercalate (all.map text)

theorem ofText?_text (kind : ResultKind) : ofText? kind.text = some kind := by
  cases kind <;> decide

end ResultKind

/-- One annotated query of a query file. -/
structure SourceQuery where
  name : String
  /-- The statement, with placeholders numbered from one. -/
  preparedSql : String
  /-- The parameter behind each placeholder. -/
  paramNames : List String
  resultKind : ResultKind
  /-- The comment block in front of the statement, annotation included. -/
  doc : List String
  deriving DecidableEq, Repr

end QueryTyping
