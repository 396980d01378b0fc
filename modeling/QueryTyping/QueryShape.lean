import QueryTyping.Text.LowerCase

/-!
# The shape of a query

What the nullability rules see of a statement: the relations it reads from, each
marked if an outer join may null it, and one entry for each written output.  A
relation has a name only if it is a plain table.
-/

namespace QueryTyping

open Text

/-- An item that a query reads from. -/
structure Relation where
  index : Nat
  /-- The table's name in lower case; none for anything but a plain table. -/
  name : Option String
  /-- The name that columns are qualified with, in lower case. -/
  label : String
  nullable : Bool
  deriving DecidableEq, Repr

/-- What an output is made of. -/
inductive Output where
  | literal
  /-- A bare reference.  Behind a star neither its name nor its qualifier is known. -/
  | column (name qualifier : Option String)
  | other
  deriving DecidableEq, Repr

structure QueryShape where
  relations : List Relation := []
  outputs : List Output := []
  setOperation : Bool := false
  /-- Whether the outputs stand for an unknown number of columns. -/
  star : Bool := false
  /-- Whether nothing is known of the statement. -/
  unreadable : Bool := false
  deriving DecidableEq, Repr

namespace QueryShape

/-- The shape of a statement that cannot be read. -/
def unknown : QueryShape := { unreadable := true }

/-- The output at a position.  With a star the positions of columns and written outputs
differ, so every output counts as an unqualified reference. -/
def output (shape : QueryShape) (index : Int) : Output :=
  if shape.star then .column none none
  else if index < 0 then .other
  else shape.outputs[index.toNat]?.getD .other

/-- Whether some relation is not a plain table. -/
def hasDerived (shape : QueryShape) : Bool :=
  shape.relations.any fun relation => relation.name.isNone

/-- The relations that a reference may come from: those with the alias if it is qualified, and
otherwise those of the table. -/
def sourceRelations (shape : QueryShape) (qualifier table : Option String) : List Relation :=
  match qualifier.filter (!·.isEmpty), table.filter (!·.isEmpty) with
  | some qualifier, _ => shape.relations.filter fun relation => relation.label = lower qualifier
  | none, some table => shape.relations.filter fun relation => relation.name = some (lower table)
  | none, none => []

end QueryShape

end QueryTyping
