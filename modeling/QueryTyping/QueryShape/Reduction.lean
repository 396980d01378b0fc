import QueryTyping.QueryShape
import QueryTyping.Sql.Statements

/-!
# From a statement to its shape

A SELECT and a RETURNING list give their outputs and the relations they read;
parentheses count for nothing, and of a set operation only the literals that all
its branches share are kept.  Joins mark the relations that they may null.
-/

namespace QueryTyping

open Text Sql

namespace Sql

/-- The relation that a FROM item is at a position, given the names of the WITH list. -/
def Source.relation (ctes : List String) (index : Nat) (nullable : Bool) : Source → Relation
  | .table qualifiers name label joins =>
    let table := lower name
    let plain := joins.isEmpty && !(qualifiers.isEmpty && ctes.contains table)
    { index, name := if plain then some table else none
      label := lower ((label.filter (!·.isEmpty)).getD name), nullable }
  | .derived label => { index, name := none, label := lower (label.getD ""), nullable }
  | .query _ label => { index, name := none, label := lower (label.getD ""), nullable }
  | .group _ _ label => { index, name := none, label := lower (label.getD ""), nullable }

/-- Whether a join may null the items before it. -/
def JoinSide.nullsLeft : JoinSide → Bool
  | .right => true
  | .full => true
  | _ => false

/-- Whether a join may null the item it adds. -/
def JoinSide.nullsRight : JoinSide → Bool
  | .left => true
  | .full => true
  | _ => false

/-- Add a joined item to the relations before it. -/
def Join.extend (ctes : List String) (relations : List Relation) (join : Join) : List Relation :=
  let before :=
    if join.side.nullsLeft then relations.map fun relation => { relation with nullable := true }
    else relations
  before ++ [join.source.relation ctes before.length join.side.nullsRight]

/-- The relations of a FROM list. -/
def relations (ctes : List String) (first : Option Source) (joins : List Join) : List Relation :=
  joins.foldl (Join.extend ctes) (first.map (Source.relation ctes 0 false)).toList

/-- The names of a WITH list. -/
def cteNames (ctes : List Cte) : List String := ctes.map fun cte => lower cte.name

/-- What a written output is made of. -/
def Expr.output (expr : Expr) : Output :=
  let value := expr.unaliased
  if value.isLiteral then .literal
  else
    match value with
    | .column qualifiers name =>
      .column (some (lower name)) ((qualifiers.getLast?.map lower).filter (!·.isEmpty))
    | .star qualifiers =>
      match qualifiers.getLast? with
      | some qualifier => .column (some "*") (some (lower qualifier))
      | none => .other
    | _ => .other

/-- The shape of a list of outputs over relations. -/
def shapeOf (relations : List Relation) (outputs : List Expr) : QueryShape :=
  if anyStar outputs then { relations, star := true }
  else { relations, outputs := outputs.map Expr.output }

/-- The shape of a set operation: an output is a literal if it is one in both branches. -/
def combinedShape (left right : QueryShape) : QueryShape :=
  let width := if left.star then 0 else left.outputs.length
  { outputs := (List.range width).map fun (i : Nat) =>
      if left.output i = .literal ∧ right.output i = .literal then .literal else .other
    setOperation := true }

def Query.shape : Query → QueryShape
  | .select ctes outputs first joins _ =>
    shapeOf (relations (cteNames ctes) first joins) outputs
  | .combined _ _ left right => combinedShape left.shape right.shape
  | .paren _ inner _ => inner.shape
  | .values _ => .unknown

/-- The relations of a statement that changes rows: its target and the items it reads. -/
def changeRelations (ctes : List String) (target : Option Source) (sources : List Source) :
    List Relation :=
  let first : Relation := match target with
    | some target => target.relation ctes 0 false
    | none => { index := 0, name := none, label := "", nullable := false }
  sources.foldl (fun relations source =>
    relations ++ [source.relation ctes relations.length false]) [first]

def Statement.shape : Statement → QueryShape
  | .query body => body.shape
  | .change _ _ _ _ none => {}
  | .change _ ctes target sources (some outputs) =>
    shapeOf (changeRelations (cteNames ctes) target sources) outputs
  | .other => .unknown

end Sql

/-- The shape of the only statement of a text. -/
def QueryShape.ofText (text : String) : QueryShape :=
  match Statement.ofText? text with
  | some statement => statement.shape
  | none => .unknown

end QueryTyping
