import QueryTyping.Proofs.CteScope
import QueryTyping.Proofs.JoinedRows

/-!
# The rows that a query returns

A SELECT computes its outputs from each row of its FROM list, and a set operation
takes the rows of its branches.  Next to its value an output carries the catalog
column that the database names as its origin, which it does for columns alone.

Clauses that only filter leave no trace in a tree, so some of the rows are ones
that such a clause would drop.  Rows of groups are another matter and not among
these.  SQL lets no star have a name; an output that gives it one makes no row.
-/

namespace QueryTyping.Sql

open Text

/-- An output of a returned row: its value, or none for NULL, and the catalog column that the
database names as its origin. -/
structure Cell (V : Type) where
  origin : Option CatalogColumn
  value : Option V

/-- References may qualify a column of the item with the name, its own or one inside a nested
join.  Trees do not keep quotes, so names are compared without regard to case. -/
inductive Source.Labelled (qualifier : String) : Source → Prop
  | table {name : String} {label : Option String} (qualifiers : List String) (joins : List Join)
    (same : lower ((label.filter (!·.isEmpty)).getD name) = lower qualifier) :
    Labelled qualifier (.table qualifiers name label joins)
  | hanging {joins : List Join} {join : Join} (qualifiers : List String) (name : String)
    (label : Option String) (member : join ∈ joins) (inner : Labelled qualifier join.source) :
    Labelled qualifier (.table qualifiers name label joins)
  | derived {label : String} (same : lower label = lower qualifier) :
    Labelled qualifier (.derived (some label))
  | query {label : String} (body : Query) (same : lower label = lower qualifier) :
    Labelled qualifier (.query body (some label))
  | group {label : String} (inner : Source) (joins : List Join)
    (same : lower label = lower qualifier) :
    Labelled qualifier (.group inner joins (some label))
  | first {source : Source} (joins : List Join) (inner : Labelled qualifier source) :
    Labelled qualifier (.group source joins none)
  | joined {joins : List Join} {join : Join} (source : Source) (member : join ∈ joins)
    (inner : Labelled qualifier join.source) :
    Labelled qualifier (.group source joins none)

/-- The output stands for a list of columns, each an output of its own. -/
def Expr.expands : Expr → Bool
  | .star _ => true
  | .allFields _ => true
  | _ => false

/-- The value may be one that no catalog column is the origin of.  A reference is so too where it
means a whole row, or columns that USING merges. -/
def Expr.computed : Expr → Bool
  | .parameter _ => true
  | .column _ _ => true
  | .star _ => true
  | .field _ _ => true
  | .allFields _ => true
  | .subquery _ => true
  | .operation _ _ => true
  | _ => false

namespace Content

variable {V : Type} (content : Content V)

/-- An item's column in a joined row: NULL where the item is null-extended. -/
def cell (joined : JoinedRow V) (item position : Nat) : Cell V where
  origin := (content.columns item)[position]?.bind Column.origin
  value := joined[item]?.join.bind fun record => record position

/-- The item holds the rows of a table: its columns are the table's, and those that are never
null have a value in every record. -/
def HoldsTable (item : Nat) (name : String) : Prop :=
  ∀ (position : Nat) (column : Column) (source : CatalogColumn),
    (content.columns item)[position]? = some column → column.origin = some source →
    lower source.table = lower name ∧
      (source.notNull = true → ∀ left, ∀ record ∈ content.records item left,
        (record position).isSome)

/-- Items that are tables hold their rows.  What other items hold, and which columns the database
names as the origins of theirs, is not restricted. -/
def Respects (scope : List Cte) (items : List Source) : Prop :=
  ∀ (item : Nat) (source : Source) (name : String), items[item]? = some source →
    source.IsTable scope name → content.HoldsTable item name

/-- A reference may mean the column at a position of an item.  A qualifier has to tell the item
from all others. -/
structure Reads (items : List Source) (qualifiers : List String) (name : String)
    (item position : Nat) : Prop where
  listed : item < items.length
  qualified : ∀ qualifier, qualifiers.getLast? = some qualifier →
    ∀ (other : Nat) (source : Source), items[other]? = some source →
      (source.Labelled qualifier ↔ other = item)
  named : ∃ column, (content.columns item)[position]? = some column ∧
    lower column.name = lower name

/-- What an expression gives for a joined row. -/
inductive Yields (items : List Source) (joined : JoinedRow V) : Expr → Cell V → Prop
  | number (text : String) (value : V) : Yields items joined (.number text) ⟨none, some value⟩
  | string (text : String) (value : V) : Yields items joined (.string text) ⟨none, some value⟩
  | boolean (truth : Bool) (value : V) : Yields items joined (.boolean truth) ⟨none, some value⟩
  | null : Yields items joined .null ⟨none, none⟩
  | column {qualifiers : List String} {name : String} {item position : Nat}
    (reads : content.Reads items qualifiers name item position) :
    Yields items joined (.column qualifiers name) (content.cell joined item position)
  | computed {expr : Expr} (computed : expr.computed = true) (value : Option V) :
    Yields items joined expr ⟨none, value⟩
  | cast {operand : Expr} {cell : Cell V} (inner : Yields items joined operand cell)
    (convert : V → V) : Yields items joined (.cast operand) ⟨none, cell.value.map convert⟩
  /-- A cast to the type that the operand has already is left out. -/
  | uncast {operand : Expr} {cell : Cell V} (inner : Yields items joined operand cell) :
    Yields items joined (.cast operand) cell
  | negate {operand : Expr} {cell : Cell V} (inner : Yields items joined operand cell)
    (convert : V → V) : Yields items joined (.negate operand) ⟨none, cell.value.map convert⟩
  | paren {operand : Expr} {cell : Cell V} (inner : Yields items joined operand cell) :
    Yields items joined (.paren operand) cell
  | aliased {operand : Expr} {cell : Cell V} (name : String) (single : operand.expands = false)
    (inner : Yields items joined operand cell) : Yields items joined (.aliased operand name) cell

/-- The cell may be one of those that a star stands for. -/
def Expanded (items : List Source) (joined : JoinedRow V) (cell : Cell V) : Prop :=
  cell.origin = none ∨
    ∃ item position, item < items.length ∧ cell = content.cell joined item position

/-- What a list of outputs gives for a joined row. -/
inductive Projects (items : List Source) (joined : JoinedRow V) : List Expr → List (Cell V) → Prop
  | nil : Projects items joined [] []
  | value {output : Expr} {outputs : List Expr} {cell : Cell V} {cells : List (Cell V)}
    (single : output.expands = false) (head : content.Yields items joined output cell)
    (tail : Projects items joined outputs cells) :
    Projects items joined (output :: outputs) (cell :: cells)
  | columns {output : Expr} {outputs : List Expr} {columns cells : List (Cell V)}
    (several : output.expands = true) (head : ∀ cell ∈ columns, content.Expanded items joined cell)
    (tail : Projects items joined outputs cells) :
    Projects items joined (output :: outputs) (columns ++ cells)

variable {content} {items : List Source} {joined : JoinedRow V}

/-- A literal has a value. -/
theorem Yields.value_of_isLiteral {expr : Expr} {cell : Cell V}
    (yields : content.Yields items joined expr cell) (literal : expr.isLiteral = true) :
    cell.value.isSome := by
  induction yields with
  | number | string | boolean => rfl
  | null => cases literal
  | column => cases literal
  | @computed expr computed => cases expr <;> simp_all [Expr.computed, Expr.isLiteral]
  | cast _ _ ih => simpa using ih literal
  | uncast _ ih => exact ih literal
  | negate _ _ ih => simpa using ih literal
  | paren _ ih => exact ih literal
  | aliased => cases literal

theorem Yields.unaliased {expr : Expr} {cell : Cell V}
    (yields : content.Yields items joined expr cell) :
    content.Yields items joined expr.unaliased cell := by
  cases expr with
  | aliased operand name =>
    cases yields with
    | computed computed => cases computed
    | aliased _ _ inner => exact inner
  | _ => exact yields

/-- Whatever an expression gives has no origin or is a column of some item. -/
theorem Yields.expanded {expr : Expr} {cell : Cell V}
    (yields : content.Yields items joined expr cell) : content.Expanded items joined cell := by
  induction yields with
  | number | string | boolean | null | computed | cast | negate => exact .inl rfl
  | column reads => exact .inr ⟨_, _, reads.listed, rfl⟩
  | uncast _ ih | paren _ ih | aliased _ _ _ ih => exact ih

theorem Projects.expanded {outputs : List Expr} {row : List (Cell V)}
    (projects : content.Projects items joined outputs row) {cell : Cell V} (member : cell ∈ row) :
    content.Expanded items joined cell := by
  induction projects with
  | nil => cases member
  | value single head tail ih =>
    rcases List.mem_cons.mp member with rfl | later
    · exact head.expanded
    · exact ih later
  | columns several head tail ih =>
    rcases List.mem_append.mp member with column | later
    · exact head cell column
    · exact ih later

theorem isStar_of_expands {output : Expr} (several : output.expands = true) :
    output.isStar = true := by
  cases output <;> first | rfl | cases several

/-- Without a star, each place of a row is that of an output. -/
theorem Projects.yields_of_getElem? {outputs : List Expr} {row : List (Cell V)}
    (projects : content.Projects items joined outputs row) (aligned : anyStar outputs = false)
    {index : Nat} {cell : Cell V} (placed : row[index]? = some cell) :
    ∃ output, outputs[index]? = some output ∧ content.Yields items joined output cell := by
  induction projects generalizing index with
  | nil => simp at placed
  | @value output outputs head cells single yields tail ih =>
    rw [anyStar, Bool.or_eq_false_iff] at aligned
    cases index with
    | zero =>
      obtain rfl : head = cell := by simpa using placed
      exact ⟨output, rfl, yields⟩
    | succ index => exact ih aligned.2 (by simpa using placed)
  | columns several _ _ _ =>
    rw [anyStar, Bool.or_eq_false_iff, isStar_of_expands several] at aligned
    cases aligned.1

end Content

/-- A branch's row in the result of a set operation, where values may change their types.  It does
not matter which origins the database names there. -/
def Converted {V : Type} (before after : List (Cell V)) : Prop :=
  after.map (·.value.isSome) = before.map (·.value.isSome)

/-- A query without groups returns the row, within the WITH queries in scope around it. -/
inductive Query.Returns {V : Type} : List Cte → Query → List (Cell V) → Prop
  | select {scope ctes : List Cte} {outputs : List Expr} {first : Option Source}
    {joins : List Join} {joined : JoinedRow V} {row : List (Cell V)} (content : Content V)
    (respects : content.Respects (scope ++ ctes) (fromItems first joins))
    (drawn : joined ∈ content.joinedRows first joins)
    (projects : content.Projects (fromItems first joins) joined outputs row) :
    Returns scope (.select ctes outputs first joins []) row
  /-- Aggregates give one row for all joined rows, even for none; no column is left. -/
  | aggregate {scope ctes : List Cte} {outputs : List Expr} {first : Option Source}
    {joins : List Join} {row : List (Cell V)} (content : Content V)
    (computed : ∀ cell ∈ row, cell.origin = none)
    (projects : content.Projects (fromItems first joins) [] outputs row) :
    Returns scope (.select ctes outputs first joins []) row
  | unionLeft {scope ctes : List Cte} {left : Query} {before after : List (Cell V)}
    (right : Query) (branch : left.Returns (scope ++ ctes) before)
    (converted : Converted before after) : Returns scope (.combined ctes .union left right) after
  | unionRight {scope ctes : List Cte} {right : Query} {before after : List (Cell V)}
    (left : Query) (branch : right.Returns (scope ++ ctes) before)
    (converted : Converted before after) : Returns scope (.combined ctes .union left right) after
  | except {scope ctes : List Cte} {left : Query} {before after : List (Cell V)}
    (right : Query) (branch : left.Returns (scope ++ ctes) before)
    (converted : Converted before after) : Returns scope (.combined ctes .except left right) after
  | intersect {scope ctes : List Cte} {left right : Query} {before other after : List (Cell V)}
    (branch : left.Returns (scope ++ ctes) before) (converted : Converted before after)
    (counterpart : right.Returns (scope ++ ctes) other) (matched : Converted other after) :
    Returns scope (.combined ctes .intersect left right) after
  | paren {scope ctes : List Cte} {inner : Query} {row : List (Cell V)} (bare : Bool)
    (within : inner.Returns (scope ++ ctes) row) : Returns scope (.paren ctes inner bare) row
  | values (scope ctes : List Cte) (row : List (Cell V)) : Returns scope (.values ctes) row

end QueryTyping.Sql
