/-!
# SQL syntax trees

The part of a statement that decides what its output columns are read from:
select lists, FROM items, joins, WITH lists, set operations, grouping and
RETURNING lists.  Operators and calls keep their operands; clauses that only
filter, order or lock rows are checked when a statement is read and leave no
trace.
-/

namespace QueryTyping.Sql

inductive SetOperator where
  | union
  | except
  | intersect
  deriving DecidableEq, Repr

/-- How an item joins the items before it.  A comma binds weaker than a join; neither it nor
`cross` has a condition. -/
inductive JoinSide where
  | comma
  | cross
  | inner
  | left
  | right
  | full
  deriving DecidableEq, Repr

inductive ChangeKind where
  | insert
  | update
  | delete
  deriving DecidableEq, Repr

mutual

/-- A value. -/
inductive Expr where
  | number (text : String)
  | string (text : String)
  | boolean (value : Bool)
  | null
  | parameter (name : String)
  /-- A bare name behind up to three qualifiers, outermost first. -/
  | column (qualifiers : List String) (name : String)
  /-- Every column, or every column of one relation. -/
  | star (qualifiers : List String)
  /-- A field of a composite value. -/
  | field (base : Expr) (name : String)
  /-- Every field of a composite value. -/
  | allFields (base : Expr)
  | cast (operand : Expr)
  | negate (operand : Expr)
  | paren (operand : Expr)
  | aliased (operand : Expr) (name : String)
  /-- A query used as a value. -/
  | subquery (query : Query)
  /-- Any other operator or call. -/
  | operation (name : String) (operands : List Expr)

/-- A statement that returns rows. -/
inductive Query where
  | select (ctes : List Cte) (outputs : List Expr) (first : Option Source) (joins : List Join)
      (grouping : List Grouping)
  | combined (ctes : List Cte) (operator : SetOperator) (left right : Query)
  /-- A query in parentheses; `bare` if no clause of its own follows them. -/
  | paren (ctes : List Cte) (inner : Query) (bare : Bool)
  | values (ctes : List Cte)

/-- An item of a FROM list. -/
inductive Source where
  /-- A table by name, with joins that hang on it alone. -/
  | table (qualifiers : List String) (name : String) (label : Option String) (joins : List Join)
  /-- Anything else: a subquery, a call, a list of values, or items in parentheses. -/
  | derived (label : Option String)
  | query (body : Query) (label : Option String)
  | group (inner : Source) (joins : List Join) (label : Option String)

/-- An item joined to those before it. -/
inductive Join where
  | mk (side : JoinSide) (source : Source) (condition : Option Expr)

/-- A named query of a WITH list. -/
inductive Cte where
  | mk (name : String) (body : Statement)

/-- An element of a GROUP BY list. -/
inductive Grouping where
  | plain (key : Expr)
  | rollup (keys : List Expr)
  | cube (keys : List Expr)
  | sets (elements : List Grouping)

/-- A statement. -/
inductive Statement where
  | query (body : Query)
  /-- INSERT, UPDATE or DELETE, with the further items it reads and its RETURNING list. -/
  | change (kind : ChangeKind) (ctes : List Cte) (target : Option Source)
      (sources : List Source) (returning : Option (List Expr))
  | other

end

instance : Inhabited Expr := ⟨.null⟩

instance : Inhabited Query := ⟨.values []⟩

instance : Inhabited Source := ⟨.derived none⟩

instance : Inhabited Statement := ⟨.other⟩

def Cte.name : Cte → String
  | mk name _ => name

def Cte.body : Cte → Statement
  | mk _ body => body

def Join.side : Join → JoinSide
  | mk side _ _ => side

def Join.source : Join → Source
  | mk _ source _ => source

mutual

/-- Whether an output stands for a list of columns: a star, or an unnamed subquery whose own
select list has one. -/
def Expr.isStar : Expr → Bool
  | .star _ => true
  | .allFields _ => true
  | .subquery query => query.isStar
  | _ => false

/-- Whether some output of the query is a star. -/
def Query.isStar : Query → Bool
  | .select _ outputs _ _ _ => anyStar outputs
  | .combined _ _ left right => left.isStar || right.isStar
  | .paren _ inner _ => inner.isStar
  | .values _ => false

/-- Whether some output of the list is a star. -/
def anyStar : List Expr → Bool
  | [] => false
  | output :: rest => output.isStar || anyStar rest

end

/-- The value behind an output's name. -/
def Expr.unaliased : Expr → Expr
  | aliased operand _ => operand
  | expr => expr

/-- Whether the value is a literal: a number, a plain string or a truth value, also under
casts, minus signs and parentheses. -/
def Expr.isLiteral : Expr → Bool
  | number _ => true
  | string _ => true
  | boolean _ => true
  | cast operand => operand.isLiteral
  | negate operand => operand.isLiteral
  | paren operand => operand.isLiteral
  | _ => false

end QueryTyping.Sql
