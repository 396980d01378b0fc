import QueryTyping.Datum

/-!
# TOML documents

A document while it is read: a tree of tables that remembers which of them are
closed.  A table is declared once; what a value writes is finished, and nothing
is added to it.
-/

namespace QueryTyping.Toml

/-- How a table came to be. -/
inductive Opening where
  /-- As part of the path to another table. -/
  | onTheWay
  /-- By a header. -/
  | declared
  /-- By a dotted key under the header of that number. -/
  | dotted (header : Nat)
  deriving DecidableEq, Repr

inductive Node where
  /-- A finished value. -/
  | value (datum : Datum)
  | table (opening : Opening) (members : List (String × Node))
  /-- An array of tables, the last one in front. -/
  | tables (last : List (String × Node)) (before : List (List (String × Node)))
  deriving Inhabited

abbrev Members := List (String × Node)

namespace Members

/-- Replace the node of a key, or put it behind all others. -/
def put (key : String) (node : Node) : Members → Members
  | [] => [(key, node)]
  | (name, old) :: rest =>
    if name = key then (name, node) :: rest else (name, old) :: put key node rest

end Members

namespace Node

mutual

/-- The value of a finished node. -/
def datum : Node → Datum
  | value datum => datum
  | table _ members => .table (data members)
  | tables last before => .list ((lists before).reverse ++ [.table (data last)])

def data : List (String × Node) → List (String × Datum)
  | [] => []
  | (key, node) :: rest => (key, datum node) :: data rest

def lists : List (List (String × Node)) → List Datum
  | [] => []
  | members :: rest => .table (data members) :: lists rest

end

/-- The members that a key path leads on through: those of a table, or of the last table of an
array. -/
def members? : Node → Option Members
  | value _ => none
  | table _ members => some members
  | tables last _ => some last

def withMembers (members : Members) : Node → Node
  | value datum => value datum
  | table opening _ => table opening members
  | tables _ before => tables members before

end Node

/-- Change the table that a path of keys leads to, and create the tables that are missing.  Each
node on the way is admitted first. -/
def Members.within (pass : Node → Option Node) (change : Members → Option Members) :
    List String → Members → Option Members
  | [], members => change members
  | key :: path, members => do
    let node ← pass ((members.lookup key).getD (.table .onTheWay []))
    let inner ← Members.within pass change path (← node.members?)
    return members.put key (node.withMembers inner)

/-- A document, and the header that its next lines belong to. -/
structure Document where
  members : Members := []
  /-- The path of the current header. -/
  path : List String := []
  /-- The number of headers so far. -/
  headers : Nat := 0

namespace Document

/-- Any node may be passed on the way to a header's table. -/
def passing (node : Node) : Option Node := some node

/-- A header that declares a table. -/
def declare (document : Document) (path : List String) : Option Document := do
  let key ← path.getLast?
  let members ← Members.within passing (fun members =>
    match members.lookup key with
    | none => some (Members.put key (.table .declared []) members)
    | some (.table .onTheWay inner) => some (Members.put key (.table .declared inner) members)
    | some _ => none) path.dropLast document.members
  return { members, path, headers := document.headers + 1 }

/-- A header that adds a table to an array of tables. -/
def append (document : Document) (path : List String) : Option Document := do
  let key ← path.getLast?
  let members ← Members.within passing (fun members =>
    match members.lookup key with
    | none => some (Members.put key (.tables [] []) members)
    | some (.tables last before) => some (Members.put key (.tables [] (last :: before)) members)
    | some _ => none) path.dropLast document.members
  return { members, path, headers := document.headers + 1 }

/-- A dotted key opens tables that no header has declared and no other header's keys have
opened. -/
def opening (header : Nat) : Node → Option Node
  | .table .onTheWay members => some (.table (.dotted header) members)
  | .table (.dotted other) members =>
    if other = header then some (.table (.dotted header) members) else none
  | _ => none

/-- Give a new key its value. -/
def assign (key : String) (value : Datum) (members : Members) : Option Members :=
  match members.lookup key with
  | none => some (members.put key (.value value))
  | some _ => none

/-- A key with its value under the current header. -/
def set (document : Document) (path : List String) (value : Datum) : Option Document := do
  let key ← path.getLast?
  let members ← Members.within passing
    (Members.within (opening document.headers) (assign key value) path.dropLast)
    document.path document.members
  return { document with members }

end Document

end QueryTyping.Toml
