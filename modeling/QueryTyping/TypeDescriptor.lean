/-!
# Type descriptors

The identity of a database type.  An array is spelled after its element.
-/

namespace QueryTyping

inductive TypeKind where
  | base
  | array
  | enum
  | composite
  | domain
  | pseudo
  | range
  | multirange
  deriving DecidableEq, Repr, Inhabited

namespace TypeKind

def text : TypeKind → String
  | base => "base"
  | array => "array"
  | enum => "enum"
  | composite => "composite"
  | domain => "domain"
  | pseudo => "pseudo"
  | range => "range"
  | multirange => "multirange"

def all : List TypeKind := [base, array, enum, composite, domain, pseudo, range, multirange]

/-- The kind of that name. -/
def ofText? (word : String) : Option TypeKind := all.find? fun kind => kind.text = word

/-- The kind behind a letter of the catalog. -/
def ofCode : String → TypeKind
  | "c" => composite
  | "d" => domain
  | "e" => enum
  | "p" => pseudo
  | "r" => range
  | "m" => multirange
  | _ => base

theorem ofText?_text (kind : TypeKind) : ofText? kind.text = some kind := by
  cases kind <;> decide

end TypeKind

/-- A type, with the type of its elements if it has any. -/
inductive TypeDescriptor where
  | plain (oid : Int) (name : String) (kind : TypeKind)
  | derived (oid : Int) (name : String) (kind : TypeKind) (elem : TypeDescriptor)
  deriving DecidableEq, Repr, Inhabited

namespace TypeDescriptor

def oid : TypeDescriptor → Int
  | plain oid _ _ => oid
  | derived oid _ _ _ => oid

def name : TypeDescriptor → String
  | plain _ name _ => name
  | derived _ name _ _ => name

def kind : TypeDescriptor → TypeKind
  | plain _ _ kind => kind
  | derived _ _ kind _ => kind

def elem? : TypeDescriptor → Option TypeDescriptor
  | plain _ _ _ => none
  | derived _ _ _ elem => some elem

/-- The spelling in SQL: an array is its element with brackets. -/
def display : TypeDescriptor → String
  | plain _ name _ => name
  | derived _ name kind elem => if kind = .array then elem.display ++ "[]" else name

end TypeDescriptor

end QueryTyping
