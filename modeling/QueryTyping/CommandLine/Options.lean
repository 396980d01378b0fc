import QueryTyping.Text.Blank

/-!
# Options on a command line

Words that start with a hyphen are options: long ones after two hyphens, with
their value behind an equals sign or in the next word, and short ones of one
letter, several of which may share a word.  Two hyphens alone end the options.
-/

namespace QueryTyping.CommandLine

/-- What an option does to the settings that a command line gives. -/
inductive Effect (α : Type) where
  | set (change : α → α)
  | store (change : String → α → α)

structure CommandOption (α : Type) where
  /-- The ways to write it, hyphens included. -/
  names : List String
  effect : Effect α

namespace CommandOption

variable {α : Type}

def effect? (options : List (CommandOption α)) (name : String) : Option (Effect α) :=
  (options.find? fun option => option.names.contains name).map (·.effect)

/-- Read one long option.  The result counts the words that it takes from those behind it. -/
def readLong (effect : Effect α) (attached : Option String) (next : Option String) (given : α) :
    Option (α × Nat) :=
  match effect, attached, next with
  | .set change, none, _ => some (change given, 0)
  | .set _, some _, _ => none
  | .store change, some value, _ => some (change value given, 0)
  | .store change, none, some value => some (change value given, 1)
  | .store _, none, none => none

/-- Read the letters of one word as short options; what stands behind an option with a value is
the value. -/
def readShort (options : List (CommandOption α)) (next : Option String) :
    List Char → α → Option (α × Nat)
  | [], given => some (given, 0)
  | letter :: rest, given =>
    match effect? options (String.ofList ['-', letter]) with
    | none => none
    | some (.set change) => readShort options next rest (change given)
    | some (.store change) =>
      if rest.isEmpty then next.map fun value => (change value given, 1)
      else some (change (String.ofList rest) given, 0)

/-- Read the options in one word. -/
def readWord (options : List (CommandOption α)) (word : List Char) (next : Option String)
    (given : α) : Option (α × Nat) :=
  let name := word.takeWhile (· ≠ '=')
  let attached :=
    match word.dropWhile (· ≠ '=') with
    | _ :: value => some (String.ofList value)
    | [] => none
  let isLong := (word.drop 1).head? = some '-'
  match if isLong then effect? options (String.ofList name) else none with
  | some effect => readLong effect attached next given
  | none => if isLong then none else readShort options next (word.drop 1) given

/-- Read a command line up to the first word that is no option, or with such words anywhere in
it.  The result has the words that are no options; there is none if an option is unknown, lacks
its value, or has one that it does not take. -/
def read (options : List (CommandOption α)) (wordsAnywhere : Bool) :
    List String → α → Option (α × List String)
  | [], given => some (given, [])
  | "--" :: rest, given => some (given, rest)
  | word :: rest, given =>
    if word.toList.head? = some '-' && word ≠ "-" then
      match readWord options word.toList rest.head? given with
      | none => none
      | some (given, taken) => read options wordsAnywhere (rest.drop taken) given
    else if wordsAnywhere then
      (read options wordsAnywhere rest given).map fun (given, others) => (given, word :: others)
    else some (given, word :: rest)
termination_by arguments => arguments.length
decreasing_by all_goals simp; try omega

end CommandOption

end QueryTyping.CommandLine
