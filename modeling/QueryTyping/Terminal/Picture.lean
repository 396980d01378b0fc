import QueryTyping.Terminal.PictureNames
import QueryTyping.Text.Blank
import QueryTyping.Text.LowerCase

/-!
# Pictures

A name between colons is a code that stands for a picture.  Codes are read from
left to right; a code whose name is unknown stands for itself.
-/

namespace QueryTyping.Terminal

open Text

namespace Picture

/-- The pictures that are drawn in one way, by their code points, and their names. -/
def drawnNames : List (List Nat × String) :=
  symbolNames ++ landscapeNames ++ creatureNames ++ objectNames ++ faceNames ++ laterNames

/-- The code points of a picture that is drawn in one way. -/
def drawn? (name : List Char) : Option (List Nat) :=
  (drawnNames.find? fun (_, names) => (splitOnChar ' ' names.toList).contains name).map (·.1)

/-- The code points of a flag: the letters of its region, as regional indicators. -/
def flag? (name : List Char) : Option (List Nat) :=
  (regionNames.find? fun (_, region) =>
    name = region.toList || name = "flag_for_".toList ++ region.toList).map fun (letters, _) =>
      letters.toList.map fun c => 0x1f1e6 + (c.toNat - 'a'.toNat)

/-- The tones of skin, and the code points that ask for them. -/
def tones : List (String × Nat) :=
  [("light", 0x1f3fb), ("medium-light", 0x1f3fc), ("medium", 0x1f3fd), ("medium-dark", 0x1f3fe),
    ("dark", 0x1f3ff)]

/-- A picture in a tone of skin.  The tone stands behind the first code point, in place of a
variation selector. -/
def withTone (tone : Nat) : List Nat → List Nat
  | first :: 0xfe0f :: rest => first :: tone :: rest
  | first :: rest => first :: tone :: rest
  | [] => []

/-- The code points of a picture whose name ends in a tone of skin. -/
def toned? (name : List Char) : Option (List Nat) :=
  tones.findSome? fun (tone, code) =>
    let ending := '_' :: tone.toList ++ "_skin_tone".toList
    let base := name.take (name.length - ending.length)
    if ending.isSuffixOf name && tonedNames.contains (String.ofList base) then
      (drawn? base).map (withTone code)
    else none

/-- The code points of the picture of that name. -/
def named? (name : List Char) : Option (List Nat) :=
  drawn? name <|> flag? name <|> toned? name

/-- How a picture can be asked to look, and the variation selectors for it. -/
def looks : List (String × Nat) := [("-emoji", 0xfe0f), ("-text", 0xfe0e)]

/-- What a code stands for: the picture of its name, in any case, with a look that the name may
end in. -/
def ofCode? (code : List Char) : Option (List Char) :=
  let look := looks.find? fun (ending, _) => ending.toList.isSuffixOf code
  let name := code.take (code.length - (look.map (·.1.length)).getD 0)
  (named? (lowerFrom [] name)).map fun picture =>
    (picture ++ (look.map (·.2)).toList).map Char.ofNat

/-- A part of a text with codes. -/
inductive Token where
  | char (c : Char)
  /-- What stands between two colons, without white space. -/
  | code (s : List Char)
  deriving DecidableEq, Repr

namespace Token

def written : Token → List Char
  | char c => [c]
  | code s => ':' :: s ++ [':']

def shown (token : Token) : List Char :=
  match token with
  | char c => [c]
  | code s => (ofCode? s).getD token.written

end Token

/-- The parts of a text, with what was read behind a colon that may start a code, latest in
front. -/
def tokensFrom : Option (List Char) → List Char → List Token
  | none, [] => []
  | some read, [] => (':' :: read.reverse).map .char
  | none, c :: s => if c = ':' then tokensFrom (some []) s else .char c :: tokensFrom none s
  | some read, c :: s =>
    if c = ':' then .code read.reverse :: tokensFrom none s
    else if isBlank c then (':' :: read.reverse ++ [c]).map .char ++ tokensFrom none s
    else tokensFrom (some (c :: read)) s

def tokens (s : List Char) : List Token := tokensFrom none s

/-- The text with pictures in place of their codes. -/
def withPictures (s : List Char) : List Char := (tokens s).flatMap Token.shown

end Picture

end QueryTyping.Terminal
