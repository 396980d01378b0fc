import QueryTyping.Text.Blank

/-!
# Text styles

The look of text on a terminal with 256 colors, and the control sequence that
switches it on.
-/

namespace QueryTyping.Terminal

open Text

/-- What text can have besides a color. -/
inductive Attribute where
  | bold
  | dim
  | italic
  | underline
  | blink
  | blinkFast
  | reverse
  | conceal
  | strike
  | underlineTwice
  | frame
  | encircle
  | overline
  deriving DecidableEq, Repr

namespace Attribute

def all : List Attribute :=
  [bold, dim, italic, underline, blink, blinkFast, reverse, conceal, strike, underlineTwice, frame,
    encircle, overline]

def code : Attribute → Nat
  | bold => 1
  | dim => 2
  | italic => 3
  | underline => 4
  | blink => 5
  | blinkFast => 6
  | reverse => 7
  | conceal => 8
  | strike => 9
  | underlineTwice => 21
  | frame => 51
  | encircle => 52
  | overline => 53

def name : Attribute → String
  | bold => "bold"
  | dim => "dim"
  | italic => "italic"
  | underline => "underline"
  | blink => "blink"
  | blinkFast => "blink2"
  | reverse => "reverse"
  | conceal => "conceal"
  | strike => "strike"
  | underlineTwice => "underline2"
  | frame => "frame"
  | encircle => "encircle"
  | overline => "overline"

/-- The short name of some attributes. -/
def shortName? : Attribute → Option String
  | bold => some "b"
  | dim => some "d"
  | italic => some "i"
  | underline => some "u"
  | reverse => some "r"
  | conceal => some "c"
  | strike => some "s"
  | underlineTwice => some "uu"
  | overline => some "o"
  | _ => none

def ofName? (word : String) : Option Attribute :=
  all.find? fun a => a.name = word || a.shortName? = some word

end Attribute

/-- A color: the terminal's own, or one of the palette. -/
inductive Color where
  | standard
  | palette (number : Nat)
  deriving DecidableEq, Repr

namespace Color

def names : List String :=
  ["black", "red", "green", "yellow", "blue", "magenta", "cyan", "white", "bright_black",
    "bright_red", "bright_green", "bright_yellow", "bright_blue", "bright_magenta", "bright_cyan",
    "bright_white"]

/-- The color of that name; a palette number stands in parentheses behind the word. -/
def ofName? (word : String) : Option Color :=
  if word = "default" then some standard
  else
    match names.findIdx? (· = word) with
    | some number => some (palette number)
    | none =>
      match (word.toList.take 6, word.toList.drop 6, word.toList.getLast?) with
      | (['c', 'o', 'l', 'o', 'r', '('], rest, some ')') =>
        let digits := rest.dropLast
        let number := digits.foldl (fun n c => n * 10 + (c.toNat - '0'.toNat)) 0
        if 1 ≤ digits.length && digits.length ≤ 3 && digits.all Char.isDigit && number < 256 then
          some (palette number)
        else none
      | _ => none

def codes (background : Bool) : Color → List Nat
  | standard => [if background then 49 else 39]
  | palette number =>
    if number < 8 then [(if background then 40 else 30) + number]
    else if number < 16 then [(if background then 92 else 82) + number]
    else [if background then 48 else 38, 5, number]

end Color

/-- A style says of some attributes whether text has them, and may give colors. -/
structure Style where
  attributes : List (Attribute × Bool) := []
  color : Option Color := none
  background : Option Color := none
  deriving DecidableEq, Repr

namespace Style

def plain : Style := {}

def bold : Style := { attributes := [(.bold, true)] }

def italic : Style := { attributes := [(.italic, true)] }

/-- A style with another on top, which prevails where it says something. -/
def under (low high : Style) : Style :=
  { attributes := high.attributes ++ low.attributes.filter fun (a, _) =>
      (high.attributes.lookup a).isNone
    color := high.color.orElse fun _ => low.color
    background := high.background.orElse fun _ => low.background }

/-- The numbers of the sequence that switches the style on. -/
def codes (style : Style) : List Nat :=
  (Attribute.all.filter fun a => style.attributes.lookup a = some true).map
      Attribute.code ++
    (style.color.map (Color.codes false)).getD [] ++
    (style.background.map (Color.codes true)).getD []

/-- Text in a style. -/
def render (style : Style) (s : List Char) : List Char :=
  let codes := style.codes
  if s.isEmpty || codes.isEmpty then s
  else '\x1b' :: '[' :: (";".intercalate (codes.map toString)).toList ++ ['m'] ++ s ++
    ['\x1b', '[', '0', 'm']

/-- Set an attribute, replacing what was said of it. -/
def set (style : Style) (a : Attribute) (on : Bool) : Style :=
  style.under { attributes := [(a, on)] }

/-- The style that words describe: attributes, also negated, and colors, also of the
background. -/
def ofWords? : Style → List String → Option Style
  | style, [] => some style
  | style, word :: rest =>
    let word := word.map Char.toLower
    if word = "on" then
      match rest with
      | color :: rest => do ofWords? { style with background := some (← Color.ofName? color) } rest
      | [] => none
    else if word = "not" then
      match rest with
      | name :: rest => do ofWords? (style.set (← Attribute.ofName? name) false) rest
      | [] => none
    else
      match Attribute.ofName? word with
      | some a => ofWords? (style.set a true) rest
      | none => do ofWords? { style with color := some (← Color.ofName? word) } rest

/-- The style with its attributes in their order. -/
def normal (style : Style) : Style :=
  { style with attributes := Attribute.all.filterMap fun a =>
      (style.attributes.lookup a).map fun on => (a, on) }

/-- Styles with a name of their own. -/
def named? (name : String) : Option Style :=
  match name with
  | "reset" => some { attributes := Attribute.all.map fun a => (a, false) }
  | "bright" => some { attributes := [(.dim, false)] }
  | "strong" => some bold
  | "code" => some { attributes := [(.reverse, true), (.bold, true)] }
  | "emphasize" => some italic
  | "none" => some plain
  | _ => none

/-- The style of a definition, if it makes sense. -/
def ofText? (definition : String) : Option Style :=
  match named? definition with
  | some style => some style
  | none => ofWords? plain ((words definition.toList).map String.ofList)

end Style

end QueryTyping.Terminal
