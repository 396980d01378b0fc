import QueryTyping.Terminal.Picture
import QueryTyping.Terminal.StyledText

/-!
# Markup

Styles within text, written as tags in brackets: `[bold]` opens a style, `[/bold]`
closes it, and `[/]` closes the latest.  A backslash before a tag takes its
meaning away.  A bracket that starts no tag stands for itself.  In the text
between tags the codes of pictures are read.
-/

namespace QueryTyping.Terminal

open Text

namespace Markup

/-- Whether a tag can start with the character. -/
def startsTag (c : Char) : Bool :=
  ('a' ≤ c && c ≤ 'z') || c = '#' || c = '/' || c = '@'

/-- The inside of a tag behind its opening bracket, and the rest. -/
def tag? (s : List Char) : Option (List Char × List Char) :=
  match s with
  | c :: rest =>
    if startsTag c then
      let inside := rest.takeWhile fun d => d ≠ '[' && d ≠ ']'
      match rest.dropWhile fun d => d ≠ '[' && d ≠ ']' with
      | ']' :: after => some (c :: inside, after)
      | _ => none
    else none
  | [] => none

/-- A part of a text with markup. -/
inductive Piece where
  | plain (s : List Char)
  | tag (inside : List Char)
  deriving Repr

/-- Plain text that was read so far, as a piece. -/
def flushed (read : List Char) (rest : List Piece) : List Piece :=
  if read.isEmpty then rest else .plain read.reverse :: rest

/-- The pieces of a text. -/
def pieces : Nat → List Char → List Char → List Piece
  | 0, read, _ => flushed read []
  | _ + 1, read, [] => flushed read []
  | steps + 1, read, c :: s =>
    let escapes := (c :: s).takeWhile (· = '\\')
    match (c :: s).drop escapes.length with
    | '[' :: behind =>
      match tag? behind with
      | some (inside, rest) =>
        let literal := List.replicate (escapes.length / 2) '\\'
        let after :=
          if escapes.length % 2 = 1 then
            .plain ('[' :: inside ++ [']']) :: pieces steps [] rest
          else .tag inside :: pieces steps [] rest
        flushed read (flushed literal after)
      | none =>
        if escapes.isEmpty then pieces steps (c :: read) s
        else pieces steps (escapes ++ read) ('[' :: behind)
    | _ =>
      if escapes.isEmpty then pieces steps (c :: read) s
      else pieces steps (escapes ++ read) (s.drop (escapes.length - 1))

/-- A backslash before a bracket is not shown. -/
def unescaped : List Char → List Char
  | '\\' :: '[' :: rest => '[' :: unescaped rest
  | c :: rest => c :: unescaped rest
  | [] => []

/-- What a tag's name stands for: a style, however it is written, or a word. -/
inductive TagName where
  | style (style : Style)
  | word (s : List Char)
  deriving DecidableEq, Repr

def TagName.ofChars (s : List Char) : TagName :=
  match Style.ofWords? {} ((words s).map String.ofList) with
  | some found => .style found.normal
  | none => .word ((trim s).map Char.toLower)

/-- An open tag: where it starts, its name and its style. -/
structure OpenTag where
  start : Nat
  name : TagName
  style : Style

/-- The name of a tag and the definition of its style; what stands behind an equals sign is part
of the definition. -/
def tagParts (inside : List Char) : List Char × List Char :=
  let name := inside.takeWhile (· ≠ '=')
  match inside.dropWhile (· ≠ '=') with
  | _ :: parameters => (name, name ++ ' ' :: parameters)
  | [] => (name, name)

/-- A text while its markup is read; tags and spans have the latest in front. -/
structure Reading where
  chars : List Char := []
  openTags : List OpenTag := []
  spans : List Span := []

namespace Reading

def close (reading : Reading) (tag : OpenTag) (others : List OpenTag) : Reading :=
  { reading with
    openTags := others
    spans := ⟨tag.start, reading.chars.length, tag.style⟩ :: reading.spans }

def step (reading : Reading) : Piece → Option Reading
  | .plain s =>
    some { reading with
      chars := reading.chars ++
        (Picture.withPictures (unescaped s)).filter (!StyledText.isLeftOut ·) }
  | .tag inside =>
    match inside with
    | '/' :: name =>
      let name := trim (name.takeWhile (· ≠ '='))
      if name.isEmpty then
        match reading.openTags with
        | tag :: others => some (reading.close tag others)
        | [] => none
      else
        let name := TagName.ofChars name
        match reading.openTags.find? fun tag => tag.name = name with
        | some tag =>
          some (reading.close tag (reading.openTags.eraseP fun tag => tag.name = name))
        | none => none
    | _ =>
      let (name, definition) := tagParts inside
      some { reading with
        openTags := {
          start := reading.chars.length
          name := TagName.ofChars name
          style := (Style.ofText? (String.ofList definition)).getD {} } :: reading.openTags }

/-- The text with its spans.  Tags that are still open end with the text, and of spans that start
together the one closed last comes first. -/
def finish (reading : Reading) (base : Style) : StyledText :=
  let reading := reading.openTags.foldl (fun reading tag => reading.close tag []) reading
  { chars := reading.chars, base
    spans := reading.spans.mergeSort fun a b => a.start ≤ b.start }

end Reading

end Markup

/-- The text that a text with markup stands for, or nothing if a tag closes what is not open. -/
def StyledText.ofMarkup? (base : Style) (s : String) : Option StyledText :=
  let s := s.toList
  ((Markup.pieces (s.length + 1) [] s).foldlM Markup.Reading.step {}).map fun reading =>
    reading.finish base

end QueryTyping.Terminal
