import QueryTyping.Terminal.Style
import QueryTyping.Text.CellWidth

/-!
# Styled text

Text with styles on parts of it, cut into lines, padded and cut to a width.  A
segment is a run of text in one style; it is what is written to the terminal.
-/

namespace QueryTyping.Terminal

open Text

/-- A part of a text and its style. -/
structure Span where
  start : Nat
  stop : Nat
  style : Style
  deriving DecidableEq, Repr

structure StyledText where
  chars : List Char
  /-- The style of the whole text, unless it is plain. -/
  base : Style := {}
  /-- Styles of parts; later ones prevail. -/
  spans : List Span := []
  deriving Repr

structure Segment where
  chars : List Char
  style : Style := {}
  deriving DecidableEq, Repr

namespace StyledText

/-- Controls that would move the cursor are left out of texts. -/
def isLeftOut (c : Char) : Bool :=
  c = '\x07' || c = '\x08' || c = '\x0b' || c = '\x0c' || c = '\x0d'

def cells (text : StyledText) : Nat := Text.cells text.chars

/-- The characters from one place up to another, with what the spans say of them. -/
def slice (text : StyledText) (start stop : Nat) : StyledText :=
  { text with
    chars := (text.chars.take stop).drop start
    spans := text.spans.filterMap fun span =>
      let first := max span.start start
      let last := min span.stop stop
      if first < last then some { span with start := first - start, stop := last - start }
      else none }

/-- The pieces between places, from a place on. -/
def pieces (text : StyledText) (start : Nat) : List Nat → List StyledText
  | [] => [text.slice start text.chars.length]
  | place :: rest => text.slice start place :: text.pieces place rest

/-- The pieces between places; without places the text itself. -/
def divide (text : StyledText) (places : List Nat) : List StyledText :=
  if places.isEmpty then [text] else text.pieces 0 places

/-- The places of the line ends. -/
def breaks (s : List Char) : List Nat := (s.zipIdx.filter fun (c, _) => c = '\n').map (·.2)

/-- The lines of a text, one more than it has line ends. -/
def lines (text : StyledText) : List StyledText :=
  let rec go (start : Nat) : List Nat → List StyledText
    | [] => [text.slice start text.chars.length]
    | place :: rest => text.slice start place :: go (place + 1) rest
  if text.chars.contains '\n' then go 0 (breaks text.chars) else [text]

/-- Replace the characters, and cut the spans to them. -/
def withChars (text : StyledText) (chars : List Char) : StyledText :=
  { text with
    chars
    spans := text.spans.filterMap fun span =>
      if span.start < chars.length then some { span with stop := min span.stop chars.length }
      else none }

/-- The pieces of a text that end with a tab, and what stands behind the last tab. -/
def tabPieces (text : StyledText) : List StyledText :=
  let pieces := text.pieces 0 ((text.chars.zipIdx.filter fun (c, _) => c = '\t').map (·.2 + 1))
  if text.chars.getLast? = some '\t' then pieces.dropLast else pieces

/-- A piece that ends with a tab, with spaces up to the next multiple of eight cells in its
place.  Spans that reach the end go on to the new one. -/
def withTabSpaces (position : Nat) (piece : StyledText) : StyledText :=
  if piece.chars.getLast? = some '\t' then
    let chars := piece.chars.dropLast ++ [' ']
    let stop := position + Text.cells chars
    let added := (8 - stop % 8) % 8
    { piece with
      chars := chars ++ spaces added
      spans := piece.spans.map fun span =>
        if chars.length ≤ span.stop then { span with stop := span.stop + added } else span }
  else piece

/-- Put pieces together again.  The style of the whole becomes one of each piece. -/
def joined (base : Style) (start : Nat) : List StyledText → StyledText
  | [] => { chars := [], base }
  | piece :: rest =>
    let stop := start + piece.chars.length
    let others := joined base stop rest
    let whole := if base = {} then [] else [⟨start, stop, base⟩]
    { base
      chars := piece.chars ++ others.chars
      spans := whole ++ piece.spans.map (fun span =>
        { span with start := span.start + start, stop := span.stop + start }) ++ others.spans }

def expandTabs (text : StyledText) : StyledText :=
  let rec go (position : Nat) : List StyledText → List StyledText
    | [] => []
    | piece :: rest =>
      let piece := withTabSpaces position piece
      piece :: go (position + piece.cells) rest
  if text.chars.contains '\t' then joined text.base 0 (go 0 text.tabPieces) else text

/-- Drop white space at the end as far as the text is longer than a width. -/
def dropExcessBlank (width : Nat) (text : StyledText) : StyledText :=
  let length := text.chars.length
  let blank := (text.chars.reverse.takeWhile isBlank).length
  if length ≤ width then text
  else text.withChars (text.chars.take (length - min blank (length - width)))

/-- Cut a text that is wider than a width; its end can be marked by an ellipsis. -/
def truncate (ellipsis : Bool) (width : Nat) (text : StyledText) : StyledText :=
  if text.cells ≤ width then text
  else if !ellipsis then text.withChars (fitCells text.chars width)
  else if width = 0 then text.withChars []
  else text.withChars (fitCells text.chars (width - 1) ++ ['…'])

def padRight (width : Nat) (text : StyledText) : StyledText :=
  { text with chars := text.chars ++ spaces (width - text.cells) }

/-- Put a text in the middle of a width. -/
def center (width : Nat) (text : StyledText) : StyledText :=
  let text := (text.withChars (dropRightWhile isBlank text.chars)).truncate false width
  let left := (width - text.cells) / 2
  padRight width
    { text with
      chars := spaces left ++ text.chars
      spans := text.spans.map fun span =>
        { span with start := span.start + left, stop := span.stop + left } }

/-- The words of a text, each with the white space around it; white space alone is no word. -/
def spacedWords : Nat → List Char → List (List Char)
  | 0, _ => []
  | steps + 1, s =>
    let front := s.takeWhile isBlank
    let rest := s.dropWhile isBlank
    if rest.isEmpty then []
    else
      let word := rest.takeWhile (!isBlank ·)
      let rest := rest.dropWhile (!isBlank ·)
      (front ++ word ++ rest.takeWhile isBlank) :: spacedWords steps (rest.dropWhile isBlank)

/-- Cut a word into pieces that fit a width. -/
def chop (width : Nat) : Nat → List Char → List Char → List (List Char)
  | _, piece, [] => [piece.reverse]
  | taken, piece, c :: rest =>
    if width < taken + cellWidth c then piece.reverse :: chop width (cellWidth c) [c] rest
    else chop width (taken + cellWidth c) (c :: piece) rest

/-- The places where the pieces of a word start, except at the start of the text, and the cells
that the last piece takes. -/
def foldPlaces (start : Nat) : List (List Char) → List Nat × Nat
  | [] => ([], 0)
  | [last] => (if start = 0 then [] else [start], Text.cells last)
  | piece :: next :: rest =>
    let (places, taken) := foldPlaces (start + piece.length) (next :: rest)
    (if start = 0 then places else start :: places, taken)

/-- The places where a line has to be broken to fit a width: between words, or within a word that
is too long for a line. -/
def breakPlaces (width : Nat) (start taken : Nat) : List (List Char) → List Nat
  | [] => []
  | word :: rest =>
    let length := Text.cells (dropRightWhile isBlank word)
    let next := start + word.length
    if taken + length ≤ width then breakPlaces width next (taken + Text.cells word) rest
    else if width < length then
      let (places, last) := foldPlaces start (chop width 0 [] word)
      places ++ breakPlaces width next last rest
    else if taken ≠ 0 && start ≠ 0 then start :: breakPlaces width next (Text.cells word) rest
    else breakPlaces width next taken rest

/-- The lines of a text, broken where they are too long and put in the middle. -/
def centeredLines (width : Nat) (text : StyledText) : List StyledText :=
  text.lines.flatMap fun line =>
    let line := line.expandTabs
    let words := spacedWords line.chars.length line.chars
    (line.divide (breakPlaces width 0 0 words)).map fun line =>
      ((line.dropExcessBlank width).center width).truncate false width

/-- The lines of a text, each cut with an ellipsis and padded to a width. -/
def paddedLines (width : Nat) (text : StyledText) : List StyledText :=
  text.lines.map fun line =>
    ((line.expandTabs.dropExcessBlank width).truncate true width).padRight width

/-- The style at a place. -/
def styleAt (text : StyledText) (place : Nat) : Style :=
  (text.spans.filter fun span => span.start ≤ place && place < span.stop).foldl
    (fun style span => style.under span.style) text.base

/-- The segments of a text: it is cut wherever a span starts or stops. -/
def segments (text : StyledText) : List Segment :=
  let stops := text.spans.flatMap fun span => [span.start, span.stop]
  let places := (List.range (text.chars.length - 1)).filterMap fun place =>
    if stops.contains (place + 1) then some (place + 1) else none
  let rec go (start : Nat) : List Nat → List Segment
    | [] => [⟨text.chars.drop start, text.styleAt start⟩]
    | place :: rest =>
      ⟨(text.chars.take place).drop start, text.styleAt start⟩ :: go place rest
  if text.chars.isEmpty then [] else go 0 places

/-- The width of the widest line, where any kind of line end ends one. -/
def naturalWidth (text : StyledText) : Nat :=
  let isBreak (c : Char) : Bool :=
    c = '\n' || (0x1c ≤ c.toNat && c.toNat ≤ 0x1e) || c.toNat = 0x85 || c.toNat = 0x2028 ||
      c.toNat = 0x2029
  let rec go (line : List Char) : List Char → Nat
    | [] => Text.cells line.reverse
    | c :: rest => if isBreak c then max (Text.cells line.reverse) (go [] rest) else go (c :: line) rest
  go [] text.chars

end StyledText

/-- A line of segments. -/
abbrev SegmentLine := List Segment

namespace SegmentLine

def cells (line : SegmentLine) : Nat := Text.total (line.map fun segment => Text.cells segment.chars)

/-- Cut a line to a width; the segment at the edge is cut. -/
def crop (width : Nat) : SegmentLine → SegmentLine
  | [] => []
  | segment :: rest =>
    let taken := Text.cells segment.chars
    if taken < width then segment :: crop (width - taken) rest
    else [{ segment with chars := fitCells segment.chars width }]

/-- A line made as wide as that: cut, or with a segment of spaces behind it. -/
def fit (width : Nat) (style : Style) (line : SegmentLine) : SegmentLine :=
  if line.cells < width then line ++ [⟨spaces (width - line.cells), style⟩]
  else if width < line.cells then crop width line
  else line

def render (line : SegmentLine) : List Char :=
  line.flatMap fun segment => segment.style.render segment.chars

end SegmentLine

end QueryTyping.Terminal
