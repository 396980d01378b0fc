import QueryTyping.Text.Blank
import QueryTyping.Text.Utf8

/-!
# Internet addresses

Which texts are addresses of version 4 or 6, as they may stand in brackets in a
connection URL.
-/

namespace QueryTyping.Address

open Text

/-- A number of version 4: up to three digits below 256, without zeros in front. -/
def isOctet (s : List Char) : Bool :=
  !s.isEmpty && s.all Char.isDigit && s.length ≤ 3 && !(1 < s.length && s.head? = some '0') &&
    s.foldl (fun n c => n * 10 + (c.toNat - 48)) 0 ≤ 255

def isVersion4 (s : List Char) : Bool :=
  let parts := splitOnChar '.' s
  parts.length = 4 && parts.all isOctet

/-- A group of version 6: up to four hexadecimal digits. -/
def isGroup (s : List Char) : Bool :=
  !s.isEmpty && s.length ≤ 4 && s.all fun c => (hexValue? c).isSome

/-- The groups of an address of version 6: eight, or fewer around one double colon. -/
def areGroups (parts : List (List Char)) : Bool :=
  let inner := (parts.drop 1).dropLast
  let gaps := inner.filter List.isEmpty
  if gaps.isEmpty then parts.length = 8 && parts.all isGroup
  else
    let before := inner.takeWhile (!·.isEmpty)
    let after := (inner.dropWhile (!·.isEmpty)).drop 1
    let first := parts.head?.getD []
    let last := parts.getLast?.getD []
    let high := if first.isEmpty then before else first :: before
    let low := if last.isEmpty then after else after ++ [last]
    gaps.length = 1 && !(first.isEmpty && !before.isEmpty) && !(last.isEmpty && !after.isEmpty) &&
      high.length + low.length ≤ 7 && high.all isGroup && low.all isGroup

/-- An address of version 6; its end may be written like one of version 4, and a zone may
follow. -/
def isVersion6 (s : List Char) : Bool :=
  let host := s.takeWhile (· ≠ '%')
  let zoned := match s.dropWhile (· ≠ '%') with
    | [] => true
    | _ :: zone => !zone.isEmpty && !zone.contains '%'
  let parts := splitOnChar ':' host
  let last := parts.getLast?.getD []
  let groups :=
    if last.contains '.' then
      if isVersion4 last then some (parts.dropLast ++ [['0'], ['0']]) else none
    else some parts
  zoned && !s.contains '/' && 3 ≤ parts.length &&
    (groups.any fun groups => groups.length ≤ 9 && areGroups groups)

/-- An address of a later version: its number in hexadecimal digits, a point, and more. -/
def isLater : List Char → Bool
  | 'v' :: rest =>
    let number := rest.takeWhile fun c => (hexValue? c).isSome
    match rest.drop number.length with
    | '.' :: more => !number.isEmpty && !more.isEmpty
    | _ => false
  | _ => false

end QueryTyping.Address
