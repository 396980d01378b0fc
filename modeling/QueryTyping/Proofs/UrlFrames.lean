import Mathlib.Data.Bool.AllAny
import Mathlib.Data.List.TakeWhile
import QueryTyping.Proofs.UrlAnatomy

/-!
# URLs around their port

A URL in its long form is `scheme://`, what stands before the host, the host, a
port behind a colon, and then the path and the query.  The port moves none of
the cuts, so the other parts are judged and read alike whatever number stands
there, and also if the port is left out (`ConnectionUrl.PortFrame.fields_eq_ok_iff`).
-/

namespace QueryTyping.ConnectionUrl

open Text
open QueryTyping.QueryFile (dropWhile_run takeWhile_run)

theorem cutFirst_of_notMem {mark : Char} {s : List Char} (absent : mark ∉ s) :
    cutFirst mark s = (s, none) := by
  have unmarked : ∀ c ∈ s, decide (c ≠ mark) = true := by
    intro c inside
    simp only [decide_eq_true_eq]
    rintro rfl
    exact absent inside
  have rest : s.dropWhile (fun c => decide (c ≠ mark)) = [] :=
    List.dropWhile_eq_nil_iff.mpr unmarked
  unfold cutFirst
  rw [rest]

theorem cutLast_of_notMem {mark : Char} {s : List Char} (absent : mark ∉ s) :
    cutLast mark s = (none, s) := by
  have backwards : mark ∉ s.reverse := by simpa using absent
  unfold cutLast
  rw [cutFirst_of_notMem backwards]

/-- A letter and then characters of a scheme. -/
def isScheme : List Char → Bool
  | [] => false
  | c :: rest => isAscii c && c.isAlpha && rest.all isSchemeChar

theorem colon_notMem_of_isScheme {scheme : List Char} (isScheme : isScheme scheme = true) :
    ':' ∉ scheme := by
  cases scheme with
  | nil => exact List.not_mem_nil
  | cons c rest =>
    simp only [ConnectionUrl.isScheme, Bool.and_eq_true, List.all_eq_true] at isScheme
    obtain ⟨⟨-, letter⟩, others⟩ := isScheme
    intro colon
    obtain rfl | inside := List.mem_cons.mp colon
    · exact absurd letter (by decide)
    · exact absurd (others ':' inside) (by decide)

theorem splitScheme_of_isScheme {scheme : List Char} (isScheme : isScheme scheme = true)
    (rest : List Char) : splitScheme (scheme ++ ':' :: rest) = (scheme.map Char.toLower, rest) := by
  unfold splitScheme
  rw [cutFirst_append (colon_notMem_of_isScheme isScheme)]
  cases scheme with
  | nil => cases isScheme
  | cons c others =>
    dsimp only
    exact if_pos isScheme

/-- The characters of a whole number. -/
def IsNumeral (digits : List Char) : Prop := ∀ c ∈ digits, c.isDigit = true ∨ c = '-'

/-- The characters of a whole number have no other meaning in an authority. -/
theorem IsNumeral.plain {digits : List Char} (numeral : IsNumeral digits) :
    ∀ c ∈ digits, c ∉ ['@', '[', ']'] ∧ isEnd c = false ∧ c ∉ disguised := by
  intro c inside
  obtain digit | rfl := numeral c inside
  · have others : ∀ other ∈ ['@', '[', ']', '/', '?', '#'] ++ disguised,
        other.isDigit = false := List.all_iff_forall_prop.mp (by decide)
    have apart : ∀ other ∈ ['@', '[', ']', '/', '?', '#'] ++ disguised, c ≠ other := by
      rintro other listed rfl
      rw [others c listed] at digit
      cases digit
    refine ⟨fun listed => ?_, ?_, fun listed => ?_⟩
    · exact apart c (List.mem_append_left (['/', '?', '#'] ++ disguised) listed) rfl
    · simp [isEnd, apart '/' (by decide), apart '?' (by decide), apart '#' (by decide)]
    · exact apart c (List.mem_append_right _ listed) rfl
  · decide

/-- A URL in its long form but for the port. -/
structure PortFrame where
  scheme : List Char
  /-- What stands before the host: nothing, or a text up to an at sign. -/
  user : List Char
  host : List Char
  /-- The path and the query. -/
  tail : List Char
  isScheme : isScheme scheme = true
  user_ends : user = [] ∨ ∃ info, user = info ++ ['@']
  user_plain : ∀ c ∈ user, isEnd c = false
  host_plain : ∀ c ∈ host, c ≠ '@' ∧ isEnd c = false
  /-- A host that has colons stands in brackets. -/
  host_closed : (':' ∉ host ∧ '[' ∉ host) ∨ ∃ inner, host = '[' :: (inner ++ [']']) ∧ ']' ∉ inner
  tail_ends : ∀ c ∈ tail.head?, isEnd c = true

/-- A part behind its mark, if it is there. -/
def behind (mark : Char) : Option (List Char) → List Char
  | none => []
  | some part => mark :: part

/-- A part is cut off again at its mark. -/
theorem cutFirst_behind {mark : Char} {before : List Char} (absent : mark ∉ before)
    (part : Option (List Char)) : cutFirst mark (before ++ behind mark part) = (before, part) := by
  cases part with
  | none => rw [behind, List.append_nil, cutFirst_of_notMem absent]
  | some part => rw [behind, cutFirst_append absent]

namespace PortFrame

variable (frame : PortFrame) {port : Option (List Char)}

def authority (port : Option (List Char)) : List Char :=
  frame.user ++ (frame.host ++ behind ':' port)

/-- The whole text with a port. -/
def text (port : Option (List Char)) : List Char :=
  frame.scheme ++ ':' :: '/' :: '/' :: (frame.authority port ++ frame.tail)

/-- The host without brackets. -/
def hostText : List Char :=
  match frame.host with
  | '[' :: rest => rest.dropLast
  | host => host

theorem hostText_of_plain (plain : '[' ∉ frame.host) : frame.hostText = frame.host := by
  unfold hostText
  split
  next rest same =>
    rw [same] at plain
    exact absurd List.mem_cons_self plain
  · rfl

theorem hostText_of_bracketed {inner : List Char}
    (bracketed : frame.host = '[' :: (inner ++ [']'])) : frame.hostText = inner := by
  simp [hostText, bracketed]

/-- The fields that the URL gives with a port. -/
def fields (port : Option Nat) : UrlFields where
  host := if frame.hostText.isEmpty then none else some (hostName frame.hostText)
  port := port
  dbname := decoded?
    (dropRightWhile (· = '/') ((splitQuery frame.tail).1.dropWhile (· = '/')))
  user := (credentials frame.user).1.bind decoded?
  password := (credentials frame.user).2.bind decoded?
  sslmode := (queryValues "sslmode" (splitQuery frame.tail).2).head?

/-- Everything but the port is in order. -/
structure InOrder : Prop where
  brackets : checkBrackets (frame.authority none) = .ok ()
  characters : checkCharacters (frame.authority none) = .ok ()
  scheme : checkScheme (frame.scheme.map Char.toLower) = .ok ()

section Cuts

variable (numeral : ∀ digits ∈ port, IsNumeral digits)

include numeral

theorem port_plain :
    ∀ c ∈ behind ':' port, c ∉ ['@', '[', ']'] ∧ isEnd c = false ∧ c ∉ disguised := by
  cases port with
  | none => simp [behind]
  | some digits =>
    intro c inside
    obtain rfl | inside := List.mem_cons.mp inside
    · decide
    · exact (numeral digits rfl).plain c inside

/-- Behind the last at sign stand the host and the port. -/
theorem at_notMem : '@' ∉ frame.host ++ behind ':' port := by
  intro inside
  obtain inHost | inPort := List.mem_append.mp inside
  · exact (frame.host_plain _ inHost).1 rfl
  · exact absurd (port_plain numeral _ inPort).1 (by decide)

theorem cutLast_authority :
    cutLast '@' (frame.authority port) =
      ((cutLast '@' frame.user).1, frame.host ++ behind ':' port) := by
  have atless := frame.at_notMem numeral
  unfold authority
  obtain none | ⟨info, user⟩ := frame.user_ends
  · rw [none, List.nil_append, cutLast_of_notMem atless, cutLast_of_notMem List.not_mem_nil]
  · rw [user, List.append_assoc, List.singleton_append, cutLast_append atless,
      cutLast_append List.not_mem_nil]

theorem credentials_authority :
    credentials (frame.authority port) = credentials frame.user := by
  unfold credentials
  rw [frame.cutLast_authority numeral]

omit numeral in
theorem cutFirst_opened {inner : List Char} (bracketed : frame.host = '[' :: (inner ++ [']'])) :
    cutFirst '[' (frame.host ++ behind ':' port) =
      ([], some (inner ++ ']' :: behind ':' port)) := by
  have opened : frame.host ++ behind ':' port = [] ++ '[' :: (inner ++ ']' :: behind ':' port) := by
    simp [bracketed]
  rw [opened, cutFirst_append List.not_mem_nil]

theorem cutFirst_unopened (plain : '[' ∉ frame.host) :
    cutFirst '[' (frame.host ++ behind ':' port) = (frame.host ++ behind ':' port, none) := by
  apply cutFirst_of_notMem
  intro inside
  obtain inHost | inPort := List.mem_append.mp inside
  · exact plain inHost
  · exact absurd (port_plain numeral _ inPort).1 (by decide)

theorem place_authority :
    place (frame.authority port) = (frame.hostText, port.getD []) := by
  unfold place
  rw [frame.cutLast_authority numeral]
  dsimp only
  obtain ⟨colonless, plain⟩ | ⟨inner, bracketed, closing⟩ := frame.host_closed
  · rw [frame.cutFirst_unopened numeral plain, frame.hostText_of_plain plain]
    dsimp only
    rw [cutFirst_behind colonless]
  · have unmarked : ':' ∉ ([] : List Char) := List.not_mem_nil
    have cut := cutFirst_behind unmarked port
    rw [List.nil_append] at cut
    rw [frame.cutFirst_opened bracketed, frame.hostText_of_bracketed bracketed]
    dsimp only
    rw [cutFirst_append closing, Option.getD_some, cut]

theorem splitAuthority_text :
    splitAuthority ('/' :: '/' :: (frame.authority port ++ frame.tail)) =
      (frame.authority port, frame.tail) := by
  have plain : ∀ c ∈ frame.authority port, (!isEnd c) = true := by
    simp only [authority, List.mem_append, Bool.not_eq_true']
    rintro c (user | host | inPort)
    · exact frame.user_plain c user
    · exact (frame.host_plain c host).2
    · exact (port_plain numeral c inPort).2.1
  have ends : ∀ c ∈ frame.tail.head?, (!isEnd c) = false := by
    intro c first
    simp [frame.tail_ends c first]
  simp only [splitAuthority, takeWhile_run plain ends, dropWhile_run plain ends]

theorem cut_text :
    cut (frame.text port) = ⟨frame.scheme.map Char.toLower, frame.authority port,
      (splitQuery frame.tail).1, (splitQuery frame.tail).2⟩ := by
  simp only [cut, text, splitScheme_of_isScheme frame.isScheme, frame.splitAuthority_text numeral]

theorem contains_authority {mark : Char} (bracket : mark ∈ ['[', ']']) :
    (frame.authority port).contains mark = (frame.user ++ frame.host).contains mark := by
  have absent : mark ∉ behind ':' port := by
    intro inside
    have plain := (port_plain numeral mark inside).1
    revert bracket plain
    simp only [List.mem_cons]
    tauto
  simp [authority, absent]

/-- The brackets are judged by what stands around the port. -/
theorem checkBrackets_authority :
    checkBrackets (frame.authority port) =
      if (frame.user ++ frame.host).contains '[' != (frame.user ++ frame.host).contains ']' then
        .error brokenBrackets
      else if !(frame.user ++ frame.host).contains '[' then .ok ()
      else checkBrackets.checkHost frame.hostText := by
  unfold checkBrackets
  rw [frame.contains_authority numeral (by decide), frame.contains_authority numeral (by decide),
    frame.cutLast_authority numeral]
  split
  · rfl
  split
  · rfl
  dsimp only
  obtain ⟨colonless, plain⟩ | ⟨inner, bracketed, closing⟩ := frame.host_closed
  · rw [frame.cutFirst_unopened numeral plain, frame.hostText_of_plain plain]
    dsimp only
    rw [cutFirst_behind colonless]
  · rw [frame.cutFirst_opened bracketed, frame.hostText_of_bracketed bracketed]
    dsimp only
    rw [cutFirst_append closing]
    cases port <;> rfl

theorem checkCharacters_authority :
    checkCharacters (frame.authority port) = .ok () ↔
      checkCharacters (frame.authority none) = .ok () := by
  simp only [checkCharacters_eq_ok_iff, authority, behind, List.append_nil]
  constructor
  · intro clean c inside
    exact clean c (by simp only [List.mem_append] at inside ⊢; tauto)
  · intro clean c inside
    obtain user | others := List.mem_append.mp inside
    · exact clean c (List.mem_append_left _ user)
    · obtain host | inPort := List.mem_append.mp others
      · exact clean c (List.mem_append_right _ host)
      · exact (port_plain numeral c inPort).2.2

/-- With a port a URL gives the fields around it, if they are in order and the port is one. -/
theorem fields_eq_ok_iff {url : String} {given : UrlFields}
    (written : cleaned url = frame.text port) :
    ConnectionUrl.fields url = .ok given ↔
      frame.InOrder ∧ ∃ number, portNumber? (port.getD []) = .ok number ∧
        given = frame.fields number := by
  rw [ConnectionUrl.fields_eq_ok_iff, written]
  dsimp only
  have unported : ∀ digits ∈ (none : Option (List Char)), IsNumeral digits := by simp
  simp only [frame.cut_text numeral, frame.checkCharacters_authority numeral,
    frame.place_authority numeral]
  rw [frame.checkBrackets_authority numeral, ← frame.checkBrackets_authority unported]
  have same (number : Option Nat) : Parts.fields ⟨frame.scheme.map Char.toLower,
      frame.authority port, (splitQuery frame.tail).1, (splitQuery frame.tail).2⟩ number =
      frame.fields number := by
    simp only [Parts.fields, fields, frame.place_authority numeral,
      frame.credentials_authority numeral]
  simp only [same]
  constructor
  · rintro ⟨brackets, characters, scheme, read⟩
    exact ⟨⟨brackets, characters, scheme⟩, read⟩
  · rintro ⟨⟨brackets, characters, scheme⟩, read⟩
    exact ⟨brackets, characters, scheme, read⟩

end Cuts

end PortFrame

end QueryTyping.ConnectionUrl
