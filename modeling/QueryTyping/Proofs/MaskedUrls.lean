import QueryTyping.Proofs.Conversation
import QueryTyping.Proofs.ProtectedText
import QueryTyping.Settings.Connection

/-!
# Passwords in URLs

Two connection URLs that differ in nothing but the text of a password give the
same fields but for the password (`ConnectionUrl.Alike.masked_eq`).  A password
stands behind the first colon of the user information; with no mark in it that
ends the authority it moves none of the cuts, and percent encoding leaves no
such mark (`ConnectionUrl.isWritten_percentEncode`).
-/

namespace QueryTyping

open Text
open QueryTyping.QueryFile (dropWhile_run takeWhile_run)

/-- The fields, with the password made blank. -/
def UrlFields.masked (fields : UrlFields) : UrlFields :=
  { fields with password := fields.password.map fun _ => "" }

namespace ConnectionUrl

/-- What counts of a URL: no blanks before it, and no tabs and line breaks in it. -/
def cleaned (url : String) : List Char :=
  (url.toList.dropWhile fun c => c.toNat ≤ 0x20).filter fun c => !(['\t', '\r', '\n'].contains c)

/-- Whether the character ends an authority. -/
def isEnd (c : Char) : Bool := c = '/' || c = '?' || c = '#'

/-- The authority behind two slashes, and the rest. -/
def splitAuthority : List Char → List Char × List Char
  | '/' :: '/' :: after => (after.takeWhile (!isEnd ·), after.dropWhile (!isEnd ·))
  | rest => ([], rest)

/-- The path and the query; what follows a number sign is neither. -/
def splitQuery (rest : List Char) : List Char × List Char :=
  let (path, query) := cutFirst '?' (cutFirst '#' rest).1
  (path, query.getD [])

/-- The parts of a text. -/
def cut (s : List Char) : Parts :=
  let (scheme, rest) := splitScheme s
  let (authority, rest) := splitAuthority rest
  let (path, query) := splitQuery rest
  ⟨scheme, authority, path, query⟩

theorem parts_eq_ok {url : String} {found : Parts} (read : parts url = .ok found) :
    found = cut (cleaned url) := by
  unfold parts at read
  simp only [except_bind_eq_ok_iff] at read
  obtain ⟨⟨⟩, -, read⟩ := read
  unfold cut cleaned
  generalize splitScheme _ = pieces at read ⊢
  obtain ⟨scheme, rest⟩ := pieces
  dsimp only at read ⊢
  -- An authority stands behind two slashes, or there is none.
  split at read
  next after =>
    split at read
    · cases read
    · cases read
      rfl
  next unslashed =>
    split at read
    · cases read
    · cases read
      have none : splitAuthority rest = ([], rest) := by
        unfold splitAuthority
        split
        next after _ => exact absurd rfl (unslashed after)
        · rfl
      rw [none]
      rfl

/-- The fields that parts give, but for the port. -/
def Parts.fields (parts : Parts) (port : Option Nat) : UrlFields where
  host := if (place parts.authority).1.isEmpty then none
    else some (hostName (place parts.authority).1)
  port := port
  dbname := decoded? (dropRightWhile (· = '/') (parts.path.dropWhile (· = '/')))
  user := (credentials parts.authority).1.bind decoded?
  password := (credentials parts.authority).2.bind decoded?
  sslmode := (queryValues "sslmode" parts.query).head?

/-- A URL that gives fields has a scheme, and a port that is a number. -/
theorem fields_eq_ok {url : String} {given : UrlFields} (read : fields url = .ok given) :
    let found := cut (cleaned url)
    found.scheme ≠ [] ∧
      ∃ port, portNumber? (place found.authority).2 = .ok port ∧ given = found.fields port := by
  obtain ⟨found, isCut, read⟩ := (except_bind_eq_ok_iff _ _ _).mp read
  rw [← parts_eq_ok isCut]
  dsimp only at read
  split at read
  · cases read
  next known =>
    obtain ⟨port, portRead, made⟩ := (except_bind_eq_ok_iff _ _ _).mp read
    cases made
    refine ⟨fun schemeless => known ?_, port, portRead, rfl⟩
    rw [schemeless]
    decide

theorem cutFirst_append {mark : Char} {before : List Char} (first : mark ∉ before)
    (after : List Char) : cutFirst mark (before ++ mark :: after) = (before, some after) := by
  have unmarked : ∀ c ∈ before, decide (c ≠ mark) = true := by
    rintro c inside
    simp only [decide_eq_true_eq]
    rintro rfl
    exact first inside
  have stops : ∀ c ∈ (mark :: after).head?, decide (c ≠ mark) = false := by simp
  unfold cutFirst
  rw [dropWhile_run unmarked stops, takeWhile_run unmarked stops]

theorem cutLast_append {mark : Char} {after : List Char} (last : mark ∉ after)
    (before : List Char) : cutLast mark (before ++ mark :: after) = (some before, after) := by
  have backwards : (before ++ mark :: after).reverse = after.reverse ++ mark :: before.reverse := by
    simp
  unfold cutLast
  rw [backwards, cutFirst_append (by simpa using last)]
  simp

/-- A URL's text but for its password: `scheme://user:` before it, `@place` behind it, and then
what follows the authority. -/
structure UrlFrame where
  scheme : List Char
  user : List Char
  place : List Char
  tail : List Char
  colonless : ':' ∉ scheme
  user_plain : ∀ c ∈ user, c ≠ ':' ∧ isEnd c = false
  place_plain : ∀ c ∈ place, c ≠ '@' ∧ isEnd c = false
  tail_ends : ∀ c ∈ tail.head?, isEnd c = true

/-- The text can stand for a password in a URL. -/
def IsWritten (password : List Char) : Prop := password ≠ [] ∧ ∀ c ∈ password, isEnd c = false

namespace UrlFrame

variable (frame : UrlFrame) {password : List Char}

def authority (password : List Char) : List Char :=
  frame.user ++ ':' :: (password ++ '@' :: frame.place)

/-- The whole text with a password. -/
def text (password : List Char) : List Char :=
  frame.scheme ++ ':' :: '/' :: '/' :: (frame.authority password ++ frame.tail)

theorem credentials_authority (password : List Char) :
    credentials (frame.authority password) = (some frame.user, some password) := by
  have placed : frame.authority password = (frame.user ++ ':' :: password) ++ '@' :: frame.place :=
    by simp [authority]
  have atless : '@' ∉ frame.place := fun inside => (frame.place_plain _ inside).1 rfl
  have colonless : ':' ∉ frame.user := fun inside => (frame.user_plain _ inside).1 rfl
  unfold credentials
  rw [placed, cutLast_append atless]
  dsimp only
  rw [cutFirst_append colonless]

theorem place_authority (password other : List Char) :
    ConnectionUrl.place (frame.authority password) =
      ConnectionUrl.place (frame.authority other) := by
  have atless : '@' ∉ frame.place := fun inside => (frame.place_plain _ inside).1 rfl
  have behind (password : List Char) :
      (cutLast '@' (frame.authority password)).2 = frame.place := by
    have placed : frame.authority password =
        (frame.user ++ ':' :: password) ++ '@' :: frame.place := by simp [authority]
    rw [placed, cutLast_append atless]
  unfold ConnectionUrl.place
  rw [behind, behind]

theorem authority_plain (written : IsWritten password) :
    ∀ c ∈ frame.authority password, (!isEnd c) = true := by
  simp only [authority, List.mem_append, List.mem_cons, Bool.not_eq_true']
  rintro c (user | rfl | inside | rfl | place)
  · exact (frame.user_plain c user).2
  · rfl
  · exact written.2 c inside
  · rfl
  · exact (frame.place_plain c place).2

theorem splitAuthority_text (written : IsWritten password) :
    splitAuthority ('/' :: '/' :: (frame.authority password ++ frame.tail)) =
      (frame.authority password, frame.tail) := by
  have plain := frame.authority_plain written
  have ends : ∀ c ∈ frame.tail.head?, (!isEnd c) = false := by
    intro c first
    simp [frame.tail_ends c first]
  simp only [splitAuthority, takeWhile_run plain ends, dropWhile_run plain ends]

/-- What stands before the first colon is the scheme, or there is none. -/
theorem splitScheme_colon {scheme : List Char} (colonless : ':' ∉ scheme) (rest : List Char) :
    (splitScheme (scheme ++ ':' :: rest)).1 = [] ∨
      splitScheme (scheme ++ ':' :: rest) = (scheme.map Char.toLower, rest) := by
  unfold splitScheme
  rw [cutFirst_append colonless]
  cases scheme with
  | nil => exact .inl rfl
  | cons c scheme =>
    dsimp only
    split
    · exact .inr rfl
    · exact .inl rfl

/-- The password moves none of the cuts. -/
theorem cut_text (written : IsWritten password)
    (scheme : (cut (frame.text password)).scheme ≠ []) :
    cut (frame.text password) = ⟨frame.scheme.map Char.toLower, frame.authority password,
      (splitQuery frame.tail).1, (splitQuery frame.tail).2⟩ := by
  obtain none | split := splitScheme_colon frame.colonless
    ('/' :: '/' :: (frame.authority password ++ frame.tail))
  · exact absurd none scheme
  · simp only [cut, text, split, frame.splitAuthority_text written]

end UrlFrame

/-- Both texts are the same URL, or the same but for a password that both have. -/
def Alike (url other : String) : Prop :=
  url = other ∨ ∃ (frame : UrlFrame) (password another : List Char),
    IsWritten password ∧ IsWritten another ∧
      cleaned url = frame.text password ∧ cleaned other = frame.text another

theorem Alike.symm {url other : String} (alike : Alike url other) :
    Alike other url := by
  obtain rfl | ⟨frame, password, another, written, writtenOther, text, textOther⟩ := alike
  · exact .inl rfl
  · exact .inr ⟨frame, another, password, writtenOther, written, textOther, text⟩

theorem Alike.ne_empty {url other : String} (alike : Alike url other)
    (filled : url ≠ "") : other ≠ "" := by
  obtain rfl | ⟨frame, password, another, -, -, -, textOther⟩ := alike
  · exact filled
  · rintro rfl
    have ended : frame.text another = [] := textOther.symm
    simp [UrlFrame.text] at ended

theorem decoded?_eq_some {s : List Char} (filled : s ≠ []) :
    decoded? s = some (String.ofList (percentDecode s)) := by
  simp [decoded?, filled]

/-- Such URLs give the same fields but for the password. -/
theorem Alike.masked_eq {url other : String} (alike : Alike url other) {given another : UrlFields}
    (read : fields url = .ok given) (readOther : fields other = .ok another) :
    given.masked = another.masked := by
  obtain rfl | ⟨frame, password, secret, written, writtenOther, text, textOther⟩ := alike
  · rw [read] at readOther
    cases readOther
    rfl
  · obtain ⟨scheme, port, portRead, rfl⟩ := fields_eq_ok read
    obtain ⟨schemeOther, portOther, portReadOther, rfl⟩ := fields_eq_ok readOther
    -- The cuts fall around the password, so the port is read from the same place in both.
    rw [text] at scheme portRead ⊢
    rw [textOther] at schemeOther portReadOther ⊢
    rw [frame.cut_text written scheme] at portRead ⊢
    rw [frame.cut_text writtenOther schemeOther] at portReadOther ⊢
    dsimp only at portRead portReadOther
    rw [frame.place_authority password secret, portReadOther] at portRead
    cases portRead
    simp only [Parts.fields, UrlFields.masked, frame.credentials_authority,
      frame.place_authority password secret, Option.bind_some, decoded?_eq_some written.1,
      decoded?_eq_some writtenOther.1, Option.map_some]

theorem isEnd_of_isUnreserved {c : Char} (unreserved : isUnreserved c = true) :
    isEnd c = false := by
  have others : c ≠ '/' ∧ c ≠ '?' ∧ c ≠ '#' := by
    refine ⟨?_, ?_, ?_⟩ <;> rintro rfl <;> exact absurd unreserved (by decide)
  simp [isEnd, others]

theorem isEnd_percentByte (b : UInt8) : ∀ c ∈ percentByte b, isEnd c = false := by
  have digit : ∀ n < 16, isEnd (hexDigit n) = false := by decide
  have low : b.toNat % 16 < 16 := Nat.mod_lt _ (by decide)
  have high : b.toNat / 16 < 16 := by
    have := b.toNat_lt
    omega
  simp only [percentByte, List.mem_cons, List.not_mem_nil, or_false]
  rintro c (rfl | rfl | rfl)
  · rfl
  · exact digit _ high
  · exact digit _ low

/-- The percent encoding of a password that is not empty can stand in a URL. -/
theorem isWritten_percentEncode {password : List Char} (filled : password ≠ []) :
    IsWritten (percentEncode password) := by
  constructor
  · obtain ⟨c, rest, rfl⟩ := List.exists_cons_of_ne_nil filled
    have encoded : encodeChar c ≠ [] := by
      unfold encodeChar
      dsimp only
      split_ifs <;> exact List.cons_ne_nil _ _
    obtain ⟨b, bytes, found⟩ := List.exists_cons_of_ne_nil encoded
    by_cases unreserved : isUnreserved c = true <;>
      simp [percentEncode, unreserved, found, percentByte]
  · intro c inside
    obtain ⟨original, -, inside⟩ := List.mem_flatMap.mp inside
    split at inside
    next unreserved =>
      obtain rfl := List.mem_singleton.mp inside
      exact isEnd_of_isUnreserved unreserved
    · obtain ⟨b, -, inside⟩ := List.mem_flatMap.mp inside
      exact isEnd_percentByte b c inside

end ConnectionUrl

end QueryTyping
