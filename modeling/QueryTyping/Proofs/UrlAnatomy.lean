import QueryTyping.Proofs.MaskedUrls

/-!
# What a URL is refused for

Reading a URL cuts it apart, checks the parts one after the other, and takes
the fields from them (`ConnectionUrl.fields_eq`).  The authority, the scheme and
the port are checked; nothing else of a URL can be wrong.
-/

namespace QueryTyping.ConnectionUrl

open Text

/-- No character of the authority turns into one that ends a part of it. -/
def checkCharacters (authority : List Char) : Except Error Unit :=
  if authority.any disguised.contains then
    .error (.unforeseen (.badValue ("netloc '" ++ String.ofList authority ++
      "' contains invalid characters under NFKC normalization")))
  else .ok ()

/-- Only two schemes are known. -/
def checkScheme (scheme : List Char) : Except Error Unit :=
  if String.ofList scheme ≠ "postgresql" ∧ String.ofList scheme ≠ "postgres" then
    .error (.failure (.config ("Invalid DSN scheme: '" ++ String.ofList scheme ++
      "'. Expected 'postgresql' or 'postgres'") none))
  else .ok ()

theorem checkParts_eq (scheme authority rest : List Char) :
    (do
      checkBrackets authority
      if authority.any disguised.contains then
        throw (.unforeseen (.badValue ("netloc '" ++ String.ofList authority ++
          "' contains invalid characters under NFKC normalization")))
      return ⟨scheme, authority, (splitQuery rest).1, (splitQuery rest).2⟩ : Except Error Parts) =
    (do
      checkBrackets authority
      checkCharacters authority
      return ⟨scheme, authority, (splitQuery rest).1, (splitQuery rest).2⟩) := by
  unfold checkCharacters
  cases checkBrackets authority with
  | error error => rfl
  | ok _ =>
    dsimp only [bind, Except.bind]
    split <;> rfl

/-- Cutting a URL into parts only checks its authority. -/
theorem parts_eq (url : String) :
    parts url = (do
      let found := cut (cleaned url)
      checkBrackets found.authority
      checkCharacters found.authority
      return found) := by
  have text : ((url.toList.dropWhile fun c => c.toNat ≤ 0x20).filter
      fun c => !(['\t', '\r', '\n'].contains c)) = cleaned url := rfl
  unfold parts cut
  simp only [text]
  generalize splitScheme (cleaned url) = pieces
  obtain ⟨scheme, rest⟩ := pieces
  dsimp only
  -- An authority stands behind two slashes, or there is none.
  split
  · exact checkParts_eq scheme _ _
  next unslashed =>
    have none : splitAuthority rest = ([], rest) := by
      unfold splitAuthority
      split
      · exact absurd rfl (unslashed _)
      · rfl
    rw [none]
    exact checkParts_eq scheme _ _

/-- Reading is checking the parts and taking the fields. -/
theorem fields_eq (url : String) :
    fields url = (do
      let found := cut (cleaned url)
      checkBrackets found.authority
      checkCharacters found.authority
      checkScheme found.scheme
      let port ← portNumber? (place found.authority).2
      return found.fields port) := by
  unfold fields
  rw [parts_eq]
  dsimp only
  generalize cut (cleaned url) = found
  cases checkBrackets found.authority with
  | error error => rfl
  | ok _ =>
    cases checkCharacters found.authority with
    | error error => rfl
    | ok _ =>
      dsimp only [bind, Except.bind, pure, Except.pure, checkScheme]
      split <;> rfl

/-- A URL gives the fields of its parts if every part is in order. -/
theorem fields_eq_ok_iff {url : String} {given : UrlFields} :
    fields url = .ok given ↔
      let found := cut (cleaned url)
      checkBrackets found.authority = .ok () ∧ checkCharacters found.authority = .ok () ∧
        checkScheme found.scheme = .ok () ∧
        ∃ port, portNumber? (place found.authority).2 = .ok port ∧ given = found.fields port := by
  rw [fields_eq]
  dsimp only
  generalize cut (cleaned url) = found
  simp only [except_bind_eq_ok_iff]
  constructor
  · rintro ⟨⟨⟩, brackets, ⟨⟩, characters, ⟨⟩, scheme, port, portRead, made⟩
    cases made
    exact ⟨brackets, characters, scheme, port, portRead, rfl⟩
  · rintro ⟨brackets, characters, scheme, port, portRead, rfl⟩
    exact ⟨(), brackets, (), characters, (), scheme, port, portRead, rfl⟩

theorem checkScheme_eq_ok_iff {scheme : List Char} :
    checkScheme scheme = .ok () ↔ String.ofList scheme ∈ ["postgresql", "postgres"] := by
  unfold checkScheme
  split
  next other => simp [other]
  next known =>
    simp only [List.mem_cons, List.not_mem_nil, or_false, true_iff]
    by_contra neither
    exact known (not_or.mp neither)

theorem checkCharacters_eq_ok_iff {authority : List Char} :
    checkCharacters authority = .ok () ↔ ∀ c ∈ authority, c ∉ disguised := by
  unfold checkCharacters
  split
  next found => simpa using found
  next clean => simpa using clean

end QueryTyping.ConnectionUrl
