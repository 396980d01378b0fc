import QueryTyping.Proofs.ProtectedText

/-!
# The tokens of PostgreSQL

SQL as PostgreSQL reads it, with standard-conforming strings: words, numbers, strings,
quoted identifiers, dollar quotes, comments, and signs for all other characters.  Each
token is as long as it can be.  A number takes the letters right behind it, which
PostgreSQL reads along to refuse them.

Reading goes from token to token and remembers them (`Reads`), for whether a string has
escapes hangs on what stands before it: the word `E`, or the string that it continues
on a later line.  Of two places that reading comes to, one is behind the other
(`Reads.linear`), so that it comes to none within a token (`Reads.not_within`).
-/

namespace QueryTyping.Postgres

open QueryTyping.QueryFile

/-- A letter, an underscore or any character beyond ASCII. -/
def isWordStart (c : Char) : Bool := c.isAlpha || c = '_' || 0x80 ≤ c.toNat

/-- What a dollar-quote tag goes on with. -/
def isTagPart (c : Char) : Bool := isWordStart c || c.isDigit

/-- What a word goes on with. -/
def isWordPart (c : Char) : Bool := isTagPart c || c = '$'

def isNewline (c : Char) : Bool := c = '\n' || c = '\r'

def isSpace (c : Char) : Bool := isNewline c || c = ' ' || c = '\t' || c = '\x0b' || c = '\x0c'

/-- A digit begins no word. -/
theorem isWordStart_of_isDigit {c : Char} (digit : c.isDigit = true) : isWordStart c = false := by
  have bounds : 48 ≤ c.toNat ∧ c.toNat ≤ 57 := Char.isDigit_iff_toNat.mp digit
  have unequal : c ≠ '_' := by
    rintro rfl
    cases digit
  have narrow : ¬ 0x80 ≤ c.toNat := by omega
  have unlettered : c.isAlpha = false := by
    rw [Bool.eq_false_iff]
    intro letter
    rcases (Bool.or_eq_true _ _).mp letter with upper | lower
    · have bound : 65 ≤ c.toNat := (of_decide_eq_true upper).1
      omega
    · have bound : 97 ≤ c.toNat := of_decide_eq_true ((Bool.and_eq_true _ _).mp lower).1
      omega
  simp [isWordStart, unlettered, unequal, narrow]

inductive Token where
  | word (text : List Char)
  | number (text : List Char)
  | string (escapes : Bool) (text : List Char)
  | quotedIdentifier (text : List Char)
  | dollarQuoted (text : List Char)
  | lineComment (text : List Char)
  | blockComment (text : List Char)
  | sign (c : Char)
  deriving DecidableEq, Repr

def Token.text : Token → List Char
  | word text => text
  | number text => text
  | string _ text => text
  | quotedIdentifier text => text
  | dollarQuoted text => text
  | lineComment text => text
  | blockComment text => text
  | sign c => [c]

/-- Nothing, or a word without dollar signs, between two dollar signs. -/
def IsTag (tag : List Char) : Prop :=
  ∃ name : List Char, tag = '$' :: name ++ ['$'] ∧ (∀ c ∈ name, isTagPart c = true) ∧
    ∀ c ∈ name.head?, c.isDigit = false

/-- A dollar sign before this text is the first one of a tag. -/
def OpensTag (ahead : List Char) : Prop := ∃ tag, IsTag tag ∧ tag <+: '$' :: ahead

/-- What a token looks like.  `escapes` says whether a string that begins here has escapes. -/
def Token.HasForm (escapes : Bool) : Token → Prop
  | .word text => ∃ c rest, text = c :: rest ∧ isWordStart c = true ∧
    ∀ d ∈ rest, isWordPart d = true
  | .number text => ∃ c rest, text = c :: rest ∧ c.isDigit = true ∧ ∀ d ∈ rest, isTagPart d = true
  | .string escaped text => escaped = escapes ∧
    ∃ body, text = '\'' :: body ∧ ClosesQuote '\'' escapes body
  | .quotedIdentifier text => ∃ body, text = '"' :: body ∧ ClosesQuote '"' false body
  | .dollarQuoted text => ∃ tag body, text = tag ++ body ∧ IsTag tag ∧ ClosesMark tag body
  | .lineComment text => ∃ body, text = '-' :: '-' :: body ∧ ∀ c ∈ body, isNewline c = false
  | .blockComment text => ∃ body, text = '/' :: '*' :: body ∧ ClosesComment body
  | .sign c => isTagPart c = false ∧ c ≠ '\'' ∧ c ≠ '"'

/-- The text ahead does not make a longer or another token of this one. -/
def Token.EndsBefore (after : List Char) : Token → Prop
  | .word _ => ∀ c ∈ after.head?, isWordPart c = false
  | .number _ => ∀ c ∈ after.head?, isTagPart c = false
  | .string _ _ => after.head? ≠ some '\''
  | .quotedIdentifier _ => after.head? ≠ some '"'
  | .lineComment _ => ∀ c ∈ after.head?, isNewline c = true
  | .sign c => (c = '$' → ¬ OpensTag after) ∧ (c = '/' → after.head? ≠ some '*') ∧
    (c = '-' → after.head? ≠ some '-')
  | .dollarQuoted _ | .blockComment _ => True

theorem Token.HasForm.ne_nil {token : Token} {escapes : Bool} (form : token.HasForm escapes) :
    token.text ≠ [] := by
  cases token with
  | word | number =>
    obtain ⟨c, rest, rfl, -⟩ := form
    exact List.cons_ne_nil c rest
  | string =>
    obtain ⟨-, body, rfl, -⟩ := form
    exact List.cons_ne_nil _ body
  | quotedIdentifier | lineComment | blockComment =>
    obtain ⟨body, rfl, -⟩ := form
    exact List.cons_ne_nil _ _
  | dollarQuoted =>
    obtain ⟨tag, body, rfl, ⟨name, rfl, -⟩, -⟩ := form
    exact List.cons_ne_nil _ _
  | sign c => exact List.cons_ne_nil c []

section FirstToken

variable {escapes : Bool} {token other : Token} {text after rest first second : List Char}

/-- The tag that a dollar sign before this text is the first one of. -/
def tagAhead? (ahead : List Char) : Option (List Char) :=
  let name := ahead.takeWhile isTagPart
  if (ahead.dropWhile isTagPart).head? = some '$' ∧ !name.head?.any Char.isDigit then
    some ('$' :: name ++ ['$'])
  else none

theorem tagAhead?_eq_some {tag : List Char} (isTag : IsTag tag)
    (same : tag ++ after = '$' :: text) : tagAhead? text = some tag := by
  obtain ⟨name, rfl, letters, undigited⟩ := isTag
  have stops : ∀ c ∈ ('$' :: after).head?, isTagPart c = false := by
    rintro c ⟨⟩
    decide
  have split : name ++ '$' :: after = text := by simpa using same
  have unnumbered : name.head?.any Char.isDigit = false := by
    rw [Option.any_eq_false]
    intro c first
    rw [undigited c first]
  simp [tagAhead?, ← split, takeWhile_run letters stops, dropWhile_run letters stops, unnumbered]

theorem opensTag_of_tagAhead? {tag : List Char} (found : tagAhead? text = some tag) :
    OpensTag text := by
  simp only [tagAhead?] at found
  split at found
  next cut =>
    obtain ⟨dollar, undigited⟩ := cut
    obtain ⟨rest, ahead⟩ := List.head?_eq_some_iff.mp dollar
    refine ⟨tag, ⟨text.takeWhile isTagPart, (Option.some.inj found).symm, all_takeWhile _ text,
      fun c first => ?_⟩, rest, ?_⟩
    · rw [Option.mem_def] at first
      simpa [first] using undigited
    · rw [← Option.some.inj found]
      have whole := List.takeWhile_append_dropWhile (p := isTagPart) (l := text)
      rw [ahead] at whole
      simpa using whole
  next => cases found

/-- The first token of a text. -/
def firstToken? (escapes : Bool) : List Char → Option Token
  | [] => none
  | c :: rest =>
    if isWordStart c then some (.word (c :: rest.takeWhile isWordPart))
    else if c.isDigit then some (.number (c :: rest.takeWhile isTagPart))
    else if c = '\'' then
      (closeQuote '\'' escapes rest).map fun cut => .string escapes ('\'' :: cut.1)
    else if c = '"' then (closeQuote '"' false rest).map fun cut => .quotedIdentifier ('"' :: cut.1)
    else
      match c, rest with
      | '-', '-' :: line => some (.lineComment ('-' :: '-' :: line.takeWhile (!isNewline ·)))
      | '/', '*' :: body =>
        (closeComment 1 body).map fun cut => .blockComment ('/' :: '*' :: cut.1)
      | '$', rest =>
        match tagAhead? rest with
        | some tag => (closeMark tag (rest.drop (tag.length - 1))).map fun cut =>
          .dollarQuoted (tag ++ cut.1)
        | none => some (.sign '$')
      | c, _ => some (.sign c)

theorem firstToken?_of_hasForm (form : token.HasForm escapes) (ends : token.EndsBefore after) :
    firstToken? escapes (token.text ++ after) = some token := by
  cases token with
  | word text =>
    obtain ⟨c, run, rfl, start, parts⟩ := form
    simp [Token.text, firstToken?, start, takeWhile_run parts ends]
  | number text =>
    obtain ⟨c, run, rfl, digit, parts⟩ := form
    have unlettered : isWordStart c = false := isWordStart_of_isDigit digit
    simp [Token.text, firstToken?, unlettered, digit, takeWhile_run parts ends]
  | string escaped text =>
    obtain ⟨rfl, body, rfl, closes⟩ := form
    have closed := (closeQuote_eq_some_iff (by decide)).mpr ⟨closes, ends, rfl⟩
    have unlettered : isWordStart '\'' = false := by decide
    simp [Token.text, firstToken?, closed, unlettered]
  | quotedIdentifier text =>
    obtain ⟨body, rfl, closes⟩ := form
    have closed := (closeQuote_eq_some_iff (by decide)).mpr ⟨closes, ends, rfl⟩
    have unlettered : isWordStart '"' = false := by decide
    simp [Token.text, firstToken?, closed, unlettered]
  | dollarQuoted text =>
    obtain ⟨tag, body, rfl, isTag, closes⟩ := form
    obtain ⟨name, same, -⟩ := id isTag
    have tagged : tag = '$' :: (name ++ ['$']) := same
    have unlettered : isWordStart '$' = false := by decide
    have found : tagAhead? (name ++ '$' :: (body ++ after)) = some tag :=
      @tagAhead?_eq_some _ (body ++ after) tag isTag (by simp [tagged])
    have closed : closeMark tag (body ++ after) = some (body, after) :=
      (closeMark_eq_some_iff (by simp [tagged])).mpr ⟨closes, rfl⟩
    have dropped : (name ++ '$' :: (body ++ after)).drop (tag.length - 1) = body ++ after := by
      have whole : name ++ '$' :: (body ++ after) = (name ++ ['$']) ++ (body ++ after) := by simp
      have length : tag.length - 1 = (name ++ ['$']).length := by simp [tagged]
      rw [whole, length, List.drop_left]
    have text : (Token.dollarQuoted (tag ++ body)).text ++ after =
        '$' :: (name ++ '$' :: (body ++ after)) := by simp [Token.text, tagged]
    rw [text]
    simp [firstToken?, unlettered, found, dropped, closed]
  | lineComment text =>
    obtain ⟨body, rfl, line⟩ := form
    have unlettered : isWordStart '-' = false := by decide
    have inside : ∀ c ∈ body, (!isNewline c) = true := by simpa using line
    have stops : ∀ c ∈ after.head?, (!isNewline c) = false := by
      intro c first
      rw [ends c first]
      rfl
    simp [Token.text, firstToken?, unlettered, takeWhile_run inside stops]
  | blockComment text =>
    obtain ⟨body, rfl, closes⟩ := form
    have unlettered : isWordStart '/' = false := by decide
    simp [Token.text, firstToken?, unlettered, closeComment_of_closes closes]
  | sign c =>
    obtain ⟨unparted, unquoted, undoubled⟩ := form
    obtain ⟨untagged, unstarred, undashed⟩ := ends
    rw [isTagPart, Bool.or_eq_false_iff] at unparted
    obtain ⟨unlettered, undigited⟩ := unparted
    simp only [Token.text, List.singleton_append, firstToken?, unlettered, undigited, unquoted,
      undoubled, if_false, Bool.false_eq_true]
    split
    next rest => exact absurd rfl (undashed rfl)
    next rest => exact absurd rfl (unstarred rfl)
    next rest =>
      split
      next tag found => exact absurd (opensTag_of_tagAhead? found) (untagged rfl)
      next => rfl
    next => rfl

/-- A text has one first token. -/
theorem Token.eq_of_hasForm (form : token.HasForm escapes) (ends : token.EndsBefore first)
    (otherForm : other.HasForm escapes) (otherEnds : other.EndsBefore second)
    (same : token.text ++ first = other.text ++ second) : token = other := by
  have one := firstToken?_of_hasForm form ends
  rw [same, firstToken?_of_hasForm otherForm otherEnds] at one
  exact (Option.some.inj one).symm

end FirstToken

/-- After these tokens, the last one first, a string goes on that has escapes: there is only
white space since, and a newline. -/
def continuesEscapes (newline : Bool) : List Token → Bool
  | .sign c :: behind => isSpace c && continuesEscapes (newline || isNewline c) behind
  | .lineComment _ :: behind => continuesEscapes newline behind
  | .string escapes _ :: _ => newline && escapes
  | _ => false

/-- Whether a string after these tokens, the last one first, has escapes. -/
def escapesBehind : List Token → Bool
  | .word ['e'] :: _ => true
  | .word ['E'] :: _ => true
  | behind => continuesEscapes false behind

/-- Reading the SQL from its beginning comes to a place with these tokens behind, the last one
first, and `rest` ahead. -/
inductive Reads (sql : List Char) : List Token → List Char → Prop
  | start : Reads sql [] sql
  | token {behind : List Token} {rest : List Char} {token : Token}
    (before : Reads sql behind (token.text ++ rest))
    (form : token.HasForm (escapesBehind behind)) (ends : token.EndsBefore rest) :
    Reads sql (token :: behind) rest

section Reads

variable {sql rest otherRest : List Char} {behind others : List Token} {token : Token}

theorem reads_cons_iff :
    Reads sql (token :: behind) rest ↔ Reads sql behind (token.text ++ rest) ∧
      token.HasForm (escapesBehind behind) ∧ token.EndsBefore rest := by
  constructor
  · rintro (_ | ⟨before, form, ends⟩)
    exact ⟨before, form, ends⟩
  · rintro ⟨before, form, ends⟩
    exact .token before form ends

/-- Less is ahead of a place than of those behind it. -/
theorem Reads.exists_of_append (reads : Reads sql (others ++ behind) rest) :
    ∃ more, Reads sql behind (more ++ rest) ∧ (more = [] → others = []) := by
  induction others generalizing rest with
  | nil => exact ⟨[], reads, fun _ => rfl⟩
  | cons token others ih =>
    obtain ⟨before, form, -⟩ := reads_cons_iff.mp reads
    obtain ⟨more, reads, -⟩ := ih before
    refine ⟨more ++ token.text, by rwa [List.append_assoc], fun empty => ?_⟩
    exact absurd (List.append_eq_nil_iff.mp empty).2 form.ne_nil

theorem Reads.rest_eq (reads : Reads sql behind rest) (other : Reads sql behind otherRest) :
    rest = otherRest := by
  induction behind generalizing rest otherRest with
  | nil =>
    cases reads
    cases other
    rfl
  | cons token behind ih =>
    obtain ⟨before, -, -⟩ := reads_cons_iff.mp reads
    obtain ⟨otherBefore, -, -⟩ := reads_cons_iff.mp other
    exact List.append_cancel_left (ih before otherBefore)

/-- Of two places that reading comes to, one is behind the other. -/
theorem Reads.linear (reads : Reads sql behind rest) (other : Reads sql others otherRest) :
    behind <:+ others ∨ others <:+ behind := by
  induction reads with
  | start => exact .inl (List.nil_suffix)
  | @token behind rest token before form ends ih =>
    rcases ih with ⟨more, rfl⟩ | later
    · rcases List.eq_nil_or_concat' more with rfl | ⟨more, next, rfl⟩
      · exact .inr (List.suffix_cons token behind)
      · -- Both go on from the same place with the same token.
        rw [List.append_assoc, List.singleton_append] at other ⊢
        obtain ⟨ahead, nextReads, -⟩ := other.exists_of_append
        obtain ⟨nextBefore, nextForm, nextEnds⟩ := reads_cons_iff.mp nextReads
        obtain rfl := Token.eq_of_hasForm form ends nextForm nextEnds (before.rest_eq nextBefore)
        exact .inl (List.suffix_append more _)
    · exact .inr (later.trans (List.suffix_cons token behind))

/-- Reading comes to a place only once. -/
theorem Reads.behind_eq (reads : Reads sql behind rest) (other : Reads sql others rest) :
    behind = others := by
  have unmoved {behind more : List Token} (reads : Reads sql behind rest)
      (longer : Reads sql (more ++ behind) rest) : more = [] := by
    obtain ⟨text, before, moved⟩ := longer.exists_of_append
    exact moved (List.append_left_eq_self.mp (before.rest_eq reads))
  rcases reads.linear other with ⟨more, rfl⟩ | ⟨more, rfl⟩
  · rw [unmoved reads other, List.nil_append]
  · rw [unmoved other reads, List.nil_append]

/-- Reading comes to no place within a token. -/
theorem Reads.not_within {front inside : List Char} (reads : Reads sql (token :: behind) rest)
    (text : token.text = front ++ inside) (begun : front ≠ []) (unfinished : inside ≠ []) :
    ¬ Reads sql others (inside ++ rest) := by
  intro within
  rcases reads.linear within with ⟨more, rfl⟩ | ⟨more, same⟩
  · obtain ⟨passed, before, -⟩ := within.exists_of_append
    have lengths := congrArg List.length (before.rest_eq reads)
    have positive := List.length_pos_iff.mpr unfinished
    simp only [List.length_append] at lengths
    omega
  · cases more with
    | nil =>
      obtain rfl : others = token :: behind := same
      exact unfinished (List.append_left_eq_self.mp (within.rest_eq reads))
    | cons last more =>
      obtain ⟨rfl, rfl⟩ := List.cons.inj same
      obtain ⟨before, -, -⟩ := reads_cons_iff.mp reads
      obtain ⟨passed, earlier, -⟩ := before.exists_of_append
      have lengths := congrArg List.length (earlier.rest_eq within)
      have positive := List.length_pos_iff.mpr begun
      simp only [text, List.length_append] at lengths
      omega

end Reads

/-- Tokens that are read character by character. -/
def Token.Grows : Token → Prop
  | .word _ | .number _ => True
  | .string _ _ | .quotedIdentifier _ | .dollarQuoted _ | .lineComment _ | .blockComment _
  | .sign _ => False

/-- The characters that a token goes on with. -/
def Token.takes : Token → Char → Bool
  | .word _ => isWordPart
  | .number _ => isTagPart
  | _ => fun _ => false

/-- The word or number with more characters. -/
def Token.grown (more : List Char) : Token → Token
  | .word text => .word (text ++ more)
  | .number text => .number (text ++ more)
  | token => token

/-- The token that a character begins outside of quotes and comments. -/
def Token.ofChar (c : Char) : Token :=
  if isWordStart c then .word [c] else if c.isDigit then .number [c] else .sign c

/-- The tokens with one more character, the last token first. -/
def extend (behind : List Token) (c : Char) : List Token :=
  match behind with
  | [] => [.ofChar c]
  | token :: before =>
    if token.takes c then token.grown [c] :: before else .ofChar c :: token :: before

/-- The token behind does not go on with the character. -/
def Apart (behind : List Token) (c : Char) : Prop := ∀ token ∈ behind.head?, token.takes c = false

theorem extend_of_apart {behind : List Token} {c : Char} (apart : Apart behind c) :
    extend behind c = .ofChar c :: behind := by
  cases behind with
  | nil => rfl
  | cons token before => simp [extend, apart token rfl]

theorem takes_of_not_apart {behind : List Token} {token : Token} {c : Char}
    (joined : ¬ Apart (token :: behind) c) : token.takes c = true := by
  rw [← Bool.not_eq_false]
  intro stops
  refine joined ?_
  rintro _ ⟨⟩
  exact stops

/-- Reading comes to a place, or has begun a word or a number that may go on there. -/
inductive Begun (sql : List Char) : List Token → List Char → Prop
  | read {behind : List Token} {rest : List Char} (reads : Reads sql behind rest) :
    Begun sql behind rest
  | within {behind : List Token} {rest : List Char} {token : Token}
    (before : Reads sql behind (token.text ++ rest)) (form : token.HasForm (escapesBehind behind))
    (grows : token.Grows) : Begun sql (token :: behind) rest

section Begun

variable {sql rest more : List Char} {behind others : List Token} {token : Token} {c : Char}

theorem Token.text_grown (grows : token.Grows) (more : List Char) :
    (token.grown more).text = token.text ++ more := by
  cases token with
  | word | number => rfl
  | string | quotedIdentifier | dollarQuoted | lineComment | blockComment | sign => cases grows

theorem Token.grows_grown (grows : token.Grows) (more : List Char) : (token.grown more).Grows := by
  cases token with
  | word | number => trivial
  | string | quotedIdentifier | dollarQuoted | lineComment | blockComment | sign => cases grows

theorem Token.grows_of_takes (takes : token.takes c = true) : token.Grows := by
  cases token with
  | word | number => trivial
  | string | quotedIdentifier | dollarQuoted | lineComment | blockComment | sign => cases takes

theorem Token.HasForm.grown {escapes : Bool} (form : token.HasForm escapes) (grows : token.Grows)
    (taken : ∀ c ∈ more, token.takes c = true) : (token.grown more).HasForm escapes := by
  cases token with
  | word | number =>
    obtain ⟨d, run, rfl, start, parts⟩ := form
    refine ⟨d, run ++ more, rfl, start, fun e member => ?_⟩
    exact (List.mem_append.mp member).elim (parts e) (taken e)
  | string | quotedIdentifier | dollarQuoted | lineComment | blockComment | sign => cases grows

/-- A word or number ends before a character that it does not go on with, and only there. -/
theorem Token.endsBefore_iff (grows : token.Grows) :
    token.EndsBefore rest ↔ ∀ c ∈ rest.head?, token.takes c = false := by
  cases token with
  | word | number => exact Iff.rfl
  | string | quotedIdentifier | dollarQuoted | lineComment | blockComment | sign => cases grows

/-- Where nothing goes on, reading has come to a place. -/
theorem Begun.close (begun : Begun sql behind rest) (apart : ∀ c ∈ rest.head?, Apart behind c) :
    Reads sql behind rest := by
  cases begun with
  | read reads => exact reads
  | within before form grows =>
    refine .token before form ((Token.endsBefore_iff grows).mpr ?_)
    intro c first
    exact apart c first _ rfl

theorem Begun.fresh (reads : Reads sql behind (c :: rest)) (unquoted : c ≠ '\'' ∧ c ≠ '"')
    (alone : (Token.sign c).EndsBefore rest) : Begun sql (.ofChar c :: behind) rest := by
  unfold Token.ofChar
  split
  next start => exact .within reads ⟨c, [], rfl, start, by simp⟩ trivial
  next unlettered =>
    split
    next digit => exact .within reads ⟨c, [], rfl, digit, by simp⟩ trivial
    next undigited =>
      have form : (Token.sign c).HasForm (escapesBehind behind) :=
        ⟨by simp [isTagPart, unlettered, undigited], unquoted⟩
      exact .read (.token reads form alone)

/-- The last token and the text from it on, where that token goes on with the next character. -/
theorem Begun.reads_before (begun : Begun sql (token :: behind) rest) :
    Reads sql behind (token.text ++ rest) ∧ token.HasForm (escapesBehind behind) := by
  cases begun with
  | read reads =>
    obtain ⟨before, form, -⟩ := reads_cons_iff.mp reads
    exact ⟨before, form⟩
  | within before form _ => exact ⟨before, form⟩

/-- A character that opens neither quotes nor comments belongs to a word, a number or a sign. -/
theorem Begun.char (begun : Begun sql behind (c :: rest)) (unquoted : c ≠ '\'' ∧ c ≠ '"')
    (alone : Apart behind c → (Token.sign c).EndsBefore rest) :
    Begun sql (extend behind c) rest := by
  by_cases apart : Apart behind c
  · rw [extend_of_apart apart]
    refine .fresh (begun.close ?_) unquoted (alone apart)
    rintro d ⟨⟩
    exact apart
  · cases behind with
    | nil => exact absurd (by rintro token ⟨⟩) apart
    | cons token before =>
      have takes : token.takes c = true := takes_of_not_apart apart
      have grows := Token.grows_of_takes takes
      obtain ⟨reads, form⟩ := begun.reads_before
      have whole : token.text ++ c :: rest = (token.grown [c]).text ++ rest := by
        simp [Token.text_grown grows]
      simp only [extend, takes, if_true]
      exact .within (whole ▸ reads) (form.grown grows (by simpa using takes))
        (Token.grows_grown grows [c])

/-- Reading comes to a place within a word or a number only at its end. -/
theorem Begun.reads (begun : Begun sql behind rest) (other : Reads sql others rest) :
    Reads sql behind rest := by
  cases begun with
  | read reads => exact reads
  | @within behind rest token before form grows =>
    have inside := all_takeWhile token.takes rest
    have whole : Reads sql (token.grown (rest.takeWhile token.takes) :: behind)
        (rest.dropWhile token.takes) := by
      refine .token ?_ (form.grown grows inside) ?_
      · rwa [Token.text_grown grows, List.append_assoc, List.takeWhile_append_dropWhile]
      · have stops := head?_dropWhile_eq_false token.takes rest
        cases token with
        | word | number => exact stops
        | string | quotedIdentifier | dollarQuoted | lineComment | blockComment | sign =>
          cases grows
    by_cases finished : rest.takeWhile token.takes = []
    · refine .token before form ((Token.endsBefore_iff grows).mpr ?_)
      have unmoved := List.takeWhile_append_dropWhile (p := token.takes) (l := rest)
      rw [finished, List.nil_append] at unmoved
      rw [← unmoved]
      exact head?_dropWhile_eq_false token.takes rest
    · rw [← List.takeWhile_append_dropWhile (p := token.takes) (l := rest)] at other
      exact absurd other (whole.not_within (Token.text_grown grows _) form.ne_nil finished)

/-- No token goes on with a character that is no part of a word. -/
theorem apart_of_unparted (unparted : isWordPart c = false) (behind : List Token) :
    Apart behind c := by
  intro token last
  cases token with
  | word => exact unparted
  | number =>
    rw [isWordPart, Bool.or_eq_false_iff] at unparted
    exact unparted.1
  | string | quotedIdentifier | dollarQuoted | lineComment | blockComment | sign => rfl

/-- Before a character that is no part of a word reading comes to a place. -/
theorem Begun.close_cons (begun : Begun sql behind (c :: rest))
    (apart : Apart behind c) : Reads sql behind (c :: rest) := by
  refine begun.close ?_
  rintro d ⟨⟩
  exact apart

/-- Characters that open nothing. -/
def isQuiet (c : Char) : Bool := c ≠ '\'' && c ≠ '"' && c ≠ '$' && c ≠ '/' && c ≠ '-'

theorem sign_endsBefore_of_isQuiet (quiet : isQuiet c = true) (rest : List Char) :
    (Token.sign c).EndsBefore rest := by
  simp only [isQuiet, Bool.and_eq_true, decide_eq_true_eq] at quiet
  obtain ⟨⟨⟨-, undollared⟩, unslashed⟩, undashed⟩ := quiet
  exact ⟨fun dollar => absurd dollar undollared, fun slash => absurd slash unslashed,
    fun dash => absurd dash undashed⟩

theorem Begun.chars {run : List Char} (begun : Begun sql behind (run ++ rest))
    (quiet : ∀ c ∈ run, isQuiet c = true) : Begun sql (run.foldl extend behind) rest := by
  induction run generalizing behind with
  | nil => exact begun
  | cons c run ih =>
    obtain ⟨first, others⟩ := List.forall_mem_cons.mp quiet
    have unquoted : c ≠ '\'' ∧ c ≠ '"' := by
      simp only [isQuiet, Bool.and_eq_true, decide_eq_true_eq] at first
      exact first.1.1.1
    exact ih (begun.char unquoted fun _ => sign_endsBefore_of_isQuiet first _) others

end Begun

end QueryTyping.Postgres
