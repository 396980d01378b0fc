import QueryTyping.Proofs.Concatenation
import QueryTyping.Proofs.PlaceholderReading
import QueryTyping.Proofs.PostgresTokens

/-!
# Statements as PostgreSQL reads them

Where PostgreSQL goes from token to token, the scanner decides by one or two characters
what opens.  The two read a statement in the same regions (`FollowsPostgres`) precisely
if its lexemes agree one after the other (`Lexeme.AgreesAt`): no line comment goes on
behind a carriage return, each string has the escapes that PostgreSQL gives it, no
dollar sign within a word opens a quote and none elsewhere fails to, and no marker is
the tail of a word.

A statement that agrees ends at the first semicolon that PostgreSQL comes to between two
tokens, and has the markers that it comes to (`EndsAsRead`, `ReplacesAsRead`).  One that
does not may be cut within a dollar quote (`accentedSql`).
-/

namespace QueryTyping

open Text QueryFile Postgres

/-- The tokens with those of a lexeme, the last token first. -/
def QueryFile.Lexeme.onto (behind : List Token) : Lexeme → List Token
  | .plain text => text.foldl extend behind
  | .lone c => extend behind c
  | .semicolon => extend behind ';'
  | .lineComment text => .lineComment text :: behind
  | .blockComment text => .blockComment text :: behind
  | .dollarQuoted text => .dollarQuoted text :: behind
  | .quoted text =>
    if text.head? = some '"' then .quotedIdentifier text :: behind
    else .string (escapesBehind behind) text :: behind
  | .marker name text =>
    let opening := text.takeWhile (· ≠ '\'')
    let closing := text.drop (opening.length + name.length + 2)
    closing.foldl extend (.string false ('\'' :: name ++ ['\'']) :: opening.foldl extend behind)

/-- The lexeme is what PostgreSQL takes the text for behind these tokens, the last one first. -/
def QueryFile.Lexeme.AgreesAt (behind : List Token) (ahead : List Char) : Lexeme → Prop
  | .lineComment text => '\r' ∉ text
  | .quoted text => ∀ body, text = '\'' :: body → ClosesQuote '\'' (escapesBehind behind) body
  | .dollarQuoted _ => Apart behind '$'
  | .lone c => c = '$' → Apart behind '$' → ¬ OpensTag ahead
  | .marker _ _ => Apart behind 'p'
  | .plain _ | .semicolon | .blockComment _ => True

/-- All lexemes are what PostgreSQL takes the text for. -/
def QueryFile.AgreeFrom (behind : List Token) : List Lexeme → Prop
  | [] => True
  | lexeme :: later =>
    lexeme.AgreesAt behind (texts later) ∧ AgreeFrom (lexeme.onto behind) later

section Lexemes

variable {sql rest behind : List Char} {tokens others : List Token} {lexeme : Lexeme}
  {lexemes : List Lexeme} {escapes : Bool}

theorem isTag_of_isDollarTag {tag : List Char} (isDollarTag : IsDollarTag tag) : IsTag tag := by
  obtain ⟨name, rfl, letters, undigited⟩ := isDollarTag
  refine ⟨name, rfl, fun c member => ?_, undigited⟩
  have letter := letters c member
  simp only [isTagChar, Char.isAlphanum, Bool.or_eq_true, decide_eq_true_eq] at letter
  simp only [isTagPart, isWordStart, Bool.or_eq_true, decide_eq_true_eq]
  tauto

/-- A protected lexeme is one token. -/
theorem Postgres.Begun.of_isProtected (begun : Begun sql tokens (lexeme.text ++ rest))
    (isProtected : lexeme.IsProtected) (form : lexeme.HasForm escapes)
    (ends : lexeme.EndsBefore rest) (agrees : lexeme.AgreesAt tokens rest) :
    ∃ token, lexeme.onto tokens = token :: tokens ∧ token.text = lexeme.text ∧
      Reads sql (token :: tokens) rest := by
  cases lexeme with
  | plain | marker | semicolon | lone => cases isProtected
  | lineComment text =>
    obtain ⟨body, rfl, lineless⟩ := form
    refine ⟨.lineComment ('-' :: '-' :: body), rfl, rfl, .token
      (begun.close_cons (apart_of_unparted (by decide) _)) ⟨body, rfl, fun c member => ?_⟩ ?_⟩
    · have unreturned : c ≠ '\r' := by
        rintro rfl
        exact agrees (List.mem_cons_of_mem _ (List.mem_cons_of_mem _ member))
      have lineless : c ≠ '\n' := by
        rintro rfl
        exact lineless member
      simp [isNewline, unreturned, lineless]
    · intro c first
      rw [ends c first]
      rfl
  | blockComment text =>
    obtain ⟨body, rfl, closes⟩ := form
    exact ⟨.blockComment ('/' :: '*' :: body), rfl, rfl, .token
      (begun.close_cons (apart_of_unparted (by decide) _)) ⟨body, rfl, closes⟩ trivial⟩
  | quoted text =>
    rcases form with ⟨body, rfl, -⟩ | ⟨body, rfl, closes⟩
    · exact ⟨.string (escapesBehind tokens) ('\'' :: body), rfl, rfl, .token
        (begun.close_cons (apart_of_unparted (by decide) _)) ⟨rfl, body, rfl, agrees body rfl⟩ ends⟩
    · exact ⟨.quotedIdentifier ('"' :: body), rfl, rfl, .token
        (begun.close_cons (apart_of_unparted (by decide) _)) ⟨body, rfl, closes⟩ ends⟩
  | dollarQuoted text =>
    obtain ⟨tag, body, rfl, isDollarTag, closes⟩ := form
    obtain ⟨name, tagged, -⟩ := id isDollarTag
    have reads : Reads sql tokens ((tag ++ body) ++ rest) := by
      have begun : Begun sql tokens ((tag ++ body) ++ rest) := begun
      rw [tagged] at begun ⊢
      exact begun.close_cons agrees
    exact ⟨.dollarQuoted (tag ++ body), rfl, rfl, .token reads
      ⟨tag, body, rfl, isTag_of_isDollarTag isDollarTag, closes⟩ trivial⟩

/-- No string with escapes begins behind these tokens: the word behind, if there is one, is white
space, which it is to the scanner only. -/
structure Hushed (tokens : List Token) : Prop where
  silent : ∀ newline, continuesEscapes newline tokens = false
  blank : ∀ text, tokens.head? = some (.word text) → ∀ c ∈ text, isBlank c = true

theorem Hushed.escapesBehind (hushed : Hushed tokens) : escapesBehind tokens = false := by
  unfold Postgres.escapesBehind
  split
  next before =>
    have blank := hushed.blank ['e'] rfl 'e' (List.mem_singleton_self 'e')
    cases blank
  next before =>
    have blank := hushed.blank ['E'] rfl 'E' (List.mem_singleton_self 'E')
    cases blank
  next => exact hushed.silent false

theorem Hushed.char {c : Char} (hushed : Hushed tokens) (blank : isBlank c = true) :
    Hushed (extend tokens c) := by
  by_cases apart : Apart tokens c
  · rw [extend_of_apart apart, Token.ofChar, isDigit_of_isBlank blank]
    split
    next =>
      refine ⟨fun newline => rfl, fun text same d member => ?_⟩
      cases same
      exact List.mem_singleton.mp member ▸ blank
    next =>
      refine ⟨fun newline => ?_, fun text same => ?_⟩
      · simp [continuesEscapes, hushed.silent]
      · cases same
  · cases tokens with
    | nil => exact absurd (by rintro token ⟨⟩) apart
    | cons token before =>
      have takes : token.takes c = true := takes_of_not_apart apart
      simp only [extend, takes, if_true]
      cases token with
      | word text =>
        refine ⟨fun newline => rfl, fun longer same d member => ?_⟩
        cases same
        rcases List.mem_append.mp member with earlier | same
        · exact hushed.blank text rfl d earlier
        · exact List.mem_singleton.mp same ▸ blank
      | number text => exact ⟨fun newline => rfl, fun longer same => by cases same⟩
      | string | quotedIdentifier | dollarQuoted | lineComment | blockComment | sign => cases takes

theorem Hushed.chars {left : List Char} (hushed : Hushed tokens)
    (blank : ∀ c ∈ left, isBlank c = true) : Hushed (left.foldl extend tokens) := by
  induction left generalizing tokens with
  | nil => exact hushed
  | cons c left ih =>
    obtain ⟨first, others⟩ := List.forall_mem_cons.mp blank
    exact ih (hushed.char first) others

theorem isQuiet_of_isBlank {c : Char} (blank : isBlank c = true) : isQuiet c = true := by
  rw [← Bool.not_eq_false]
  intro loud
  simp only [isQuiet, Bool.and_eq_false_iff, decide_eq_false_iff_not, ne_eq, not_not] at loud
  rcases loud with (((rfl | rfl) | rfl) | rfl) | rfl <;> cases blank

theorem hushed_opening {left : List Char} (blank : ∀ c ∈ left, isBlank c = true)
    (tokens : List Token) : Hushed ((markerOpening ++ left).foldl extend tokens) := by
  have parenthesis (tokens : List Token) : extend tokens '(' = .sign '(' :: tokens :=
    extend_of_apart (apart_of_unparted (by decide) tokens)
  have opening : markerOpening = ['p', 'g', 'q', '.', 'a', 'r', 'g'] ++ ['('] := rfl
  rw [List.foldl_append, opening, List.foldl_append, List.foldl_cons, List.foldl_nil, parenthesis]
  have hushed (tokens : List Token) : Hushed (.sign '(' :: tokens) :=
    ⟨fun newline => rfl, fun text same => by cases same⟩
  exact (hushed _).chars blank

theorem closesQuote_of_quoteless {name : List Char} (quoteless : '\'' ∉ name) :
    ClosesQuote '\'' false (name ++ ['\'']) := by
  induction name with
  | nil => exact .close
  | cons c name ih =>
    have others : '\'' ∉ name := fun later => quoteless (List.mem_cons_of_mem c later)
    have other : c ≠ '\'' := fun same => quoteless (same ▸ List.mem_cons_self)
    exact .other other (by simp) (ih others)

theorem onto_marker {left name right : List Char} (blank : ∀ c ∈ left, isBlank c = true)
    (tokens : List Token) :
    Lexeme.onto tokens (.marker name
        (markerOpening ++ left ++ ['\''] ++ name ++ ['\''] ++ right ++ [')'])) =
      (right ++ [')']).foldl extend
        (.string false ('\'' :: name ++ ['\'']) ::
          (markerOpening ++ left).foldl extend tokens) := by
  have quoteless : ∀ c ∈ markerOpening ++ left, decide (c ≠ '\'') = true := by
    intro c member
    rw [decide_eq_true_iff]
    rintro rfl
    rcases List.mem_append.mp member with opening | inLeft
    · simp [markerOpening] at opening
    · cases blank '\'' inLeft
  have whole : markerOpening ++ left ++ ['\''] ++ name ++ ['\''] ++ right ++ [')'] =
      (markerOpening ++ left) ++ '\'' :: (name ++ '\'' :: (right ++ [')'])) := by simp
  have opening : ((markerOpening ++ left) ++ '\'' :: (name ++ '\'' :: (right ++ [')']))).takeWhile
      (· ≠ '\'') = markerOpening ++ left :=
    takeWhile_run quoteless (by rintro c ⟨⟩; rfl)
  have closing : ((markerOpening ++ left) ++ '\'' :: (name ++ '\'' :: (right ++ [')']))).drop
      ((markerOpening ++ left).length + name.length + 2) = right ++ [')'] := by
    have regrouped : (markerOpening ++ left) ++ '\'' :: (name ++ '\'' :: (right ++ [')'])) =
        (markerOpening ++ left ++ '\'' :: name ++ ['\'']) ++ (right ++ [')']) := by simp
    have length : (markerOpening ++ left).length + name.length + 2 =
        (markerOpening ++ left ++ '\'' :: name ++ ['\'']).length := by
      simp
      omega
    rw [regrouped, length, List.drop_left]
  rw [whole, Lexeme.onto, opening, closing]

/-- A marker begins with a word, and its name is a string. -/
theorem Postgres.Begun.of_isMarker {name text : List Char}
    (begun : Begun sql tokens (text ++ rest)) (isMarker : IsMarker name text)
    (apart : Apart tokens 'p') :
    Reads sql tokens (text ++ rest) ∧
      (∃ opening closing before, text = opening ++ '\'' :: (name ++ '\'' :: closing) ∧
        (∀ c ∈ opening.tail ++ closing, c ≠ ';' ∧ c ≠ 'p') ∧
        Reads sql (.string false ('\'' :: name ++ ['\'']) :: before) (closing ++ rest)) ∧
      Begun sql (Lexeme.onto tokens (.marker name text)) rest := by
  obtain ⟨left, right, rfl, blankLeft, blankRight, -, quoteless⟩ := isMarker
  have reads : Reads sql tokens
      (markerOpening ++ left ++ ['\''] ++ name ++ ['\''] ++ right ++ [')'] ++ rest) :=
    begun.close_cons apart
  have whole : markerOpening ++ left ++ ['\''] ++ name ++ ['\''] ++ right ++ [')'] ++ rest =
      (markerOpening ++ left) ++ '\'' :: (name ++ ['\''] ++ ((right ++ [')']) ++ rest)) := by simp
  have quietOpening : ∀ c ∈ markerOpening ++ left, isQuiet c = true := by
    intro c member
    rcases List.mem_append.mp member with opening | inLeft
    · have fixed : ∀ c ∈ markerOpening, isQuiet c = true := List.all_eq_true.mp (by decide)
      exact fixed c opening
    · exact isQuiet_of_isBlank (blankLeft c inLeft)
  have quietClosing : ∀ c ∈ right ++ [')'], isQuiet c = true := by
    intro c member
    rcases List.mem_append.mp member with inRight | last
    · exact isQuiet_of_isBlank (blankRight c inRight)
    · exact List.mem_singleton.mp last ▸ rfl
  have opened := (Begun.read (whole ▸ reads)).chars quietOpening
  have atString := opened.close_cons (apart_of_unparted (by decide) _)
  have unescaped := (hushed_opening blankLeft tokens).escapesBehind
  have single : ((right ++ [')']) ++ rest).head? ≠ some '\'' := by
    cases right with
    | nil => simp
    | cons c right =>
      have blank := blankRight c List.mem_cons_self
      intro quote
      cases quote
      cases blank
  have string : Reads sql (.string false ('\'' :: name ++ ['\'']) ::
      (markerOpening ++ left).foldl extend tokens) ((right ++ [')']) ++ rest) := by
    refine .token atString ?_ single
    rw [unescaped]
    exact ⟨rfl, name ++ ['\''], rfl, closesQuote_of_quoteless quoteless⟩
  have others : ∀ c ∈ (markerOpening ++ left).tail ++ (right ++ [')']), c ≠ ';' ∧ c ≠ 'p' := by
    have unnamed {c : Char} (blank : isBlank c = true) : c ≠ ';' ∧ c ≠ 'p' := by
      refine ⟨?_, ?_⟩ <;> rintro rfl <;> cases blank
    have fixed : ∀ c ∈ ['g', 'q', '.', 'a', 'r', 'g', '('], c ≠ ';' ∧ c ≠ 'p' := by
      simp
    intro c member
    rcases List.mem_append.mp member with opening | closing
    · rcases List.mem_append.mp (opening : c ∈ ['g', 'q', '.', 'a', 'r', 'g', '('] ++ left) with
        named | inLeft
      · exact fixed c named
      · exact unnamed (blankLeft c inLeft)
    · rcases List.mem_append.mp closing with inRight | last
      · exact unnamed (blankRight c inRight)
      · exact List.mem_singleton.mp last ▸ by decide
  refine ⟨reads, ⟨markerOpening ++ left, right ++ [')'], _, by simp, others, string⟩, ?_⟩
  rw [onto_marker blankLeft]
  exact (Begun.read string).chars quietClosing

/-- Reading goes on behind each lexeme. -/
theorem Postgres.Begun.onto (begun : Begun sql tokens (lexeme.text ++ rest))
    (form : lexeme.HasForm escapes) (ends : lexeme.EndsBefore rest)
    (agrees : lexeme.AgreesAt tokens rest) :
    Begun sql (lexeme.onto tokens) rest := by
  cases lexeme with
  | plain text =>
    refine begun.chars fun c member => ?_
    have unspecial := form.2 c member
    simp only [isSpecial, Bool.or_eq_false_iff, decide_eq_false_iff_not] at unspecial
    simp [isQuiet, unspecial]
  | semicolon => exact begun.char (by decide) fun _ => sign_endsBefore_of_isQuiet rfl rest
  | lone c =>
    have unquoted : c ≠ '\'' ∧ c ≠ '"' := by
      rcases form with rfl | rfl | rfl | rfl <;> decide
    refine begun.char unquoted fun apart => ⟨?_, ends.2.1, ends.2.2.1⟩
    rintro rfl
    exact agrees rfl apart
  | marker name text =>
    obtain ⟨-, -, begun⟩ := begun.of_isMarker form agrees
    exact begun
  | lineComment | blockComment | quoted | dollarQuoted =>
    obtain ⟨token, same, -, reads⟩ := begun.of_isProtected trivial form ends agrees
    rw [same]
    exact .read reads

/-- Where all lexemes agree, reading has begun each of them. -/
theorem Postgres.Begun.exists_at {before later : List Lexeme}
    (begun : Begun sql tokens (texts lexemes)) (lexed : Lexed behind lexemes [])
    (agree : AgreeFrom tokens lexemes) (split : lexemes = before ++ lexeme :: later) :
    ∃ tokens, Begun sql tokens (lexeme.text ++ texts later) ∧
      lexeme.AgreesAt tokens (texts later) := by
  induction before generalizing behind tokens lexemes with
  | nil =>
    subst split
    exact ⟨tokens, begun, agree.1⟩
  | cons first before ih =>
    subst split
    obtain _ | ⟨form, ends, others⟩ := lexed
    rw [List.append_nil] at ends
    exact ih (begun.onto form ends agree.1) others agree.2 rfl

theorem QueryFile.Lexed.form_at {before later : List Lexeme} (lexed : Lexed behind lexemes [])
    (split : lexemes = before ++ lexeme :: later) :
    ∃ escapes, lexeme.HasForm escapes ∧ lexeme.EndsBefore (texts later) := by
  rw [split] at lexed
  obtain ⟨-, rest⟩ := lexed_append_iff.mp lexed
  obtain _ | ⟨form, ends, -⟩ := rest
  exact ⟨_, form, List.append_nil (texts later) ▸ ends⟩

/-- PostgreSQL reads the statement in the same regions: each comment, string, quoted identifier and
dollar quote is one of its tokens, each marker begins with a token, and no dollar sign that opens
nothing opens a tag. -/
structure FollowsPostgres (sql : List Char) (lexemes : List Lexeme) : Prop where
  regions : ∀ before lexeme later, lexemes = before ++ lexeme :: later → lexeme.IsProtected →
    ∃ tokens token, Reads sql (token :: tokens) (texts later) ∧ token.text = lexeme.text
  markers : ∀ before name text later, lexemes = before ++ .marker name text :: later →
    ∃ tokens, Reads sql tokens (text ++ texts later)
  dollars : ∀ before later, lexemes = before ++ .lone '$' :: later → OpensTag (texts later) →
    ∀ tokens, ¬ Reads sql tokens ('$' :: texts later)

theorem FollowsPostgres.tail (follows : FollowsPostgres sql (lexeme :: lexemes)) :
    FollowsPostgres sql lexemes :=
  ⟨fun before other later split => follows.regions (lexeme :: before) other later (split ▸ rfl),
    fun before name text later split =>
      follows.markers (lexeme :: before) name text later (split ▸ rfl),
    fun before later split => follows.dollars (lexeme :: before) later (split ▸ rfl)⟩

theorem apart_of_reads {c : Char} (reads : Reads sql tokens (c :: rest)) : Apart tokens c := by
  intro token last
  obtain ⟨before, rfl⟩ := List.head?_eq_some_iff.mp last
  obtain ⟨-, -, ends⟩ := reads_cons_iff.mp reads
  cases token with
  | word | number => exact ends c rfl
  | string | quotedIdentifier | dollarQuoted | lineComment | blockComment | sign => rfl

/-- Where PostgreSQL has the region as its token the lexeme agrees. -/
theorem Postgres.Begun.agreesAt_region {token : Token}
    (begun : Begun sql tokens (lexeme.text ++ rest)) (isProtected : lexeme.IsProtected)
    (form : lexeme.HasForm escapes) (reads : Reads sql (token :: others) rest)
    (text : token.text = lexeme.text) :
    lexeme.AgreesAt tokens rest := by
  obtain ⟨before, tokenForm, ends⟩ := reads_cons_iff.mp reads
  rw [text] at before
  have here := begun.reads before
  obtain rfl := here.behind_eq before
  have first := firstToken?_of_hasForm tokenForm ends
  rw [text] at first
  cases lexeme with
  | plain | marker | semicolon | lone => cases isProtected
  | lineComment text =>
    obtain ⟨body, rfl, -⟩ := form
    obtain ⟨line, rfl⟩ : ∃ line, token = .lineComment line := by
      have unlettered : isWordStart '-' = false := by decide
      have comment : some (Token.lineComment
          ('-' :: '-' :: (body ++ rest).takeWhile fun c => !isNewline c)) = some token := by
        simpa [Lexeme.text, firstToken?, unlettered] using first
      exact ⟨_, (Option.some.inj comment).symm⟩
    obtain ⟨line, rfl, unbroken⟩ := tokenForm
    obtain rfl : line = body := (List.cons.inj (List.cons.inj text).2).2
    intro returned
    have inLine : '\r' ∈ line := by simpa using returned
    cases unbroken '\r' inLine
  | blockComment => trivial
  | quoted text =>
    rintro body rfl
    obtain ⟨string, rfl⟩ : ∃ string, token = .string (escapesBehind tokens) string := by
      have unlettered : isWordStart '\'' = false := by decide
      obtain ⟨string, -, same⟩ : ∃ string,
          (∃ after, closeQuote '\'' (escapesBehind tokens) (body ++ rest) = some (string, after)) ∧
            Token.string (escapesBehind tokens) ('\'' :: string) = token := by
        simpa [Lexeme.text, firstToken?, unlettered] using first
      exact ⟨_, same.symm⟩
    obtain ⟨-, inner, rfl, closes⟩ := tokenForm
    obtain rfl : inner = body := (List.cons.inj text).2
    exact closes
  | dollarQuoted text =>
    obtain ⟨tag, body, rfl, ⟨name, rfl, -⟩, -⟩ := form
    exact apart_of_reads here

theorem Postgres.Begun.follows_iff (begun : Begun sql tokens (texts lexemes))
    (lexed : Lexed behind lexemes []) :
    FollowsPostgres sql lexemes ↔ AgreeFrom tokens lexemes := by
  constructor
  · intro follows
    induction lexemes generalizing behind tokens with
    | nil => trivial
    | cons lexeme lexemes ih =>
      obtain _ | ⟨form, ends, others⟩ := lexed
      rw [List.append_nil] at ends
      have agrees : lexeme.AgreesAt tokens (texts lexemes) := by
        cases lexeme with
        | plain | semicolon => trivial
        | lone c =>
          rintro rfl apart opens
          exact follows.dollars [] lexemes rfl opens tokens (begun.close_cons apart)
        | marker name text =>
          obtain ⟨others, reads⟩ := follows.markers [] name text lexemes rfl
          obtain ⟨left, right, rfl, -⟩ := form
          exact apart_of_reads (begun.reads reads)
        | lineComment | blockComment | quoted | dollarQuoted =>
          obtain ⟨others, token, reads, text⟩ := follows.regions [] _ lexemes rfl trivial
          exact begun.agreesAt_region trivial form reads text
      exact ⟨agrees, ih (begun.onto form ends agrees) others follows.tail⟩
  · intro agree
    refine ⟨fun before lexeme later split isProtected => ?_, fun before name text later split => ?_,
      fun before later split opens tokens reads => ?_⟩
    · obtain ⟨tokens, begunHere, agrees⟩ := begun.exists_at lexed agree split
      obtain ⟨_, form, ends⟩ := lexed.form_at split
      obtain ⟨token, -, text, reads⟩ := begunHere.of_isProtected isProtected form ends agrees
      exact ⟨tokens, token, reads, text⟩
    · obtain ⟨tokens, begunHere, agrees⟩ := begun.exists_at lexed agree split
      obtain ⟨_, form, -⟩ := lexed.form_at split
      exact ⟨tokens, (begunHere.of_isMarker form agrees).1⟩
    · obtain ⟨others, begunHere, agrees⟩ := begun.exists_at lexed agree split
      exact agrees rfl (apart_of_reads (begunHere.reads reads)) opens

/-- Each character stands in a lexeme. -/
theorem exists_lexeme_at {before later : List Char} {c : Char}
    (split : texts lexemes = before ++ c :: later) :
    ∃ first lexeme last front back, lexemes = first ++ lexeme :: last ∧
      lexeme.text = front ++ c :: back ∧ before = texts first ++ front ∧
      later = back ++ texts last := by
  induction lexemes generalizing before with
  | nil => simp at split
  | cons lexeme lexemes ih =>
    rw [texts_cons] at split
    rcases List.append_eq_append_iff.mp split with ⟨more, rfl, rest⟩ | ⟨more, text, rest⟩
    · obtain ⟨first, inside, last, front, back, rfl, text, rfl, same⟩ := ih rest
      exact ⟨lexeme :: first, inside, last, front, back, rfl, text, by simp, same⟩
    · cases more with
      | nil =>
        obtain ⟨first, inside, last, front, back, rfl, inText, same, after⟩ :=
          @ih [] rest.symm
        refine ⟨lexeme :: first, inside, last, front, back, rfl, inText, ?_, after⟩
        simp [text, ← same]
      | cons d more =>
        obtain ⟨rfl, rfl⟩ := List.cons.inj rest
        exact ⟨[], lexeme, lexemes, before, more, rfl, text, rfl, rfl⟩

/-- PostgreSQL comes to no semicolon and to no marker within the text of a marker. -/
theorem Postgres.Begun.not_reads_in_marker {name text front back : List Char} {c : Char}
    (begun : Begun sql tokens (text ++ rest)) (isMarker : IsMarker name text)
    (apart : Apart tokens 'p') (split : text = front ++ c :: back) (inside : front ≠ [])
    (sought : c = ';' ∨ c = 'p') : ¬ Reads sql others (c :: back ++ rest) := by
  obtain ⟨-, ⟨opening, closing, before, whole, other, string⟩, -⟩ :=
    begun.of_isMarker isMarker apart
  have unsought : c ∉ opening.tail ++ closing := by
    intro member
    rcases sought with rfl | rfl
    · exact (other _ member).1 rfl
    · exact (other _ member).2 rfl
  have different : '\'' ≠ c := by
    rintro rfl
    rcases sought with same | same <;> cases same
  rcases exists_of_append_cons_eq different (whole.symm.trans split) with
    ⟨start, rfl, inName⟩ | ⟨more, same, -⟩
  · rcases exists_of_append_cons_eq different inName with ⟨more, -, same⟩ | ⟨more, rfl, rfl⟩
    · exact absurd (by simp [same]) unsought
    · intro reads
      have within : (Token.string false ('\'' :: (start ++ c :: more) ++ ['\''])).text =
          ('\'' :: start) ++ (c :: more ++ ['\'']) := by simp [Token.text]
      have there : Reads sql others ((c :: more ++ ['\'']) ++ (closing ++ rest)) := by
        simpa using reads
      exact string.not_within within (List.cons_ne_nil '\'' _) (List.cons_ne_nil c _) there
  · obtain ⟨d, front, rfl⟩ := List.exists_cons_of_ne_nil inside
    exact absurd (by simp [same]) unsought

/-- PostgreSQL comes to no place within a protected lexeme that agrees. -/
theorem Postgres.Begun.not_reads_in_region {front back : List Char}
    (begun : Begun sql tokens (lexeme.text ++ rest)) (isProtected : lexeme.IsProtected)
    (form : lexeme.HasForm escapes) (ends : lexeme.EndsBefore rest)
    (agrees : lexeme.AgreesAt tokens rest) (split : lexeme.text = front ++ back)
    (inside : front ≠ []) (unfinished : back ≠ []) : ¬ Reads sql others (back ++ rest) := by
  obtain ⟨token, -, text, reads⟩ := begun.of_isProtected isProtected form ends agrees
  exact reads.not_within (text.trans split) inside unfinished

/-- A statement ends at a semicolon precisely if PostgreSQL comes to it between two tokens. -/
def EndsAsRead (lexemes : List Lexeme) : Prop :=
  ∀ before rest, texts lexemes = before ++ ';' :: rest →
    ((∃ tokens, Reads (texts lexemes) tokens (';' :: rest)) ↔ .semicolon ∈ lexemes ∧ rest = [])

/-- A marker is replaced precisely if PostgreSQL comes to it between two tokens. -/
def ReplacesAsRead (lexemes : List Lexeme) : Prop :=
  ∀ before name text rest, IsMarker name text → texts lexemes = before ++ text ++ rest →
    ((∃ tokens, Reads (texts lexemes) tokens (text ++ rest)) ↔
      ∃ first later, lexemes = first ++ .marker name text :: later ∧ texts first = before)

/-- Where PostgreSQL comes to a semicolon, or to the first letter of a marker, a lexeme begins. -/
theorem exists_lexeme_begins {before later : List Char} {c : Char}
    (lexed : Lexed behind lexemes []) (agree : AgreeFrom [] lexemes)
    (split : texts lexemes = before ++ c :: later) (sought : c = ';' ∨ c = 'p')
    (reads : Reads (texts lexemes) others (c :: later)) :
    ∃ first lexeme last back, lexemes = first ++ lexeme :: last ∧ lexeme.text = c :: back ∧
      before = texts first ∧ later = back ++ texts last := by
  obtain ⟨first, lexeme, last, front, back, same, text, rfl, rfl⟩ := exists_lexeme_at split
  have begun : Begun (texts lexemes) [] (texts lexemes) := .read .start
  obtain ⟨tokens, begunHere, agrees⟩ := begun.exists_at lexed agree same
  obtain ⟨_, form, ends⟩ := lexed.form_at same
  by_cases atStart : front = []
  · subst atStart
    exact ⟨first, lexeme, last, back, same, text, List.append_nil _, rfl⟩
  · have special : isSpecial c = true := by
      rcases sought with rfl | rfl <;> rfl
    cases lexeme with
    | plain run =>
      have run_eq : run = front ++ c :: back := text
      have unspecial := form.2 c (by simp [run_eq])
      rw [special] at unspecial
      cases unspecial
    | semicolon | lone => exact absurd (eq_of_singleton text).1 atStart
    | marker name marker =>
      exact absurd reads (begunHere.not_reads_in_marker form agrees text atStart sought)
    | lineComment | blockComment | quoted | dollarQuoted =>
      exact absurd reads (begunHere.not_reads_in_region trivial form ends agrees text atStart
        (List.cons_ne_nil c back))

/-- The semicolon of a statement is its last lexeme, and the only one. -/
theorem QueryFile.EndsStatement.exists_init (ends : EndsStatement lexemes rest)
    (ended : .semicolon ∈ lexemes) :
    ∃ init, lexemes = init ++ [.semicolon] ∧ .semicolon ∉ init := by
  have unsheltered {lexemes : List Lexeme}
      (sheltered : ∀ lexeme ∈ lexemes, ';' ∈ lexeme.text → lexeme.Shelters) :
      .semicolon ∉ lexemes := by
    intro member
    rcases sheltered _ member (List.mem_singleton_self ';') with isProtected | ⟨_, _, marker⟩
    · exact isProtected
    · cases marker
  rcases ends with ⟨init, rfl, sheltered⟩ | ⟨-, sheltered⟩
  · exact ⟨init, rfl, unsheltered sheltered⟩
  · exact absurd ended (unsheltered sheltered)

theorem QueryFile.EndsStatement.last_eq_nil {first last : List Lexeme}
    (ends : EndsStatement (first ++ .semicolon :: last) rest) : last = [] := by
  obtain ⟨init, same, others⟩ := ends.exists_init (by simp)
  rcases List.eq_nil_or_concat' last with rfl | ⟨more, final, rfl⟩
  · rfl
  · have cut : first ++ .semicolon :: more ++ [final] = init ++ [.semicolon] := by simpa using same
    obtain ⟨rfl, -⟩ := List.append_inj' cut rfl
    exact absurd (by simp) others

theorem endsAsRead_of_agree (lexed : Lexed behind lexemes []) (ends : EndsStatement lexemes rest)
    (agree : AgreeFrom [] lexemes) : EndsAsRead lexemes := by
  intro before rest split
  have begun : Begun (texts lexemes) [] (texts lexemes) := .read .start
  constructor
  · rintro ⟨others, reads⟩
    obtain ⟨first, lexeme, last, back, rfl, text, rfl, rfl⟩ :=
      exists_lexeme_begins lexed agree split (.inl rfl) reads
    obtain ⟨_, form, -⟩ := lexed.form_at rfl
    cases lexeme with
    | semicolon =>
      obtain rfl := ends.last_eq_nil
      exact ⟨by simp, by simpa [Lexeme.text] using text.symm⟩
    | plain run => cases form.2 ';' (by simp [show run = ';' :: back from text])
    | marker =>
      obtain ⟨left, right, rfl, -⟩ := form
      cases (List.cons.inj text).1
    | lone c =>
      obtain rfl : c = ';' := (List.cons.inj text).1
      rcases form with same | same | same | same <;> cases same
    | lineComment | blockComment | quoted | dollarQuoted =>
      have opener := Lexeme.opener_of_isProtected (by exact trivial) form
        ((List.append_nil _).trans text)
      rcases opener with same | same | same | same | same <;> cases same
  · rintro ⟨ended, rfl⟩
    obtain ⟨init, rfl, -⟩ := ends.exists_init ended
    obtain ⟨tokens, begunHere, -⟩ := begun.exists_at lexed agree rfl
    exact ⟨tokens, begunHere.close_cons (apart_of_unparted (by decide) _)⟩

theorem replacesAsRead_of_agree (lexed : Lexed behind lexemes [])
    (agree : AgreeFrom [] lexemes) : ReplacesAsRead lexemes := by
  intro before name text rest isMarker split
  have begun : Begun (texts lexemes) [] (texts lexemes) := .read .start
  constructor
  · rintro ⟨others, reads⟩
    obtain ⟨tail, begins⟩ : ∃ tail, text = 'p' :: tail := by
      obtain ⟨left, right, rfl, -⟩ := isMarker
      exact ⟨_, rfl⟩
    have marked := marker?_of_isMarker isMarker rest
    rw [begins] at split reads
    rw [List.append_assoc, List.cons_append] at split
    obtain ⟨first, lexeme, last, back, rfl, inText, rfl, same⟩ :=
      exists_lexeme_begins lexed agree split (.inr rfl) reads
    obtain ⟨_, form, ends⟩ := lexed.form_at rfl
    have whole : text ++ rest = lexeme.text ++ texts last := by
      rw [begins, inText, List.cons_append, List.cons_append, same]
    cases lexeme with
    | marker other otherText =>
      rw [whole] at marked
      have found := marker?_of_isMarker form (texts last)
      have alike :
          some (Lexeme.marker other otherText, texts last) = some (.marker name text, rest) :=
        found.symm.trans marked
      cases alike
      exact ⟨first, last, rfl, rfl⟩
    | lone c =>
      obtain rfl : c = 'p' := (List.cons.inj inText).1
      rw [whole] at marked
      cases (ends.2.2.2 rfl).symm.trans marked
    | plain run => cases form.2 'p' (by simp [show run = 'p' :: back from inText])
    | semicolon => cases (List.cons.inj inText).1
    | lineComment | blockComment | quoted | dollarQuoted =>
      have opener := Lexeme.opener_of_isProtected (by exact trivial) form
        ((List.append_nil _).trans inText)
      rcases opener with same | same | same | same | same <;> cases same
  · rintro ⟨first, later, same, rfl⟩
    obtain ⟨tokens, begunHere, agrees⟩ := begun.exists_at lexed agree same
    have after : texts later = rest := by
      have whole : texts lexemes = texts first ++ text ++ texts later := by simp [same, Lexeme.text]
      exact List.append_cancel_left (whole.symm.trans split)
    exact ⟨tokens, after ▸ (begunHere.of_isMarker isMarker agrees).1⟩

end Lexemes

/-- Each statement of a text is read in PostgreSQL's regions precisely if its lexemes agree.  Then
it ends at the first semicolon that PostgreSQL comes to outside of them, and exactly the markers
are replaced that PostgreSQL comes to. -/
theorem segmented_postgres_regions {text : String} {slices : List (List Lexeme)}
    (segmented : Segmented [] text.toList slices) :
    (∀ lexemes ∈ slices, (FollowsPostgres (texts lexemes) lexemes ↔ AgreeFrom [] lexemes) ∧
      (AgreeFrom [] lexemes → EndsAsRead lexemes ∧ ReplacesAsRead lexemes)) ∧
    ∀ source queries, parseText source text = .ok queries →
      List.Forall₂ Prepares slices queries := by
  constructor
  · generalize text.toList = ahead at segmented
    generalize ([] : List Char) = behind at segmented
    induction segmented with
    | tail => simp
    | slice _ _ lexed ends _ ih =>
      have begun (lexemes : List Lexeme) : Begun (texts lexemes) [] (texts lexemes) := .read .start
      refine List.forall_mem_cons.mpr ⟨⟨(begun _).follows_iff lexed.alone, fun agree => ?_⟩, ih⟩
      exact ⟨endsAsRead_of_agree lexed.alone ends agree, replacesAsRead_of_agree lexed.alone agree⟩
  · intro source queries accepted
    rw [parseText_eq_ok_iff, parse_eq_remaining, Between.remaining_eq_ok_iff] at accepted
    obtain ⟨readings, last, scans, ended, rfl⟩ := accepted
    exact segmented.unique (scans.segmented ended) rfl ▸ scans.prepares

/-- A statement with a semicolon and a marker in a dollar quote, and both outside of it. -/
def quotedText : String :=
  "-- name: Find :one\nSELECT $a$;pgq.arg('B')$a$, pgq.arg('ID');"

/-- The lexemes of the statement in `quotedText`. -/
def quotedLexemes : List Lexeme :=
  [.plain "SELECT ".toList, .dollarQuoted "$a$;pgq.arg('B')$a$".toList, .plain ", ".toList,
    idMarker, .semicolon]

/-- The query of `quotedText`. -/
def quotedQuery : SourceQuery :=
  ⟨"Find", "SELECT $a$;pgq.arg('B')$a$, $1;", ["ID"], .one, ["-- name: Find :one"]⟩

theorem quotedText_segmented : Segmented [] quotedText.toList [quotedLexemes] := by
  have annotated : (Piece.lineComment "-- name: Find :one".toList).HasForm :=
    ⟨" name: Find :one".toList, by decide, by decide⟩
  have isMarker : idMarker.HasForm false :=
    ⟨[], [], rfl, by simp, by simp, by simp, by simp⟩
  have opens : OpensStatement (texts quotedLexemes ++ []) := by
    constructor <;> simp [quotedLexemes, Lexeme.text, isBlank]
  have selects : (Lexeme.plain "SELECT ".toList).HasForm false :=
    ⟨by simp, by simp [isSpecial]⟩
  have comma : (Lexeme.plain ", ".toList).HasForm false := ⟨by simp, by simp [isSpecial]⟩
  have closed : closeMark "$a$".toList ";pgq.arg('B')$a$".toList =
      some (";pgq.arg('B')$a$".toList, []) := by decide
  have quote : (Lexeme.dollarQuoted "$a$;pgq.arg('B')$a$".toList).HasForm false :=
    ⟨"$a$".toList, ";pgq.arg('B')$a$".toList, rfl,
      ⟨['a'], rfl, List.all_eq_true.mp (by decide), by simp⟩,
      ((closeMark_eq_some_iff (by decide)).mp closed).1⟩
  have lexed (behind : List Char) : Lexed behind quotedLexemes [] :=
    .cons selects (by rintro c ⟨⟩; rfl) <| .cons quote trivial <|
      .cons comma (by rintro c ⟨⟩; rfl) <| .cons isMarker trivial <|
        .cons trivial trivial (.nil _ _)
  have ends : EndsStatement quotedLexemes [] :=
    .inl ⟨quotedLexemes.dropLast, rfl, by simp [quotedLexemes, Lexeme.Shelters, Lexeme.IsProtected,
      idMarker, Lexeme.text]⟩
  have statement (behind : List Char) :
      Segmented behind (texts quotedLexemes ++ []) [quotedLexemes] :=
    @Segmented.slice _ [] [] quotedLexemes [] (.nil _) opens (lexed _) ends
      (@Segmented.tail _ [] (.nil _))
  exact .cons annotated (by rintro c ⟨⟩; rfl)
    (.cons Piece.newline_hasForm (by rintro c ⟨⟩; decide) (statement _))

theorem segmented_postgres_regions_dollar_quote :
    Segmented [] quotedText.toList [quotedLexemes] ∧ EndsAsRead quotedLexemes ∧
      ReplacesAsRead quotedLexemes ∧ parseText "find.sql" quotedText = .ok [quotedQuery] ∧
      Prepares quotedLexemes quotedQuery := by
  have accepted : parseText "find.sql" quotedText = .ok [quotedQuery] :=
    parseText_eq_ok_iff.mpr (by decide +kernel)
  have agree : AgreeFrom [] quotedLexemes := by
    refine ⟨trivial, ?_, trivial, ?_, trivial, trivial⟩
    · rintro _ ⟨⟩
      rfl
    · rintro _ ⟨⟩
      rfl
  obtain ⟨read, prepared⟩ := segmented_postgres_regions quotedText_segmented
  obtain ⟨-, likewise⟩ := read quotedLexemes (List.mem_singleton_self quotedLexemes)
  obtain ⟨ends, replaces⟩ := likewise agree
  have prepares := prepared "find.sql" [quotedQuery] accepted
  rw [List.forall₂_cons] at prepares
  exact ⟨quotedText_segmented, ends, replaces, accepted, prepares.1⟩

/-- A statement whose dollar quote has a tag beyond ASCII. -/
def accentedSql : String := "SELECT $é$;$é$"

/-- The lexemes that the scanner takes for the statement in `accentedSql`. -/
def accentedLexemes : List Lexeme :=
  [.plain "SELECT ".toList, .lone '$', .plain ['é'], .lone '$', .semicolon]

theorem accented_tag_cut :
    parseText "find.sql" ("-- name: Find :one\n" ++ accentedSql) = .error (.input
      "find.sql:2: query is missing a '-- name: <Name> <:kind>' annotation") ∧
    statementLexemes (Cursor.start accentedSql.toList) = .ok (accentedLexemes,
      (Cursor.start accentedSql.toList).advance "SELECT $é$;".toList "$é$".toList) ∧
    (∃ tokens, Reads accentedSql.toList tokens []) ∧
    ¬ ∃ tokens, Reads accentedSql.toList tokens ";$é$".toList := by
  have selects : (Token.word "SELECT".toList).HasForm false :=
    ⟨'S', "ELECT".toList, rfl, by decide, List.all_eq_true.mp (by decide)⟩
  have blank : (Token.sign ' ').HasForm false := ⟨by decide, by decide, by decide⟩
  have closed : closeMark "$é$".toList ";$é$".toList = some (";$é$".toList, []) := by decide
  have quote : (Token.dollarQuoted "$é$;$é$".toList).HasForm false :=
    ⟨"$é$".toList, ";$é$".toList, rfl, ⟨['é'], rfl, List.all_eq_true.mp (by decide), by simp⟩,
      ((closeMark_eq_some_iff (by decide)).mp closed).1⟩
  have first : Reads accentedSql.toList [.word "SELECT".toList] " $é$;$é$".toList :=
    .token .start selects (by rintro c ⟨⟩; rfl)
  have second : Reads accentedSql.toList [.sign ' ', .word "SELECT".toList] "$é$;$é$".toList :=
    .token first blank (by simp [Token.EndsBefore])
  have whole : Reads accentedSql.toList
      [.dollarQuoted "$é$;$é$".toList, .sign ' ', .word "SELECT".toList] [] :=
    .token second quote trivial
  have refused : parse ("-- name: Find :one\n" ++ accentedSql) = .error ⟨2, .unannotated⟩ := by
    decide +kernel
  have untagged (ahead : List Char) (found : dollarTag ahead = none) :
      (Lexeme.lone '$').EndsBefore ahead :=
    ⟨fun _ => found, by simp, by simp, by simp⟩
  have lexed : Lexed [] accentedLexemes "$é$".toList :=
    .cons ⟨by simp, by simp [isSpecial]⟩ (by rintro c ⟨⟩; rfl) <|
      .cons (.inl rfl) (untagged _ (by decide)) <|
        .cons ⟨by simp, by simp [isSpecial]⟩ (by rintro c ⟨⟩; rfl) <|
          .cons (.inl rfl) (untagged _ (by decide)) <| .cons trivial trivial (.nil _ _)
  have terminated : Terminated accentedLexemes "$é$".toList :=
    .cons (by decide) <| .cons (by decide) <| .cons (by decide) <| .cons (by decide) <|
      .semicolon _
  refine ⟨?_, statementLexemes_of_lexed lexed rfl terminated, ⟨_, whole⟩, ?_⟩
  · rw [parseText, refused]
    rfl
  rintro ⟨tokens, reads⟩
  exact @Reads.not_within _ _ _ tokens _ "$é$".toList ";$é$".toList whole rfl (by simp) (by simp)
    reads

end QueryTyping
