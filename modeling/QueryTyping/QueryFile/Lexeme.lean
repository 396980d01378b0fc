import QueryTyping.Text.Alphanumeric
import QueryTyping.Text.Blank

/-!
# Lexemes of a query file

A statement is read as a sequence of lexemes.  Comments, quoted strings, quoted
identifiers and dollar-quoted strings are one lexeme each, so that nothing
inside them is taken for the end of a statement or for a parameter marker.

`Lexeme.next` reads one lexeme; it returns the text it read and the text that
is left, which together are the text it was given.  Runs of characters that can
open nothing are taken in one piece; `Lexeme.nextSpecial` is the same reading
without that shortcut.
-/

namespace QueryTyping.QueryFile

open QueryTyping.Text

/-- What a file can leave open at its end. -/
inductive Unterminated where
  | quotedString
  | dollarQuoted
  | blockComment
  deriving DecidableEq, Repr

/-- A piece of a statement. -/
inductive Lexeme where
  /-- Characters that open nothing. -/
  | plain (text : List Char)
  /-- A parameter marker, with its text. -/
  | marker (name text : List Char)
  | semicolon
  | lineComment (text : List Char)
  | blockComment (text : List Char)
  /-- A string or a quoted identifier. -/
  | quoted (text : List Char)
  | dollarQuoted (text : List Char)
  /-- A character that opens a longer lexeme elsewhere but not here. -/
  | lone (c : Char)
  deriving DecidableEq, Repr

/-- The text that was read. -/
def Lexeme.text : Lexeme → List Char
  | plain text => text
  | marker _ text => text
  | semicolon => [';']
  | lineComment text => text
  | blockComment text => text
  | quoted text => text
  | dollarQuoted text => text
  | lone c => [c]

/-- A text cut in two. -/
abbrev Cut := List Char × List Char

/-- Put text in front of the first part. -/
def prepend (text : List Char) (cut : Option Cut) : Option Cut :=
  cut.map fun parts => (text ++ parts.1, parts.2)

/-- Cut after the comment closer that brings the nesting depth back to zero. -/
def closeComment : Nat → List Char → Option Cut
  | depth, '/' :: '*' :: rest => prepend ['/', '*'] (closeComment (depth + 1) rest)
  | depth, '*' :: '/' :: rest =>
    if depth ≤ 1 then some (['*', '/'], rest)
    else prepend ['*', '/'] (closeComment (depth - 1) rest)
  | depth, c :: rest => prepend [c] (closeComment depth rest)
  | _, [] => none

/-- Cut after the first closing quote.  A doubled quote does not close, and with
`escapes` neither does a character after a backslash. -/
def closeQuote (quote : Char) (escapes : Bool) : List Char → Option Cut
  | [] => none
  | [c] => if c = quote then some ([c], []) else none
  | c :: d :: rest =>
    if escapes && c = '\\' then prepend [c, d] (closeQuote quote escapes rest)
    else if c = quote then
      if d = quote then prepend [c, d] (closeQuote quote escapes rest)
      else some ([c], d :: rest)
    else prepend [c] (closeQuote quote escapes (d :: rest))

/-- The text after a given beginning. -/
def stripStart? : List Char → List Char → Option (List Char)
  | [], s => some s
  | _ :: _, [] => none
  | p :: start, c :: s => if p = c then stripStart? start s else none

/-- Cut after the first occurrence of `mark`. -/
def closeMark (mark : List Char) : List Char → Option Cut
  | [] => none
  | c :: rest =>
    match stripStart? mark (c :: rest) with
    | some after => some (mark, after)
    | none => prepend [c] (closeMark mark rest)

/-- A letter, a digit or an underscore, in ASCII. -/
def isTagChar (c : Char) : Bool := c.isAlphanum || c = '_'

/-- The dollar-quote tag that a dollar sign before this text opens, and what follows it: an
identifier or nothing between two dollar signs. -/
def dollarTag (rest : List Char) : Option Cut :=
  match rest.takeWhile isTagChar, rest.dropWhile isTagChar with
  | name, '$' :: after =>
    if name.head?.any Char.isDigit then none else some ('$' :: name ++ ['$'], after)
  | _, _ => none

/-- Whether a quote after this text, given backwards, opens a string with
backslash escapes: an `e` or `E` that is not the tail of a word. -/
def opensEscapes : List Char → Bool
  | c :: before =>
    (c = 'e' || c = 'E') &&
      match before with
      | [] => true
      | d :: _ => !(isAlphanumeric d || d = '_')
  | [] => false

/-- The opening of a parameter marker. -/
def markerOpening : List Char := ['p', 'g', 'q', '.', 'a', 'r', 'g', '(']

/-- Read a parameter marker: the name between single quotes, white space around it. -/
def marker? (s : List Char) : Option (Lexeme × List Char) :=
  match stripStart? markerOpening s with
  | none => none
  | some inside =>
    match inside.dropWhile isBlank with
    | '\'' :: body =>
      let name := body.takeWhile (· ≠ '\'')
      match name, body.dropWhile (· ≠ '\'') with
      | _ :: _, '\'' :: tail =>
        match tail.dropWhile isBlank with
        | ')' :: rest =>
          some (.marker name
            (markerOpening ++ inside.takeWhile isBlank ++ ['\''] ++ name ++ ['\''] ++
              tail.takeWhile isBlank ++ [')']), rest)
        | _ => none
      | _, _ => none
    | _ => none

/-- Read a lexeme that a special character opens, the character given apart. -/
def protected? (before : List Char) (c : Char) (rest : List Char) :
    Except Unterminated (Lexeme × List Char) :=
  match c, rest with
  | '-', '-' :: rest =>
    .ok (.lineComment ('-' :: '-' :: rest.takeWhile (· ≠ '\n')), rest.dropWhile (· ≠ '\n'))
  | '/', '*' :: rest =>
    match closeComment 1 rest with
    | some (body, after) => .ok (.blockComment ('/' :: '*' :: body), after)
    | none => .error .blockComment
  | '\'', rest =>
    match closeQuote '\'' (opensEscapes before) rest with
    | some (body, after) => .ok (.quoted ('\'' :: body), after)
    | none => .error .quotedString
  | '"', rest =>
    match closeQuote '"' false rest with
    | some (body, after) => .ok (.quoted ('"' :: body), after)
    | none => .error .quotedString
  | '$', rest =>
    match dollarTag rest with
    | some (tag, body) =>
      match closeMark tag body with
      | some (text, after) => .ok (.dollarQuoted (tag ++ text), after)
      | none => .error .dollarQuoted
    | none => .ok (.lone '$', rest)
  | c, rest => .ok (.lone c, rest)

/-- Characters that may open a lexeme of their own. -/
def isSpecial (c : Char) : Bool :=
  c = ';' || c = '\'' || c = '"' || c = '$' || c = '/' || c = '-' || c = 'p'

/-- Read one lexeme, a single character if nothing longer opens here. -/
def Lexeme.nextSpecial (before : List Char) (c : Char) (rest : List Char) :
    Except Unterminated (Lexeme × List Char) :=
  match marker? (c :: rest) with
  | some found => .ok found
  | none => if c = ';' then .ok (.semicolon, rest) else protected? before c rest

/-- Read one lexeme, taking a run of characters that open nothing in one piece. -/
def Lexeme.next (before : List Char) (c : Char) (rest : List Char) :
    Except Unterminated (Lexeme × List Char) :=
  if isSpecial c then nextSpecial before c rest
  else .ok (.plain (c :: rest.takeWhile fun d => !isSpecial d),
    rest.dropWhile fun d => !isSpecial d)

theorem takeWhile_append_dropWhile_eq (p : Char → Bool) (s : List Char) :
    s.takeWhile p ++ s.dropWhile p = s :=
  List.takeWhile_append_dropWhile

theorem prepend_eq_some {text : List Char} {cut : Option Cut} {a b : List Char}
    (h : prepend text cut = some (a, b)) : ∃ a', cut = some (a', b) ∧ a = text ++ a' := by
  cases cut with
  | none => simp [prepend] at h
  | some parts =>
    obtain ⟨x, y⟩ := parts
    simp only [prepend, Option.map_some, Option.some.injEq, Prod.mk.injEq] at h
    exact ⟨x, by simp [h.2], h.1.symm⟩

theorem closeComment_append {depth : Nat} {s a b : List Char}
    (h : closeComment depth s = some (a, b)) : a ++ b = s := by
  fun_induction closeComment depth s generalizing a with
  | case1 depth rest ih =>
    obtain ⟨a', hc, rfl⟩ := prepend_eq_some h
    simp [ih hc]
  | case2 depth rest hle => simp at h; simp [← h.1, ← h.2]
  | case3 depth rest hle ih =>
    obtain ⟨a', hc, rfl⟩ := prepend_eq_some h
    simp [ih hc]
  | case4 depth c rest _ _ ih =>
    obtain ⟨a', hc, rfl⟩ := prepend_eq_some h
    simp [ih hc]
  | case5 => simp at h

theorem closeQuote_append {quote : Char} {escapes : Bool} {s a b : List Char}
    (h : closeQuote quote escapes s = some (a, b)) : a ++ b = s := by
  fun_induction closeQuote quote escapes s generalizing a with
  | case1 => simp at h
  | case2 => simp at h; simp [← h.1, ← h.2]
  | case3 => simp at h
  | case4 _ _ _ _ ih =>
    obtain ⟨_, hc, rfl⟩ := prepend_eq_some h
    simp [ih hc]
  | case5 _ _ ih =>
    obtain ⟨_, hc, rfl⟩ := prepend_eq_some h
    simp [ih hc]
  | case6 => simp at h; simp [← h.1, ← h.2]
  | case7 _ _ _ _ _ ih =>
    obtain ⟨_, hc, rfl⟩ := prepend_eq_some h
    simp [ih hc]

theorem stripStart?_eq_some {start s rest : List Char} (h : stripStart? start s = some rest) :
    start ++ rest = s := by
  fun_induction stripStart? start s with
  | case1 => simp_all
  | case2 => simp at h
  | case3 => simp_all
  | case4 => simp at h

theorem closeMark_append {mark s a b : List Char} (h : closeMark mark s = some (a, b)) :
    a ++ b = s := by
  fun_induction closeMark mark s generalizing a with
  | case1 => simp at h
  | case2 c rest after hs =>
    simp only [Option.some.injEq, Prod.mk.injEq] at h
    rw [← h.1, ← h.2]
    exact stripStart?_eq_some hs
  | case3 c rest hs ih =>
    obtain ⟨a', hc, rfl⟩ := prepend_eq_some h
    simp [ih hc]

theorem dollarTag_append {rest a b : List Char} (h : dollarTag rest = some (a, b)) :
    a ++ b = '$' :: rest := by
  unfold dollarTag at h
  split at h
  · rename_i name after hafter
    have hcut := takeWhile_append_dropWhile_eq isTagChar rest
    rw [hafter] at hcut
    split at h
    · simp at h
    · simp only [Option.some.injEq, Prod.mk.injEq] at h
      rw [← h.1, ← h.2]
      simpa using hcut
  · simp at h

theorem marker?_append {s rest : List Char} {lexeme : Lexeme}
    (h : marker? s = some (lexeme, rest)) : lexeme.text ++ rest = s ∧ lexeme.text ≠ [] := by
  unfold marker? at h
  split at h
  · simp at h
  · rename_i inside hinside
    have h0 := stripStart?_eq_some hinside
    split at h
    · rename_i body hbody
      have h1 := takeWhile_append_dropWhile_eq isBlank inside
      rw [hbody] at h1
      simp only at h
      split at h
      · rename_i tail hname htail
        have h2 := takeWhile_append_dropWhile_eq (· ≠ '\'') body
        rw [htail] at h2
        split at h
        · rename_i rest' hrest
          have h3 := takeWhile_append_dropWhile_eq isBlank tail
          rw [hrest] at h3
          simp only [Option.some.injEq, Prod.mk.injEq] at h
          rw [← h.1, ← h.2]
          refine ⟨?_, by simp [Lexeme.text, markerOpening]⟩
          rw [← h0]
          simp only [Lexeme.text, List.append_assoc, List.cons_append, List.nil_append]
          rw [h3, h2, h1]
        · simp at h
      · simp at h
    · simp at h

theorem protected?_append {before rest rest' : List Char} {c : Char} {lexeme : Lexeme}
    (h : protected? before c rest = .ok (lexeme, rest')) :
    lexeme.text ++ rest' = c :: rest ∧ lexeme.text ≠ [] := by
  unfold protected? at h
  split at h
  · simp only [Except.ok.injEq, Prod.mk.injEq] at h
    rw [← h.1, ← h.2]
    simp [Lexeme.text]
  · split at h
    · rename_i hc
      simp only [Except.ok.injEq, Prod.mk.injEq] at h
      rw [← h.1, ← h.2]
      simp [Lexeme.text, closeComment_append hc]
    · simp at h
  · split at h
    · rename_i hc
      simp only [Except.ok.injEq, Prod.mk.injEq] at h
      rw [← h.1, ← h.2]
      simp [Lexeme.text, closeQuote_append hc]
    · simp at h
  · split at h
    · rename_i hc
      simp only [Except.ok.injEq, Prod.mk.injEq] at h
      rw [← h.1, ← h.2]
      simp [Lexeme.text, closeQuote_append hc]
    · simp at h
  · split at h
    · rename_i tag body ht
      have htag := dollarTag_append ht
      split at h
      · rename_i hm
        simp only [Except.ok.injEq, Prod.mk.injEq] at h
        rw [← h.1, ← h.2]
        refine ⟨by simp [Lexeme.text, closeMark_append hm, htag], ?_⟩
        intro hnil
        simp only [Lexeme.text, List.append_eq_nil_iff] at hnil
        unfold dollarTag at ht
        split at ht <;> simp_all
      · simp at h
    · simp only [Except.ok.injEq, Prod.mk.injEq] at h
      simp [← h.1, ← h.2, Lexeme.text]
  · simp only [Except.ok.injEq, Prod.mk.injEq] at h
    simp [← h.1, ← h.2, Lexeme.text]

/-- Reading without the shortcut cuts the text in two and reads something. -/
theorem Lexeme.nextSpecial_append {before rest rest' : List Char} {c : Char} {lexeme : Lexeme}
    (h : Lexeme.nextSpecial before c rest = .ok (lexeme, rest')) :
    lexeme.text ++ rest' = c :: rest ∧ lexeme.text ≠ [] := by
  unfold Lexeme.nextSpecial at h
  split at h
  · rename_i hm
    simp only [Except.ok.injEq] at h
    subst h
    exact marker?_append hm
  · split at h
    · rename_i hc
      simp only [Except.ok.injEq, Prod.mk.injEq] at h
      simp [← h.1, ← h.2, Lexeme.text, hc]
    · exact protected?_append h

/-- Reading a lexeme cuts the text in two and reads something. -/
theorem Lexeme.next_append {before rest rest' : List Char} {c : Char} {lexeme : Lexeme}
    (h : Lexeme.next before c rest = .ok (lexeme, rest')) :
    lexeme.text ++ rest' = c :: rest ∧ lexeme.text ≠ [] := by
  unfold Lexeme.next at h
  split at h
  · exact Lexeme.nextSpecial_append h
  · simp only [Except.ok.injEq, Prod.mk.injEq] at h
    rw [← h.1, ← h.2]
    simp [Lexeme.text]

/-- What is left is shorter. -/
theorem Lexeme.next_length {before rest rest' : List Char} {c : Char} {lexeme : Lexeme}
    (h : Lexeme.next before c rest = .ok (lexeme, rest')) :
    rest'.length < (c :: rest).length := by
  obtain ⟨happ, hne⟩ := Lexeme.next_append h
  have hlen := congrArg List.length happ
  have hpos := List.length_pos_iff.2 hne
  simp only [List.length_append] at hlen
  omega

end QueryTyping.QueryFile
