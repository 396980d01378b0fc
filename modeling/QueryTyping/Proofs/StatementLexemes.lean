import QueryTyping.Proofs.LexemeForm
import QueryTyping.QueryFile.Statement

/-!
# The lexemes of a statement

A statement is read lexeme by lexeme, each with the text behind and the text
ahead in view (`Lexed`), up to its first semicolon or to the end of the text
(`Terminated`).  Reading gives exactly those lexemes
(`statementLexemes_eq_ok_iff`).

A parameter's number is its place among the distinct names, in order of first
appearance: what the reader counts on its way can be said of the lexemes as a
whole (`placeholders_eq`).
-/

namespace QueryTyping.QueryFile

open QueryTyping.Text

/-- The text that lexemes make up. -/
def texts (lexemes : List Lexeme) : List Char := lexemes.flatMap Lexeme.text

@[simp] theorem texts_nil : texts [] = [] := rfl

@[simp] theorem texts_cons (lexeme : Lexeme) (lexemes : List Lexeme) :
    texts (lexeme :: lexemes) = lexeme.text ++ texts lexemes := rfl

@[simp] theorem texts_append (first second : List Lexeme) :
    texts (first ++ second) = texts first ++ texts second :=
  List.flatMap_append

/-- The lexemes stand between the text behind, given backwards, and the text after them, each with
its form and its end. -/
inductive Lexed : List Char → List Lexeme → List Char → Prop
  | nil (behind after : List Char) : Lexed behind [] after
  | cons {behind after : List Char} {lexeme : Lexeme} {lexemes : List Lexeme}
    (form : lexeme.HasForm (opensEscapes behind)) (ends : lexeme.EndsBefore (texts lexemes ++ after))
    (others : Lexed (lexeme.text.reverse ++ behind) lexemes after) :
    Lexed behind (lexeme :: lexemes) after

theorem lexed_append_iff {behind after : List Char} {first second : List Lexeme} :
    Lexed behind (first ++ second) after ↔
      Lexed behind first (texts second ++ after) ∧
        Lexed ((texts first).reverse ++ behind) second after := by
  constructor
  · intro lexed
    induction first generalizing behind with
    | nil => exact ⟨.nil _ _, lexed⟩
    | cons lexeme first ih =>
      rw [List.cons_append] at lexed
      cases lexed with
      | cons form ends others =>
        obtain ⟨before, behind⟩ := ih others
        rw [texts_append, List.append_assoc] at ends
        refine ⟨.cons form ends before, ?_⟩
        rwa [texts_cons, List.reverse_append, List.append_assoc]
  · rintro ⟨lexed, later⟩
    induction first generalizing behind with
    | nil => exact later
    | cons lexeme first ih =>
      cases lexed with
      | cons form ends others =>
        rw [texts_cons, List.reverse_append, List.append_assoc] at later
        have whole : texts (first ++ second) ++ after = texts first ++ (texts second ++ after) := by
          rw [texts_append, List.append_assoc]
        exact .cons form (whole ▸ ends) (ih others later)

/-- The last lexeme is the only semicolon, unless the text ends first. -/
inductive Terminated : List Lexeme → List Char → Prop
  | atEnd : Terminated [] []
  | semicolon (after : List Char) : Terminated [.semicolon] after
  | cons {after : List Char} {lexeme : Lexeme} {lexemes : List Lexeme}
    (other : lexeme ≠ .semicolon) (others : Terminated lexemes after) :
    Terminated (lexeme :: lexemes) after

theorem Terminated.semicolon_mem {lexemes : List Lexeme} {after : List Char}
    (terminated : Terminated lexemes after) (continues : after ≠ []) : .semicolon ∈ lexemes := by
  induction terminated with
  | atEnd => exact absurd rfl continues
  | semicolon => exact List.mem_singleton_self _
  | cons _ _ ih => exact List.mem_cons_of_mem _ (ih continues)

section Advance

variable (here : Cursor) (first second after later : List Char)

@[simp] theorem Cursor.advance_behind :
    (here.advance first after).behind = first.reverse ++ here.behind := by
  simp [Cursor.advance, List.reverseAux_eq]

@[simp] theorem Cursor.advance_line :
    (here.advance first after).line = here.line + first.count '\n' := rfl

theorem Cursor.advance_nil : here.advance [] here.ahead = here := rfl

theorem Cursor.advance_advance :
    (here.advance first after).advance second later = here.advance (first ++ second) later := by
  simp [Cursor.advance, List.reverseAux_eq, List.count_append, Nat.add_assoc]

end Advance

section Reading

variable {here stop : Cursor} {lexeme : Lexeme} {lexemes : List Lexeme} {c : Char}
  {rest after : List Char}

theorem statementLexemes_of_nil (ended : here.ahead = []) :
    statementLexemes here = .ok ([], here) := by
  unfold statementLexemes
  split
  · rfl
  next c rest ahead =>
    rw [ended] at ahead
    cases ahead

/-- The next lexeme decides how the rest is read. -/
theorem statementLexemes_of_cons (ahead : here.ahead = c :: rest) :
    statementLexemes here =
      match Lexeme.next here.behind c rest with
      | .error unterminated => .error ⟨here.line, openFault unterminated⟩
      | .ok (lexeme, after) =>
        if lexeme = .semicolon then .ok ([.semicolon], here.advance [';'] after)
        else
          (statementLexemes (here.advance lexeme.text after)).map
            fun read => (lexeme :: read.1, read.2) := by
  rw [statementLexemes]
  split
  next ended =>
    rw [ended] at ahead
    cases ahead
  next d others same =>
    rw [ahead] at same
    cases same
    split
    next failed => rw [failed]
    next ended =>
      rw [ended]
      exact (if_pos rfl).symm
    next lexeme after other read =>
      rw [read]
      refine Eq.trans ?_ (if_neg other).symm
      cases statementLexemes (here.advance lexeme.text after) <;> rfl

theorem statementLexemes_of_semicolon (ahead : here.ahead = c :: rest)
    (next : Lexeme.next here.behind c rest = .ok (.semicolon, after)) :
    statementLexemes here = .ok ([.semicolon], here.advance [';'] after) := by
  rw [statementLexemes_of_cons ahead, next]
  exact if_pos rfl

/-- A lexeme stands in front of those that are read behind it. -/
theorem statementLexemes_of_lexeme (ahead : here.ahead = c :: rest)
    (next : Lexeme.next here.behind c rest = .ok (lexeme, after)) (other : lexeme ≠ .semicolon) :
    statementLexemes here =
      (statementLexemes (here.advance lexeme.text after)).map
        fun read => (lexeme :: read.1, read.2) := by
  rw [statementLexemes_of_cons ahead, next]
  exact if_neg other

theorem lexed_of_statementLexemes (read : statementLexemes here = .ok (lexemes, stop)) :
    Lexed here.behind lexemes stop.ahead ∧ here.ahead = texts lexemes ++ stop.ahead ∧
      Terminated lexemes stop.ahead ∧ stop = here.advance (texts lexemes) stop.ahead := by
  fun_induction statementLexemes here generalizing lexemes stop with
  | case1 here ended =>
    simp only [Except.ok.injEq, Prod.mk.injEq] at read
    obtain ⟨rfl, rfl⟩ := read
    refine ⟨.nil _ _, rfl, ended ▸ .atEnd, ?_⟩
    simp [Cursor.advance]
  | case2 => cases read
  | case3 here c rest ahead after next =>
    simp only [Except.ok.injEq, Prod.mk.injEq] at read
    obtain ⟨rfl, rfl⟩ := read
    obtain ⟨form, ends, text⟩ := Lexeme.next_eq_ok_iff.mp next
    exact ⟨.cons form ends (.nil _ _), ahead.trans text.symm, .semicolon _, rfl⟩
  | case4 => cases read
  | case5 here c rest ahead lexeme after other next lexemes stop inner ih =>
    simp only [Except.ok.injEq, Prod.mk.injEq] at read
    obtain ⟨rfl, rfl⟩ := read
    obtain ⟨form, ends, text⟩ := Lexeme.next_eq_ok_iff.mp next
    obtain ⟨lexed, others, terminated, stopped⟩ := ih inner
    rw [Cursor.advance_behind] at lexed
    rw [Cursor.advance_ahead] at others
    subst others
    refine ⟨.cons form ends lexed, ?_, .cons other terminated, ?_⟩
    · rw [ahead, ← text, texts_cons, List.append_assoc]
    · rw [stopped, Cursor.advance_advance]
      rfl

theorem statementLexemes_of_lexed (lexed : Lexed here.behind lexemes after)
    (text : here.ahead = texts lexemes ++ after) (terminated : Terminated lexemes after) :
    statementLexemes here = .ok (lexemes, here.advance (texts lexemes) after) := by
  induction terminated generalizing here with
  | atEnd =>
    have ended : here.ahead = [] := text
    have unmoved := here.advance_nil
    rw [ended] at unmoved
    rw [statementLexemes_of_nil ended, texts_nil, unmoved]
  | semicolon after =>
    cases lexed with
    | cons form ends _ =>
      exact statementLexemes_of_semicolon text (Lexeme.next_eq_ok_iff.mpr ⟨form, ends, rfl⟩)
  | @cons after lexeme lexemes other terminated ih =>
    obtain _ | ⟨form, ends, others⟩ := lexed
    obtain ⟨c, rest, ahead⟩ := List.exists_cons_of_ne_nil form.ne_nil
    have next : Lexeme.next here.behind c (rest ++ (texts lexemes ++ after)) =
        .ok (lexeme, texts lexemes ++ after) := by
      rw [Lexeme.next_eq_ok_iff, ahead]
      exact ⟨form, ends, rfl⟩
    have start : here.ahead = c :: (rest ++ (texts lexemes ++ after)) := by
      rw [text, texts_cons, ahead, List.append_assoc]
      rfl
    rw [statementLexemes_of_lexeme start next other, ih (by simpa using others) rfl,
      Cursor.advance_advance]
    rfl

/-- The lexemes of a statement are those that its text is made of. -/
theorem statementLexemes_eq_ok_iff :
    statementLexemes here = .ok (lexemes, stop) ↔
      Lexed here.behind lexemes stop.ahead ∧ here.ahead = texts lexemes ++ stop.ahead ∧
        Terminated lexemes stop.ahead ∧ stop = here.advance (texts lexemes) stop.ahead := by
  constructor
  · exact lexed_of_statementLexemes
  · rintro ⟨lexed, text, terminated, stopped⟩
    rw [stopped]
    exact statementLexemes_of_lexed lexed text terminated

end Reading

/-- The name that a marker asks for. -/
def Lexeme.parameter? : Lexeme → Option (List Char)
  | .marker name _ => some name
  | _ => none

/-- The distinct names that the markers ask for, in order of first appearance. -/
def parameters (lexemes : List Lexeme) : List (List Char) :=
  (lexemes.filterMap Lexeme.parameter?).eraseDups

/-- The placeholder of the parameter with this name. -/
def placeholder (params : List (List Char)) (name : List Char) : List Char :=
  '$' :: (toString (params.idxOf name + 1)).toList

/-- A lexeme as it stands in the prepared statement. -/
def Lexeme.prepared (params : List (List Char)) : Lexeme → List Char
  | .marker name _ => placeholder params name
  | lexeme => lexeme.text

theorem Lexeme.prepared_eq_text {lexeme : Lexeme} (unmarked : lexeme.parameter? = none)
    (params : List (List Char)) : lexeme.prepared params = lexeme.text := by
  cases lexeme with
  | marker => cases unmarked
  | plain | semicolon | lineComment | blockComment | quoted | dollarQuoted | lone => rfl

theorem Lexeme.IsProtected.unmarked {lexeme : Lexeme} (isProtected : lexeme.IsProtected) :
    lexeme.parameter? = none := by
  cases lexeme with
  | marker => cases isProtected
  | plain | semicolon | lineComment | blockComment | quoted | dollarQuoted | lone => rfl

/-- A lexeme is a marker, or stands in the prepared statement as it is. -/
theorem Lexeme.marker_or_unmarked (lexeme : Lexeme) :
    (∃ name text, lexeme = .marker name text) ∨ lexeme.parameter? = none := by
  cases lexeme with
  | marker name text => exact .inl ⟨name, text, rfl⟩
  | plain | semicolon | lineComment | blockComment | quoted | dollarQuoted | lone => exact .inr rfl

/-- The prepared text of lexemes, the parameters given. -/
def preparedTexts (params : List (List Char)) (lexemes : List Lexeme) : List Char :=
  lexemes.flatMap (Lexeme.prepared params)

@[simp] theorem preparedTexts_nil (params : List (List Char)) : preparedTexts params [] = [] := rfl

@[simp] theorem preparedTexts_cons (params : List (List Char)) (lexeme : Lexeme)
    (lexemes : List Lexeme) :
    preparedTexts params (lexeme :: lexemes) =
      lexeme.prepared params ++ preparedTexts params lexemes := rfl

@[simp] theorem preparedTexts_append (params : List (List Char)) (first second : List Lexeme) :
    preparedTexts params (first ++ second) =
      preparedTexts params first ++ preparedTexts params second :=
  List.flatMap_append

/-- The parameters of a beginning come first. -/
theorem parameters_append (first second : List Lexeme) :
    ∃ more, parameters (first ++ second) = parameters first ++ more := by
  rw [parameters, parameters, List.filterMap_append, List.eraseDups_append]
  exact ⟨_, rfl⟩

theorem mem_parameters_iff {lexemes : List Lexeme} {name : List Char} :
    name ∈ parameters lexemes ↔ ∃ text, .marker name text ∈ lexemes := by
  rw [parameters, List.mem_eraseDups, List.mem_filterMap]
  constructor
  · rintro ⟨lexeme, member, named⟩
    rcases lexeme.marker_or_unmarked with ⟨other, text, rfl⟩ | unmarked
    · cases named
      exact ⟨text, member⟩
    · rw [unmarked] at named
      cases named
  · rintro ⟨text, member⟩
    exact ⟨_, member, rfl⟩

/-- A name known before is no new parameter. -/
theorem removeAll_cons_known {known names : List (List Char)} {name : List Char}
    (seen : name ∈ known) : (name :: names).removeAll known = names.removeAll known := by
  simp [List.removeAll, seen]

theorem eraseDups_removeAll_cons {known names : List (List Char)} {name : List Char}
    (new : name ∉ known) :
    ((name :: names).removeAll known).eraseDups =
      name :: (names.removeAll (known ++ [name])).eraseDups := by
  have kept : (name :: names).removeAll known = name :: names.removeAll known := by
    simp [List.removeAll, new]
  have others : (names.removeAll known).filter (fun other => !other == name) =
      names.removeAll (known ++ [name]) := by
    simp only [List.removeAll, List.filter_filter]
    refine List.filter_congr fun other _ => ?_
    simp [Bool.and_comm, beq_eq_decide]
  rw [kept, List.eraseDups_cons, others]

/-- The reader knows the parameters so far; the new ones follow them. -/
theorem placeholders_known (known : List (List Char)) (lexemes : List Lexeme) :
    placeholders known lexemes =
      let params := known ++ ((lexemes.filterMap Lexeme.parameter?).removeAll known).eraseDups
      (preparedTexts params lexemes, params) := by
  induction lexemes generalizing known with
  | nil => simp [placeholders, List.removeAll]
  | cons lexeme lexemes ih =>
    cases lexeme with
    | marker name text =>
      simp only [placeholders, parameterNumber, Lexeme.parameter?, List.filterMap_cons,
        preparedTexts_cons, Lexeme.prepared, placeholder]
      by_cases seen : name ∈ known
      · rw [if_pos (List.idxOf_lt_length_iff.mpr seen), removeAll_cons_known seen]
        simp only [ih, List.idxOf_append_of_mem seen]
      · have number : (known ++ name :: ((lexemes.filterMap Lexeme.parameter?).removeAll
            (known ++ [name])).eraseDups).idxOf name = known.length := by
          rw [List.idxOf_append_of_notMem seen, List.idxOf_cons_self, Nat.add_zero]
        rw [if_neg (fun found => seen (List.idxOf_lt_length_iff.mp found)),
          eraseDups_removeAll_cons seen, number]
        simp only [ih, List.append_assoc, List.singleton_append]
    | plain | semicolon | lineComment | blockComment | quoted | dollarQuoted | lone =>
      simp only [placeholders, ih, Lexeme.parameter?, List.filterMap_cons, preparedTexts_cons,
        Lexeme.prepared]

theorem placeholders_eq (lexemes : List Lexeme) :
    placeholders [] lexemes = (preparedTexts (parameters lexemes) lexemes, parameters lexemes) := by
  rw [placeholders_known]
  simp [parameters, List.removeAll]

end QueryTyping.QueryFile
