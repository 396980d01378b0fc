import Mathlib.Data.Finset.Card
import QueryTyping.Proofs.PlaceholderReading

/-!
# Numbers of parameters

The parameters of a statement are the distinct names of its markers, in order of first
appearance, and every marker is written with the place of its name among them
(`parseText_numbers`).  Each statement of a file counts for itself.
-/

namespace QueryTyping.QueryFile

open QueryTyping.Text

/-- The names that the markers ask for, each as often as it is asked for. -/
def markerNames (lexemes : List Lexeme) : List (List Char) := lexemes.filterMap Lexeme.parameter?

/-- How SQL with these parameters writes a lexeme: a marker as a dollar sign and the number of the
one parameter with its name, and all else as it stands. -/
def Lexeme.WrittenAs (params : List String) : Lexeme → List Char → Prop
  | .marker name _, written =>
    ∃ index, (∀ other, params[other]? = some (String.ofList name) ↔ other = index) ∧
      written = '$' :: (toString (index + 1)).toList
  | lexeme, written => written = lexeme.text

/-- The parameters of the query are the names of the markers, numbered by first appearance. -/
structure NumbersByAppearance (lexemes : List Lexeme) (query : SourceQuery) : Prop where
  distinct : query.paramNames.Nodup
  named : ∀ name ∈ query.paramNames, name ≠ "" ∧ '\'' ∉ name.toList
  count : query.paramNames.length = (markerNames lexemes).toFinset.card
  /-- A name that no marker before asks for comes after as many parameters as they have names. -/
  appearance : ∀ before name text later, lexemes = before ++ .marker name text :: later →
    name ∉ markerNames before →
      query.paramNames[(markerNames before).toFinset.card]? = some (String.ofList name)
  sql : ∃ written, List.Forall₂ (Lexeme.WrittenAs query.paramNames) lexemes written ∧
    query.preparedSql = String.ofList (trim written.flatten)

theorem length_eraseDups_eq_card (names : List (List Char)) :
    names.eraseDups.length = names.toFinset.card := by
  have same : names.eraseDups.toFinset = names.toFinset := by
    ext name
    simp
  rw [← same, List.toFinset_card_of_nodup (nodup_eraseDups names)]

/-- Where a name appears first, it comes next among the distinct ones. -/
theorem getElem?_eraseDups_of_fresh {before later : List (List Char)} {name : List Char}
    (fresh : name ∉ before) :
    (before ++ name :: later).eraseDups[before.eraseDups.length]? = some name := by
  rw [List.eraseDups_append, eraseDups_removeAll_cons fresh,
    List.getElem?_append_right (Nat.le_refl _), Nat.sub_self]
  rfl

section Numbers

variable {behind after : List Char} {lexemes before later : List Lexeme} {name text : List Char}
  {query : SourceQuery}

theorem getElem?_parameters_of_fresh (fresh : name ∉ markerNames before) :
    (parameters (before ++ .marker name text :: later))[(markerNames before).toFinset.card]? =
      some name := by
  have names : markerNames (before ++ .marker name text :: later) =
      markerNames before ++ name :: markerNames later := by
    simp [markerNames, Lexeme.parameter?]
  rw [parameters, ← markerNames, names, ← length_eraseDups_eq_card]
  exact getElem?_eraseDups_of_fresh fresh

/-- A parameter has one place. -/
theorem getElem?_eq_some_iff_idxOf {params : List (List Char)} (nodup : params.Nodup)
    (member : name ∈ params) (index : Nat) :
    (params.map String.ofList)[index]? = some (String.ofList name) ↔
      index = params.idxOf name := by
  have inBounds := List.idxOf_lt_length_of_mem member
  simp only [List.getElem?_map, Option.map_eq_some_iff, String.ofList_inj, exists_eq_right]
  constructor
  · intro found
    exact (idxOf_of_getElem? nodup found).symm
  · rintro rfl
    rw [List.getElem?_eq_getElem inBounds, List.getElem_idxOf]

theorem Lexeme.writtenAs_prepared {lexeme : Lexeme} (member : lexeme ∈ lexemes) :
    lexeme.WrittenAs ((parameters lexemes).map String.ofList)
      (lexeme.prepared (parameters lexemes)) := by
  cases lexeme with
  | marker name text =>
    have asked : name ∈ parameters lexemes := mem_parameters_iff.mpr ⟨text, member⟩
    exact ⟨(parameters lexemes).idxOf name,
      getElem?_eq_some_iff_idxOf (nodup_parameters lexemes) asked, rfl⟩
  | plain | semicolon | lineComment | blockComment | quoted | dollarQuoted | lone => rfl

/-- What a statement is prepared to numbers its parameters by appearance. -/
theorem Lexed.numbers (lexed : Lexed behind lexemes after) (prepares : Prepares lexemes query) :
    NumbersByAppearance lexemes query where
  distinct := by
    rw [prepares.params]
    exact (nodup_parameters lexemes).map fun _ _ => String.ofList_inj.mp
  named := by
    intro param member
    rw [prepares.params, List.mem_map] at member
    obtain ⟨name, asked, rfl⟩ := member
    obtain ⟨text, marker⟩ := mem_parameters_iff.mp asked
    obtain ⟨_, _, _, -, -, -, nonempty, quoteless⟩ := lexed.exists_form marker
    refine ⟨fun empty => nonempty ?_, ?_⟩
    · simpa using congrArg String.toList empty
    · rwa [String.toList_ofList]
  count := by
    rw [prepares.params, List.length_map, parameters, ← markerNames, length_eraseDups_eq_card]
  appearance := by
    rintro before name text later rfl fresh
    rw [prepares.params, List.getElem?_map, getElem?_parameters_of_fresh fresh]
    rfl
  sql := by
    refine ⟨lexemes.map (Lexeme.prepared (parameters lexemes)), ?_, ?_⟩
    · rw [prepares.params, List.forall₂_map_right_iff, List.forall₂_same]
      exact fun lexeme member => Lexeme.writtenAs_prepared member
    · rw [prepares.sql, assembled, preparedTexts, List.flatMap_def]

end Numbers

/-- Every query of a text numbers the markers of its own statement by first appearance. -/
theorem parseText_numbers {source text : String} {queries : List SourceQuery}
    (accepted : parseText source text = .ok queries) :
    ∃ slices, Segmented [] text.toList slices ∧
      List.Forall₂ NumbersByAppearance slices queries := by
  rw [parseText_eq_ok_iff, parse_eq_remaining, Between.remaining_eq_ok_iff] at accepted
  obtain ⟨readings, last, scans, ended, rfl⟩ := accepted
  refine ⟨_, scans.segmented ended, ?_⟩
  rw [List.forall₂_map_left_iff, List.forall₂_map_right_iff, List.forall₂_same]
  intro reading member
  obtain ⟨⟨behind, after, -, -, lexed⟩, prepares⟩ :=
    scans.statements (clear_start text.toList) reading member
  exact lexed.numbers prepares

/-- Two statements with a name in common, which comes first in one of them only. -/
def sharedNames : String :=
  "-- name: Find :many\nSELECT 'pgq.arg(''C'')' FROM t WHERE a = pgq.arg('B')\n" ++
    "  OR b = pgq.arg( 'A;\n' ) OR c = pgq.arg('B');\n" ++
    "-- name: Clear :exec\nDELETE FROM t WHERE b = pgq.arg('A;\n')"

/-- The queries of `sharedNames`. -/
def sharedNamesQueries : List SourceQuery :=
  [⟨"Find", "SELECT 'pgq.arg(''C'')' FROM t WHERE a = $1\n  OR b = $2 OR c = $1;", ["B", "A;\n"],
      .many, ["-- name: Find :many"]⟩,
    ⟨"Clear", "DELETE FROM t WHERE b = $1", ["A;\n"], .exec, ["-- name: Clear :exec"]⟩]

theorem parseText_numbers_shared_names :
    parseText "author.sql" sharedNames = .ok sharedNamesQueries ∧
      ∃ slices, Segmented [] sharedNames.toList slices ∧
        List.Forall₂ NumbersByAppearance slices sharedNamesQueries := by
  have accepted : parseText "author.sql" sharedNames = .ok sharedNamesQueries :=
    parseText_eq_ok_iff.mpr (by decide +kernel)
  exact ⟨accepted, parseText_numbers accepted⟩

end QueryTyping.QueryFile
