import QueryTyping.Glob

/-!
# The text of a path

What a path writes reads back as the path (`FilePath.ofText_text`): its names
have no slash in them and are neither empty nor a single dot, which holds of any
path that was read from a text (`FilePath.ofText_legal`).  A text has a wildcard
exactly if one of the names of its path has (`FilePath.isWild_eq`).
-/

namespace QueryTyping

open Text (splitOnChar)

theorem Text.exists_splitOnChar (separator : Char) (s : List Char) :
    ∃ piece others, splitOnChar separator s = piece :: others := by
  induction s with
  | nil => exact ⟨[], [], rfl⟩
  | cons c s ih =>
    obtain ⟨piece, others, pieces⟩ := ih
    rw [splitOnChar, pieces]
    by_cases same : c = separator <;> simp [same]

theorem Text.splitOnChar_eq (separator : Char) (s : List Char) :
    splitOnChar separator s = s.splitOn separator := by
  induction s with
  | nil => rfl
  | cons c s ih =>
    obtain ⟨piece, others, pieces⟩ := exists_splitOnChar separator s
    rw [splitOnChar, List.splitOn_cons_eq_if_modifyHead, ← ih, pieces]
    by_cases same : c = separator <;> simp [same]

theorem Text.notMem_of_mem_splitOnChar {separator : Char} {s piece : List Char}
    (inside : piece ∈ splitOnChar separator s) : separator ∉ piece := by
  induction s generalizing piece with
  | nil =>
    rw [splitOnChar, List.mem_singleton] at inside
    simp [inside]
  | cons c s ih =>
    obtain ⟨first, others, pieces⟩ := exists_splitOnChar separator s
    rw [splitOnChar] at inside
    rw [pieces] at inside ih
    split at inside
    · rcases List.mem_cons.mp inside with rfl | later
      · exact List.not_mem_nil
      · exact ih later
    next other =>
      rcases List.mem_cons.mp inside with rfl | later
      · have apart := ih List.mem_cons_self
        simp [Ne.symm other, apart]
      · exact ih (List.mem_cons_of_mem _ later)

theorem Text.getLast?_of_splitOnChar {separator : Char} {s : List Char} (nonempty : s ≠ [])
    (empty : (splitOnChar separator s).getLast? = some []) : s.getLast? = some separator := by
  induction s with
  | nil => exact absurd rfl nonempty
  | cons c s ih =>
    obtain ⟨piece, others, pieces⟩ := exists_splitOnChar separator s
    rw [splitOnChar] at empty
    by_cases last : s = []
    · subst last
      by_cases same : c = separator
      · simp [same]
      · simp [splitOnChar, same] at empty
    · rw [List.getLast?_cons_of_ne_nil last]
      apply ih last
      rw [pieces] at empty ⊢
      by_cases same : c = separator
      · simpa [same] using empty
      · rw [if_neg same] at empty
        cases others with
        | nil => simp at empty
        | cons next others => simpa using empty

namespace FilePath

/-- A name that can stand in the text of a path and says something there. -/
structure LegalName (name : String) : Prop where
  nonempty : name ≠ ""
  noDot : name ≠ "."
  noSlash : '/' ∉ name.toList

/-- A path as it can be written. -/
structure Legal (path : FilePath) : Prop where
  slashes : path.slashes ≤ 2
  names : ∀ name ∈ path.names, LegalName name

/-- The names between the slashes of a text. -/
def pieces (s : String) : List String := (splitOnChar '/' s.toList).map String.ofList

theorem noSlash_of_mem_pieces {s piece : String} (inside : piece ∈ pieces s) :
    '/' ∉ piece.toList := by
  obtain ⟨chars, isPiece, rfl⟩ := List.mem_map.mp inside
  rw [String.toList_ofList]
  exact Text.notMem_of_mem_splitOnChar isPiece

/-- The slashes in front of a text. -/
def front (s : String) : Nat := (s.toList.takeWhile (· = '/')).length

theorem ofText_eq (s : String) :
    ofText s = {
      slashes := if front s = 2 then 2 else min (front s) 1
      names := (pieces s).filter fun name => !name.isEmpty && name ≠ "." } := rfl

theorem ofText_legal (s : String) : (ofText s).Legal where
  slashes := by
    rw [ofText_eq]
    dsimp only
    split <;> omega
  names := by
    intro name inside
    obtain ⟨isPiece, kept⟩ := List.mem_filter.mp inside
    simp only [Bool.and_eq_true, Bool.not_eq_true', decide_eq_true_eq] at kept
    exact ⟨by simpa using kept.1, kept.2, noSlash_of_mem_pieces isPiece⟩

variable {path : FilePath}

theorem toList_text (named : path.names ≠ []) :
    path.text.toList =
      List.replicate path.slashes '/' ++ ['/'].intercalate (path.names.map String.toList) := by
  simp [text, named, String.toList_intercalate]

/-- The pieces of the text of a path are its names, behind an empty one for each slash in front. -/
theorem pieces_text (legal : path.Legal) (named : path.names ≠ []) :
    pieces path.text = List.replicate path.slashes "" ++ path.names := by
  have apart : (['/'].intercalate (path.names.map String.toList)).splitOn '/' =
      path.names.map String.toList := by
    refine List.splitOn_intercalate '/' ?_ (by simpa using named)
    intro name inside
    obtain ⟨name, isName, rfl⟩ := List.mem_map.mp inside
    exact (legal.names name isName).noSlash
  have front (count : Nat) (s : List Char) : (List.replicate count '/' ++ s).splitOn '/' =
      List.replicate count [] ++ s.splitOn '/' := by
    induction count with
    | zero => rfl
    | succ count ih =>
      rw [List.replicate_succ, List.cons_append, List.splitOn_cons_eq_if_modifyHead, ih]
      rfl
  unfold pieces
  rw [Text.splitOnChar_eq, toList_text named, front, apart]
  simp

/-- A text with a slash at its end ends in an empty piece. -/
theorem getLast?_pieces_of_slash {s : String} (slash : s.toList.getLast? = some '/') :
    (pieces s).getLast? = some "" := by
  obtain ⟨init, same⟩ := List.getLast?_eq_some_iff.mp slash
  unfold pieces
  rw [Text.splitOnChar_eq, same, List.splitOn_append_cons_self]
  simp

theorem slash_of_getLast?_pieces {s : String} (nonempty : s ≠ "")
    (empty : (pieces s).getLast? = some "") : s.toList.getLast? = some '/' := by
  rw [pieces, List.getLast?_map] at empty
  obtain ⟨piece, isLast, same⟩ := Option.map_eq_some_iff.mp empty
  have none : piece = [] := by
    rw [← String.toList_ofList (l := piece), same]
    rfl
  rw [none] at isLast
  exact Text.getLast?_of_splitOnChar (by simpa using nonempty) isLast

/-- No slash stands in front of the names. -/
theorem takeWhile_intercalate (legal : path.Legal) (named : path.names ≠ []) :
    (['/'].intercalate (path.names.map String.toList)).takeWhile (· = '/') = [] := by
  obtain ⟨name, others, names⟩ := List.exists_cons_of_ne_nil named
  have legalName := legal.names name (by simp [names])
  cases chars : name.toList with
  | nil => exact absurd (String.toList_eq_nil_iff.mp chars) legalName.nonempty
  | cons c rest =>
    have other : c ≠ '/' := by
      rintro rfl
      exact legalName.noSlash (by simp [chars])
    rw [names]
    cases others <;> simp [List.intercalate, chars, other]

/-- The text of a path reads as the path. -/
theorem ofText_text (legal : path.Legal) : ofText path.text = path := by
  obtain ⟨slashes, names⟩ := path
  have few : slashes ≤ 2 := legal.slashes
  cases names with
  | nil =>
    obtain rfl | rfl | rfl : slashes = 0 ∨ slashes = 1 ∨ slashes = 2 := by omega
    all_goals decide +kernel
  | cons name others =>
    have named : (⟨slashes, name :: others⟩ : FilePath).names ≠ [] := List.cons_ne_nil _ _
    have kept : (pieces (⟨slashes, name :: others⟩ : FilePath).text).filter
        (fun name => !name.isEmpty && name ≠ ".") = name :: others := by
      rw [pieces_text legal named, List.filter_append, List.filter_replicate_of_neg (by decide),
        List.nil_append, List.filter_eq_self]
      intro other inside
      have legalName := legal.names other inside
      simp [legalName.nonempty, legalName.noDot]
    have front : front (⟨slashes, name :: others⟩ : FilePath).text = slashes := by
      rw [FilePath.front, toList_text named, List.takeWhile_append_of_pos (by simp),
        takeWhile_intercalate legal named]
      simp
    rw [ofText_eq, front, kept, FilePath.mk.injEq]
    exact ⟨by split <;> omega, rfl⟩

theorem join_of_relative (base : FilePath) {path : FilePath} (relative : path.isAbsolute = false) :
    base.join path = { base with names := base.names ++ path.names } := by
  rw [join, relative]
  rfl

theorem join_child (base : FilePath) {path : FilePath} (relative : path.isAbsolute = false)
    (name : String) : (base.join path).child name = base.join (path.child name) := by
  have still : (path.child name).isAbsolute = false := relative
  rw [base.join_of_relative relative, base.join_of_relative still]
  simp [child]

theorem map_child_join (base : FilePath) {path : FilePath} (relative : path.isAbsolute = false)
    (names : List String) :
    names.map (base.join path).child = (names.map path.child).map base.join := by
  rw [List.map_map]
  exact List.map_congr_left fun name _ => base.join_child relative name

theorem Legal.join {base : FilePath} (legal : base.Legal) (legalPath : path.Legal) :
    (base.join path).Legal := by
  unfold FilePath.join
  split
  · exact legalPath
  · refine ⟨legal.slashes, fun name inside => ?_⟩
    exact (List.mem_append.mp inside).elim (legal.names name) (legalPath.names name)

end FilePath

namespace Glob

open FilePath (pieces)

theorem isWild_splitOnChar (s : List Char) :
    (splitOnChar '/' s).any isWild = isWild s := by
  induction s with
  | nil => rfl
  | cons c s ih =>
    obtain ⟨piece, others, pieces⟩ := Text.exists_splitOnChar '/' s
    rw [splitOnChar, pieces]
    rw [pieces] at ih
    by_cases slash : c = '/' <;> simp_all [isWild, Bool.or_assoc]

/-- A text has a wildcard if one of the names of its path has. -/
theorem isWild_eq (s : String) :
    isWild s.toList = (FilePath.ofText s).names.any fun name => isWild name.toList := by
  have filtered (name : String) : ((!name.isEmpty && name ≠ ".") && isWild name.toList) =
      isWild name.toList := by
    by_cases wild : isWild name.toList = true
    · have nonempty : name ≠ "" := by
        rintro rfl
        cases wild
      have noDot : name ≠ "." := by
        rintro rfl
        exact absurd wild (by decide)
      simp [wild, nonempty, noDot]
    · simp [wild]
  rw [FilePath.ofText_eq, List.any_filter]
  simp only [filtered, pieces, List.any_map, Function.comp_def, String.toList_ofList]
  exact (isWild_splitOnChar s.toList).symm

end Glob

end QueryTyping
