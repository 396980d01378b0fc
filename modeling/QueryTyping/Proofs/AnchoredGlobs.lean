import Mathlib
import QueryTyping.Proofs.DirectoryWalks
import QueryTyping.Proofs.PathTexts
import QueryTyping.Settings.Config

/-!
# Patterns relative to the config file

A relative pattern that is anchored at a directory names from anywhere the files
that it names from that directory (`GenSettings.anchor_expands`), if no name of
the directory holds a wildcard and the pattern does not end in a slash or a dot
behind its wildcards.  Paths behind the directory lead where the relative paths
lead (`FileTree.Base.find_join`), as far as the pattern looks at them
(`Glob.Consults`), so both walks take the same steps, and their results come in the
same order.
-/

namespace QueryTyping

namespace FileTree

/-- The tree, seen from another place. -/
def workingAt (tree : FileTree) (place : Place) : FileTree := { tree with workingPlace := place }

/-- An absolute path without wildcards leads to the directory at a place, and for all that is looked
at there the links that may still be followed are as good as all. -/
structure Base (tree : FileTree) (base : FilePath) (place : Place) (looked : FilePath → Prop) :
    Prop where
  absolute : base.isAbsolute = true
  legal : base.Legal
  plain : ∀ name ∈ base.names, Glob.isWild name.toList = false
  leads : ∃ left, tree.directory? base = .ok (left, place) ∧
    ∀ path, looked path → ∀ followLast,
      tree.walk followLast left place path.names = tree.walk followLast linkBound place path.names

variable {tree : FileTree} {base path : FilePath} {place : Place} {looked : FilePath → Prop}

@[simp]
theorem entry?_workingAt (spot : Place) : entry? (tree.workingAt place) spot = tree.entry? spot :=
  rfl

/-- Where names lead from a place does not depend on the place that relative paths start from. -/
theorem walk_workingAt (followLast : Bool) (links : Nat) (spot : Place) (names : List String) :
    (tree.workingAt place).walk followLast links spot names =
      tree.walk followLast links spot names := by
  fun_induction walk tree followLast links spot names with
  | case1 => rw [walk]
  | case2 links spot rest ih => rw [walk, if_pos rfl, ih]
  | case3 links spot name rest down next missing last =>
    rw [walk, if_neg down]
    simp only [entry?_workingAt, next, missing, if_pos last]
  | case4 links spot name rest down next missing more =>
    rw [walk, if_neg down]
    simp only [entry?_workingAt, next, missing, if_neg more]
  | case5 links spot name rest down next directory ih =>
    rw [walk, if_neg down]
    simp only [entry?_workingAt, next, directory]
    exact ih
  | case6 links spot name rest down next content file last =>
    rw [walk, if_neg down]
    simp only [entry?_workingAt, next, file, if_pos last]
  | case7 links spot name rest down next content file more =>
    rw [walk, if_neg down]
    simp only [entry?_workingAt, next, file, if_neg more]
  | case8 links spot name rest down next target link ends =>
    rw [walk, if_neg down]
    simp only [entry?_workingAt, next, link, if_pos ends]
  | case9 spot name rest down next target link goesOn =>
    rw [walk, if_neg down]
    simp only [entry?_workingAt, next, link, if_neg goesOn]
  | case10 spot name rest down next target link goesOn links ih =>
    rw [walk, if_neg down]
    simp only [entry?_workingAt, next, link, if_neg goesOn]
    exact ih

namespace Base

variable (isBase : tree.Base base place looked)

include isBase

theorem start_eq : tree.start base = [] := if_pos isBase.absolute

/-- A path behind the directory leads where its relative path leads from there. -/
theorem find_join {followLast : Bool} (relative : path.isAbsolute = false) (looks : looked path)
    (walks : path.names ≠ [] ∨ followLast = true) :
    tree.find (base.join path) followLast = (tree.workingAt place).find path followLast := by
  obtain ⟨left, reached, spares⟩ := isBase.leads
  unfold directory? at reached
  rw [isBase.start_eq] at reached
  have joined := base.join_of_relative relative
  have absolute : (base.join path).isAbsolute = true := by
    rw [joined]
    exact isBase.absolute
  unfold find
  rw [absolute, relative, walk_workingAt]
  by_cases named : path.names = []
  · have follows : followLast = true := walks.resolve_left (absurd named)
    subst follows
    have behind : tree.walk true linkBound place [] = .ok (place, some .directory) := walk.eq_1 ..
    rw [joined, named, List.append_nil]
    exact (walk_eq_directory_iff.mpr ⟨left, reached⟩).trans behind.symm
  · rw [joined]
    change tree.walk followLast linkBound [] (base.names ++ path.names) = _
    rw [walk_append followLast named, reached]
    exact spares path looks followLast

theorem status?_join (relative : path.isAbsolute = false) (looks : looked path) :
    tree.status? (base.join path) = (tree.workingAt place).status? path := by
  unfold status?
  rw [isBase.find_join relative looks (.inr rfl)]

theorem isDirectory_join (relative : path.isAbsolute = false) (looks : looked path) :
    tree.isDirectory (base.join path) = (tree.workingAt place).isDirectory path := by
  simp only [isDirectory, isBase.status?_join relative looks]

theorem isFile_join (relative : path.isAbsolute = false) (looks : looked path) :
    tree.isFile (base.join path) = (tree.workingAt place).isFile path := by
  simp only [isFile, isBase.status?_join relative looks]

theorem holds_join (relative : path.isAbsolute = false) (looks : looked path) :
    tree.holds (base.join path) = (tree.workingAt place).holds path := by
  simp only [holds, isBase.status?_join relative looks]

theorem names_join (relative : path.isAbsolute = false) (looks : looked path) :
    tree.names (base.join path) = (tree.workingAt place).names path := by
  simp only [names, isBase.find_join relative looks (.inr rfl)]
  rfl

theorem holdsLink_join_child {name : String} (relative : path.isAbsolute = false)
    (looks : looked (path.child name)) :
    tree.holdsLink (base.join (path.child name)) =
      (tree.workingAt place).holdsLink (path.child name) := by
  have named : (path.child name).names ≠ [] := by simp [FilePath.child]
  have still : (path.child name).isAbsolute = false := relative
  simp only [holdsLink, isBase.find_join still looks (.inl named)]

theorem resolve_join (relative : path.isAbsolute = false) (looks : looked path)
    (there : (tree.workingAt place).holds path = true) :
    tree.resolve (base.join path) = (tree.workingAt place).resolve path := by
  unfold holds status? at there
  unfold resolve
  rw [isBase.find_join relative looks (.inr rfl)]
  split at there <;> simp_all

/-- Every name on the way to the directory is there. -/
theorem holdsLink_front {front back : List String} {name : String}
    (names : base.names = front ++ name :: back) :
    tree.holdsLink (FilePath.child { base with names := front } name) = true := by
  obtain ⟨left, reached, -⟩ := isBase.leads
  unfold directory? at reached
  rw [isBase.start_eq, names, List.append_cons, reach_append] at reached
  obtain ⟨found, led, -⟩ := (except_bind_eq_ok_iff _ _ _).mp reached
  obtain ⟨spot, entry, walked⟩ := exists_entry_of_reach led
  have start : tree.start (FilePath.child { base with names := front } name) = [] :=
    if_pos isBase.absolute
  have found : tree.find (FilePath.child { base with names := front } name) false =
      .ok (spot, some entry) := by
    unfold FileTree.start at start
    unfold find
    rw [start]
    exact walked
  simp only [holdsLink, found, Option.isSome_some]

end Base

end FileTree

namespace Glob

open FileTree

/-- The paths that a walk along segments looks at: where it comes to, the names that it asks for, and
those in the directories that it lists. -/
inductive Looks (tree : FileTree) : List Segment → FilePath → FilePath → Prop
  | stands (segments : List Segment) (path : FilePath) : Looks tree segments path path
  | asks (name : String) (rest : List Segment) (path : FilePath) :
    Looks tree (.literal name :: rest) path (path.child name)
  | lists {pattern : NamePattern} {hidden : Bool} {rest : List Segment} {path : FilePath}
    {name : String} (listed : name ∈ tree.names path) :
    Looks tree (.wild pattern hidden :: rest) path (path.child name)
  | listsBelow {rest : List Segment} {path inner : FilePath} {name : String}
    (reached : inner ∈ path :: below tree (!rest.isEmpty) (depthBound tree) path)
    (listed : name ∈ tree.names inner) : Looks tree (.anyDepth :: rest) path (inner.child name)
  | onward {segment : Segment} {rest : List Segment} {path next found : FilePath}
    (stepped : next ∈ step tree (!rest.isEmpty) segment path) (later : Looks tree rest next found) :
    Looks tree (segment :: rest) path found

/-- The paths that are looked at for a relative pattern: on its walk, or only the one that it writes
if it has no wildcards. -/
def Consults (tree : FileTree) (pattern : String) (path : FilePath) : Prop :=
  if isWild pattern.toList then
    Looks tree ((FilePath.ofText pattern).names.map Segment.ofName) ⟨0, []⟩ path
  else path = FilePath.ofText pattern

section Relative

variable {tree : FileTree}

theorem looks_of_mem_walk {segments : List Segment} {path found : FilePath}
    (inside : found ∈ walk tree path segments) : Looks tree segments path found := by
  induction segments generalizing path with
  | nil =>
    rw [walk] at inside
    rw [List.mem_singleton.mp inside]
    exact .stands [] path
  | cons segment rest ih =>
    rw [walk] at inside
    obtain ⟨next, stepped, inside⟩ := List.mem_flatMap.mp inside
    exact .onward stepped (ih inside)

theorem mem_names_of_mem_namesIn {directoriesOnly : Bool} {path : FilePath} {name : String}
    (inside : name ∈ namesIn tree directoriesOnly path) : name ∈ tree.names path := by
  unfold namesIn at inside
  split at inside
  · exact List.mem_of_mem_filter inside
  · exact inside

theorem isAbsolute_of_mem_below {directoriesOnly : Bool} {depth : Nat} {path found : FilePath}
    (inside : found ∈ below tree directoriesOnly depth path) :
    found.isAbsolute = path.isAbsolute := by
  induction depth generalizing path with
  | zero => cases inside
  | succ depth ih =>
    rw [below] at inside
    obtain ⟨name, -, inside⟩ := List.mem_flatMap.mp inside
    rcases List.mem_cons.mp inside with rfl | deeper
    · rfl
    · rw [ih deeper]
      rfl

theorem isAbsolute_of_mem_step {directoriesOnly : Bool} {segment : Segment}
    {path found : FilePath} (inside : found ∈ step tree directoriesOnly segment path) :
    found.isAbsolute = path.isAbsolute := by
  cases segment with
  | here =>
    rw [step] at inside
    split at inside
    · rw [List.mem_singleton.mp inside]
    · cases inside
  | literal name =>
    rw [step] at inside
    split at inside
    · rw [List.mem_singleton.mp inside]
      rfl
    · cases inside
  | wild pattern hidden =>
    obtain ⟨name, -, rfl⟩ := List.mem_map.mp inside
    rfl
  | anyDepth =>
    rw [step] at inside
    split at inside
    · rcases List.mem_cons.mp inside with rfl | deeper
      · rfl
      · exact isAbsolute_of_mem_below deeper
    · cases inside

/-- What a relative pattern leads to is relative. -/
theorem isAbsolute_of_mem_walk {segments : List Segment} {path found : FilePath}
    (inside : found ∈ walk tree path segments) : found.isAbsolute = path.isAbsolute := by
  induction segments generalizing path with
  | nil =>
    rw [walk] at inside
    rw [List.mem_singleton.mp inside]
  | cons segment rest ih =>
    rw [walk] at inside
    obtain ⟨next, stepped, inside⟩ := List.mem_flatMap.mp inside
    rw [ih inside, isAbsolute_of_mem_step stepped]

end Relative

section Join

variable {tree : FileTree} {base path : FilePath} {place : Place} {looked : FilePath → Prop}
  (isBase : tree.Base base place looked) (relative : path.isAbsolute = false)

include isBase relative

theorem namesIn_join (looks : looked path)
    (lists : ∀ name ∈ (tree.workingAt place).names path, looked (path.child name))
    (directoriesOnly : Bool) :
    namesIn tree directoriesOnly (base.join path) =
      namesIn (tree.workingAt place) directoriesOnly path := by
  have each (name : String) (listed : name ∈ (tree.workingAt place).names path) :
      tree.isDirectory ((base.join path).child name) =
        (tree.workingAt place).isDirectory (path.child name) := by
    rw [base.join_child relative]
    exact isBase.isDirectory_join relative (lists name listed)
  unfold namesIn
  simp only [isBase.names_join relative looks]
  split
  · exact List.filter_congr each
  · rfl

theorem below_join (looks : looked path) (directoriesOnly : Bool) (depth : Nat)
    (lists : ∀ inner ∈ path :: below (tree.workingAt place) directoriesOnly depth path,
      ∀ name ∈ (tree.workingAt place).names inner, looked (inner.child name)) :
    below tree directoriesOnly depth (base.join path) =
      (below (tree.workingAt place) directoriesOnly depth path).map base.join := by
  induction depth generalizing path with
  | zero => rfl
  | succ depth ih =>
    obtain ⟨here, deeper⟩ := List.forall_mem_cons.mp lists
    rw [below, below, namesIn_join isBase relative looks here, List.map_flatMap]
    refine List.flatMap_congr fun name inside => ?_
    have listed := mem_names_of_mem_namesIn (List.mem_of_mem_filter inside)
    have onward : below tree directoriesOnly depth (base.join (path.child name)) =
        (below (tree.workingAt place) directoriesOnly depth (path.child name)).map base.join :=
      ih relative (here name listed) fun inner under =>
        deeper inner (List.mem_flatMap.mpr ⟨name, inside, under⟩)
    rw [base.join_child relative, List.map_cons, onward]

variable {segments rest : List Segment}

theorem step_join {segment : Segment}
    (sees : ∀ found, Looks (tree.workingAt place) (segment :: rest) path found → looked found) :
    step tree (!rest.isEmpty) segment (base.join path) =
      (step (tree.workingAt place) (!rest.isEmpty) segment path).map base.join := by
  have looks : looked path := sees path (.stands _ path)
  cases segment with
  | here =>
    rw [step, step, isBase.isDirectory_join relative looks]
    split <;> rfl
  | literal name =>
    rw [step, step, base.join_child relative,
      isBase.holdsLink_join_child relative (sees _ (.asks name rest path))]
    split <;> rfl
  | wild pattern hidden =>
    rw [step, step, namesIn_join isBase relative looks fun name listed => sees _ (.lists listed),
      base.map_child_join relative]
  | anyDepth =>
    rw [step, step, isBase.isDirectory_join relative looks]
    split
    · rw [below_join isBase relative looks _ (depthBound tree) fun inner reached name listed =>
        sees _ (.listsBelow reached listed)]
      rfl
    · rfl

theorem walk_join
    (sees : ∀ found, Looks (tree.workingAt place) segments path found → looked found) :
    walk tree (base.join path) segments =
      (walk (tree.workingAt place) path segments).map base.join := by
  induction segments generalizing path with
  | nil => rfl
  | cons segment rest ih =>
    rw [walk, walk, step_join isBase relative sees, List.flatMap_map, List.map_flatMap]
    refine List.flatMap_congr fun next inside => ih ?_ ?_
    · rw [isAbsolute_of_mem_step inside, relative]
    · exact fun found later => sees found (.onward inside later)

end Join

/-- The names of a pattern. -/
def patternNames (pattern : String) : List String :=
  (FilePath.pieces pattern).filter (!·.isEmpty)

theorem files_eq (tree : FileTree) {pattern : String}
    (last : pattern.toList.getLast? ≠ some '/') :
    files tree pattern =
      ((walk tree ⟨(FilePath.ofText pattern).slashes, []⟩
        ((patternNames pattern).map Segment.ofName)).filter tree.isFile).mergeSort
          FilePath.before := if_neg last

theorem Segment.ofName_of_plain {name : String} (legal : FilePath.LegalName name)
    (plain : isWild name.toList = false) : Segment.ofName name = .literal name := by
  have notDeep : name ≠ "**" := by
    rintro rfl
    cases plain
  simp [Segment.ofName, legal.noDot, notDeep, plain]

/-- The names of a base lead to the base. -/
theorem walk_front {tree : FileTree} {base : FilePath} {place : Place} {looked : FilePath → Prop}
    (isBase : tree.Base base place looked) (segments : List Segment) {front back : List String}
    (names : base.names = front ++ back) :
    walk tree { base with names := front } (back.map Segment.ofName ++ segments) =
      walk tree base segments := by
  induction back generalizing front with
  | nil =>
    rw [List.append_nil] at names
    rw [← names]
    rfl
  | cons name back ih =>
    have inBase : name ∈ base.names := by simp [names]
    have literal := Segment.ofName_of_plain (isBase.legal.names name inBase)
      (isBase.plain name inBase)
    have onward : walk tree { base with names := front ++ [name] }
        (back.map Segment.ofName ++ segments) = walk tree base segments := ih (by simp [names])
    rw [List.map_cons, List.cons_append, walk, literal, step,
      if_pos (isBase.holdsLink_front names), List.flatMap_singleton]
    exact onward

variable {tree : FileTree} {base path : FilePath} {place : Place}

/-- The text of a path gives a pattern with the path's names. -/
theorem files_text (tree : FileTree) (legal : path.Legal) (named : path.names ≠ []) :
    files tree path.text =
      ((walk tree ⟨path.slashes, []⟩ (path.names.map Segment.ofName)).filter
        tree.isFile).mergeSort FilePath.before := by
  have last : path.text.toList.getLast? ≠ some '/' := by
    intro slash
    have ends := FilePath.getLast?_pieces_of_slash slash
    rw [FilePath.pieces_text legal named, List.getLast?_append_of_ne_nil _ named] at ends
    exact (legal.names _ (List.mem_of_getLast? ends)).nonempty rfl
  have names : patternNames path.text = path.names := by
    unfold patternNames
    rw [FilePath.pieces_text legal named, List.filter_append, List.filter_replicate_of_neg (by simp),
      List.nil_append, List.filter_eq_self]
    intro name inside
    simpa using (legal.names name inside).nonempty
  rw [files_eq tree last, names, FilePath.ofText_text legal]

theorem lex_append_left (front a b : List String) :
    (front ++ a).lex (front ++ b) (fun x y => decide (x < y)) =
      a.lex b fun x y => decide (x < y) := by
  induction front with
  | nil => rfl
  | cons part front ih =>
    have same : (decide (part < part)) = false := decide_eq_false (String.lt_irrefl part)
    rw [List.cons_append, List.cons_append, List.cons_lex_cons, same, beq_self_eq_true, ih]
    rfl

/-- Paths behind a directory come in the order of their relative paths. -/
theorem before_join {a b : FilePath} (absolute : base.isAbsolute = true)
    (relative : a.isAbsolute = false) (relativeOther : b.isAbsolute = false) :
    FilePath.before (base.join a) (base.join b) = FilePath.before a b := by
  have some : base.slashes ≠ 0 := by simpa [FilePath.isAbsolute] using absolute
  have none : a.slashes = 0 := by simpa [FilePath.isAbsolute] using relative
  have noneOther : b.slashes = 0 := by simpa [FilePath.isAbsolute] using relativeOther
  have behind := lex_append_left
    (String.ofList (List.replicate base.slashes '/') :: base.names) b.names a.names
  simp only [FilePath.before, FilePath.join, relative, relativeOther, none, noneOther, some,
    Bool.false_eq_true, if_false, if_true, ← List.cons_append, behind]

theorem files_join {looked : FilePath → Prop} (isBase : tree.Base base place looked)
    (legal : path.Legal) (relative : path.isAbsolute = false) (named : path.names ≠ [])
    (sees : ∀ found, Looks (tree.workingAt place) (path.names.map Segment.ofName) ⟨0, []⟩ found →
      looked found) :
    files tree (base.join path).text =
      (files (tree.workingAt place) path.text).map base.join := by
  have joined := base.join_of_relative relative
  have namedJoined : (base.join path).names ≠ [] := by simp [joined, named]
  have none : path.slashes = 0 := by simpa [FilePath.isAbsolute] using relative
  have walked : walk tree ⟨(base.join path).slashes, []⟩
      ((base.join path).names.map Segment.ofName) =
        (walk (tree.workingAt place) ⟨0, []⟩ (path.names.map Segment.ofName)).map base.join := by
    have front := walk_front isBase (path.names.map Segment.ofName)
      (List.nil_append base.names).symm
    have start : base.join ⟨0, []⟩ = base := by simp [FilePath.join, FilePath.isAbsolute]
    rw [joined, List.map_append, front, ← walk_join isBase rfl sees, start]
  have each (found : FilePath) (inside : found ∈ walk (tree.workingAt place) ⟨0, []⟩
      (path.names.map Segment.ofName)) : found.isAbsolute = false :=
    isAbsolute_of_mem_walk inside
  have kept : ((walk (tree.workingAt place) ⟨0, []⟩ (path.names.map Segment.ofName)).map
      base.join).filter tree.isFile =
        ((walk (tree.workingAt place) ⟨0, []⟩ (path.names.map Segment.ofName)).filter
          (tree.workingAt place).isFile).map base.join := by
    rw [List.filter_map]
    exact congrArg _ (List.filter_congr fun found inside =>
      isBase.isFile_join (each found inside) (sees found (looks_of_mem_walk inside)))
  rw [files_text tree (isBase.legal.join legal) namedJoined, files_text _ legal named, walked, kept, none]
  refine (List.map_mergeSort fun a insideA b insideB => ?_).symm
  exact (before_join isBase.absolute (each a (List.mem_of_mem_filter insideA))
    (each b (List.mem_of_mem_filter insideB))).symm

/-- Nothing is a step away from what is no directory. -/
theorem step_of_not_directory {directoriesOnly : Bool} {segment : Segment}
    (noDirectory : tree.isDirectory path = false) :
    step tree directoriesOnly segment path = [] := by
  cases segment with
  | here => simp [step, noDirectory]
  | literal name =>
    have unled : tree.holdsLink (path.child name) = false := by
      unfold holdsLink
      rw [find_child]
      cases led : tree.directory? path with
      | error problem => rfl
      | ok found => exact absurd (isDirectory_iff.mpr ⟨found, led⟩) (by simp [noDirectory])
    simp [step, unled]
  | wild pattern hidden =>
    have empty : tree.names path = [] := by
      unfold FileTree.names
      split
      next target found =>
        have leads : tree.isDirectory path = true := by simp [isDirectory, status?, found]
        rw [noDirectory] at leads
        cases leads
      · rfl
    simp [step, namesIn, empty]
  | anyDepth => simp [step, noDirectory]

theorem walk_of_not_directory {segments : List Segment} (noDirectory : tree.isDirectory path = false)
    (some : segments ≠ []) : walk tree path segments = [] := by
  obtain ⟨segment, rest, rfl⟩ := List.exists_cons_of_ne_nil some
  rw [walk, step_of_not_directory noDirectory]
  rfl

theorem isEmpty_without_dots {names : List String} (last : names.getLast? ≠ some ".") :
    (names.filter (· ≠ ".")).isEmpty = names.isEmpty := by
  rcases names.eq_nil_or_concat with rfl | ⟨init, name, rfl⟩
  · rfl
  · have noDot : name ≠ "." := by
      rintro rfl
      exact last (by simp)
    have some (front : List String) : (front ++ [name]).isEmpty = false := by simp
    rw [List.concat_eq_append, List.filter_append, List.filter_singleton, some]
    simp [noDot, some]

/-- A dot among the names of a pattern says nothing, unless it is the last. -/
theorem walk_without_dots {names : List String} (last : names.getLast? ≠ some ".") :
    walk tree path (names.map Segment.ofName) =
      walk tree path ((names.filter (· ≠ ".")).map Segment.ofName) := by
  induction names generalizing path with
  | nil => rfl
  | cons name rest ih =>
    have lastOfRest : rest.getLast? ≠ some "." := by
      intro dot
      exact last (by rw [List.getLast?_cons, dot]; rfl)
    have same := isEmpty_without_dots lastOfRest
    rw [List.map_cons, walk, List.isEmpty_map]
    by_cases dot : name = "."
    · subst dot
      rw [List.filter_cons_of_neg (by simp), ← ih lastOfRest]
      cases leads : tree.isDirectory path with
      | true =>
        have stays : step tree (!rest.isEmpty) (Segment.ofName ".") path = [path] := by
          simp [Segment.ofName, step, leads]
        rw [stays, List.flatMap_singleton]
      | false =>
        have some : rest.map Segment.ofName ≠ [] := by
          rintro none
          rw [List.map_eq_nil_iff] at none
          subst none
          exact last rfl
        rw [step_of_not_directory leads, walk_of_not_directory leads some]
        rfl
    · rw [List.filter_cons_of_pos (by simpa using dot), List.map_cons, walk, List.isEmpty_map, same]
      exact List.flatMap_congr fun next _ => ih lastOfRest

theorem of_mem_files_text (legal : path.Legal) (named : path.names ≠ []) {found : FilePath}
    (inside : found ∈ files tree path.text) :
    (path.isAbsolute = false → found.isAbsolute = false) ∧ tree.holds found = true ∧
      Looks tree (path.names.map Segment.ofName) ⟨path.slashes, []⟩ found := by
  rw [files_text tree legal named, List.mem_mergeSort] at inside
  obtain ⟨walked, isFile⟩ := List.mem_filter.mp inside
  refine ⟨fun relative => (isAbsolute_of_mem_walk walked).trans relative, ?_,
    looks_of_mem_walk walked⟩
  unfold FileTree.isFile at isFile
  unfold holds
  cases status : tree.status? found with
  | none =>
    rw [status] at isFile
    cases isFile
  | some entry => rfl

/-- The last piece of the pattern only says that it names directories. -/
def EndsInDirectory (pattern : String) : Prop :=
  (FilePath.pieces pattern).getLast? = some "" ∨ (FilePath.pieces pattern).getLast? = some "."

theorem isDirectory_of_mem_walk {segments : List Segment} {found : FilePath}
    (inside : found ∈ walk tree path (segments ++ [.here])) : tree.isDirectory found = true := by
  induction segments generalizing path with
  | nil =>
    rw [List.nil_append, walk, step] at inside
    split at inside
    next leads =>
      have same : found = path := by simpa [walk] using inside
      rw [same, leads]
    · cases inside
  | cons segment rest ih =>
    rw [List.cons_append, walk] at inside
    obtain ⟨next, -, inside⟩ := List.mem_flatMap.mp inside
    exact ih inside

/-- A pattern that ends in a directory names no files. -/
theorem files_of_endsInDirectory {pattern : String} (wild : isWild pattern.toList = true)
    (ends : EndsInDirectory pattern) : files tree pattern = [] := by
  by_cases slash : pattern.toList.getLast? = some '/'
  · exact if_pos slash
  have dot : (FilePath.pieces pattern).getLast? = some "." := by
    refine ends.resolve_left fun empty => slash (FilePath.slash_of_getLast?_pieces ?_ empty)
    rintro rfl
    cases wild
  obtain ⟨init, pieces⟩ := List.getLast?_eq_some_iff.mp dot
  have names : patternNames pattern = init.filter (!·.isEmpty) ++ ["."] := by
    simp [patternNames, pieces]
  rw [files_eq tree slash, names, List.map_append]
  have noFile (found : FilePath) (inside : found ∈ walk tree
      ⟨(FilePath.ofText pattern).slashes, []⟩
        ((init.filter (!·.isEmpty)).map Segment.ofName ++ [.here])) :
      ¬ tree.isFile found = true := by
    have leads := isDirectory_of_mem_walk inside
    simp only [isDirectory, decide_eq_true_iff] at leads
    simp [isFile, leads]
  have none := List.filter_eq_nil_iff.mpr noFile
  change (List.filter tree.isFile (walk tree ⟨(FilePath.ofText pattern).slashes, []⟩
    ((init.filter (!·.isEmpty)).map Segment.ofName ++ [.here]))).mergeSort _ = []
  rw [none, List.mergeSort_nil]

/-- A pattern that does not end in a directory names what the text of its path names. -/
theorem files_text_of_pattern (tree : FileTree) {pattern : String}
    (wild : isWild pattern.toList = true) (ends : ¬ EndsInDirectory pattern) :
    files tree (FilePath.ofText pattern).text = files tree pattern := by
  have legal := FilePath.ofText_legal pattern
  have named : (FilePath.ofText pattern).names ≠ [] := by
    intro none
    rw [isWild_eq, none] at wild
    cases wild
  have last : pattern.toList.getLast? ≠ some '/' := fun slash =>
    ends (.inl (FilePath.getLast?_pieces_of_slash slash))
  have dotless : (patternNames pattern).getLast? ≠ some "." := by
    unfold EndsInDirectory at ends
    unfold patternNames
    rcases (FilePath.pieces pattern).eq_nil_or_concat with none | ⟨init, piece, pieces⟩
    · simp [none]
    · rw [pieces, List.concat_eq_append, List.getLast?_concat] at ends
      push Not at ends
      have nonempty : piece ≠ "" := fun same => ends.1 (by rw [same])
      have noDot : piece ≠ "." := fun same => ends.2 (by rw [same])
      simp [pieces, nonempty, noDot]
  have names : (FilePath.ofText pattern).names = (patternNames pattern).filter (· ≠ ".") := by
    rw [FilePath.ofText_eq, patternNames, List.filter_filter]
    exact List.filter_congr fun name _ => Bool.and_comm ..
  rw [files_text tree legal named, files_eq tree last, walk_without_dots dotless, names]

end Glob

namespace FileTree

/-- The paths of a single pattern, without links and dots. -/
theorem expandAll_singleton (tree : FileTree) (pattern : String) :
    tree.expandAll [pattern] = (tree.expand pattern).map (List.map tree.resolve) := by
  unfold expandAll
  cases expanded : tree.expand pattern with
  | error failure => simp [expanded, List.mapM_cons]; rfl
  | ok files => simp [expanded, List.mapM_cons]; rfl

end FileTree

namespace GenSettings

open Glob (EndsInDirectory files isWild)

variable {tree : FileTree} {base : FilePath} {place : Place} {pattern : String}

/-- A relative pattern that is anchored writes the path behind the directory. -/
theorem ofText_anchor (legal : base.Legal) (relative : (FilePath.ofText pattern).isAbsolute = false) :
    anchor base pattern = (base.join (FilePath.ofText pattern)).text ∧
      FilePath.ofText (anchor base pattern) = base.join (FilePath.ofText pattern) := by
  have written : anchor base pattern = (base.join (FilePath.ofText pattern)).text := by
    simp only [anchor, relative, Bool.false_eq_true, if_false]
  rw [written]
  exact ⟨rfl, FilePath.ofText_text (legal.join (FilePath.ofText_legal pattern))⟩

theorem isWild_anchor (legal : base.Legal) (plain : ∀ name ∈ base.names, isWild name.toList = false)
    (relative : (FilePath.ofText pattern).isAbsolute = false) :
    isWild (anchor base pattern).toList = isWild pattern.toList := by
  have none : base.names.any (fun name => isWild name.toList) = false := by
    simpa using plain
  rw [Glob.isWild_eq, Glob.isWild_eq, (ofText_anchor legal relative).2,
    base.join_of_relative relative, List.any_append, none, Bool.false_or]

/-- The files of a pattern with wildcards, anchored. -/
theorem files_anchor
    (isBase : tree.Base base place (Glob.Consults (tree.workingAt place) pattern))
    (relative : (FilePath.ofText pattern).isAbsolute = false) (wild : isWild pattern.toList = true)
    (ends : ¬ EndsInDirectory pattern) :
    (files tree (anchor base pattern)).map tree.resolve =
      (files (tree.workingAt place) pattern).map (tree.workingAt place).resolve := by
  have legal := FilePath.ofText_legal pattern
  have named : (FilePath.ofText pattern).names ≠ [] := by
    intro none
    rw [Glob.isWild_eq, none] at wild
    cases wild
  have sees (found : FilePath) (looks : Glob.Looks (tree.workingAt place)
      ((FilePath.ofText pattern).names.map Glob.Segment.ofName) ⟨0, []⟩ found) :
      Glob.Consults (tree.workingAt place) pattern found := by
    unfold Glob.Consults
    rwa [if_pos wild]
  have none : (FilePath.ofText pattern).slashes = 0 := by
    simpa [FilePath.isAbsolute] using relative
  rw [(ofText_anchor isBase.legal relative).1, Glob.files_join isBase legal relative named sees,
    ← Glob.files_text_of_pattern _ wild ends, List.map_map]
  refine List.map_congr_left fun found inside => ?_
  obtain ⟨still, there, looks⟩ := Glob.of_mem_files_text legal named inside
  rw [none] at looks
  exact isBase.resolve_join (still relative) (sees found looks) there

/-- A relative pattern that is anchored at a directory names from anywhere the same files as from
that directory, or like there nothing that exists.  The path of the directory has no wildcard in
it, the pattern does not end in a slash or a dot behind a wildcard, and the links on the way to
the directory leave enough to follow for what the pattern looks at. -/
theorem anchor_expands
    (isBase : tree.Base base place (Glob.Consults (tree.workingAt place) pattern))
    (relative : (FilePath.ofText pattern).isAbsolute = false)
    (ends : isWild pattern.toList = true → ¬ EndsInDirectory pattern) :
    (∃ files, tree.expandAll [anchor base pattern] = .ok files ∧
        (tree.workingAt place).expandAll [pattern] = .ok files) ∨
      (isWild pattern.toList = false ∧
        tree.expandAll [anchor base pattern] =
          .error (.input ("File does not exist: " ++ anchor base pattern)) ∧
        (tree.workingAt place).expandAll [pattern] =
          .error (.input ("File does not exist: " ++ pattern))) := by
  have sameWild := isWild_anchor isBase.legal isBase.plain relative
  rw [FileTree.expandAll_singleton, FileTree.expandAll_singleton]
  unfold FileTree.expand
  rw [sameWild]
  cases wild : isWild pattern.toList with
  | true => exact .inl ⟨_, rfl, congrArg Except.ok (files_anchor isBase relative wild (ends wild)).symm⟩
  | false =>
    have looks : Glob.Consults (tree.workingAt place) pattern (FilePath.ofText pattern) := by
      unfold Glob.Consults
      rw [if_neg (by simp [wild])]
    simp only [Bool.false_eq_true, if_false, (ofText_anchor isBase.legal relative).2,
      isBase.holds_join relative looks]
    cases there : (tree.workingAt place).holds (FilePath.ofText pattern) with
    | true =>
      refine .inl ⟨_, rfl, ?_⟩
      simp only [if_true, Except.map, List.map_cons, List.map_nil,
        isBase.resolve_join relative looks there]
    | false => exact .inr ⟨trivial, rfl, rfl⟩

/-- A tree with a query in a directory of some name. -/
def shelfNamed (name : String) : FileTree where
  entries := [(["home"], .directory), ([name], .directory), ([name, "find.sql"], .file [])]
  workingPlace := ["home"]

theorem shelf_isBase (looked : FilePath → Prop) :
    (shelfNamed "shelf").Base ⟨1, ["shelf"]⟩ ["shelf"] looked where
  absolute := rfl
  legal := ⟨by decide, by
    simp only [List.mem_singleton, forall_eq]
    exact ⟨by decide, by decide, by decide +kernel⟩⟩
  plain := by decide +kernel
  leads := ⟨FileTree.linkBound, by cbv, fun _ _ _ => rfl⟩

/-- The query of a directory without brackets is found. -/
theorem anchor_expands_shelf :
    (shelfNamed "shelf").expandAll [anchor ⟨1, ["shelf"]⟩ "*.sql"] =
      .ok [⟨1, ["shelf", "find.sql"]⟩] := by
  have ends : ¬ EndsInDirectory "*.sql" := by
    unfold EndsInDirectory
    decide +kernel
  have found : ((shelfNamed "shelf").workingAt ["shelf"]).expandAll ["*.sql"] =
      .ok [⟨1, ["shelf", "find.sql"]⟩] := by
    cbv
  obtain ⟨files, anchored, relative⟩ | ⟨plain, -⟩ :=
    anchor_expands (shelf_isBase _) (by decide +kernel) fun _ => ends
  · rw [anchored, ← relative, found]
  · exact absurd plain (by decide +kernel)

/-- Brackets in a name make a set, and no name of the tree has the set's form. -/
theorem walk_brackets :
    Glob.walk (shelfNamed "q[1]") ⟨1, []⟩ (["q[1]", "find.sql"].map Glob.Segment.ofName) = [] := by
  have pattern : Glob.NamePattern.ofChars "q[1]".toList =
      [.char 'q', .oneOf false [('1', '1')]] := by
    decide +kernel
  have wild : isWild "q[1]".toList = true := by decide +kernel
  have shown : Glob.isHidden "q[1]" = false := by decide +kernel
  have segment : Glob.Segment.ofName "q[1]" =
      .wild [.char 'q', .oneOf false [('1', '1')]] false := by
    rw [Glob.Segment.ofName, if_neg (by decide), if_neg (by decide), if_pos wild, pattern, shown]
  have names : Glob.namesIn (shelfNamed "q[1]") true ⟨1, []⟩ = ["home", "q[1]"] := by cbv
  rw [List.map_cons, Glob.walk, segment, Glob.step]
  simp only [List.isEmpty_map, List.isEmpty_cons, Bool.not_false, names]
  simp [Glob.NamePattern.admits]

/-- A query that is there is not found if its directory has brackets. -/
theorem anchor_of_brackets :
    ((shelfNamed "q[1]").workingAt ["q[1]"]).expandAll ["find.sql"] =
        .ok [⟨1, ["q[1]", "find.sql"]⟩] ∧
      (shelfNamed "q[1]").expandAll [anchor ⟨1, ["q[1]"]⟩ "find.sql"] = .ok [] := by
  have plain : isWild "find.sql".toList = false := by decide +kernel
  have named : FilePath.ofText "find.sql" = ⟨0, ["find.sql"]⟩ := by decide +kernel
  constructor
  · have there : ((shelfNamed "q[1]").workingAt ["q[1]"]).holds ⟨0, ["find.sql"]⟩ = true := by cbv
    have found : ((shelfNamed "q[1]").workingAt ["q[1]"]).resolve ⟨0, ["find.sql"]⟩ =
        ⟨1, ["q[1]", "find.sql"]⟩ := by cbv
    rw [FileTree.expandAll_singleton]
    simp only [FileTree.expand, plain, named, there, found, Except.map, Bool.false_eq_true, if_false,
      if_true, List.map_cons, List.map_nil]
  · have written : anchor ⟨1, ["q[1]"]⟩ "find.sql" =
        FilePath.text ⟨1, ["q[1]", "find.sql"]⟩ := by
      rw [anchor, named]
      rfl
    have legal : FilePath.Legal ⟨1, ["q[1]", "find.sql"]⟩ := by
      refine ⟨by decide, fun name inside => ?_⟩
      simp only [List.mem_cons, List.not_mem_nil, or_false] at inside
      rcases inside with rfl | rfl <;> exact ⟨by decide, by decide, by decide +kernel⟩
    have wild : isWild (FilePath.text ⟨1, ["q[1]", "find.sql"]⟩).toList = true := by
      decide +kernel
    rw [FileTree.expandAll_singleton, FileTree.expand, written, if_pos wild,
      Glob.files_text _ legal (List.cons_ne_nil _ _), walk_brackets]
    simp [Except.map]

end GenSettings

end QueryTyping
