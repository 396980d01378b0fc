import QueryTyping.FileTree
import QueryTyping.Proofs.Conversation

/-!
# Walks through directories

Names lead through a tree to a directory or to one more entry in it
(`FileTree.reach`, `FileTree.walk_append`).  What leads somewhere still does when a tree
only gains entries (`FileTree.KeepsWays`), so directories are made once: making them
again changes nothing (`FileTree.makeDirectories_again`).
-/

namespace QueryTyping

namespace FileTree

/-- The directory that names lead to, with the links that may still be followed. -/
def reach (tree : FileTree) (links : Nat) (place : Place) (names : List String) :
    Except PathProblem (Nat × Place) :=
  match names with
  | [] => .ok (links, place)
  | name :: rest =>
    if name = ".." then reach tree links place.dropLast rest
    else
      let next := place ++ [name]
      match tree.entry? next with
      | none => .error .missing
      | some .directory => reach tree links next rest
      | some (.file _) => .error .notDirectory
      | some (.link target) =>
        match links with
        | 0 => .error .endlessLinks
        | links + 1 =>
          reach tree links (if target.isAbsolute then [] else place) (target.names ++ rest)
  termination_by (links, names.length)

variable {tree after : FileTree} {links : Nat} {place target : Place} {names : List String}

/-- A walk goes on from the directory that its first names lead to. -/
theorem walk_append (followLast : Bool) {more : List String} (goesOn : more ≠ []) :
    tree.walk followLast links place (names ++ more) =
      (tree.reach links place names).bind fun (left, between) =>
        tree.walk followLast left between more := by
  fun_induction reach tree links place names with
  | case1 links place => rfl
  | case2 links place rest ih =>
    rw [List.cons_append, walk, if_pos rfl, ih]
  | case3 links place name rest down next missing =>
    have longer : (rest ++ more).isEmpty = false := by simp [goesOn]
    rw [List.cons_append, walk, if_neg down]
    simp only [next, missing, longer]
    rfl
  | case4 links place name rest down next directory ih =>
    rw [List.cons_append, walk, if_neg down]
    simp only [directory, next]
    exact ih
  | case5 links place name rest down next content file =>
    have longer : (rest ++ more).isEmpty = false := by simp [goesOn]
    rw [List.cons_append, walk, if_neg down]
    simp only [file, next, longer]
    rfl
  | case6 place name rest down next target link =>
    have longer : (rest ++ more).isEmpty = false := by simp [goesOn]
    rw [List.cons_append, walk, if_neg down]
    simp only [link, next, longer]
    rfl
  | case7 place name rest down next target link links ih =>
    have longer : (rest ++ more).isEmpty = false := by simp [goesOn]
    rw [List.cons_append, walk, if_neg down]
    simp only [link, next, longer, Bool.false_and, Bool.false_eq_true, if_false]
    rw [← List.append_assoc]
    exact ih

/-- Names that lead to a directory lead on from where the first of them lead. -/
theorem reach_append {more : List String} :
    tree.reach links place (names ++ more) =
      (tree.reach links place names).bind fun (left, between) => tree.reach left between more := by
  fun_induction reach tree links place names with
  | case1 links place => rfl
  | case2 links place rest ih => rw [List.cons_append, reach, if_pos rfl, ih]
  | case3 links place name rest down next missing =>
    rw [List.cons_append, reach, if_neg down]
    simp only [next, missing]
    rfl
  | case4 links place name rest down next directory ih =>
    rw [List.cons_append, reach, if_neg down]
    simp only [directory, next]
    exact ih
  | case5 links place name rest down next content file =>
    rw [List.cons_append, reach, if_neg down]
    simp only [file, next]
    rfl
  | case6 place name rest down next target link =>
    rw [List.cons_append, reach, if_neg down]
    simp only [link, next]
    rfl
  | case7 place name rest down next target link links ih =>
    rw [List.cons_append, reach, if_neg down]
    simp only [link, next]
    rw [← List.append_assoc]
    exact ih

/-- What leads to a directory is there, be it a link. -/
theorem exists_entry_of_reach {found : Nat × Place}
    (led : tree.reach links place names = .ok found) :
    ∃ spot entry, tree.walk false links place names = .ok (spot, some entry) := by
  fun_induction reach tree links place names with
  | case1 links place => exact ⟨place, .directory, walk.eq_1 ..⟩
  | case2 links place rest ih =>
    rw [walk, if_pos rfl]
    exact ih led
  | case3 => cases led
  | case4 links place name rest down next directory ih =>
    rw [walk, if_neg down]
    simp only [directory, next]
    exact ih led
  | case5 => cases led
  | case6 => cases led
  | case7 place name rest down next target link links ih =>
    rw [walk, if_neg down]
    simp only [link, next]
    split
    · exact ⟨_, _, rfl⟩
    · exact ih led

/-- A walk that follows all links ends at a directory exactly where its names lead to one. -/
theorem walk_eq_directory_iff :
    tree.walk true links place names = .ok (target, some .directory) ↔
      ∃ left, tree.reach links place names = .ok (left, target) := by
  fun_induction reach tree links place names with
  | case1 links place =>
    rw [walk]
    simp
  | case2 links place rest ih => rw [walk, if_pos rfl, ih]
  | case3 links place name rest down next missing =>
    rw [walk, if_neg down]
    simp only [next, missing]
    split <;> simp
  | case4 links place name rest down next directory ih =>
    rw [walk, if_neg down]
    simp only [directory, next]
    exact ih
  | case5 links place name rest down next content file =>
    rw [walk, if_neg down]
    simp only [file, next]
    split <;> simp
  | case6 place name rest down next target link =>
    rw [walk, if_neg down]
    simp only [link, next]
    simp
  | case7 place name rest down next target link links ih =>
    rw [walk, if_neg down]
    simp only [link, next, Bool.not_true, Bool.and_false, Bool.false_eq_true, if_false]
    exact ih

/-- What leads somewhere in a tree still does: its directories and links are there after. -/
structure KeepsWays (tree after : FileTree) : Prop where
  workingPlace : after.workingPlace = tree.workingPlace
  directory : ∀ place, tree.entry? place = some .directory → after.entry? place = some .directory
  link : ∀ place target, tree.entry? place = some (.link target) →
    after.entry? place = some (.link target)

theorem KeepsWays.refl (tree : FileTree) : tree.KeepsWays tree :=
  ⟨rfl, fun _ => id, fun _ _ => id⟩

theorem KeepsWays.trans {last : FileTree} (first : tree.KeepsWays after)
    (second : after.KeepsWays last) : tree.KeepsWays last where
  workingPlace := second.workingPlace.trans first.workingPlace
  directory place was := second.directory place (first.directory place was)
  link place target was := second.link place target (first.link place target was)

theorem KeepsWays.reach (keeps : tree.KeepsWays after) {found : Nat × Place}
    (led : tree.reach links place names = .ok found) :
    after.reach links place names = .ok found := by
  fun_induction FileTree.reach tree links place names with
  | case1 links place =>
    rw [FileTree.reach]
    exact led
  | case2 links place rest ih =>
    rw [FileTree.reach, if_pos rfl]
    exact ih led
  | case3 => cases led
  | case4 links place name rest down next directory ih =>
    have still : after.entry? (place ++ [name]) = some .directory := keeps.directory _ directory
    rw [FileTree.reach, if_neg down]
    simp only [still]
    exact ih led
  | case5 => cases led
  | case6 => cases led
  | case7 place name rest down next target link links ih =>
    have still : after.entry? (place ++ [name]) = some (.link target) := keeps.link _ _ link
    rw [FileTree.reach, if_neg down]
    simp only [still]
    exact ih led

/-- The place from which a path starts. -/
def start (tree : FileTree) (path : FilePath) : Place :=
  if path.isAbsolute then [] else tree.workingPlace

/-- The directory that a path leads to. -/
def directory? (tree : FileTree) (path : FilePath) : Except PathProblem (Nat × Place) :=
  tree.reach linkBound (tree.start path) path.names

theorem isDirectory_iff {path : FilePath} :
    tree.isDirectory path = true ↔ ∃ found, tree.directory? path = .ok found := by
  unfold isDirectory status? find
  rw [decide_eq_true_iff]
  constructor
  · intro leads
    split at leads
    next place entry walked =>
      subst leads
      obtain ⟨left, reached⟩ := walk_eq_directory_iff.mp walked
      exact ⟨_, reached⟩
    · cases leads
  · rintro ⟨⟨left, place⟩, reached⟩
    have walked : tree.walk true linkBound (tree.start path) path.names =
        .ok (place, some .directory) := walk_eq_directory_iff.mpr ⟨left, reached⟩
    unfold start at walked
    rw [walked]

theorem KeepsWays.directory? (keeps : tree.KeepsWays after) {path : FilePath} {found : Nat × Place}
    (led : tree.directory? path = .ok found) : after.directory? path = .ok found := by
  unfold FileTree.directory? FileTree.start at led ⊢
  rw [keeps.workingPlace]
  exact keeps.reach led

/-- One name further from the directory that a path leads to. -/
theorem find_child {path : FilePath} {name : String} (followLast : Bool) :
    tree.find (path.child name) followLast =
      (tree.directory? path).bind fun (left, place) => tree.walk followLast left place [name] :=
  walk_append followLast (List.cons_ne_nil _ _)

theorem walk_single {name : String} (down : name ≠ "..") {followLast : Bool}
    (direct : ∀ target, tree.entry? (place ++ [name]) ≠ some (.link target)) :
    tree.walk followLast links place [name] =
      .ok (place ++ [name], tree.entry? (place ++ [name])) := by
  rw [walk, if_neg down]
  dsimp only
  rcases found : tree.entry? (place ++ [name]) with _ | (_ | content | target)
  · rfl
  · exact walk.eq_1 ..
  · rfl
  · exact absurd found (direct target)

theorem exists_directory?_child {path : FilePath} {name : String} (down : name ≠ "..")
    (led : tree.directory? path = .ok (links, place))
    (there : tree.entry? (place ++ [name]) = some .directory) :
    ∃ left, tree.directory? (path.child name) = .ok (left, place ++ [name]) := by
  have walked : tree.find (path.child name) true = .ok (place ++ [name], some .directory) := by
    rw [find_child, led]
    change tree.walk true links place [name] = _
    rw [walk_single down (by simp [there]), there]
  exact walk_eq_directory_iff.mp walked

section Put

theorem lookup_replace {entry : FileEntry} (entries : List (Place × FileEntry)) (other : Place) :
    (entries.map fun (spot, old) => (spot, if spot = place then entry else old)).lookup other =
      if other = place then (entries.lookup other).map fun _ => entry
      else entries.lookup other := by
  induction entries with
  | nil => simp
  | cons first rest ih =>
    obtain ⟨spot, old⟩ := first
    rw [List.map_cons, List.lookup_cons, List.lookup_cons, ih]
    by_cases here : other = spot
    · subst here
      by_cases same : other = place <;> simp [same]
    · rw [beq_false_of_ne here]

theorem lookup_put {entry : FileEntry} (other : Place) :
    (tree.put place entry).entries.lookup other =
      if other = place then some entry else tree.entries.lookup other := by
  unfold put
  split
  next present =>
    rw [lookup_replace]
    split
    next same =>
      subst same
      obtain ⟨old, found⟩ := Option.isSome_iff_exists.mp present
      rw [found]
      rfl
    · rfl
  next absent =>
    rw [Option.not_isSome_iff_eq_none] at absent
    rw [List.lookup_append]
    by_cases same : other = place
    · subst same
      simp [absent]
    · simp [same, List.lookup_cons, beq_false_of_ne same]

@[simp]
theorem workingPlace_put {entry : FileEntry} :
    (tree.put place entry).workingPlace = tree.workingPlace := by
  unfold put
  split <;> rfl

theorem entry?_put {entry : FileEntry} (inner : place ≠ []) (other : Place) :
    entry? (tree.put place entry) other = if other = place then some entry else tree.entry? other := by
  unfold entry?
  rw [lookup_put]
  by_cases root : other = []
  · subst root
    simp [inner.symm]
  · simp [root]

end Put

/-- A path up to one of its names. -/
def upTo (path : FilePath) (count : Nat) : FilePath := { path with names := path.names.take count }

/-- A tree after directories were made on the way to a path: it has gained those that were
missing. -/
structure Gains (tree : FileTree) (path : FilePath) (made : FileTree) : Prop where
  workingPlace : made.workingPlace = tree.workingPlace
  kept : ∀ place entry, tree.entry? place = some entry → made.entry? place = some entry
  gained : ∀ place entry, tree.entry? place = none → made.entry? place = some entry →
    entry = .directory ∧ ∃ count left, made.directory? (upTo path count) = .ok (left, place)

variable {path : FilePath} {made : FileTree}

namespace Gains

theorem refl (tree : FileTree) (path : FilePath) : tree.Gains path tree where
  workingPlace := rfl
  kept _ _ := id
  gained place entry missing found := by
    rw [missing] at found
    cases found

theorem keepsWays (gains : tree.Gains path made) : tree.KeepsWays made :=
  ⟨gains.workingPlace, fun place => gains.kept place _, fun place _ => gains.kept place _⟩

theorem trans (first : tree.Gains path after) (second : after.Gains path made) :
    tree.Gains path made where
  workingPlace := second.workingPlace.trans first.workingPlace
  kept place entry was := second.kept place entry (first.kept place entry was)
  gained place entry missing found := by
    rcases between : after.entry? place with _ | other
    · exact second.gained place entry between found
    · have same := (second.kept place other between).symm.trans found
      cases same
      obtain ⟨rfl, count, left, led⟩ := first.gained place _ missing between
      exact ⟨rfl, count, left, second.keepsWays.directory? led⟩

end Gains

theorem walk_single_eq_none {name : String}
    (walked : tree.walk false links place [name] = .ok (target, none)) :
    name ≠ ".." ∧ target = place ++ [name] ∧ tree.entry? (place ++ [name]) = none := by
  rw [walk] at walked
  split at walked
  · rw [walk] at walked
    cases walked
  next down =>
    dsimp only at walked
    split at walked
    next missing =>
      cases walked
      exact ⟨down, rfl, missing⟩
    · rw [walk] at walked
      cases walked
    · cases walked
    · cases walked

/-- A directory that is made on the way is there. -/
theorem makeDirectory_gains {count : Nat}
    (ran : tree.makeDirectory (upTo path count) = .ok made) :
    tree.Gains path made ∧ made.isDirectory (upTo path count) = true := by
  unfold makeDirectory at ran
  split at ran
  next target found =>
    cases ran
    rcases (upTo path count).names.eq_nil_or_concat with none | ⟨init, name, names⟩
    · unfold find at found
      rw [none, walk] at found
      cases found
    have child : upTo path count = FilePath.child { path with names := init } name := by
      unfold FilePath.child
      rw [← List.concat_eq_append, ← names]
      rfl
    rw [child, find_child] at found
    obtain ⟨⟨left, place⟩, led, walked⟩ := (except_bind_eq_ok_iff _ _ _).mp found
    obtain ⟨down, rfl, missing⟩ := walk_single_eq_none walked
    have inner : place ++ [name] ≠ [] := by simp
    have kept (other : Place) (entry : FileEntry) (was : tree.entry? other = some entry) :
        entry? (tree.put (place ++ [name]) .directory) other = some entry := by
      rw [entry?_put inner, if_neg, was]
      rintro rfl
      rw [missing] at was
      cases was
    have keeps : tree.KeepsWays (tree.put (place ++ [name]) .directory) :=
      ⟨workingPlace_put, fun other => kept other _, fun other _ => kept other _⟩
    have new : entry? (tree.put (place ++ [name]) .directory) (place ++ [name]) =
        some .directory := by
      rw [entry?_put inner, if_pos rfl]
    obtain ⟨left, there⟩ := exists_directory?_child down (keeps.directory? led) new
    rw [← child] at there
    refine ⟨⟨workingPlace_put, kept, fun other entry absent present => ?_⟩,
      isDirectory_iff.mpr ⟨_, there⟩⟩
    rw [entry?_put inner] at present
    split at present
    next same =>
      cases same
      cases present
      exact ⟨rfl, count, left, there⟩
    · rw [absent] at present
      cases present
  · cases ran
  · cases ran

theorem makeStep_gains {count : Nat}
    (ran : (if tree.isDirectory (upTo path count) then .ok tree
      else tree.makeDirectory (upTo path count)) = .ok made) :
    tree.Gains path made ∧ made.isDirectory (upTo path count) = true := by
  split at ran
  next present =>
    cases ran
    exact ⟨.refl tree path, present⟩
  · exact makeDirectory_gains ran

theorem makeSteps_gains {counts : List Nat} {tree : FileTree}
    (ran : counts.foldlM (fun tree count =>
      if tree.isDirectory (upTo path count) then .ok tree
      else tree.makeDirectory (upTo path count)) tree = .ok made) :
    tree.Gains path made ∧ ∀ count ∈ counts, made.isDirectory (upTo path count) = true := by
  induction counts generalizing tree with
  | nil =>
    cases ran
    exact ⟨.refl _ path, by simp⟩
  | cons count counts ih =>
    rw [List.foldlM_cons] at ran
    obtain ⟨next, step, others⟩ := (except_bind_eq_ok_iff _ _ _).mp ran
    obtain ⟨first, present⟩ := makeStep_gains step
    obtain ⟨gains, reached⟩ := ih others
    refine ⟨first.trans gains, List.forall_mem_cons.mpr ⟨?_, reached⟩⟩
    obtain ⟨found, led⟩ := isDirectory_iff.mp present
    exact isDirectory_iff.mpr ⟨found, gains.keepsWays.directory? led⟩

theorem makeDirectories_gains (ran : tree.makeDirectories path = .ok made) :
    tree.Gains path made ∧ ∃ found, made.directory? path = .ok found := by
  obtain ⟨gains, reached⟩ := makeSteps_gains ran
  refine ⟨gains, isDirectory_iff.mp ?_⟩
  have whole := reached path.names.length (by simp)
  rwa [upTo, List.take_length] at whole

/-- Directories that were made are there to stay. -/
theorem makeDirectories_again (ran : tree.makeDirectories path = .ok made)
    (keeps : made.KeepsWays after) : after.makeDirectories path = .ok after := by
  obtain ⟨-, reached⟩ := makeSteps_gains ran
  unfold makeDirectories
  generalize List.range (path.names.length + 1) = counts at reached
  induction counts with
  | nil => rfl
  | cons count counts ih =>
    obtain ⟨present, others⟩ := List.forall_mem_cons.mp reached
    obtain ⟨found, led⟩ := isDirectory_iff.mp present
    have still : after.isDirectory (upTo path count) = true :=
      isDirectory_iff.mpr ⟨found, keeps.directory? led⟩
    rw [List.foldlM_cons]
    unfold upTo at still
    rw [if_pos still]
    exact ih others

/-- What an attempt to make a directory leaves is the tree with it, if it can be made. -/
theorem leftByMaking_of_made (ran : tree.makeDirectories path = .ok made) :
    tree.leftByMaking path = made := by
  unfold makeDirectories at ran
  unfold leftByMaking
  generalize List.range (path.names.length + 1) = counts at ran
  induction counts generalizing tree with
  | nil =>
    cases ran
    rfl
  | cons count counts ih =>
    rw [List.foldlM_cons] at ran
    obtain ⟨next, step, others⟩ := (except_bind_eq_ok_iff _ _ _).mp ran
    rw [makeOnTheWay]
    dsimp only at step ⊢
    split at step
    next present =>
      cases step
      rw [if_pos present]
      exact ih others
    next missing =>
      rw [if_neg missing, step]
      exact ih others

/-- An attempt to make a directory leaves all that was there, whether it fails or not, and adds
nothing but directories on the way. -/
theorem leftByMaking_gains (tree : FileTree) (path : FilePath) :
    tree.Gains path (tree.leftByMaking path) := by
  unfold leftByMaking
  generalize List.range (path.names.length + 1) = counts
  induction counts generalizing tree with
  | nil => exact .refl tree path
  | cons count counts ih =>
    rw [makeOnTheWay]
    split
    · exact ih tree
    · split
      next made ran => exact (makeDirectory_gains ran).1.trans (ih made)
      · exact .refl tree path

end FileTree

end QueryTyping
