import Mathlib
import QueryTyping.Proofs.ClientRefinement
import QueryTyping.Proofs.DirectoryWalks
import QueryTyping.Proofs.FixedOutcomes
import QueryTyping.Proofs.Segmentation
import QueryTyping.Proofs.WriteLast

/-!
# Manifests of the files without failures

Query files have manifest paths of their own unless two of them have the same stem
(`Manifest.checkCollisions_eq_ok_iff`).  So what is written for one file is not written
over for another, and a run leaves the manifests of exactly the files without failures
and everything else as it was (`Generation.generate_manifests`).
-/

namespace QueryTyping

open Attempt Text

namespace Manifest

/-- The name of a query file's manifest. -/
def name (queryFile : FilePath) : String := queryFile.stem ++ ".typed.json"

/-- What the manifest of an inferred file holds. -/
def content (outcome : FileInference) : Text.Bytes :=
  Text.encodeUtf8 (render outcome.queryFile outcome.queries).toList

theorem path_eq (outputDir queryFile : FilePath) :
    path outputDir queryFile = outputDir.child (name queryFile) := rfl

theorem name_inj {file other : FilePath} : name file = name other ↔ file.stem = other.stem := by
  unfold name
  constructor
  · intro same
    simpa [String.ext_iff] using same
  · intro same
    rw [same]

theorem name_ne_dots (file : FilePath) : name file ≠ ".." := by
  intro same
  have long := congrArg String.length same
  have bound : (".typed.json" : String).length ≤ (name file).length := by
    simp [name]
  rw [same] at bound
  revert bound
  decide

theorem path_inj {outputDir file other : FilePath} :
    path outputDir file = path outputDir other ↔ file.stem = other.stem := by
  rw [path_eq, path_eq, ← name_inj]
  simp [FilePath.child]

/-- No two different files of these have the same stem. -/
def StemsApart (files : List FilePath) : Prop :=
  ∀ file ∈ files, ∀ other ∈ files, file.stem = other.stem → file = other

theorem stemsApart_congr {files others : List FilePath}
    (same : ∀ file, file ∈ files ↔ file ∈ others) : StemsApart files ↔ StemsApart others := by
  simp [StemsApart, same]

theorem StemsApart.concat {files : List FilePath} {file : FilePath} (apart : StemsApart files)
    (fresh : ∀ other ∈ files, other.stem ≠ file.stem) : StemsApart (files ++ [file]) := by
  simp only [StemsApart, List.mem_append, List.mem_singleton]
  rintro one (earlier | rfl) other (before | rfl) same
  · exact apart one earlier other before same
  · exact absurd same (fresh one earlier)
  · exact absurd same.symm (fresh other before)
  · rfl

theorem collision?_eq_none_iff (outputDir : FilePath) {before : List FilePath}
    (apart : StemsApart before) (files : List FilePath) :
    collision? outputDir before files = none ↔ StemsApart (before ++ files) := by
  induction files generalizing before with
  | nil => simpa [collision?] using apart
  | cons file rest ih =>
    unfold collision?
    rcases found : before.find? fun other => path outputDir other = path outputDir file with
      _ | owner
    · have fresh : ∀ other ∈ before, other.stem ≠ file.stem := by
        simpa [path_inj] using found
      dsimp only
      rw [ih (apart.concat fresh), List.append_assoc, List.singleton_append]
    · have member := List.mem_of_find?_eq_some found
      have same : owner.stem = file.stem := by
        simpa [path_inj] using List.find?_some found
      dsimp only
      split
      next here =>
        subst here
        rw [ih apart]
        refine stemsApart_congr fun other => ?_
        by_cases same : other = owner <;> simp [same, member]
      next other =>
        refine iff_of_false (by simp) fun all => other (all owner ?_ file ?_ same) <;> simp [member]

theorem checkCollisions_eq_ok_iff (queryFiles : List FilePath) (outputDir : FilePath) :
    checkCollisions queryFiles outputDir = .ok () ↔ StemsApart queryFiles := by
  have alone : StemsApart [] := by simp [StemsApart]
  have none := collision?_eq_none_iff outputDir alone queryFiles
  rw [List.nil_append] at none
  rw [← none]
  unfold checkCollisions
  split
  next same => simp [same]
  next same => simp [same]

end Manifest

namespace FileTree

/-- The directory, made if it is missing, holds no links. -/
def LinkFree (tree : FileTree) (dir : FilePath) : Prop :=
  ∀ made place, tree.makeDirectories dir = .ok made →
    made.find dir true = .ok (place, some .directory) →
    ∀ name target, made.entry? (place ++ [name]) ≠ some (.link target)

/-- What is at the place is what was there, or a directory that was made on the way to another
one. -/
def AsBefore (tree after : FileTree) (dir : FilePath) (place : Place) : Prop :=
  after.entry? place = tree.entry? place ∨
    tree.entry? place = none ∧ after.entry? place = some .directory ∧
      ∃ count, after.find (upTo dir count) true = .ok (place, some .directory)

/-- A directory in a tree, made before and free of links, in which manifests are written. -/
structure Receives (tree : FileTree) (dir : FilePath) (place : Place) : Prop where
  made : tree.makeDirectories dir = .ok tree
  led : ∃ left, tree.directory? dir = .ok (left, place)
  direct : ∀ name target, tree.entry? (place ++ [name]) ≠ some (.link target)

variable {tree made after : FileTree} {dir : FilePath} {place : Place}

/-- A directory that was made receives manifests if no links are in it. -/
theorem LinkFree.receives (linkFree : tree.LinkFree dir)
    (making : tree.makeDirectories dir = .ok made) :
    tree.Gains dir made ∧ ∃ place, made.Receives dir place := by
  obtain ⟨gains, ⟨left, place⟩, led⟩ := makeDirectories_gains making
  exact ⟨gains, place, makeDirectories_again making (.refl made), ⟨left, led⟩,
    linkFree made place making (walk_eq_directory_iff.mpr ⟨left, led⟩)⟩

/-- What directories were made for and nothing else changed is as before. -/
theorem Gains.asBefore (gains : tree.Gains dir made) (keeps : made.KeepsWays after)
    (same : after.entry? place = made.entry? place) : tree.AsBefore after dir place := by
  unfold AsBefore
  rw [same]
  rcases was : tree.entry? place with _ | entry
  · rcases now : made.entry? place with _ | entry
    · exact .inl rfl
    · obtain ⟨rfl, count, left, led⟩ := gains.gained place entry was now
      exact .inr ⟨rfl, rfl, count, walk_eq_directory_iff.mpr ⟨left, keeps.directory? led⟩⟩
  · exact .inl (gains.kept place entry was)

end FileTree

namespace Manifest

open FileTree

variable {tree : FileTree} {dir : FilePath} {place : Place}

theorem find_path (receives : tree.Receives dir place) (file : FilePath) :
    tree.find (path dir file) true =
      .ok (place ++ [name file], tree.entry? (place ++ [name file])) := by
  obtain ⟨left, led⟩ := receives.led
  rw [path_eq, find_child, led]
  exact walk_single (name_ne_dots file) (receives.direct _)

/-- A manifest that could be read is at its place in the directory. -/
theorem entry?_of_read {before : FileTree} (keeps : before.KeepsWays tree)
    (receives : tree.Receives dir place) {file : FilePath} {bytes : Text.Bytes}
    (reads : before.read (path dir file) = .ok bytes) :
    before.entry? (place ++ [name file]) = some (.file bytes) := by
  obtain ⟨left, led⟩ := receives.led
  unfold FileTree.read at reads
  split at reads <;> cases reads
  next spot found =>
    rw [path_eq, find_child] at found
    obtain ⟨⟨left', place'⟩, reached, walked⟩ := (except_bind_eq_ok_iff _ _ _).mp found
    cases (keeps.directory? reached).symm.trans led
    have direct (target : FilePath) :
        before.entry? (place ++ [name file]) ≠ some (.link target) :=
      fun link => receives.direct _ _ (keeps.link _ _ link)
    have same := (walk_single (name_ne_dots file) direct).symm.trans walked
    rw [Except.ok.injEq, Prod.mk.injEq] at same
    exact same.2

theorem read_path (receives : tree.Receives dir place) {file : FilePath} {bytes : Text.Bytes}
    (found : tree.entry? (place ++ [name file]) = some (.file bytes)) :
    tree.read (path dir file) = .ok bytes := by
  unfold FileTree.read
  rw [find_path receives, found]

/-- The tree with a file's manifest. -/
def placed (place : Place) (tree : FileTree) (outcome : FileInference) : FileTree :=
  tree.put (place ++ [name outcome.queryFile]) (.file (content outcome))

theorem entry?_placed (outcome : FileInference) (other : Place) :
    entry? (placed place tree outcome) other =
      if other = place ++ [name outcome.queryFile] then some (.file (content outcome))
      else tree.entry? other :=
  entry?_put (by simp) other

/-- A manifest is written where no directory is. -/
theorem write_eq_ok {after : FileTree} {target : FilePath} {outcome : FileInference}
    (receives : tree.Receives dir place)
    (wrote : write tree dir outcome.queryFile outcome.queries = .ok (target, after)) :
    target = path dir outcome.queryFile ∧ after = placed place tree outcome ∧
      tree.entry? (place ++ [name outcome.queryFile]) ≠ some .directory := by
  unfold write at wrote
  dsimp only at wrote
  split at wrote
  next last written =>
    cases wrote
    obtain ⟨made, same, writes⟩ := (except_bind_eq_ok_iff _ _ _).mp written
    rw [receives.made] at same
    cases same
    unfold FileTree.write at writes
    rw [find_path receives] at writes
    split at writes
    · cases writes
    next other entry free same =>
      cases same
      cases writes
      exact ⟨rfl, rfl, free⟩
    · cases writes
  · cases wrote

/-- The directory still receives manifests after one was written. -/
theorem receives_placed (receives : tree.Receives dir place) {outcome : FileInference}
    (free : tree.entry? (place ++ [name outcome.queryFile]) ≠ some .directory) :
    tree.KeepsWays (placed place tree outcome) ∧
      (placed place tree outcome).Receives dir place := by
  have keeps : tree.KeepsWays (placed place tree outcome) := by
    refine ⟨workingPlace_put, fun other was => ?_, fun other target was => ?_⟩
    · rw [entry?_placed, if_neg, was]
      rintro rfl
      exact free was
    · rw [entry?_placed, if_neg, was]
      rintro rfl
      exact receives.direct _ _ was
  obtain ⟨left, led⟩ := receives.led
  refine ⟨keeps, makeDirectories_again receives.made keeps, ⟨left, keeps.directory? led⟩, ?_⟩
  intro other target found
  rw [entry?_placed] at found
  split at found
  · cases found
  · exact receives.direct _ _ found

theorem entry?_foldl_of_other {outcomes : List FileInference} {other : Place}
    (unwritten : ∀ outcome ∈ outcomes, other ≠ place ++ [name outcome.queryFile]) :
    entry? (outcomes.foldl (placed place) tree) other = tree.entry? other := by
  induction outcomes generalizing tree with
  | nil => rfl
  | cons outcome rest ih =>
    obtain ⟨first, others⟩ := List.forall_mem_cons.mp unwritten
    rw [List.foldl_cons, ih others, entry?_placed, if_neg first]

/-- A manifest is there after all are written, if no other one has its name. -/
theorem entry?_foldl_of_mem {outcomes : List FileInference} {outcome : FileInference}
    (member : outcome ∈ outcomes)
    (agree : ∀ other ∈ outcomes, name other.queryFile = name outcome.queryFile →
      other = outcome) :
    entry? (outcomes.foldl (placed place) tree) (place ++ [name outcome.queryFile]) =
      some (.file (content outcome)) := by
  induction outcomes generalizing tree with
  | nil => cases member
  | cons first rest ih =>
    obtain ⟨-, others⟩ := List.forall_mem_cons.mp agree
    rw [List.foldl_cons]
    by_cases later : outcome ∈ rest
    · exact ih later others
    · obtain rfl : outcome = first := by simpa [later] using member
      rw [entry?_foldl_of_other, entry?_placed, if_pos rfl]
      intro other written same
      have shared : name other.queryFile = name outcome.queryFile := by simpa using same.symm
      exact later (others other written shared ▸ written)

/-- Two outcomes with one manifest are the same, so a failed file's is not written. -/
theorem entry?_foldl_of_failed {outcomes : List FileInference} {outcome : FileInference}
    (agree : ∀ other ∈ outcomes, name other.queryFile = name outcome.queryFile →
      other = outcome) (failed : outcome.ok = false) :
    entry? ((outcomes.filter FileInference.ok).foldl (placed place) tree)
      (place ++ [name outcome.queryFile]) = tree.entry? (place ++ [name outcome.queryFile]) := by
  refine entry?_foldl_of_other fun other present shared => ?_
  obtain ⟨listed, healthy⟩ := List.mem_filter.mp present
  have alike : name other.queryFile = name outcome.queryFile := by simpa using shared.symm
  rw [agree other listed alike, failed] at healthy
  cases healthy

end Manifest

namespace Generation

open FileTree Manifest

variable {σ : Type} {tree made : FileTree} {dir : FilePath} {place : Place}

/-- Where manifests are received they are written one after the other. -/
theorem writeManifests_placed {outcomes : List FileInference} {client : Client σ}
    {written : List FilePath} {after : Workplace σ} (receives : tree.Receives dir place)
    (wrote : (writeManifests dir (outcomes.map fun outcome => (outcome.queryFile, outcome))).run
      ⟨client, tree⟩ = (.ok written, after)) :
    written = (outcomes.filter FileInference.ok).map (path dir ·.queryFile) ∧
      after.tree = (outcomes.filter FileInference.ok).foldl (placed place) tree ∧
      tree.KeepsWays after.tree ∧ after.tree.Receives dir place := by
  induction outcomes generalizing tree written with
  | nil =>
    cases wrote
    exact ⟨rfl, rfl, .refl tree, receives⟩
  | cons outcome rest ih =>
    rw [List.map_cons] at wrote
    by_cases healthy : outcome.ok = true
    · rw [run_writeManifests_cons healthy] at wrote
      rcases writes : Manifest.write tree dir outcome.queryFile outcome.queries with
        failure | ⟨target, next⟩ <;> simp only [writes] at wrote
      · cases wrote
      obtain ⟨rfl, rfl, free⟩ := write_eq_ok receives writes
      obtain ⟨keeps, still⟩ := receives_placed receives free
      rcases others : (writeManifests dir
        (rest.map fun outcome => (outcome.queryFile, outcome))).run
          (⟨client, placed place tree outcome⟩ : Workplace σ) with ⟨error | more, last⟩ <;>
        rw [others] at wrote <;> cases wrote
      obtain ⟨rfl, same, kept, stays⟩ := ih still others
      rw [List.filter_cons_of_pos healthy]
      exact ⟨rfl, same, keeps.trans kept, stays⟩
    · rw [writeManifests, if_neg healthy] at wrote
      rw [List.filter_cons_of_neg healthy]
      exact ih receives wrote

/-- Without healthy files nothing is written. -/
theorem writeManifests_none {outcomes : List FileInference} {workplace : Workplace σ}
    (none : ∀ outcome ∈ outcomes, outcome.ok = false) :
    (writeManifests dir (outcomes.map fun outcome => (outcome.queryFile, outcome))).run workplace =
      (.ok [], workplace) := by
  induction outcomes with
  | nil => rfl
  | cons outcome rest ih =>
    obtain ⟨first, others⟩ := List.forall_mem_cons.mp none
    rw [List.map_cons, writeManifests, if_neg (by simp [first])]
    exact ih others

theorem exists_made_of_write {file target : FilePath} {queries : List TypedQuery}
    {after : FileTree} (wrote : Manifest.write tree dir file queries = .ok (target, after)) :
    ∃ made, tree.makeDirectories dir = .ok made ∧
      Manifest.write made dir file queries = .ok (target, after) := by
  unfold Manifest.write at wrote ⊢
  dsimp only at wrote ⊢
  split at wrote
  next last written =>
    obtain ⟨made, ran, -⟩ := (except_bind_eq_ok_iff _ _ _).mp written
    refine ⟨made, ran, ?_⟩
    rw [ran] at written
    rw [makeDirectories_again ran (.refl made), written]
    exact wrote
  · cases wrote

/-- The first manifest has its directory made, and the others find it. -/
theorem writeManifests_made {outcomes : List FileInference} {client : Client σ}
    {written : List FilePath} {after : Workplace σ}
    (healthy : ∃ outcome ∈ outcomes, outcome.ok = true)
    (wrote : (writeManifests dir (outcomes.map fun outcome => (outcome.queryFile, outcome))).run
      ⟨client, tree⟩ = (.ok written, after)) :
    ∃ made, tree.makeDirectories dir = .ok made ∧
      (writeManifests dir (outcomes.map fun outcome => (outcome.queryFile, outcome))).run
        ⟨client, made⟩ = (.ok written, after) := by
  induction outcomes with
  | nil => simp at healthy
  | cons outcome rest ih =>
    rw [List.map_cons] at wrote ⊢
    by_cases first : outcome.ok = true
    · rw [run_writeManifests_cons first] at wrote
      rcases writes : Manifest.write tree dir outcome.queryFile outcome.queries with
        failure | ⟨target, next⟩ <;> rw [writes] at wrote
      · cases wrote
      obtain ⟨made, ran, again⟩ := exists_made_of_write writes
      refine ⟨made, ran, ?_⟩
      rw [run_writeManifests_cons first, again]
      exact wrote
    · rw [writeManifests, if_neg first] at wrote ⊢
      refine ih ?_ wrote
      obtain ⟨other, member, is⟩ := healthy
      rcases List.mem_cons.mp member with rfl | later
      · exact absurd is first
      · exact ⟨other, later, is⟩

/-- What a run leaves that wrote these manifests, with these outcomes of its files. -/
structure Wrote (results : SourceQuery → Except Error TypedQuery) (tree after : FileTree)
    (dir : FilePath) (queryFiles written : List FilePath) (outcomes : List FileInference) :
    Prop where
  /-- Every file has its outcome, in order. -/
  files : outcomes.map FileInference.queryFile = queryFiles
  /-- The manifests of the files without failures are written, in order. -/
  paths : written = (outcomes.filter FileInference.ok).map (path dir ·.queryFile)
  /-- They hold all queries of their files, in order. -/
  queries : ∀ outcome ∈ outcomes, outcome.ok = true →
    ∃ sources, tree.readQueries outcome.queryFile = .ok sources ∧
      sources.map results = outcome.queries.map .ok
  manifests : ∀ outcome ∈ outcomes, outcome.ok = true →
    after.read (path dir outcome.queryFile) = .ok (content outcome)
  /-- A file with a failure leaves the manifest that it had. -/
  failed : ∀ outcome ∈ outcomes, outcome.ok = false →
    (∀ bytes, tree.read (path dir outcome.queryFile) = .ok bytes →
      after.read (path dir outcome.queryFile) = .ok bytes) ∧
    ∀ place entry, after.find (path dir outcome.queryFile) true = .ok (place, entry) →
      tree.AsBefore after dir place
  others : ∀ place, (∀ target ∈ written, ∀ entry, after.find target true ≠ .ok (place, entry)) →
    tree.AsBefore after dir place

/-- Manifests of different files have different names, and a file has one outcome. -/
theorem outcome_eq {results : SourceQuery → Except Error TypedQuery} {keepGoing : Bool}
    {queryFiles : List FilePath} {outcomes : List FileInference} (apart : StemsApart queryFiles)
    (inferred : queryFiles.mapM (fileOutcome results tree keepGoing) = .ok outcomes)
    {outcome other : FileInference} (member : outcome ∈ outcomes) (present : other ∈ outcomes)
    (same : name other.queryFile = name outcome.queryFile) : other = outcome := by
  obtain ⟨rfl, each⟩ := outcomes_eq_ok inferred
  have file : other.queryFile = outcome.queryFile :=
    apart _ (List.mem_map_of_mem present) _ (List.mem_map_of_mem member) (name_inj.mp same)
  have first := each other present
  rw [file] at first
  exact Except.ok.inj (first.symm.trans (each outcome member))

theorem zip_outcomes {queryFiles : List FilePath} {outcomes : List FileInference}
    (files : outcomes.map FileInference.queryFile = queryFiles) :
    queryFiles.zip outcomes = outcomes.map fun outcome => (outcome.queryFile, outcome) := by
  have zipped : (outcomes.map FileInference.queryFile).zip (outcomes.map id) =
      outcomes.map fun outcome => (outcome.queryFile, id outcome) := List.zip_map'
  rwa [files, List.map_id] at zipped

/-- The files that are written hold what was inferred, and everything else is kept. -/
theorem wrote_of_run {results : SourceQuery → Except Error TypedQuery} {keepGoing : Bool}
    {queryFiles written : List FilePath} {outcomes : List FileInference} {client : Client σ}
    {after : Workplace σ} (apart : StemsApart queryFiles) (linkFree : tree.LinkFree dir)
    (inferred : queryFiles.mapM (fileOutcome results tree keepGoing) = .ok outcomes)
    (ran : (writeManifests dir (queryFiles.zip outcomes)).run ⟨client, tree⟩ =
      (.ok written, after)) :
    Wrote results tree after.tree dir queryFiles written outcomes := by
  obtain ⟨files, each⟩ := outcomes_eq_ok inferred
  rw [zip_outcomes files] at ran
  have queries : ∀ outcome ∈ outcomes, outcome.ok = true →
      ∃ sources, tree.readQueries outcome.queryFile = .ok sources ∧
        sources.map results = outcome.queries.map .ok := by
    intro outcome member healthy
    obtain ⟨-, sources, read, collects⟩ := fileOutcome_eq_ok (each outcome member)
    exact ⟨sources, read, typed_of_collected collects healthy⟩
  by_cases healthy : ∃ outcome ∈ outcomes, outcome.ok = true
  · obtain ⟨made, making, rerun⟩ := writeManifests_made healthy ran
    obtain ⟨gains, place, receives⟩ := linkFree.receives making
    obtain ⟨paths, same, keeps, still⟩ := writeManifests_placed receives rerun
    have agree {outcome : FileInference} (member : outcome ∈ outcomes) :
        ∀ other ∈ outcomes, name other.queryFile = name outcome.queryFile → other = outcome :=
      fun _ present => outcome_eq apart inferred member present
    refine ⟨files, paths, queries, fun outcome member is => read_path still ?_,
      fun outcome member is => ?_, fun spot clear => gains.asBefore keeps ?_⟩
    · rw [same]
      exact entry?_foldl_of_mem (List.mem_filter.mpr ⟨member, is⟩) fun other present =>
        agree member other (List.mem_filter.mp present).1
    · have spared : after.tree.entry? (place ++ [name outcome.queryFile]) =
          made.entry? (place ++ [name outcome.queryFile]) := by
        rw [same, entry?_foldl_of_failed (agree member) is]
      refine ⟨fun bytes reads => read_path still ?_, fun spot entry found => ?_⟩
      · rw [spared]
        exact gains.kept _ _ (entry?_of_read gains.keepsWays receives reads)
      · cases (find_path still outcome.queryFile).symm.trans found
        exact gains.asBefore keeps spared
    · rw [same, entry?_foldl_of_other]
      rintro outcome present rfl
      rw [paths] at clear
      exact clear _ (List.mem_map_of_mem present) _ (find_path still outcome.queryFile)
  · have none : ∀ outcome ∈ outcomes, outcome.ok = false := by simpa using healthy
    rw [writeManifests_none none] at ran
    cases ran
    refine ⟨files, ?_, queries, fun outcome member is => absurd is (by simp [none outcome member]),
      fun _ _ _ => ⟨fun _ => id, fun _ _ _ => .inl rfl⟩, fun _ _ => .inl rfl⟩
    rw [List.filter_eq_nil_iff.mpr (by simpa using none)]
    rfl

section Generate

variable (server : Server σ) (keepGoing : Bool) (queryFiles : List FilePath)
  (outputDir : FilePath) (schemaFiles : List FilePath) (workplace : Workplace σ)

/-- A run ends with a collision exactly if two of its files have the same stem. -/
theorem exists_collision_iff :
    (∃ error, ((generate server keepGoing queryFiles outputDir schemaFiles).run workplace).1 =
        .error error ∧ IsCollision error) ↔
      ∃ file ∈ queryFiles, ∃ other ∈ queryFiles, file ≠ other ∧ file.stem = other.stem := by
  have apart : (∃ file ∈ queryFiles, ∃ other ∈ queryFiles, file ≠ other ∧ file.stem = other.stem) ↔
      checkCollisions queryFiles outputDir ≠ .ok () := by
    rw [Ne, checkCollisions_eq_ok_iff, StemsApart]
    push Not
    simp only [and_comm, ne_eq]
  rw [apart, run_generate]
  rcases checked : checkCollisions queryFiles outputDir with failure | ⟨⟩
  · exact iff_of_true ⟨_, rfl, _, _, _, checked, rfl⟩ (by simp)
  refine iff_of_false ?_ (by simp)
  rintro ⟨error, failed, collision⟩
  dsimp only at failed
  rcases ran : (inferFiles server workplace.tree keepGoing queryFiles schemaFiles).run
    workplace.client with ⟨raised | outcomes, client⟩ <;> rw [ran] at failed
  · cases failed
    exact inferFiles_failsOnly server workplace.tree keepGoing queryFiles schemaFiles
      workplace.client error (by rw [ran]) collision
  · obtain ⟨message, rfl⟩ := Attempt.FailsOnly.bind
      (writeManifests_failsOnly outputDir (queryFiles.zip outcomes))
      (fun written => .pure (written, outcomes)) { workplace with client } error failed
    obtain ⟨_, same, -⟩ := collision.exists_message
    cases same

/-- A run that ends well has inferred its files, which do not collide, and then written. -/
theorem generate_eq_ok {written : List FilePath} {outcomes : List FileInference}
    {after : Workplace σ}
    (ran : (generate server keepGoing queryFiles outputDir schemaFiles).run workplace =
      (.ok (written, outcomes), after)) :
    StemsApart queryFiles ∧ ∃ client,
      (inferFiles server workplace.tree keepGoing queryFiles schemaFiles).run workplace.client =
        (.ok outcomes, client) ∧
      (writeManifests outputDir (queryFiles.zip outcomes)).run ⟨client, workplace.tree⟩ =
        (.ok written, after) := by
  rw [run_generate] at ran
  rcases checked : checkCollisions queryFiles outputDir with failure | ⟨⟩ <;> rw [checked] at ran
  · cases ran
  refine ⟨(checkCollisions_eq_ok_iff queryFiles outputDir).mp checked, ?_⟩
  dsimp only at ran
  rcases inferred : (inferFiles server workplace.tree keepGoing queryFiles schemaFiles).run
    workplace.client with ⟨raised | outcomes', client⟩ <;> rw [inferred] at ran
  · cases ran
  rcases wrote : (writeManifests outputDir (queryFiles.zip outcomes')).run
    (⟨client, workplace.tree⟩ : Workplace σ) with ⟨raised | written', last⟩ <;>
    simp only [run_bind, wrote, run_pure] at ran <;> cases ran
  exact ⟨client, rfl, wrote⟩

/-- Manifests are exactly those of the files without failures: on a session with fixed answers and
without links in the output directory, a run that ends well leaves them, each with all queries of
its file, and everything else as it was.  It ends with a collision exactly if two different files
have the same stem. -/
theorem generate_manifests {valid : Client σ → Prop} {answers : CatalogAnswers}
    (fixed : (Client.session server).IsFixed valid answers)
    (prepared : ∀ ready, (prepare server workplace.tree schemaFiles).run workplace.client =
      (.ok (), ready) → valid ready)
    (linkFree : workplace.tree.LinkFree outputDir) :
    let run := (generate server keepGoing queryFiles outputDir schemaFiles).run workplace
    ((∃ error, run.1 = .error error ∧ IsCollision error) ↔
      ∃ file ∈ queryFiles, ∃ other ∈ queryFiles, file ≠ other ∧ file.stem = other.stem) ∧
    ∃ results : SourceQuery → Except Error TypedQuery,
      (∀ query, (Resolving.fresh (inferQuery (Client.session server) query)).Gives valid
        (results query)) ∧
      ∀ written outcomes after, run = (.ok (written, outcomes), after) →
        Wrote results workplace.tree after.tree outputDir queryFiles written outcomes := by
  intro run
  refine ⟨exists_collision_iff server keepGoing queryFiles outputDir schemaFiles workplace, ?_⟩
  obtain ⟨results, alone, all⟩ := inferAll_outcomes fixed
  refine ⟨results, alone, fun written outcomes after ran => ?_⟩
  obtain ⟨apart, client, inferred, wrote⟩ :=
    generate_eq_ok server keepGoing queryFiles outputDir schemaFiles workplace ran
  have ended := (inferFiles_result server workplace.tree keepGoing queryFiles schemaFiles
    workplace.client).symm.trans (congrArg Prod.fst inferred)
  rcases made : (prepare server workplace.tree schemaFiles).run workplace.client with
    ⟨error | ⟨⟩, ready⟩ <;> rw [made] at ended
  · cases ended
  · have gives := all workplace.tree keepGoing queryFiles ready (prepared ready made)
    exact wrote_of_run apart linkFree (gives.1.symm.trans ended) wrote

end Generate

/-- Files with queries, two of them of one name, and a manifest from before. -/
def shelf : FileTree where
  entries := [(["out"], .directory), (["out", "tail.typed.json"], .file (encodeUtf8 "{}".toList)),
    (["one.sql"], .file (encodeUtf8 "-- name: One :one\nSELECT 1\n".toList)),
    (["tail.sql"], .file (encodeUtf8 "-- name: Tail :one\nSELECT tail\n".toList)),
    (["old"], .directory),
    (["old", "one.sql"], .file (encodeUtf8 "-- name: One :one\nSELECT 1\n".toList))]

def oneFile : FilePath := ⟨1, ["one.sql"]⟩

def tailFile : FilePath := ⟨1, ["tail.sql"]⟩

def oneQuery : SourceQuery := ⟨"One", "SELECT 1", [], .one, ["-- name: One :one"]⟩

def tailQuery : SourceQuery := ⟨"Tail", "SELECT tail", [], .one, ["-- name: Tail :one"]⟩

theorem readQueries_oneFile : shelf.readQueries oneFile = .ok [oneQuery] := by
  have read : shelf.readText oneFile = .ok "-- name: One :one\nSELECT 1\n" := by cbv
  refine readQueries_eq_ok (by cbv) read (QueryFile.parseText_eq_ok_iff.mpr ?_)
  decide +kernel

theorem readQueries_tailFile : shelf.readQueries tailFile = .ok [tailQuery] := by
  have read : shelf.readText tailFile = .ok "-- name: Tail :one\nSELECT tail\n" := by cbv
  refine readQueries_eq_ok (by cbv) read (QueryFile.parseText_eq_ok_iff.mpr ?_)
  decide +kernel

def oneTyped : TypedQuery :=
  ⟨"One", .one, [], "SELECT 1", [], [⟨"?column?", .plain 23 "int4" .base, false⟩]⟩

def tailFailure : InferenceFailure := ⟨.catalog, "query Tail: no tail", some "Tail"⟩

/-- The first query has a type, and the second one is rejected. -/
def shelfOutcomes : List FileInference := [⟨oneFile, [oneTyped], []⟩, ⟨tailFile, [], [tailFailure]⟩]

theorem shelf_linkFree : shelf.LinkFree ⟨0, ["out"]⟩ := by
  have making : shelf.makeDirectories ⟨0, ["out"]⟩ = .ok shelf := by cbv
  have found : shelf.find ⟨0, ["out"]⟩ true = .ok (["out"], some .directory) := by cbv
  intro made place makes leads name target
  cases making.symm.trans makes
  cases found.symm.trans leads
  intro link
  obtain ⟨before, after, split, -⟩ := List.lookup_eq_some_iff.mp link
  have listed : (["out", name], FileEntry.link target) ∈ shelf.entries := by
    rw [split]
    exact List.mem_append_right _ List.mem_cons_self
  simp [shelf] at listed

/-- The file without failures gets its manifest, where none was. -/
theorem run_writeManifests_shelf (client : Client ScriptedServer) :
    ((writeManifests ⟨0, ["out"]⟩ ([oneFile, tailFile].zip shelfOutcomes)).run
      ⟨client, shelf⟩).1 = .ok [⟨0, ["out", "one.typed.json"]⟩] := by
  have making : shelf.makeDirectories ⟨0, ["out"]⟩ = .ok shelf := by cbv
  have free : shelf.find ⟨0, ["out", "one.typed.json"]⟩ true =
      .ok (["out", "one.typed.json"], none) := by cbv
  have named : path ⟨0, ["out"]⟩ oneFile = ⟨0, ["out", "one.typed.json"]⟩ := by decide +kernel
  have wrote : ∃ next, Manifest.write shelf ⟨0, ["out"]⟩ oneFile [oneTyped] =
      .ok (⟨0, ["out", "one.typed.json"]⟩, next) := by
    unfold Manifest.write FileTree.write
    rw [making, named]
    simp only [bind, Except.bind, free]
    exact ⟨_, rfl⟩
  obtain ⟨next, wrote⟩ := wrote
  unfold shelfOutcomes
  rw [List.zip_cons_cons, run_writeManifests_cons (by decide), wrote]
  rfl

/-- A client that has not connected to a server of these statements yet. -/
def shelfClient (config : ResolvedConfig) : Client ScriptedServer :=
  { config, server := { script := Client.tails.script } }

def onShelf (config : ResolvedConfig) (client : Client ScriptedServer) : Prop :=
  client.IsServed ScriptedServer.server config (fun state => state.script = Client.tails.script)
    (· = ⟨Client.tails.script, false, false⟩) { server := { script := Client.tails.script } } []

theorem onShelf_shelfClient (config : ResolvedConfig) : onShelf config (shelfClient config) :=
  .unconnected rfl rfl rfl ⟨rfl, rfl, by simp [shelfClient]⟩ rfl

section Shelf

variable {config : ResolvedConfig} (limit : ∃ sql, config.timeoutStatement = .ok sql)

include limit

theorem onShelf_isFixed :
    (Client.session ScriptedServer.server).IsFixed (onShelf config)
      Client.tails.snapshot.answers :=
  Client.session_isFixed (ScriptedServer.serves Client.tails limit) (by decide)

theorem run_inferFiles_shelf (keepGoing : Bool) :
    ((inferFiles ScriptedServer.server shelf keepGoing [oneFile, tailFile] []).run
      (shelfClient config)).1 =
        if keepGoing then .ok shelfOutcomes else .error (.failure (.inference tailFailure)) := by
  obtain ⟨results, alone, all⟩ := inferAll_outcomes (onShelf_isFixed limit)
  have here := onShelf_shelfClient config
  have outcome (query : SourceQuery) : results query = Client.tails.snapshot.outcome query :=
    (alone query _ here).1.symm.trans (Resolving.fresh_gives
      (Client.tails.snapshot.outcome_gives (onShelf_isFixed limit) query) _ here).1
  have one : results oneQuery = .ok oneTyped := (outcome oneQuery).trans (by decide +kernel)
  have tail : results tailQuery = .error (.failure (.inference tailFailure)) :=
    (outcome tailQuery).trans (by decide +kernel)
  refine (all shelf keepGoing [oneFile, tailFile] _ here).1.trans ?_
  simp only [List.mapM_cons, List.mapM_nil, fileOutcome, readQueries_oneFile, readQueries_tailFile]
  simp only [bind, Except.bind, List.map_cons, List.map_nil, one, tail]
  cases keepGoing <;> rfl

theorem onShelf_failsByQuery :
    (Client.session ScriptedServer.server).FailsByQuery (onShelf config) := by
  intro query client error here failed
  have steady := Client.tails.snapshot.session_isSteady fun _ _ =>
    Client.tails.describe_snapshot_fails
  have acyclic : NoElementCycle Client.tails.snapshot.answers.type := by
    refine noElementCycle_of_lt ?_
    rintro oid elem ⟨row, found, -⟩
    cases CatalogSnapshot.mem_oids_of_typeRow? (Except.ok.inj found)
  have alone := (Resolving.fresh_gives
    (Client.tails.snapshot.outcome_gives (onShelf_isFixed limit) query) client here).1
  obtain ⟨result, gives, fails⟩ := inferQuery_steady steady acyclic rfl query
  have same : Client.tails.snapshot.outcome query = result :=
    (Resolving.fresh_gives gives Client.tails.snapshot rfl).1
  exact fails error (same.symm.trans (alone.symm.trans failed))

end Shelf

/-- A file with a rejected query keeps the manifest that it had, and the other file gets one. -/
theorem generate_manifests_kept :
    let server := ScriptedServer.server
    let run := (generate server true [oneFile, tailFile] ⟨0, ["out"]⟩ []).run
      ⟨shelfClient {}, shelf⟩
    (Client.session server).IsFixed (onShelf {}) Client.tails.snapshot.answers ∧
      (∀ ready, (prepare server shelf []).run (shelfClient {}) = (.ok (), ready) →
        onShelf {} ready) ∧
      shelf.LinkFree ⟨0, ["out"]⟩ ∧
      run.1 = .ok ([⟨0, ["out", "one.typed.json"]⟩], shelfOutcomes) ∧
      run.2.tree.read ⟨0, ["out", "one.typed.json"]⟩ = .ok (content ⟨oneFile, [oneTyped], []⟩) ∧
      run.2.tree.read ⟨0, ["out", "tail.typed.json"]⟩ = .ok (encodeUtf8 "{}".toList) := by
  intro server run
  have limit : ∃ sql, ({} : ResolvedConfig).timeoutStatement = .ok sql := ⟨_, rfl⟩
  have ready : ∀ ready, (prepare server shelf []).run (shelfClient {}) = (.ok (), ready) →
      onShelf {} ready := by
    rintro _ ⟨⟩
    exact onShelf_shelfClient {}
  have ran : run.1 = .ok ([⟨0, ["out", "one.typed.json"]⟩], shelfOutcomes) := by
    have apart : checkCollisions [oneFile, tailFile] ⟨0, ["out"]⟩ = .ok () := by decide +kernel
    have inferred := run_inferFiles_shelf limit true
    rcases asked : (inferFiles server shelf true [oneFile, tailFile] []).run (shelfClient {}) with
      ⟨result, client⟩
    rw [asked] at inferred
    have writes := run_writeManifests_shelf client
    rcases wrote : (writeManifests ⟨0, ["out"]⟩ ([oneFile, tailFile].zip shelfOutcomes)).run
      (⟨client, shelf⟩ : Workplace ScriptedServer) with ⟨written, after⟩
    rw [wrote] at writes
    subst inferred writes
    simp only [run, run_generate, apart, asked, if_true, run_bind, wrote]
    rfl
  obtain ⟨-, results, -, wrote⟩ := generate_manifests server true [oneFile, tailFile] ⟨0, ["out"]⟩
    [] ⟨shelfClient {}, shelf⟩ (onShelf_isFixed limit) ready shelf_linkFree
  have left := wrote _ _ run.2 (Prod.ext ran rfl)
  have one : path ⟨0, ["out"]⟩ oneFile = ⟨0, ["out", "one.typed.json"]⟩ := by decide +kernel
  have tail : path ⟨0, ["out"]⟩ tailFile = ⟨0, ["out", "tail.typed.json"]⟩ := by decide +kernel
  have before : shelf.read ⟨0, ["out", "tail.typed.json"]⟩ = .ok (encodeUtf8 "{}".toList) := by
    cbv
  refine ⟨onShelf_isFixed limit, ready, shelf_linkFree, ran, ?_, ?_⟩
  · have held := left.manifests ⟨oneFile, [oneTyped], []⟩ (by simp [shelfOutcomes]) rfl
    rwa [one] at held
  · obtain ⟨kept, -⟩ := left.failed ⟨tailFile, [], [tailFailure]⟩ (by simp [shelfOutcomes]) rfl
    rw [tail] at kept
    exact kept _ before

end Generation

end QueryTyping
