import Mathlib
import QueryTyping.Generation
import QueryTyping.Proofs.ConnectionTrace
import QueryTyping.Proofs.FileScan
import QueryTyping.Proofs.SteadySession
import QueryTyping.Proofs.TypeMemo

/-!
# Inferences do not depend on each other

All files of a run share one memo of resolved types.  Against a session with fixed
answers each of their queries still has the result that it has by itself, with
nothing resolved before, and each file the outcome that these results make
(`Generation.inferAll_independent`).  So it is on a client that has schema files loaded
(`Generation.inferFiles_independent`).
-/

namespace QueryTyping

/-- The failure that a query met with, if it is of the kind that is kept. -/
def keptFailure? : Except Error TypedQuery → Option InferenceFailure
  | .error (.failure (.inference failure)) => some failure
  | _ => none

/-- The outcome of a file with the results of further queries, in order. -/
def FileInference.collect (outcome : FileInference) (results : List (Except Error TypedQuery)) :
    FileInference :=
  { outcome with
    queries := outcome.queries ++ results.filterMap Except.toOption
    failures := outcome.failures ++ results.filterMap keptFailure? }

/-- Nothing is resolved in a fresh run, so it gives what runs with a sound memo give. -/
theorem Resolving.fresh_gives {σ α : Type} {valid : σ → Prop} {answers : CatalogAnswers}
    {action : Attempt (Resolving σ) α}
    {result : Except Error α} (gives : action.Gives (Resolving.Settled valid answers) result) :
    (Resolving.fresh action).Gives valid result := by
  intro state is
  obtain ⟨same, kept⟩ := gives ⟨state, {}⟩ (Resolving.settled_fresh is)
  exact ⟨same, kept.1⟩

namespace FileTree

/-- A file whose text parses holds the queries. -/
theorem readQueries_eq_ok {tree : FileTree} {path : FilePath} {text : String}
    {queries : List SourceQuery} (file : tree.isFile path = true)
    (read : tree.readText path = .ok text)
    (parsed : QueryFile.parseText path.text text = .ok queries) :
    tree.readQueries path = .ok queries := by
  unfold readQueries
  rw [file, if_neg (by decide)]
  refine (except_bind_eq_ok_iff _ _ _).mpr ⟨text, read, ?_⟩
  rw [parsed]
  rfl

end FileTree

namespace FileInference

variable (outcome : FileInference) (results : List (Except Error TypedQuery))

theorem collect_nil : outcome.collect [] = outcome := by
  simp [collect]

theorem collect_typed (typed : TypedQuery) :
    outcome.collect (.ok typed :: results) =
      { outcome with queries := outcome.queries ++ [typed] }.collect results := by
  simp only [collect, List.append_assoc]
  rfl

theorem collect_failure (failure : InferenceFailure) :
    outcome.collect (.error (.failure (.inference failure)) :: results) =
      { outcome with failures := outcome.failures ++ [failure] }.collect results := by
  simp only [collect, List.append_assoc]
  rfl

end FileInference

namespace Generation

variable {σ : Type} {session : Session σ} {holds : Resolving σ → Prop}
  {results : SourceQuery → Except Error TypedQuery}

/-- Queries that each give a result give them all, in order. -/
theorem inferQueries_gives
    (gives : ∀ query, (inferQuery session query).Gives holds (results query))
    (fails : ∀ query error, results query = .error error → error.IsInference)
    (queries : List SourceQuery) (outcome : FileInference) :
    (inferQueries session true outcome queries).Gives holds
      (.ok (outcome.collect (queries.map results))) := by
  induction queries generalizing outcome with
  | nil =>
    rw [List.map_nil, FileInference.collect_nil]
    exact .pure outcome
  | cons query rest ih =>
    have one := gives query
    rw [List.map_cons]
    rcases result : results query with error | typed <;> rw [result] at one
    -- A failure is caught, and what comes after starts from the memo that it left.
    · obtain ⟨failure, rfl⟩ := fails query error result
      rw [FileInference.collect_failure]
      exact .bind (.tryCatch_error one.bind_error (.pure _)) (ih _)
    · rw [FileInference.collect_typed]
      exact .bind (.tryCatch_ok (one.bind (.pure _))) (ih _)

theorem inferFile_gives (gives : ∀ query, (inferQuery session query).Gives holds (results query))
    (fails : ∀ query error, results query = .error error → error.IsInference) {tree : FileTree}
    {file : FilePath} {queries : List SourceQuery} (read : tree.readQueries file = .ok queries) :
    (inferFile session tree true file).Gives holds
      (.ok (FileInference.collect { queryFile := file } (queries.map results))) := by
  unfold inferFile
  rw [read]
  exact inferQueries_gives gives fails queries _

/-- The outcome of a file, by the results of its queries. -/
def outcomeOf (results : SourceQuery → Except Error TypedQuery) (tree : FileTree)
    (file : FilePath) : FileInference :=
  match tree.readQueries file with
  | .ok queries => FileInference.collect { queryFile := file } (queries.map results)
  | .error _ => { queryFile := file }

theorem outcomeOf_read {tree : FileTree} {file : FilePath} {queries : List SourceQuery}
    (read : tree.readQueries file = .ok queries) :
    outcomeOf results tree file =
      FileInference.collect { queryFile := file } (queries.map results) := by
  unfold outcomeOf
  rw [read]

section Steady

variable {valid : σ → Prop} {answers : CatalogAnswers}
  (steady : session.IsSteady valid answers) (acyclic : NoElementCycle answers.type) {start : σ}
  (started : valid start)

include steady acyclic started in
/-- On a steady session every query has a result, from whatever sound memo. -/
theorem exists_results :
    ∃ results : SourceQuery → Except Error TypedQuery,
      (∀ query, (inferQuery session query).Gives (Resolving.Settled valid answers)
        (results query)) ∧
      ∀ query error, results query = .error error → error.IsInference := by
  have settled : Resolving.Settled valid answers ⟨start, {}⟩ := Resolving.settled_fresh started
  have steadily (query : SourceQuery) :=
    (inferQuery_steady steady acyclic started query).gives_from settled
  exact ⟨_, fun query => (steadily query).1, fun query => (steadily query).2⟩

variable (gives : ∀ query, (inferQuery session query).Gives (Resolving.Settled valid answers)
    (results query))
  (fails : ∀ query error, results query = .error error → error.IsInference) {tree : FileTree}

include gives fails

theorem inferFile_outcome {file : FilePath} {queries : List SourceQuery}
    (read : tree.readQueries file = .ok queries) :
    (inferFile session tree true file).Gives (Resolving.Settled valid answers)
      (.ok (outcomeOf results tree file)) := by
  rw [outcomeOf_read read]
  exact inferFile_gives gives fails read

/-- Files have their outcomes in order, whatever was resolved for those before. -/
theorem inferAll_outcomeOf {files : List FilePath}
    (readable : ∀ file ∈ files, ∃ queries, tree.readQueries file = .ok queries) :
    (inferAll session tree true files).Gives valid (.ok (files.map (outcomeOf results tree))) := by
  have each : ∀ file ∈ files, (inferFile session tree true file).Gives
      (Resolving.Settled valid answers) (.ok (outcomeOf results tree file)) := by
    intro file member
    obtain ⟨queries, read⟩ := readable file member
    exact inferFile_outcome gives fails read
  exact Resolving.fresh_gives (.mapM each)

end Steady

/-- All that a run does on its client before it infers. -/
def prepare {σ : Type} (server : Server σ) (tree : FileTree) (schemaFiles : List FilePath) :
    Attempt (Client σ) Unit :=
  if schemaFiles.isEmpty then pure ()
  else do
    Client.connect server
    Client.record (.begin true)
    loadSchema server tree schemaFiles

open Attempt in
/-- With schema files loaded, a run ends as its inferences do. -/
theorem inferFiles_result {σ : Type} (server : Server σ) (tree : FileTree) (keepGoing : Bool)
    (files schemaFiles : List FilePath) (client : Client σ) :
    ((inferFiles server tree keepGoing files schemaFiles).run client).1 =
      match (prepare server tree schemaFiles).run client with
      | (.error error, _) => .error error
      | (.ok (), ready) =>
        ((inferAll (Client.session server) tree keepGoing files).run ready).1 := by
  unfold inferFiles withSchema prepare
  split
  · rfl
  simp only [run_bind]
  rcases (Client.connect server).run client with ⟨error | ⟨⟩, opened⟩
  · rfl
  simp only [Client.run_transaction, Client.run_record, run_bind]
  rcases (loadSchema server tree schemaFiles).run
    (opened.advance [.begin true] opened.server) with ⟨error | ⟨⟩, ready⟩ <;> rfl

/-- With schema files loaded, a run has the outcomes that its session leads to. -/
theorem inferFiles_of_prepared {σ : Type} {server : Server σ} {valid : Client σ → Prop}
    {tree : FileTree} {keepGoing : Bool} {files schemaFiles : List FilePath}
    {outcomes : List FileInference}
    (gives : (inferAll (Client.session server) tree keepGoing files).Gives valid (.ok outcomes))
    {client ready : Client σ}
    (prepared : (prepare server tree schemaFiles).run client = (.ok (), ready))
    (is : valid ready) :
    ((inferFiles server tree keepGoing files schemaFiles).run client).1 = .ok outcomes := by
  rw [inferFiles_result, prepared]
  exact (gives ready is).1

/-- Against a session with fixed answers, each query has one result, which it has by itself with
nothing resolved before.  A file has the results of its queries in order, by itself and among any
other files, before or after which it may stand and which may fail. -/
theorem inferAll_independent {valid : σ → Prop} {answers : CatalogAnswers}
    (steady : session.IsSteady valid answers) (acyclic : NoElementCycle answers.type) {start : σ}
    (started : valid start) :
    ∃ results : SourceQuery → Except Error TypedQuery,
      (∀ query, (Resolving.fresh (inferQuery session query)).Gives valid (results query) ∧
        ((∃ typed, results query = .ok typed) ∨
          ∃ failure, results query = .error (.failure (.inference failure)))) ∧
      ∀ tree : FileTree, ∃ outcomes : FilePath → FileInference,
        (∀ file queries, tree.readQueries file = .ok queries →
          outcomes file = FileInference.collect { queryFile := file } (queries.map results) ∧
            (Resolving.fresh (inferFile session tree true file)).Gives valid
              (.ok (outcomes file))) ∧
        ∀ files, (∀ file ∈ files, ∃ queries, tree.readQueries file = .ok queries) →
          (inferAll session tree true files).Gives valid (.ok (files.map outcomes)) := by
  obtain ⟨results, gives, fails⟩ := exists_results steady acyclic started
  refine ⟨results, fun query => ⟨Resolving.fresh_gives (gives query), ?_⟩, fun tree =>
    ⟨outcomeOf results tree, fun file queries read => ?_,
      fun files readable => inferAll_outcomeOf gives fails readable⟩⟩
  · rcases result : results query with error | typed
    · obtain ⟨failure, rfl⟩ := fails query error result
      exact .inr ⟨failure, rfl⟩
    · exact .inl ⟨typed, rfl⟩
  · exact ⟨outcomeOf_read read, Resolving.fresh_gives (inferFile_outcome gives fails read)⟩

/-- On a client with fixed answers, a run has for each file the outcome that the file has by itself
on that client, whatever schema files were loaded for the run. -/
theorem inferFiles_independent {σ : Type} {server : Server σ} {valid : Client σ → Prop}
    {answers : CatalogAnswers} (steady : (Client.session server).IsSteady valid answers)
    (acyclic : NoElementCycle answers.type) {client ready : Client σ} {tree : FileTree}
    {files schemaFiles : List FilePath}
    (readable : ∀ file ∈ files, ∃ queries, tree.readQueries file = .ok queries)
    (prepared : (prepare server tree schemaFiles).run client = (.ok (), ready))
    (is : valid ready) :
    ∃ outcomes : FilePath → FileInference,
      (∀ file ∈ files, ((Resolving.fresh (inferFile (Client.session server) tree true file)).run
        ready).1 = .ok (outcomes file)) ∧
      ((inferFiles server tree true files schemaFiles).run client).1 =
        .ok (files.map outcomes) := by
  obtain ⟨results, gives, fails⟩ := exists_results steady acyclic is
  refine ⟨outcomeOf results tree, fun file member => ?_,
    inferFiles_of_prepared (inferAll_outcomeOf gives fails readable) prepared is⟩
  obtain ⟨queries, read⟩ := readable file member
  exact (Resolving.fresh_gives (inferFile_outcome gives fails read) ready is).1

end Generation

namespace CatalogSnapshot

/-- What the session at a snapshot answers. -/
def answers (snapshot : CatalogSnapshot) : CatalogAnswers where
  describe sql := (snapshot.describe sql).mapError .failure
  type oid := .ok (snapshot.typeRow? oid)
  column table number := .ok (snapshot.column? table number)

theorem session_isFixed (snapshot : CatalogSnapshot) :
    session.IsFixed (· = snapshot) snapshot.answers where
  describe sql := by
    rintro state rfl
    simp only [session, answers, Attempt.run_bind, Attempt.run_get]
    rcases state.describe sql with failure | description <;> exact ⟨rfl, rfl⟩
  type oid := by
    rintro state rfl
    exact ⟨rfl, rfl⟩
  column table number := by
    rintro state rfl
    exact ⟨rfl, rfl⟩
  room := by
    rintro state rfl
    obtain ⟨oids, room, listed⟩ := keepsCatalog.room state
    exact ⟨oids, room, fun oid row found => listed oid row (Except.ok.inj found)⟩

theorem session_isSteady (snapshot : CatalogSnapshot)
    (rejects : ∀ sql failure, snapshot.describe sql = .error failure →
      ∃ cause, failure = .inference cause) :
    session.IsSteady (· = snapshot) snapshot.answers where
  describe := (session_isFixed snapshot).describe
  type := (session_isFixed snapshot).type
  column := (session_isFixed snapshot).column
  describe_fails sql error failed := by
    change (snapshot.describe sql).mapError .failure = .error error at failed
    rcases described : snapshot.describe sql with failure | description <;>
      rw [described] at failed
    · cases failed
      obtain ⟨cause, rfl⟩ := rejects sql failure described
      exact ⟨cause, rfl⟩
    · cases failed
  type_fails oid error failed := by cases failed
  column_fails table number error failed := by cases failed
  room := (session_isFixed snapshot).room

/-- Moods, and two statements: one with moods and with a type that is not there. -/
def haunted : CatalogSnapshot :=
  { moods with statements :=
      [("UPDATE author SET mood = $1, ghost = $2", .ok ⟨[16410, 99999], []⟩),
        ("UPDATE author SET moods = $1", .ok ⟨[16409], []⟩)] }

def ghostQuery : SourceQuery :=
  ⟨"Ghost", "UPDATE author SET mood = $1, ghost = $2", ["mood", "ghost"], .exec,
    ["-- name: Ghost :exec"]⟩

def moodsQuery : SourceQuery :=
  ⟨"Moods", "UPDATE author SET moods = $1", ["moods"], .exec, ["-- name: Moods :exec"]⟩

def ghostFailure : InferenceFailure :=
  ⟨.unknownType 99999, "query Ghost: unknown type oid 99999", some "Ghost"⟩

def moodsTyped : TypedQuery :=
  ⟨"Moods", .exec, [], "UPDATE author SET moods = $1",
    [⟨"moods", .derived 16409 "_mood" .array (.plain 16410 "mood" .enum)⟩], []⟩

theorem ghostQuery_alone :
    ((Resolving.fresh (inferQuery session ghostQuery)).run haunted).1 =
      .error (.failure (.inference ghostFailure)) :=
  rfl

theorem moodsQuery_alone :
    ((Resolving.fresh (inferQuery session moodsQuery)).run haunted).1 = .ok moodsTyped := by
  decide +kernel

def ghostFile : FilePath := ⟨1, ["ghost.sql"]⟩

def moodsFile : FilePath := ⟨1, ["moods.sql"]⟩

def ghostText : String :=
  "-- name: Ghost :exec\nUPDATE author SET mood = pgq.arg('mood'), ghost = pgq.arg('ghost')"

def moodsText : String := "-- name: Moods :exec\nUPDATE author SET moods = pgq.arg('moods')"

/-- A file for each query. -/
def house : FileTree where
  entries := [(["ghost.sql"], .file (Text.encodeUtf8 ghostText.toList)),
    (["moods.sql"], .file (Text.encodeUtf8 moodsText.toList))]

theorem readQueries_ghostFile : house.readQueries ghostFile = .ok [ghostQuery] := by
  have read : house.readText ghostFile = .ok ghostText := by cbv
  refine FileTree.readQueries_eq_ok (by cbv) read (QueryFile.parseText_eq_ok_iff.mpr ?_)
  decide +kernel

theorem readQueries_moodsFile : house.readQueries moodsFile = .ok [moodsQuery] := by
  have read : house.readText moodsFile = .ok moodsText := by cbv
  refine FileTree.readQueries_eq_ok (by cbv) read (QueryFile.parseText_eq_ok_iff.mpr ?_)
  decide +kernel

def ghostOutcome : FileInference := { queryFile := ghostFile, failures := [ghostFailure] }

def moodsOutcome : FileInference := { queryFile := moodsFile, queries := [moodsTyped] }

theorem haunted_typeRow? (oid : Int) : haunted.typeRow? oid = moods.typeRow? oid := by
  unfold typeRow? haunted
  rfl

theorem haunted_rejects (sql : String) (failure : Failure)
    (failed : haunted.describe sql = .error failure) : ∃ cause, failure = .inference cause := by
  simp only [describe, haunted, List.lookup_cons, List.lookup_nil] at failed
  split at failed
  · cases failed
  · split at failed
    · cases failed
    · cases failed
      exact ⟨_, rfl⟩

/-- A query that failed on its way leaves types behind, and the next file, or the same one once more,
is none the wiser. -/
theorem inferAll_independent_after_failure :
    session.IsSteady (· = haunted) haunted.answers ∧ NoElementCycle haunted.answers.type ∧
      house.readQueries ghostFile = .ok [ghostQuery] ∧
      house.readQueries moodsFile = .ok [moodsQuery] ∧
      (Generation.inferAll session house true [ghostFile, moodsFile, ghostFile]).Gives (· = haunted)
        (.ok [ghostOutcome, moodsOutcome, ghostOutcome]) := by
  have steady := session_isSteady haunted haunted_rejects
  have acyclic : NoElementCycle haunted.answers.type := by
    refine noElementCycle_of_lt ?_
    rintro oid elem ⟨row, found, nested, same⟩
    have mood := (congrArg Except.ok (haunted_typeRow? oid)).symm.trans found
    exact moods_link ⟨row, mood, nested, same⟩
  refine ⟨steady, acyclic, readQueries_ghostFile, readQueries_moodsFile, ?_⟩
  obtain ⟨results, alone, files⟩ := Generation.inferAll_independent steady acyclic rfl
  have ghost := ((alone ghostQuery).1 haunted rfl).1.symm.trans ghostQuery_alone
  have several := ((alone moodsQuery).1 haunted rfl).1.symm.trans moodsQuery_alone
  obtain ⟨outcomes, each, all⟩ := files house
  have one : outcomes ghostFile = ghostOutcome := by
    rw [(each ghostFile _ readQueries_ghostFile).1, List.map_singleton, ghost]
    rfl
  have other : outcomes moodsFile = moodsOutcome := by
    rw [(each moodsFile _ readQueries_moodsFile).1, List.map_singleton, several]
    rfl
  have readable : ∀ file ∈ [ghostFile, moodsFile, ghostFile],
      ∃ queries, house.readQueries file = .ok queries := by
    simp only [List.forall_mem_cons, List.not_mem_nil, false_imp_iff, implies_true, and_true]
    exact ⟨⟨_, readQueries_ghostFile⟩, ⟨_, readQueries_moodsFile⟩, _, readQueries_ghostFile⟩
  have inOrder := all [ghostFile, moodsFile, ghostFile] readable
  rwa [List.map_cons, List.map_cons, List.map_singleton, one, other] at inOrder

end CatalogSnapshot

end QueryTyping
