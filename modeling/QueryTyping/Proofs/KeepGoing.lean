import QueryTyping.Proofs.FixedOutcomes
import QueryTyping.Proofs.WriteLast

/-!
# Going on after failures

A run that keeps failures deals every query of every file to one of two lists
(`Generation.Dealt`), and one that ends with the first failure ends with the first that
the other keeps (`Generation.stoppedBy`).  Their histories part at that failure, so the two
are compared by the results that all queries have (`Generation.inferFiles_policies`).
-/

namespace QueryTyping

namespace Generation

/-- Each query is either typed or fails, and both kinds keep the order of the queries. -/
inductive Dealt (results : SourceQuery → Except Error TypedQuery) :
    List SourceQuery → List TypedQuery → List InferenceFailure → Prop
  | nil : Dealt results [] [] []
  | typed {query : SourceQuery} {rest : List SourceQuery} {type : TypedQuery}
    {types : List TypedQuery} {failures : List InferenceFailure}
    (result : results query = .ok type) (others : Dealt results rest types failures) :
    Dealt results (query :: rest) (type :: types) failures
  | failed {query : SourceQuery} {rest : List SourceQuery} {failure : InferenceFailure}
    {types : List TypedQuery} {failures : List InferenceFailure}
    (result : results query = .error (.failure (.inference failure)))
    (others : Dealt results rest types failures) :
    Dealt results (query :: rest) types (failure :: failures)

/-- The outcome is the file's, with all its queries. -/
structure IsOutcome (results : SourceQuery → Except Error TypedQuery) (tree : FileTree)
    (file : FilePath) (outcome : FileInference) : Prop where
  named : outcome.queryFile = file
  dealt : ∃ sources, tree.readQueries file = .ok sources ∧
    Dealt results sources outcome.queries outcome.failures

/-- All failures, in the order of files and of the queries in them. -/
def failuresOf (outcomes : List FileInference) : List InferenceFailure :=
  outcomes.flatMap (·.failures)

/-- The first failure, if there is one, takes the place of a value. -/
def stoppedBy {α : Type} : List InferenceFailure → α → Except Error α
  | [], value => .ok value
  | failure :: _, _ => .error (.failure (.inference failure))

/-- A file's failures come before those of the files after it. -/
theorem stoppedBy_failuresOf_cons (outcome : FileInference) (rest : List FileInference) :
    stoppedBy (failuresOf (outcome :: rest)) (outcome :: rest) = do
      let first ← stoppedBy outcome.failures outcome
      let others ← stoppedBy (failuresOf rest) rest
      return first :: others := by
  unfold failuresOf
  rw [List.flatMap_cons]
  rcases outcome.failures with _ | ⟨failure, failures⟩
  · rw [List.nil_append]
    generalize rest.flatMap (·.failures) = failures
    rcases failures with _ | ⟨failure, failures⟩ <;> rfl
  · rfl

variable {results : SourceQuery → Except Error TypedQuery}

section Policies

variable (fails : ∀ query error, results query = .error error → error.IsInference)

include fails in
theorem exists_dealt (queries : List SourceQuery) :
    ∃ types failures, Dealt results queries types failures := by
  induction queries with
  | nil => exact ⟨[], [], .nil⟩
  | cons query rest ih =>
    obtain ⟨types, failures, others⟩ := ih
    rcases result : results query with error | type
    · obtain ⟨failure, rfl⟩ := fails query error result
      exact ⟨types, failure :: failures, .failed result others⟩
    · exact ⟨type :: types, failures, .typed result others⟩

variable {queries : List SourceQuery} {types : List TypedQuery} {failures : List InferenceFailure}

theorem Dealt.collected_keeping (dealt : Dealt results queries types failures)
    (outcome : FileInference) :
    collected true outcome (queries.map results) =
      .ok { outcome with
        queries := outcome.queries ++ types, failures := outcome.failures ++ failures } := by
  induction dealt generalizing outcome with
  | nil => simp [collected]
  | typed result _ ih =>
    rw [List.map_cons, result, collected, ih, List.append_assoc]
    rfl
  | failed result _ ih =>
    rw [List.map_cons, result, collected, if_pos rfl, ih, List.append_assoc]
    rfl

theorem Dealt.collected_stopping (dealt : Dealt results queries types failures)
    (outcome : FileInference) :
    collected false outcome (queries.map results) =
      stoppedBy failures { outcome with queries := outcome.queries ++ types } := by
  induction dealt generalizing outcome with
  | nil => simp [collected, stoppedBy]
  | typed result _ ih =>
    rw [List.map_cons, result, collected, ih, List.append_assoc]
    rfl
  | failed result =>
    rw [List.map_cons, result, collected, if_neg Bool.false_ne_true]
    rfl

include fails

/-- Both policies for one file: it has an outcome, which the first of its failures may replace. -/
theorem exists_isOutcome {tree : FileTree} {file : FilePath}
    (readable : ∃ sources, tree.readQueries file = .ok sources) :
    ∃ outcome, IsOutcome results tree file outcome ∧
      fileOutcome results tree true file = .ok outcome ∧
      fileOutcome results tree false file = stoppedBy outcome.failures outcome := by
  obtain ⟨sources, read⟩ := readable
  obtain ⟨types, failures, dealt⟩ := exists_dealt fails sources
  unfold fileOutcome
  rw [read]
  refine ⟨⟨file, types, failures⟩, ⟨rfl, sources, read, dealt⟩,
    dealt.collected_keeping { queryFile := file }, ?_⟩
  refine (dealt.collected_stopping { queryFile := file }).trans ?_
  cases failures <;> rfl

/-- Both policies for files in order. -/
theorem exists_outcomes {tree : FileTree} {files : List FilePath}
    (readable : ∀ file ∈ files, ∃ sources, tree.readQueries file = .ok sources) :
    ∃ outcomes, List.Forall₂ (IsOutcome results tree) files outcomes ∧
      files.mapM (fileOutcome results tree true) = .ok outcomes ∧
      files.mapM (fileOutcome results tree false) = stoppedBy (failuresOf outcomes) outcomes := by
  induction files with
  | nil => exact ⟨[], .nil, rfl, rfl⟩
  | cons file files ih =>
    obtain ⟨first, others⟩ := List.forall_mem_cons.mp readable
    obtain ⟨outcome, is, kept, ended⟩ := exists_isOutcome fails first
    obtain ⟨outcomes, are, keptLater, endedLater⟩ := ih others
    refine ⟨outcome :: outcomes, .cons is are, ?_, ?_⟩
    · rw [List.mapM_cons, kept, keptLater]
      rfl
    · rw [List.mapM_cons, ended, endedLater, stoppedBy_failuresOf_cons]

end Policies

variable {σ : Type} {server : Server σ} {valid : Client σ → Prop} {answers : CatalogAnswers}

/-- On a session with fixed answers whose queries fail only by themselves, a run that keeps failures
deals all queries, and one that does not ends with the first failure. -/
theorem inferFiles_policies (fixed : (Client.session server).IsFixed valid answers)
    (fails : (Client.session server).FailsByQuery valid) :
    ∃ results : SourceQuery → Except Error TypedQuery,
      (∀ query, (Resolving.fresh (inferQuery (Client.session server) query)).Gives valid
        (results query)) ∧
      ∀ tree queryFiles schemaFiles client ready,
        (prepare server tree schemaFiles).run client = (.ok (), ready) → valid ready →
        (∀ file ∈ queryFiles, ∃ sources, tree.readQueries file = .ok sources) →
        ∃ outcomes, List.Forall₂ (IsOutcome results tree) queryFiles outcomes ∧
          ((inferFiles server tree true queryFiles schemaFiles).run client).1 = .ok outcomes ∧
          ((inferFiles server tree false queryFiles schemaFiles).run client).1 =
            stoppedBy (failuresOf outcomes) outcomes := by
  obtain ⟨results, alone, all⟩ := inferAll_outcomes fixed
  refine ⟨results, alone, fun tree queryFiles schemaFiles client ready prepared ok readable => ?_⟩
  have inference (query : SourceQuery) (error : Error) (failed : results query = .error error) :
      error.IsInference :=
    fails query ready error ok ((alone query ready ok).1.trans failed)
  obtain ⟨outcomes, are, kept, ended⟩ := exists_outcomes inference readable
  refine ⟨outcomes, are, ?_, ?_⟩
  · rw [inferFiles_result, prepared]
    exact (all tree true queryFiles ready ok).1.trans kept
  · rw [inferFiles_result, prepared]
    exact (all tree false queryFiles ready ok).1.trans ended

section Generating

open Attempt

variable (server) {tree : FileTree} {dir : FilePath}
  {queryFiles schemaFiles : List FilePath} {keepGoing : Bool} {client : Client σ}

/-- Writing has nothing to do with the client. -/
theorem writeManifests_client (pairs : List (FilePath × FileInference)) (tree : FileTree)
    (client other : Client σ) :
    ((writeManifests dir pairs).run ⟨client, tree⟩).1 =
      ((writeManifests dir pairs).run ⟨other, tree⟩).1 := by
  induction pairs generalizing tree with
  | nil => rfl
  | cons pair rest ih =>
    obtain ⟨file, outcome⟩ := pair
    by_cases healthy : outcome.ok = true
    · rw [run_writeManifests_cons healthy, run_writeManifests_cons healthy]
      rcases Manifest.write tree dir file outcome.queries with failure | ⟨target, next⟩
      · rfl
      have same := ih next
      dsimp only
      rcases one : (writeManifests dir rest).run (⟨client, next⟩ : Workplace σ) with
        ⟨error | more, last⟩ <;>
        rcases two : (writeManifests dir rest).run (⟨other, next⟩ : Workplace σ) with
          ⟨error' | more', last'⟩ <;> rw [one, two] at same <;> cases same <;> rfl
    · rw [writeManifests, if_neg healthy]
      exact ih tree

variable (apart : Manifest.checkCollisions queryFiles dir = .ok ())

include apart

theorem run_generate_of_inferred {outcomes : List FileInference}
    (inferred : ((inferFiles server tree keepGoing queryFiles schemaFiles).run client).1 =
      .ok outcomes) (writer : Client σ) :
    ((generate server keepGoing queryFiles dir schemaFiles).run ⟨client, tree⟩).1 =
      (((writeManifests dir (queryFiles.zip outcomes)).run ⟨writer, tree⟩).1).map
        fun written => (written, outcomes) := by
  rw [run_generate, apart]
  rcases ran : (inferFiles server tree keepGoing queryFiles schemaFiles).run client with
    ⟨result, after⟩
  rw [ran] at inferred
  subst inferred
  dsimp only
  rw [writeManifests_client _ _ writer after, run_bind]
  rcases (writeManifests dir (queryFiles.zip outcomes)).run (⟨after, tree⟩ : Workplace σ) with
    ⟨error | written, last⟩ <;> rfl

theorem run_generate_of_failed {error : Error}
    (failed : ((inferFiles server tree keepGoing queryFiles schemaFiles).run client).1 =
      .error error) :
    ((generate server keepGoing queryFiles dir schemaFiles).run ⟨client, tree⟩).1 =
      .error error := by
  rw [run_generate, apart]
  rcases ran : (inferFiles server tree keepGoing queryFiles schemaFiles).run client with
    ⟨result, after⟩
  rw [ran] at failed
  subst failed
  rfl

end Generating

end Generation

end QueryTyping
