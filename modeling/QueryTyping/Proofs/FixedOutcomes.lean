import QueryTyping.Proofs.Independence

/-!
# Outcomes of fixed results

On a session with fixed answers a run over files is a matter of its queries' results.
What it gives, whether failures are kept or end it, is computed from them alone
(`Generation.collected`, `Generation.outcomes`, `Generation.inferAll_outcomes`).
-/

namespace QueryTyping

namespace Attempt.Gives

variable {σ α β : Type} {holds : σ → Prop}

/-- Actions that each give something give it in order, up to the first error. -/
theorem mapM_except {action : α → Attempt σ β} {value : α → Except Error β}
    (each : ∀ item, (action item).Gives holds (value item)) (items : List α) :
    (items.mapM action).Gives holds (items.mapM value) := by
  induction items with
  | nil => exact .pure []
  | cons item items ih =>
    have first := each item
    rw [List.mapM_cons, List.mapM_cons]
    rcases result : value item with error | here <;> rw [result] at first
    · exact first.bind_error
    rcases others : items.mapM value with error | later <;> rw [others] at ih
    · exact first.bind ih.bind_error
    · exact first.bind (ih.bind (.pure _))

end Attempt.Gives

/-- In valid states an inference fails only by its query. -/
def Session.FailsByQuery {σ : Type} (session : Session σ) (valid : σ → Prop) : Prop :=
  ∀ query state error, valid state →
    ((Resolving.fresh (inferQuery session query)).run state).1 = .error error → error.IsInference

namespace Generation

variable {results : SourceQuery → Except Error TypedQuery}

/-- The outcome of a file with the results of further queries, in order.  Any error ends it but the
failure of a single query, which may be kept. -/
def collected (keepGoing : Bool) (outcome : FileInference) :
    List (Except Error TypedQuery) → Except Error FileInference
  | [] => .ok outcome
  | .ok typed :: rest =>
    collected keepGoing { outcome with queries := outcome.queries ++ [typed] } rest
  | .error (.failure (.inference failure)) :: rest =>
    if keepGoing then
      collected keepGoing { outcome with failures := outcome.failures ++ [failure] } rest
    else .error (.failure (.inference failure))
  | .error error :: _ => .error error

/-- The outcome of a file by the results of its queries. -/
def fileOutcome (results : SourceQuery → Except Error TypedQuery) (tree : FileTree)
    (keepGoing : Bool) (file : FilePath) : Except Error FileInference := do
  let queries ← tree.readQueries file
  collected keepGoing { queryFile := file } (queries.map results)

/-- A file comes to an outcome only with typed queries and failures that are kept. -/
theorem collected_eq_ok {keepGoing : Bool} {outcome last : FileInference}
    {each : List (Except Error TypedQuery)} (ended : collected keepGoing outcome each = .ok last) :
    last = outcome.collect each ∧
      ∀ result ∈ each, (∃ typed, result = .ok typed) ∨
        keepGoing = true ∧ ∃ failure, result = .error (.failure (.inference failure)) := by
  induction each generalizing outcome with
  | nil =>
    cases ended
    exact ⟨(FileInference.collect_nil _).symm, by simp⟩
  | cons result rest ih =>
    unfold collected at ended
    split at ended
    next => contradiction
    next typed _ same =>
      cases same
      obtain ⟨rfl, others⟩ := ih ended
      rw [FileInference.collect_typed]
      exact ⟨rfl, List.forall_mem_cons.mpr ⟨.inl ⟨typed, rfl⟩, others⟩⟩
    next failure _ same =>
      cases same
      split at ended
      next kept =>
        obtain ⟨rfl, others⟩ := ih ended
        rw [FileInference.collect_failure]
        exact ⟨rfl, List.forall_mem_cons.mpr ⟨.inr ⟨kept, failure, rfl⟩, others⟩⟩
      · cases ended
    next => cases ended

theorem map_ok_filterMap {each : List (Except Error TypedQuery)}
    (typed : ∀ result ∈ each, ∃ query, result = .ok query) :
    (each.filterMap Except.toOption).map Except.ok = each := by
  induction each with
  | nil => rfl
  | cons result rest ih =>
    obtain ⟨⟨query, rfl⟩, others⟩ := List.forall_mem_cons.mp typed
    exact congrArg (Except.ok query :: ·) (ih others)

/-- A file without failures has the typed queries of all its sources, in order. -/
theorem typed_of_collected {keepGoing : Bool} {outcome last : FileInference}
    {each : List (Except Error TypedQuery)} (ended : collected keepGoing outcome each = .ok last)
    (healthy : last.ok = true) :
    outcome.queries.map Except.ok ++ each = last.queries.map Except.ok := by
  obtain ⟨rfl, kinds⟩ := collected_eq_ok ended
  have none : (outcome.failures ++ each.filterMap keptFailure?) = [] := by
    simpa [FileInference.ok, FileInference.collect] using healthy
  have typed : ∀ result ∈ each, ∃ query, result = .ok query := by
    intro result member
    rcases kinds result member with typed | ⟨-, failure, rfl⟩
    · exact typed
    · have kept : failure ∈ each.filterMap keptFailure? := List.mem_filterMap.mpr ⟨_, member, rfl⟩
      rw [(List.append_eq_nil_iff.mp none).2] at kept
      cases kept
  unfold FileInference.collect
  rw [List.map_append, map_ok_filterMap typed]

theorem fileOutcome_eq_ok {tree : FileTree} {keepGoing : Bool} {file : FilePath}
    {last : FileInference} (ended : fileOutcome results tree keepGoing file = .ok last) :
    last.queryFile = file ∧ ∃ sources, tree.readQueries file = .ok sources ∧
      collected keepGoing { queryFile := file } (sources.map results) = .ok last := by
  obtain ⟨sources, read, collects⟩ := (except_bind_eq_ok_iff _ _ _).mp ended
  refine ⟨?_, sources, read, collects⟩
  rw [(collected_eq_ok collects).1]
  rfl

/-- Each file has its outcome, in order. -/
theorem outcomes_eq_ok {tree : FileTree} {keepGoing : Bool} {files : List FilePath}
    {outcomes : List FileInference}
    (ended : files.mapM (fileOutcome results tree keepGoing) = .ok outcomes) :
    outcomes.map FileInference.queryFile = files ∧
      ∀ outcome ∈ outcomes,
        fileOutcome results tree keepGoing outcome.queryFile = .ok outcome := by
  induction files generalizing outcomes with
  | nil =>
    cases ended
    simp
  | cons file files ih =>
    rw [List.mapM_cons] at ended
    obtain ⟨first, here, rest⟩ := (except_bind_eq_ok_iff _ _ _).mp ended
    obtain ⟨others, later, same⟩ := (except_bind_eq_ok_iff _ _ _).mp rest
    cases same
    obtain ⟨names, each⟩ := ih later
    have name := (fileOutcome_eq_ok here).1
    refine ⟨by rw [List.map_cons, name, names], List.forall_mem_cons.mpr ⟨?_, each⟩⟩
    rw [name]
    exact here

section Session

variable {σ : Type} {session : Session σ} {holds : Resolving σ → Prop}
  (gives : ∀ query, (inferQuery session query).Gives holds (results query))

include gives

theorem inferQueries_collected (keepGoing : Bool) (outcome : FileInference)
    (queries : List SourceQuery) :
    (inferQueries session keepGoing outcome queries).Gives holds
      (collected keepGoing outcome (queries.map results)) := by
  induction queries generalizing outcome with
  | nil => exact .pure outcome
  | cons query rest ih =>
    have one := gives query
    rw [List.map_cons]
    -- Only a failure of the query itself may be kept, and the memo that it left is sound.
    rcases result : results query with error | typed <;> rw [result] at one
    · cases error with
      | unforeseen cause => exact .bind_error (.tryCatch_error one.bind_error (.throw _))
      | failure failure =>
        cases failure with
        | inference failure =>
          cases keepGoing with
          | true => exact .bind (.tryCatch_error one.bind_error (.pure _)) (ih _)
          | false => exact .bind_error (.tryCatch_error one.bind_error (.throw _))
        | _ => exact .bind_error (.tryCatch_error one.bind_error (.throw _))
    · exact .bind (.tryCatch_ok (one.bind (.pure _))) (ih _)

theorem inferFile_fileOutcome (tree : FileTree) (keepGoing : Bool) (file : FilePath) :
    (inferFile session tree keepGoing file).Gives holds
      (fileOutcome results tree keepGoing file) := by
  unfold inferFile fileOutcome
  rcases tree.readQueries file with error | queries
  · exact .throw error
  · exact inferQueries_collected gives keepGoing _ queries

end Session

section Fixed

variable {σ : Type} {session : Session σ} {valid : σ → Prop} {answers : CatalogAnswers}

/-- Every query has one result on a session with fixed answers, and so have files. -/
theorem inferAll_outcomes (fixed : session.IsFixed valid answers) :
    ∃ results : SourceQuery → Except Error TypedQuery,
      (∀ query, (Resolving.fresh (inferQuery session query)).Gives valid (results query)) ∧
      ∀ tree keepGoing files, (inferAll session tree keepGoing files).Gives valid
        (files.mapM (fileOutcome results tree keepGoing)) := by
  have definite (query : SourceQuery) :=
    inferQuery_definite answers.failsOnly_any (.inr trivial) query
  obtain ⟨results, all⟩ := Classical.skolem.mp definite
  have gives (query : SourceQuery) := (all query).2 σ session valid fixed
  refine ⟨results, fun query => Resolving.fresh_gives (gives query), fun tree keepGoing files => ?_⟩
  exact Resolving.fresh_gives (.mapM_except (inferFile_fileOutcome gives tree keepGoing) files)

end Fixed

end Generation

end QueryTyping
