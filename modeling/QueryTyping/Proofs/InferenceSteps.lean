import QueryTyping.Generation
import QueryTyping.Proofs.SteadySession

/-!
# The steps that inferences are made of

An inference asks its session, and does the rest by itself: it knows types, builds
results and finds faults of the query (`Attempt.StaysAlone`).  A property of these
steps that sequences keep, and the recovery from the failure of a query, is one of
every inference and of all queries of a file (`StepProperty.inferQueries`).
-/

namespace QueryTyping

open Attempt

variable {σ α : Type}

/-- The action leaves the session alone.  What it fails with is a failure of the query, or an
endless chain of types. -/
def Attempt.StaysAlone (action : Attempt (Resolving σ) α) : Prop :=
  ∀ state, (action.run state).2.session = state.session ∧
    ∀ error, (action.run state).1 = .error error →
      error.IsInference ∨ error = .unforeseen .endlessType

namespace Attempt.StaysAlone

theorem of_ok {action : Attempt (Resolving σ) α}
    (ok : ∀ state, ∃ value memo, action.run state = (.ok value, ⟨state.session, memo⟩)) :
    StaysAlone action := by
  intro state
  obtain ⟨value, memo, ran⟩ := ok state
  rw [ran]
  exact ⟨rfl, fun _ failed => nomatch failed⟩

theorem pure (value : α) : StaysAlone (Pure.pure value : Attempt (Resolving σ) α) :=
  .of_ok fun state => ⟨value, state.memo, rfl⟩

theorem throw {error : Error} (fault : error.IsInference ∨ error = .unforeseen .endlessType) :
    StaysAlone (MonadExcept.throw error : Attempt (Resolving σ) α) := by
  intro state
  refine ⟨rfl, ?_⟩
  rintro _ ⟨⟩
  exact fault

end Attempt.StaysAlone

/-- A property of all steps that an inference is made of, kept by the ways of putting them
together. -/
structure StepProperty (session : Session σ)
    (holds : ∀ {α : Type}, Attempt (Resolving σ) α → Prop) : Prop where
  describe : ∀ sql, holds (Resolving.asking (session.describe sql))
  lookupType : ∀ oid, holds (Resolving.asking (session.lookupType oid))
  lookupColumn : ∀ table number, holds (Resolving.asking (session.lookupColumn table number))
  alone : ∀ {α : Type} {action : Attempt (Resolving σ) α}, action.StaysAlone → holds action
  bind : ∀ {α β : Type} {first : Attempt (Resolving σ) α} {next : α → Attempt (Resolving σ) β},
    holds first → (∀ value, holds (next value)) → holds (first >>= next)
  /-- Only the failure of a single query is handled in any way. -/
  recover : ∀ {α : Type} {body : Attempt (Resolving σ) α}
    {handler : Error → Attempt (Resolving σ) α}, holds body →
    (∀ error, error.IsInference → holds (handler error)) →
    (∀ error, ¬ error.IsInference → handler error = throw error) → holds (tryCatch body handler)

namespace StepProperty

open Inference Generation

variable {session : Session σ} {holds : ∀ {α : Type}, Attempt (Resolving σ) α → Prop}
  (steps : StepProperty session holds)

include steps

theorem pure (value : α) : holds (Pure.pure value : Attempt (Resolving σ) α) :=
  steps.alone (.pure value)

theorem mapM {β : Type} {action : α → Attempt (Resolving σ) β} (each : ∀ item, holds (action item))
    (items : List α) : holds (items.mapM action) := by
  induction items with
  | nil => exact steps.pure []
  | cons item items ih =>
    rw [List.mapM_cons]
    exact steps.bind (each item) fun _ => steps.bind ih fun _ => steps.pure _

theorem get : holds (MonadState.get : Attempt (Resolving σ) (Resolving σ)) :=
  steps.alone (.of_ok fun state => ⟨state, state.memo, rfl⟩)

theorem remember (oid : Int) (type : TypeDescriptor) : holds (do
    Resolving.remember oid type
    return type : Attempt (Resolving σ) TypeDescriptor) :=
  steps.alone (.of_ok fun state => ⟨type, state.memo.insert oid type, rfl⟩)

theorem resolveWithin (query : Option String) (links : Nat) (oid : Int) :
    holds (QueryTyping.resolveWithin session query links oid) := by
  induction links generalizing oid with
  | zero => exact steps.alone (.throw (.inr rfl))
  | succ links ih =>
    have kept := steps.remember oid
    unfold QueryTyping.resolveWithin
    refine steps.bind steps.get fun state => ?_
    split
    · exact steps.pure _
    split
    · exact steps.bind (steps.pure _) kept
    refine steps.bind (steps.lookupType oid) fun row => ?_
    cases row with
    | none => exact steps.bind (steps.alone (.throw (.inl ⟨_, rfl⟩))) kept
    | some row =>
      dsimp only
      split
      · exact steps.bind (ih row.elemOid) fun _ => steps.bind (steps.pure _) kept
      · exact steps.bind (steps.pure _) kept

theorem resolveType (oid : Int) (query : Option String) :
    holds (QueryTyping.resolveType session oid query) :=
  steps.bind steps.get fun _ => steps.resolveWithin query _ oid

theorem provenance (field : FieldDescription) : holds (Inference.provenance session field) := by
  unfold Inference.provenance
  split
  · exact steps.pure none
  · exact steps.lookupColumn _ _

theorem outputColumns (shape : QueryShape) (index : Nat)
    (fields : List (FieldDescription × TypeDescriptor)) :
    holds (Inference.outputColumns session shape index fields) := by
  induction fields generalizing index with
  | nil => exact steps.pure []
  | cons pair rest ih =>
    refine steps.bind (steps.provenance pair.1) fun source => ?_
    exact steps.bind (ih (index + 1)) fun _ => steps.pure _

theorem described (query : SourceQuery) : holds (Inference.describe session query) := by
  refine steps.recover (steps.describe _) ?_ ?_
  · rintro _ ⟨failure, rfl⟩
    split
    · exact steps.alone (.throw (.inl ⟨_, rfl⟩))
    · exact steps.alone (.throw (.inl ⟨_, rfl⟩))
  · intro error foreign
    split
    · exact absurd ⟨_, rfl⟩ foreign
    · rfl

theorem checked {result : Except Error α}
    (fault : ∀ error, result = .error error → error.IsInference) :
    holds (inferQuery.liftExcept result : Attempt (Resolving σ) α) := by
  cases result with
  | ok value => exact steps.pure value
  | error error => exact steps.alone (.throw (.inl (fault error rfl)))

theorem inferQuery (query : SourceQuery) : holds (QueryTyping.inferQuery session query) := by
  refine steps.bind (steps.described query) fun description => ?_
  refine steps.bind (steps.checked fun _ => checkParams_isInference) fun _ => ?_
  refine steps.bind (steps.checked fun _ => checkResultKind_isInference) fun _ => ?_
  have resolved (oid : Int) := steps.resolveType oid (some query.name)
  refine steps.bind (steps.mapM resolved _) fun _ => ?_
  refine steps.bind (steps.mapM (fun field => resolved field.typeOid) description.fields)
    fun _ => ?_
  exact steps.bind (steps.outputColumns _ _ _) fun _ => steps.pure _

/-- A step property is one of all queries of a file, whether failures are kept or not. -/
theorem inferQueries (keepGoing : Bool) (outcome : FileInference) (queries : List SourceQuery) :
    holds (Generation.inferQueries session keepGoing outcome queries) := by
  induction queries generalizing outcome with
  | nil => exact steps.pure outcome
  | cons query rest ih =>
    refine steps.bind (steps.recover ?_ ?_ ?_) ih
    · exact steps.bind (steps.inferQuery query) fun _ => steps.pure _
    · rintro _ ⟨failure, rfl⟩
      cases keepGoing
      · exact steps.alone (.throw (.inl ⟨_, rfl⟩))
      · exact steps.pure _
    · intro error foreign
      split
      · exact absurd ⟨_, rfl⟩ foreign
      · rfl

end StepProperty

end QueryTyping
