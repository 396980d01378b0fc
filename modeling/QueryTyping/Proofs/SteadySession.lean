import QueryTyping.Proofs.FixedAnswers

/-!
# Steady sessions

An action is steady if it gives the same from all states with some property, which
it keeps (`Attempt.Steady`).  A session is steady if its fixed answers are at worst
inference failures, and so is every inference on it if no chain of element types comes
back to itself (`inferQuery_steady`).
-/

namespace QueryTyping

namespace Attempt

variable {σ α : Type} {holds : σ → Prop}

/-- The action always gives the same, and at worst an inference failure. -/
def Steady (holds : σ → Prop) (action : Attempt σ α) : Prop :=
  ∃ result, action.Gives holds result ∧ ∀ error, result = .error error → error.IsInference

/-- What the action gives from one state, it gives from all. -/
theorem Steady.gives_from {action : Attempt σ α} (steady : action.Steady holds) {state : σ}
    (is : holds state) :
    action.Gives holds (action.run state).1 ∧
      ∀ error, (action.run state).1 = .error error → error.IsInference := by
  obtain ⟨result, gives, fails⟩ := steady
  rw [(gives state is).1]
  exact ⟨gives, fails⟩

end Attempt

/-- In valid states the session gives these answers, which are at worst inference failures, and its
states stay valid.  Its catalog has fewer rows than the links that it allows. -/
structure Session.IsSteady {σ : Type} (session : Session σ) (valid : σ → Prop)
    (answers : CatalogAnswers) : Prop where
  describe : ∀ sql, (session.describe sql).Gives valid (answers.describe sql)
  type : ∀ oid, (session.lookupType oid).Gives valid (answers.type oid)
  column : ∀ tableOid number,
    (session.lookupColumn tableOid number).Gives valid (answers.column tableOid number)
  describe_fails : ∀ sql error, answers.describe sql = .error error → error.IsInference
  type_fails : ∀ oid error, answers.type oid = .error error → error.IsInference
  column_fails : ∀ tableOid number error,
    answers.column tableOid number = .error error → error.IsInference
  room : ∀ state, valid state → ∃ oids : List Int, oids.length < session.chainBound state ∧
    ∀ oid row, answers.type oid = .ok (some row) → oid ∈ oids

section Steady

variable {σ : Type} {session : Session σ} {valid : σ → Prop} {answers : CatalogAnswers}

theorem Session.IsSteady.isFixed (steady : session.IsSteady valid answers) :
    session.IsFixed valid answers where
  describe := steady.describe
  type := steady.type
  column := steady.column
  room := steady.room

theorem Session.IsSteady.failsOnly (steady : session.IsSteady valid answers) :
    answers.FailsOnly Error.IsInference where
  describe := steady.describe_fails
  type := steady.type_fails
  column := steady.column_fails
  inference _ is := is

/-- Where no chain comes back to itself, every type denotes something. -/
theorem Session.IsSteady.exists_denotes (steady : session.IsSteady valid answers)
    (acyclic : NoElementCycle answers.type) {start : σ} (started : valid start)
    (query : Option String) (oid : Int) :
    ∃ result, CatalogDenotes answers.type query oid result := by
  obtain ⟨oids, room, listed⟩ := steady.room start started
  exact (chainEnds_of_noElementCycle acyclic listed room oid).exists_denotes

/-- An inference gives the same from every sound memo. -/
theorem inferQuery_steady (steady : session.IsSteady valid answers)
    (acyclic : NoElementCycle answers.type) {start : σ} (started : valid start)
    (query : SourceQuery) :
    (inferQuery session query).Steady (Resolving.Settled valid answers) := by
  obtain ⟨result, fails, gives⟩ := inferQuery_definite steady.failsOnly
    (.inl (steady.exists_denotes acyclic started)) query
  exact ⟨result, gives σ session valid steady.isFixed, fails⟩

end Steady

end QueryTyping
