import QueryTyping.Proofs.InferenceRun

/-!
# Failures name their query

A catalog session rejects statements, which is the one inference failure that it
may raise; what keeps it from looking up a type or a column is the fault of no query
(`CatalogSession`).  An inference tells its query of a rejection and of all that it
finds wrong itself, and passes on what the session raises beside that
(`Infers.accounted`).
-/

namespace QueryTyping

variable {σ : Type}

/-- The failure tells the query, and its message begins with it. -/
def InferenceFailure.Names (failure : InferenceFailure) (query : String) : Prop :=
  failure.query = some query ∧
    (query ≠ "" → ∃ rest, failure.message = "query " ++ query ++ rest)

/-- The session answers with an inference failure that is no rejection of a statement. -/
def Exchange.Raises (failure : InferenceFailure) : Exchange → Prop
  | describe _ reply =>
    reply = .error (.failure (.inference failure)) ∧ failure.cause ≠ .catalog
  | type _ reply => reply = .error (.failure (.inference failure))
  | column _ _ reply => reply = .error (.failure (.inference failure))

/-- A session by its contract: the description of a statement may be a rejection, types and columns
are there or not, and no other inference failure comes from it. -/
structure CatalogSession (σ : Type) extends Session σ where
  never_raises : ∀ {exchange : Exchange} {state next : σ} (failure : InferenceFailure),
    exchange.Occurs toSession state next → ¬ exchange.Raises failure

/-- If the error is an inference failure, it names the query. -/
def Error.Names (error : Error) (query : String) : Prop :=
  ∀ failure, error = .failure (.inference failure) → failure.Names query

/-- If the error is an inference failure, it names the query, or the session raised it. -/
def Error.Accounted (error : Error) (query : String) (talk : List Exchange) : Prop :=
  ∀ failure, error = .failure (.inference failure) →
    failure.Names query ∨ ∃ exchange ∈ talk, exchange.Raises failure

namespace Error

variable {error : Error} {query : String} {talk more : List Exchange}

theorem Names.accounted (names : error.Names query) (talk : List Exchange) :
    error.Accounted query talk :=
  fun failure same => .inl (names failure same)

theorem Accounted.mono (accounted : error.Accounted query talk) (part : talk ⊆ more) :
    error.Accounted query more := by
  intro failure same
  rcases accounted failure same with names | ⟨exchange, member, raises⟩
  · exact .inl names
  · exact .inr ⟨exchange, part member, raises⟩

end Error

section Checks

open Inference

variable (query : SourceQuery)

theorem rejection_names (name message : String) : (rejection name message).Names name := by
  rintro failure ⟨⟩
  refine ⟨rfl, fun _ => ⟨": " ++ message, ?_⟩⟩
  simp only [String.append_assoc]

theorem unknownType_names (oid : Int) (name : String) :
    (Error.failure (.unknownType oid (some name))).Names name := by
  rintro failure ⟨⟩
  refine ⟨rfl, fun named => ⟨": " ++ ("unknown type oid " ++ toString oid), ?_⟩⟩
  have kept : (some name).filter (!·.isEmpty) = some name := by simp [Option.filter, named]
  simp only [kept, String.append_assoc]

theorem checkParams_names {description : StatementDescription} {error : Error}
    (failed : checkParams query description = .error error) : error.Names query.name := by
  simp only [checkParams] at failed
  split at failed
  · cases failed
    exact rejection_names _ _
  · cases failed

theorem checkResultKind_names {name : String} {kind : ResultKind} {columns : Nat} {error : Error}
    (failed : (checkResultKind name kind columns).mapError .failure = .error error) :
    error.Names name := by
  unfold checkResultKind at failed
  split at failed
  · cases failed
    rintro failure ⟨⟩
    refine ⟨rfl, fun _ => ⟨" has incompatible result kind " ++ (kind.text ++
      "; the query doesn't return any rows; use :exec if query shouldn't return rows"), ?_⟩⟩
    simp only [String.append_assoc]
  · cases failed

theorem SourceQuery.told_accounted {reply : Except Error StatementDescription} {error : Error}
    (failed : query.told reply = .error error) :
    error.Accounted query.name [.describe query.preparedSql reply] := by
  unfold told at failed
  split at failed
  · cases failed
    exact (rejection_names _ _).accounted _
  next other =>
    subst failed
    rintro ⟨cause, message, asker⟩ rfl
    refine .inr ⟨_, List.mem_singleton_self _, rfl, ?_⟩
    rintro rfl
    exact other message asker rfl

/-- Whatever an inference is refused for, the failure names the query, or the session raised it. -/
theorem SourceQuery.refusal_accounted {reply : Except Error StatementDescription} {error : Error}
    (refusal : query.admitted reply = .error error) :
    error.Accounted query.name [.describe query.preparedSql reply] := by
  simp only [admitted, except_bind_eq_error_iff] at refusal
  rcases refusal with told | ⟨description, -, params | ⟨_, -, kind | ⟨_, -, none⟩⟩⟩
  · exact query.told_accounted told
  · exact (checkParams_names query params).accounted _
  · exact (checkResultKind_names kind).accounted _
  · cases none

end Checks

section Run

variable {session : Session σ} {state last : Resolving σ} {talk : List Exchange} {error : Error}

theorem Resolves.accounted {name : String} {links : Nat} {oid : Int}
    {result : Except Error TypeDescriptor}
    (run : Resolves session (some name) links oid state talk result last)
    (failed : result = .error error) : error.Accounted name talk := by
  induction run with
  | endless =>
    cases failed
    rintro failure ⟨⟩
  | memoized => cases failed
  | builtin => cases failed
  | failed =>
    cases failed
    rintro failure rfl
    exact .inr ⟨_, List.mem_singleton_self _, rfl⟩
  | absent =>
    cases failed
    exact (unknownType_names _ name).accounted _
  | plain => cases failed
  | array => cases failed
  | broken _ _ _ _ ih => exact (ih failed).mono (List.subset_cons_self _ _)

theorem FindsColumn.accounted {field : FieldDescription}
    {result : Except Error (Option CatalogColumn)}
    (run : FindsColumn session field state talk result last) (failed : result = .error error)
    (name : String) : error.Accounted name talk := by
  cases run with
  | computed => cases failed
  | read =>
    subst failed
    rintro failure rfl
    exact .inr ⟨_, List.mem_singleton_self _, rfl⟩

theorem RunsAll.accounted {α β S : Type} {name : String}
    {step : α → S → List Exchange → Except Error β → S → Prop}
    (each : ∀ {item state talk next}, step item state talk (.error error) next →
      error.Accounted name talk)
    {items : List α} {state last : S} {talk : List Exchange}
    (runs : RunsAll step items state talk (.error error : Except Error (List β)) last) :
    error.Accounted name talk := by
  obtain ⟨item, before, between, more, failed, rfl⟩ := runs.exists_failed
  exact (each failed).mono (List.subset_append_right _ _)

/-- An inference failure names the query at whatever point it comes, or the session raised it. -/
theorem Infers.accounted {query : SourceQuery} {result : Except Error TypedQuery}
    (run : Infers session query state talk result last) (failed : result = .error error) :
    error.Accounted query.name talk := by
  cases run with
  | refused asked refusal =>
    cases failed
    exact query.refusal_accounted refusal
  | unresolved asked admission resolution =>
    cases failed
    exact (resolution.accounted fun first => Resolves.accounted first rfl).mono
      (List.subset_cons_self _ _)
  | @resolved _ _ _ _ _ _ _ _ _ sources asked admission resolution params search =>
    cases sources with
    | ok => cases failed
    | error =>
      cases failed
      exact (search.accounted fun first => first.accounted rfl _).mono
        (List.subset_cons_of_subset _ (List.subset_append_right _ _))

end Run

end QueryTyping
