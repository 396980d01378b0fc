import QueryTyping.Proofs.Resolution

/-!
# Inferring one query

All that an inference can do: it is refused for what the session says of the
statement, or it fails at a type, or it resolves all types and looks for the
catalog's columns (`Infers`).  Every run goes one of these ways
(`inferQuery_infers`).
-/

namespace QueryTyping

variable {σ : Type}

/-- The database names a table column that the result column is read from. -/
def FieldDescription.HasSource (field : FieldDescription) : Prop :=
  field.tableOid ≠ 0 ∧ 0 < field.tableColumn

/-- The catalog column of a result column is found. -/
inductive FindsColumn (session : Session σ) :
    FieldDescription → Resolving σ → List Exchange → Except Error (Option CatalogColumn) →
      Resolving σ → Prop
  | computed {field : FieldDescription} (state : Resolving σ) (sourceless : ¬ field.HasSource) :
    FindsColumn session field state [] (.ok none) state
  | read {field : FieldDescription} {state : Resolving σ} {next : σ}
    {reply : Except Error (Option CatalogColumn)} (source : field.HasSource)
    (asked : (session.lookupColumn field.tableOid field.tableColumn).run state.session =
      (reply, next)) :
    FindsColumn session field state [.column field.tableOid field.tableColumn reply] reply
      ⟨next, state.memo⟩

theorem FindsColumn.talks {session : Session σ} {field : FieldDescription}
    {state last : Resolving σ} {talk : List Exchange}
    {result : Except Error (Option CatalogColumn)}
    (run : FindsColumn session field state talk result last) :
    session.Talks state.session talk last.session := by
  cases run with
  | computed sourceless => exact .nil _
  | read source asked => exact .single asked

open Inference

theorem provenance_finds (session : Session σ) (field : FieldDescription) (state : Resolving σ) :
    ∃ talk, FindsColumn session field state talk ((provenance session field).run state).1
      ((provenance session field).run state).2 := by
  unfold provenance
  split
  next sourceless =>
    have computed : ¬ field.HasSource := by
      unfold FieldDescription.HasSource
      omega
    exact ⟨[], .computed state computed⟩
  next written =>
    have source : field.HasSource := by
      unfold FieldDescription.HasSource
      omega
    exact ⟨_, .read source rfl⟩

/-- The result columns from a position on, given the catalog columns that they are read from. -/
def typedColumns (shape : QueryShape) (index : Nat)
    (fields : List (FieldDescription × TypeDescriptor))
    (sources : List (Option CatalogColumn)) : List OutputColumn :=
  (fields.zip sources).mapIdx fun offset ((field, type), source) =>
    { name := field.name, type, nullable := mayBeNull shape (index + offset : Nat) source }

open Attempt in
theorem outputColumns_finds (session : Session σ) (shape : QueryShape) (index : Nat)
    (fields : List (FieldDescription × TypeDescriptor)) (state : Resolving σ) :
    ∃ talk sources, RunsAll (FindsColumn session) (fields.map Prod.fst) state talk sources
        ((outputColumns session shape index fields).run state).2 ∧
      ((outputColumns session shape index fields).run state).1 =
        sources.map (typedColumns shape index fields) := by
  induction fields generalizing index state with
  | nil => exact ⟨[], .ok [], .nil state, rfl⟩
  | cons pair rest ih =>
    obtain ⟨field, type⟩ := pair
    obtain ⟨talk, first⟩ := provenance_finds session field state
    simp only [outputColumns, run_bind, run_pure]
    rcases ran : (provenance session field).run state with ⟨error | source, next⟩
    · rw [ran] at first
      exact ⟨talk, .error error, .stop first, rfl⟩
    · rw [ran] at first
      obtain ⟨more, sources, others, columns⟩ := ih (index + 1) next
      dsimp only
      rcases later : (outputColumns session shape (index + 1) rest).run next
        with ⟨result, last⟩
      rw [later] at others columns
      refine ⟨talk ++ more, sources.map (source :: ·), ?_⟩
      cases sources with
      | error error =>
        cases columns
        exact ⟨.cons first others, rfl⟩
      | ok sources =>
        cases columns
        refine ⟨.cons first others, ?_⟩
        simp [typedColumns, Except.map, List.mapIdx_cons, Nat.add_assoc, Nat.add_comm 1]

/-- The types that a description needs, in the order in which they are resolved. -/
def StatementDescription.typeOids (description : StatementDescription) : List Int :=
  description.paramOids ++ description.fields.map FieldDescription.typeOid

namespace SourceQuery

/-- What the session says of the statement, a rejection being told of the query. -/
def told (query : SourceQuery) :
    Except Error StatementDescription → Except Error StatementDescription
  | .error (.failure (.inference ⟨.catalog, message, _⟩)) => .error (rejection query.name message)
  | reply => reply

/-- The description that an inference goes on with, if it goes on. -/
def admitted (query : SourceQuery) (reply : Except Error StatementDescription) :
    Except Error StatementDescription := do
  let description ← query.told reply
  checkParams query description
  (checkResultKind query.name query.resultKind description.fields.length).mapError .failure
  return description

/-- The typed query, put together. -/
def typed (query : SourceQuery) (description : StatementDescription)
    (inputTypes outputTypes : List TypeDescriptor) (sources : List (Option CatalogColumn)) :
    TypedQuery where
  name := query.name
  resultKind := query.resultKind
  doc := normalizeDoc query.doc
  preparedSql := query.preparedSql
  inputs := (query.paramNames.zip inputTypes).map fun (name, type) => ⟨name, type⟩
  outputs := typedColumns (QueryShape.ofText query.preparedSql) 0
    (description.fields.zip outputTypes) sources

end SourceQuery

/-- The description has the query's parameters, and has columns if rows are declared. -/
def StatementDescription.Fits (query : SourceQuery) (description : StatementDescription) : Prop :=
  description.paramOids.length = query.paramNames.length ∧
    (query.resultKind ≠ .exec → description.fields ≠ [])

section Admission

variable (query : SourceQuery) (description : StatementDescription)

theorem SourceQuery.told_eq_ok_iff (reply : Except Error StatementDescription) :
    query.told reply = .ok description ↔ reply = .ok description := by
  unfold told
  split
  · exact ⟨fun same => (nomatch same), fun same => (nomatch same)⟩
  · rfl

theorem checkParams_eq_ok_iff :
    checkParams query description = .ok () ↔
      description.paramOids.length = query.paramNames.length := by
  simp only [checkParams]
  split
  next differ => exact ⟨fun same => (nomatch same), fun same => absurd same differ⟩
  next same => exact ⟨fun _ => Decidable.not_not.mp same, fun _ => rfl⟩

theorem checkResultKind_eq_ok_iff (name : String) (kind : ResultKind) (columns : Nat) :
    (checkResultKind name kind columns).mapError Error.failure = .ok () ↔
      (kind ≠ .exec → columns ≠ 0) := by
  unfold checkResultKind
  split
  next rowless =>
    refine ⟨fun same => ?_, fun rows => absurd rowless.2 (rows rowless.1)⟩
    cases same
  next rows => exact ⟨fun _ declared rowless => rows ⟨declared, rowless⟩, fun _ => rfl⟩

/-- An inference goes on exactly with a description that fits. -/
theorem SourceQuery.admitted_eq_ok_iff (reply : Except Error StatementDescription) :
    query.admitted reply = .ok description ↔ reply = .ok description ∧ description.Fits query := by
  have fits : description.Fits query ↔
      description.paramOids.length = query.paramNames.length ∧
        (query.resultKind ≠ .exec → description.fields.length ≠ 0) := by
    simp only [StatementDescription.Fits, ne_eq, List.length_eq_zero_iff]
  rw [fits, ← query.told_eq_ok_iff description reply, ← checkParams_eq_ok_iff,
    ← checkResultKind_eq_ok_iff query.name]
  simp only [admitted, except_bind_eq_ok_iff]
  constructor
  · rintro ⟨heard, told, ⟨⟩, params, ⟨⟩, kind, same⟩
    cases same
    exact ⟨told, params, kind⟩
  · rintro ⟨told, params, kind⟩
    exact ⟨description, told, (), params, (), kind, rfl⟩

end Admission

/-- A query is inferred: described, admitted, its types resolved and its columns found. -/
inductive Infers (session : Session σ) (query : SourceQuery) :
    Resolving σ → List Exchange → Except Error TypedQuery → Resolving σ → Prop
  | refused {state : Resolving σ} {next : σ} {reply : Except Error StatementDescription}
    {error : Error}
    (asked : (session.describe query.preparedSql).run state.session = (reply, next))
    (refusal : query.admitted reply = .error error) :
    Infers session query state [.describe query.preparedSql reply] (.error error)
      ⟨next, state.memo⟩
  | unresolved {state last : Resolving σ} {next : σ} {reply : Except Error StatementDescription}
    {description : StatementDescription} {error : Error} {types : List Exchange}
    (asked : (session.describe query.preparedSql).run state.session = (reply, next))
    (admission : query.admitted reply = .ok description)
    (resolution : RunsAll (ResolvesType session (some query.name)) description.typeOids
      ⟨next, state.memo⟩ types (.error error) last) :
    Infers session query state (.describe query.preparedSql reply :: types) (.error error) last
  | resolved {state middle last : Resolving σ} {next : σ}
    {reply : Except Error StatementDescription} {description : StatementDescription}
    {types columns : List Exchange} {inputTypes outputTypes : List TypeDescriptor}
    {sources : Except Error (List (Option CatalogColumn))}
    (asked : (session.describe query.preparedSql).run state.session = (reply, next))
    (admission : query.admitted reply = .ok description)
    (resolution : RunsAll (ResolvesType session (some query.name)) description.typeOids
      ⟨next, state.memo⟩ types (.ok (inputTypes ++ outputTypes)) middle)
    (params : inputTypes.length = description.paramOids.length)
    (search : RunsAll (FindsColumn session) description.fields middle columns sources last) :
    Infers session query state (.describe query.preparedSql reply :: (types ++ columns))
      (sources.map (query.typed description inputTypes outputTypes)) last

section Run

open Attempt

variable (session : Session σ) (query : SourceQuery)

theorem run_describe (state : Resolving σ) :
    (describe session query).run state =
      (query.told ((session.describe query.preparedSql).run state.session).1,
        ⟨((session.describe query.preparedSql).run state.session).2, state.memo⟩) := by
  unfold describe
  rw [run_tryCatch, Resolving.run_asking]
  rcases (session.describe query.preparedSql).run state.session with ⟨error | description, next⟩
  · dsimp only
    unfold SourceQuery.told
    split
    · rfl
    next other =>
      split
      next same =>
        cases same
        exact absurd rfl (other _ _)
      · rfl
  · rfl

theorem run_liftExcept {α : Type} (result : Except Error α) (state : Resolving σ) :
    (inferQuery.liftExcept result : Attempt (Resolving σ) α).run state = (result, state) := by
  cases result <;> rfl

/-- What follows the checks goes on with the admitted description. -/
theorem run_admission {α : Type} (next : StatementDescription → Attempt (Resolving σ) α)
    (state : Resolving σ) :
    (do
      let description ← describe session query
      inferQuery.liftExcept (checkParams query description)
      inferQuery.liftExcept ((checkResultKind query.name query.resultKind
        description.fields.length).mapError .failure)
      next description : Attempt (Resolving σ) α).run state =
      match query.admitted ((session.describe query.preparedSql).run state.session).1 with
      | .ok description =>
        (next description).run
          ⟨((session.describe query.preparedSql).run state.session).2, state.memo⟩
      | .error error =>
        (.error error,
          ⟨((session.describe query.preparedSql).run state.session).2, state.memo⟩) := by
  simp only [run_bind, run_describe, run_liftExcept, SourceQuery.admitted]
  rcases query.told ((session.describe query.preparedSql).run state.session).1
    with error | description
  · rfl
  simp only [bind, Except.bind]
  rcases checkParams query description with error | ⟨⟩
  · rfl
  rcases (checkResultKind query.name query.resultKind description.fields.length).mapError
    Error.failure with error | ⟨⟩ <;> rfl

theorem inferQuery_infers (state : Resolving σ) :
    ∃ talk, Infers session query state talk ((inferQuery session query).run state).1
      ((inferQuery session query).run state).2 := by
  unfold inferQuery
  rw [run_admission]
  rcases asked : (session.describe query.preparedSql).run state.session with ⟨reply, next⟩
  dsimp only
  rcases admission : query.admitted reply with error | description
  · exact ⟨_, .refused asked admission⟩
  obtain ⟨paramTalk, params⟩ := RunsAll.of_mapM (resolveType_resolves session (some query.name))
    description.paramOids ⟨next, state.memo⟩
  simp only [run_bind]
  rcases ran : (description.paramOids.mapM fun oid => resolveType session oid (some query.name)).run
    ⟨next, state.memo⟩ with ⟨error | inputTypes, between⟩ <;> rw [ran] at params
  · exact ⟨_, .unresolved asked admission (params.append_of_error rfl _)⟩
  obtain ⟨fieldTalk, fields⟩ := RunsAll.of_mapM (resolveType_resolves session (some query.name))
    (description.fields.map FieldDescription.typeOid) between
  simp only [List.mapM_map, Function.comp_def] at fields
  rcases ran : (description.fields.mapM fun field =>
    resolveType session field.typeOid (some query.name)).run between
    with ⟨error | outputTypes, middle⟩ <;> rw [ran] at fields <;> simp only [ran]
  · exact ⟨_, .unresolved asked admission (params.append fields)⟩
  have paramCount := params.length
  have fieldCount : description.fields.length = outputTypes.length := by
    simpa using fields.length.symm
  have named : (description.fields.zip outputTypes).map Prod.fst = description.fields :=
    List.map_fst_zip (Nat.le_of_eq fieldCount)
  obtain ⟨columnTalk, sources, search, outputs⟩ := outputColumns_finds session
    (QueryShape.ofText query.preparedSql) 0 (description.fields.zip outputTypes) middle
  rw [named] at search
  have whole := Infers.resolved asked admission (params.append fields) paramCount search
  rcases ran : (outputColumns session (QueryShape.ofText query.preparedSql) 0
    (description.fields.zip outputTypes)).run middle with ⟨result, last⟩
  rw [ran] at whole outputs
  dsimp only at outputs
  subst outputs
  cases sources <;> exact ⟨_, whole⟩

end Run

theorem Infers.talks {session : Session σ} {query : SourceQuery} {state last : Resolving σ}
    {talk : List Exchange} {result : Except Error TypedQuery}
    (run : Infers session query state talk result last) :
    session.Talks state.session talk last.session := by
  cases run with
  | refused asked refusal => exact .single asked
  | unresolved asked admission resolution =>
    exact .cons asked (resolution.talks Resolves.talks)
  | resolved asked admission resolution params search =>
    exact .cons asked ((resolution.talks Resolves.talks).append (search.talks FindsColumn.talks))

end QueryTyping
