import QueryTyping.Proofs.Denotation
import QueryTyping.Proofs.InferenceRun

/-!
# Typed queries match their descriptions

Parameters, result types, catalog columns and nullability are found in separate
passes.  The typed query puts them together position by position, as the
description has them (`TypedQuery.Matches`).  Without a typed query there is an
error, and a reason for it (`Obstructed`).
-/

namespace QueryTyping

variable {σ : Type}

/-- A resolver has this type for the identifier at last, and the identifier denotes it by what the
memo gave before and what the session said since. -/
def Resolving.HasResolved (before after : Resolving σ) (query : Option String)
    (talk : List Exchange) (oid : Int) (type : TypeDescriptor) : Prop :=
  after.memo.find? oid = some type ∧
    Denotes before.memo.Gives (fun other reply => .type other reply ∈ talk) query oid (.ok type)

/-- The catalog columns of result columns, as the session tells them: one is asked about only if
the database names it. -/
inductive ReadColumns :
    List FieldDescription → List Exchange → List (Option CatalogColumn) → Prop
  | nil : ReadColumns [] [] []
  | computed {field : FieldDescription} {fields : List FieldDescription} {talk : List Exchange}
    {sources : List (Option CatalogColumn)} (sourceless : ¬ field.HasSource)
    (others : ReadColumns fields talk sources) :
    ReadColumns (field :: fields) talk (none :: sources)
  | read {field : FieldDescription} {fields : List FieldDescription} {talk : List Exchange}
    {sources : List (Option CatalogColumn)} (source : field.HasSource)
    (row : Option CatalogColumn) (others : ReadColumns fields talk sources) :
    ReadColumns (field :: fields)
      (.column field.tableOid field.tableColumn (.ok row) :: talk) (row :: sources)

/-- The typed query is that of the source query, with what the description says at each place. -/
structure TypedQuery.Matches (typed : TypedQuery) (query : SourceQuery)
    (description : StatementDescription) (resolved : Int → TypeDescriptor → Prop)
    (sources : List (Option CatalogColumn)) : Prop where
  name : typed.name = query.name
  resultKind : typed.resultKind = query.resultKind
  preparedSql : typed.preparedSql = query.preparedSql
  doc : typed.doc = normalizeDoc query.doc
  params : query.paramNames.length = description.paramOids.length
  inputs : typed.inputs.length = query.paramNames.length
  input : ∀ (place : Nat) (param : InputParam), typed.inputs[place]? = some param →
    query.paramNames[place]? = some param.name ∧
      ∃ oid, description.paramOids[place]? = some oid ∧ resolved oid param.type
  outputs : typed.outputs.length = description.fields.length
  output : ∀ (place : Nat) (column : OutputColumn), typed.outputs[place]? = some column →
    ∃ field source, description.fields[place]? = some field ∧ sources[place]? = some source ∧
      column.name = field.name ∧ resolved field.typeOid column.type ∧
      column.nullable = mayBeNull (QueryShape.ofText query.preparedSql) place source
  rows : query.resultKind ≠ .exec → typed.outputs ≠ []

/-- An answer that no inference goes on from. -/
def Exchange.Hinders (query : SourceQuery) : Exchange → Prop
  | describe _ reply => ∀ description, reply = .ok description → ¬ description.Fits query
  | type _ reply => ∀ row, reply ≠ .ok (some row)
  | column _ _ reply => ∀ row, reply ≠ .ok row

/-- A conversation came to an answer that hinders, or to a chain of elements without end. -/
def Obstructed (query : SourceQuery) (talk : List Exchange) (error : Error) : Prop :=
  error = .unforeseen .endlessType ∨
    ∃ exchange, talk.getLast? = some exchange ∧ exchange.Hinders query

section Obstacles

variable {session : Session σ} {query : SourceQuery} {error : Error}

theorem Obstructed.single {exchange : Exchange} (hinders : exchange.Hinders query) :
    Obstructed query [exchange] error :=
  .inr ⟨exchange, rfl, hinders⟩

theorem Obstructed.append {more : List Exchange} (stopped : Obstructed query more error)
    (talk : List Exchange) : Obstructed query (talk ++ more) error := by
  rcases stopped with endless | ⟨exchange, last, hinders⟩
  · exact .inl endless
  · exact .inr ⟨exchange, by rw [List.getLast?_append, last, Option.some_or], hinders⟩

theorem Resolves.obstructed {asker : Option String} {links : Nat} {oid : Int}
    {state last : Resolving σ} {talk : List Exchange} {result : Except Error TypeDescriptor}
    (run : Resolves session asker links oid state talk result last)
    (failed : result = .error error) : Obstructed query talk error := by
  induction run with
  | endless =>
    cases failed
    exact .inl rfl
  | memoized => cases failed
  | builtin => cases failed
  | failed => exact .single fun row same => nomatch same
  | absent => exact .single fun row same => nomatch same
  | plain => cases failed
  | array => cases failed
  | broken _ _ _ _ ih => exact (ih failed).append [_]

theorem FindsColumn.obstructed {field : FieldDescription} {state last : Resolving σ}
    {talk : List Exchange} {result : Except Error (Option CatalogColumn)}
    (run : FindsColumn session field state talk result last) (failed : result = .error error) :
    Obstructed query talk error := by
  cases run with
  | computed => cases failed
  | read source asked =>
    subst failed
    exact .single fun row same => nomatch same

theorem RunsAll.obstructed {α β S : Type}
    {step : α → S → List Exchange → Except Error β → S → Prop}
    (each : ∀ {item state talk next}, step item state talk (.error error) next →
      Obstructed query talk error)
    {items : List α} {state last : S} {talk : List Exchange}
    (runs : RunsAll step items state talk (.error error : Except Error (List β)) last) :
    Obstructed query talk error := by
  obtain ⟨item, before, between, more, failed, rfl⟩ := runs.exists_failed
  exact (each failed).append before

theorem Infers.obstructed {state last : Resolving σ} {talk : List Exchange}
    {result : Except Error TypedQuery} (run : Infers session query state talk result last)
    (failed : result = .error error) : Obstructed query talk error := by
  cases run with
  | refused asked refusal =>
    refine .single fun description same fits => ?_
    have admission := (query.admitted_eq_ok_iff description _).mpr ⟨same, fits⟩
    rw [refusal] at admission
    cases admission
  | unresolved asked admission resolution =>
    cases failed
    exact (resolution.obstructed fun first => Resolves.obstructed first rfl).append [_]
  | @resolved _ _ _ _ _ _ _ _ _ sources _ _ _ _ search =>
    cases sources with
    | ok => cases failed
    | error =>
      cases failed
      exact ((search.obstructed fun first => first.obstructed rfl).append _).append [_]

end Obstacles

section Types

variable {session : Session σ} {query : Option String} {oids : List Int}
  {state last : Resolving σ} {talk : List Exchange}

/-- After a sequence of resolutions the memo has the type of every place. -/
theorem RunsAll.type_at {types : List TypeDescriptor}
    (runs : RunsAll (ResolvesType session query) oids state talk (.ok types) last) {place : Nat}
    {type : TypeDescriptor} (here : types[place]? = some type) :
    ∃ oid, oids[place]? = some oid ∧ last.memo.find? oid = some type := by
  induction runs using RunsAll.ok_induction generalizing place with
  | nil => cases here
  | @cons oid _ _ _ _ _ _ _ _ run others ih =>
    cases place with
    | zero =>
      cases here
      have kept := others.preserves (fun state => state.memo.find? oid = some type)
        (fun run found => Resolves.keeps run found) (Resolves.remembers run rfl)
      exact ⟨oid, rfl, kept⟩
    | succ place => exact ih here

/-- What a sequence of resolutions adds to the memo is what the identifiers denote. -/
theorem RunsAll.memo_denotes {result : Except Error (List TypeDescriptor)}
    (runs : RunsAll (ResolvesType session query) oids state talk result last) {oid : Int}
    {type : TypeDescriptor} (found : last.memo.find? oid = some type) :
    Denotes state.memo.Gives (fun other reply => .type other reply ∈ talk) query oid
      (.ok type) := by
  induction runs with
  | nil => exact .given (.inl found)
  | cons first _ ih =>
    refine (ih found).lift (fun other entry given => ?_)
      fun other reply member => List.mem_append_right _ member
    rcases given with found | known
    · exact Resolves.memo_denotes first (fun _ _ member => List.mem_append_left _ member) found
    · exact .given (.inr known)
  | stop first => exact Resolves.memo_denotes first (fun _ _ member => member) found

end Types

section Columns

variable {session : Session σ} {fields : List FieldDescription} {state last : Resolving σ}
  {talk : List Exchange}

theorem RunsAll.columns_memo {result : Except Error (List (Option CatalogColumn))}
    (runs : RunsAll (FindsColumn session) fields state talk result last) :
    last.memo = state.memo :=
  runs.preserves (fun later => later.memo = state.memo)
    (fun first same => by cases first <;> exact same) rfl

theorem RunsAll.readColumns {sources : List (Option CatalogColumn)}
    (runs : RunsAll (FindsColumn session) fields state talk (.ok sources) last) :
    ReadColumns fields talk sources := by
  induction runs using RunsAll.ok_induction with
  | nil => exact .nil
  | cons first _ ih =>
    cases first with
    | computed sourceless => exact .computed sourceless ih
    | read source => exact .read source _ ih

end Columns

/-- The typed query has at each place what the description, the resolutions and the columns have
there. -/
theorem SourceQuery.typed_matches {query : SourceQuery} {description : StatementDescription}
    {resolved : Int → TypeDescriptor → Prop} {inputTypes outputTypes : List TypeDescriptor}
    {sources : List (Option CatalogColumn)} (fits : description.Fits query)
    (inputCount : inputTypes.length = description.paramOids.length)
    (outputCount : outputTypes.length = description.fields.length)
    (sourceCount : sources.length = description.fields.length)
    (types : ∀ (place : Nat) (type : TypeDescriptor),
      (inputTypes ++ outputTypes)[place]? = some type →
        ∃ oid, description.typeOids[place]? = some oid ∧ resolved oid type) :
    (query.typed description inputTypes outputTypes sources).Matches query description resolved
      sources where
  name := rfl
  resultKind := rfl
  preparedSql := rfl
  doc := rfl
  params := fits.1.symm
  inputs := by simp [typed, inputCount, fits.1]
  input place param here := by
    simp only [typed, List.getElem?_map, Option.map_eq_some_iff, List.getElem?_zip_eq_some,
      Prod.exists] at here
    obtain ⟨name, type, ⟨named, typed⟩, rfl⟩ := here
    have within : place < inputTypes.length := (List.getElem?_eq_some_iff.mp typed).1
    obtain ⟨oid, asked, is⟩ := types place type (by rwa [List.getElem?_append_left within])
    rw [StatementDescription.typeOids, List.getElem?_append_left (inputCount ▸ within)] at asked
    exact ⟨named, oid, asked, is⟩
  outputs := by simp [typed, typedColumns, outputCount, sourceCount]
  output place column here := by
    simp only [typed, typedColumns, List.getElem?_mapIdx, Option.map_eq_some_iff,
      List.getElem?_zip_eq_some, Prod.exists] at here
    obtain ⟨field, type, source, ⟨⟨described, typed⟩, told⟩, rfl⟩ := here
    -- The types of result columns come behind those of parameters.
    have later : inputTypes.length ≤ inputTypes.length + place := Nat.le_add_right _ _
    obtain ⟨oid, asked, is⟩ := types (inputTypes.length + place) type
      (by rwa [List.getElem?_append_right later, Nat.add_sub_cancel_left])
    rw [StatementDescription.typeOids, inputCount,
      List.getElem?_append_right (Nat.le_add_right _ _), Nat.add_sub_cancel_left,
      List.getElem?_map, described] at asked
    cases asked
    exact ⟨field, source, described, told, rfl, is, by rw [Nat.zero_add]⟩
  rows declared none := by
    have empty : description.fields.length = 0 := by
      have same := congrArg List.length none
      simpa [typed, typedColumns, outputCount, sourceCount] using same
    exact fits.2 declared (List.length_eq_zero_iff.mp empty)

/-- What an inference returns: a typed query that matches the description, or nothing but an error
that has a reason. -/
theorem Infers.matches_or_obstructed {session : Session σ} {query : SourceQuery}
    {state last : Resolving σ} {talk : List Exchange} {result : Except Error TypedQuery}
    (run : Infers session query state talk result last) :
    (∃ typed description types columns sources,
      result = .ok typed ∧
        talk = .describe query.preparedSql (.ok description) :: (types ++ columns) ∧
        ReadColumns description.fields columns sources ∧
        typed.Matches query description
          (Resolving.HasResolved state last (some query.name) talk) sources) ∨
      ∃ error, result = .error error ∧ Obstructed query talk error := by
  rcases outcome : result with error | typed
  · exact .inr ⟨error, rfl, run.obstructed outcome⟩
  refine .inl ?_
  cases run with
  | refused => cases outcome
  | unresolved => cases outcome
  | @resolved middle _ _ reply description types columns inputTypes outputTypes found asked
      admission resolution params search =>
    rcases found with error | sources
    · cases outcome
    cases outcome
    obtain ⟨rfl, fits⟩ := (query.admitted_eq_ok_iff description reply).mp admission
    have count := resolution.length
    simp only [List.length_append, StatementDescription.typeOids, List.length_map, params] at count
    refine ⟨_, description, types, columns, sources, rfl, rfl, search.readColumns,
      SourceQuery.typed_matches fits params (Nat.add_left_cancel count) search.length ?_⟩
    intro place type here
    obtain ⟨oid, described, remembered⟩ := resolution.type_at here
    refine ⟨oid, described, search.columns_memo ▸ remembered, ?_⟩
    refine (resolution.memo_denotes remembered).lift (fun _ _ given => .given given) ?_
    exact fun _ _ member => List.mem_cons_of_mem _ (List.mem_append_left _ member)

/-- For every session and query an inference returns a typed query that matches the description of
the statement in every place, or there is an error, and nothing else. -/
theorem inferQuery_matches_description (session : Session σ) (query : SourceQuery)
    (state : Resolving σ) :
    ∃ talk, session.Talks state.session talk ((inferQuery session query).run state).2.session ∧
      ((∃ typed description types columns sources,
        ((inferQuery session query).run state).1 = .ok typed ∧
          talk = .describe query.preparedSql (.ok description) :: (types ++ columns) ∧
          ReadColumns description.fields columns sources ∧
          typed.Matches query description
            (Resolving.HasResolved state ((inferQuery session query).run state).2
              (some query.name) talk) sources) ∨
        ∃ error, ((inferQuery session query).run state).1 = .error error ∧
          Obstructed query talk error) := by
  obtain ⟨talk, run⟩ := inferQuery_infers session query state
  exact ⟨talk, run.talks, run.matches_or_obstructed⟩

end QueryTyping
