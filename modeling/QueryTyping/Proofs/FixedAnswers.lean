import QueryTyping.Proofs.Denotation
import QueryTyping.Proofs.InferenceRun

/-!
# Fixed answers

A session has fixed answers if they are a matter of what it is asked
(`Session.IsFixed`).  Then what an inference gives is a matter of the answers alone
(`inferQuery_definite`): it is the same with every session that gives these answers,
whatever earlier inferences left in the memo, failed ones too.  Where a chain of
element types comes back to itself, every inference that needs it runs endlessly.
-/

namespace QueryTyping

/-- The error is the failure of a single query. -/
def Error.IsInference (error : Error) : Prop :=
  ∃ failure, error = .failure (.inference failure)

section Checks

open Inference

theorem checkParams_isInference {query : SourceQuery} {description : StatementDescription}
    {error : Error} (failed : checkParams query description = .error error) :
    error.IsInference := by
  simp only [checkParams] at failed
  split at failed
  · cases failed
    exact ⟨_, rfl⟩
  · cases failed

theorem checkResultKind_isInference {name : String} {kind : ResultKind} {columns : Nat}
    {error : Error}
    (failed : (checkResultKind name kind columns).mapError .failure = .error error) :
    error.IsInference := by
  unfold checkResultKind at failed
  split at failed
  · cases failed
    exact ⟨_, rfl⟩
  · cases failed

end Checks

namespace Attempt

variable {σ α β : Type}

/-- From every state for which `holds` is true the action gives this, and it stays true. -/
def Gives (holds : σ → Prop) (action : Attempt σ α) (result : Except Error α) : Prop :=
  ∀ state, holds state → (action.run state).1 = result ∧ holds (action.run state).2

variable {holds : σ → Prop}

namespace Gives

theorem run {action : Attempt σ α} {result : Except Error α} (gives : action.Gives holds result)
    {state : σ} (is : holds state) :
    ∃ after, ExceptT.run action state = (result, after) ∧ holds after :=
  ⟨_, Prod.ext (gives state is).1 rfl, (gives state is).2⟩

theorem pure (value : α) : Gives holds (Pure.pure value) (.ok value) :=
  fun _ is => ⟨rfl, is⟩

theorem throw (error : Error) : Gives holds (throw error : Attempt σ α) (.error error) :=
  fun _ is => ⟨rfl, is⟩

theorem bind {first : Attempt σ α} {next : α → Attempt σ β} {value : α} {result : Except Error β}
    (one : first.Gives holds (.ok value)) (other : (next value).Gives holds result) :
    (first >>= next).Gives holds result := by
  intro state is
  obtain ⟨after, ran, kept⟩ := one.run is
  rw [run_bind, ran]
  exact other after kept

theorem bind_error {first : Attempt σ α} {next : α → Attempt σ β} {error : Error}
    (one : first.Gives holds (.error error)) : (first >>= next).Gives holds (.error error) := by
  intro state is
  obtain ⟨after, ran, kept⟩ := one.run is
  rw [run_bind, ran]
  exact ⟨rfl, kept⟩

theorem tryCatch_error {body : Attempt σ α} {handler : Error → Attempt σ α} {error : Error}
    {result : Except Error α} (one : body.Gives holds (.error error))
    (other : (handler error).Gives holds result) :
    Gives holds (tryCatch body handler) result := by
  intro state is
  obtain ⟨after, ran, kept⟩ := one.run is
  rw [run_tryCatch, ran]
  exact other after kept

theorem tryCatch_ok {body : Attempt σ α} {handler : Error → Attempt σ α} {value : α}
    (one : body.Gives holds (.ok value)) : Gives holds (tryCatch body handler) (.ok value) := by
  intro state is
  obtain ⟨after, ran, kept⟩ := one.run is
  rw [run_tryCatch, ran]
  exact ⟨rfl, kept⟩

theorem mapM {action : α → Attempt σ β} {value : α → β} {items : List α}
    (each : ∀ item ∈ items, (action item).Gives holds (.ok (value item))) :
    (items.mapM action).Gives holds (.ok (items.map value)) := by
  induction items with
  | nil => exact .pure []
  | cons item items ih =>
    rw [List.mapM_cons]
    obtain ⟨first, others⟩ := List.forall_mem_cons.mp each
    exact first.bind ((ih others).bind (.pure _))

end Gives

end Attempt

/-- What a session answers, whenever it is asked. -/
structure CatalogAnswers where
  describe : String → Except Error StatementDescription
  type : Int → Except Error (Option CatalogType)
  column : Int → Int → Except Error (Option CatalogColumn)

/-- In valid states the session gives these answers, and its states stay valid.  Its catalog has
fewer rows than the links that it allows. -/
structure Session.IsFixed {σ : Type} (session : Session σ) (valid : σ → Prop)
    (answers : CatalogAnswers) : Prop where
  describe : ∀ sql, (session.describe sql).Gives valid (answers.describe sql)
  type : ∀ oid, (session.lookupType oid).Gives valid (answers.type oid)
  column : ∀ tableOid number,
    (session.lookupColumn tableOid number).Gives valid (answers.column tableOid number)
  room : ∀ state, valid state → ∃ oids : List Int, oids.length < session.chainBound state ∧
    ∀ oid row, answers.type oid = .ok (some row) → oid ∈ oids

/-- An inference on these answers meets allowed errors only, unless a type runs endlessly. -/
structure CatalogAnswers.FailsOnly (answers : CatalogAnswers) (allowed : Error → Prop) : Prop where
  describe : ∀ sql error, answers.describe sql = .error error → allowed error
  type : ∀ oid error, answers.type oid = .error error → allowed error
  column : ∀ tableOid number error, answers.column tableOid number = .error error → allowed error
  /-- The query is at fault. -/
  inference : ∀ error, error.IsInference → allowed error

theorem CatalogAnswers.failsOnly_any (answers : CatalogAnswers) :
    answers.FailsOnly fun _ => True where
  describe _ _ _ := trivial
  type _ _ _ := trivial
  column _ _ _ _ := trivial
  inference _ _ := trivial

/-- The rows that resolving comes to: built-in types are never looked up. -/
def CatalogAnswers.rows (answers : CatalogAnswers) (oid : Int) :
    Except Error (Option CatalogType) :=
  if (TypeDescriptor.builtin? oid).isSome then .ok none else answers.type oid

section Chains

variable {answers : CatalogAnswers} {query : Option String} {oid : Int}

theorem CatalogAnswers.rows_of_replied {reply : Except Error (Option CatalogType)}
    (replied : TypeDescriptor.builtin? oid = none ∧ answers.type oid = reply) :
    answers.rows oid = reply := by
  unfold rows
  rw [replied.1]
  exact replied.2

theorem CatalogAnswers.replied_of_rows {row : CatalogType}
    (looked : answers.rows oid = .ok (some row)) :
    TypeDescriptor.builtin? oid = none ∧ answers.type oid = .ok (some row) := by
  unfold rows at looked
  split at looked
  · cases looked
  next other => exact ⟨by simpa using other, looked⟩

/-- What denotes something has a chain that ends. -/
theorem CatalogDenotes.exists_chainEnds {result : Except Error TypeDescriptor}
    (denotes : CatalogDenotes answers.type query oid result) :
    ∃ links, ChainEnds (fun oid reply => answers.rows oid = reply) links oid := by
  -- One link is enough for all but arrays, since only an array leads on.
  have last {oid : Int}
      (none : ∀ row, answers.rows oid = .ok (some row) → row.kind ≠ .array) :
      ∃ links, ChainEnds (fun oid reply => answers.rows oid = reply) links oid :=
    ⟨1, fun row looked nested => absurd nested (none row looked)⟩
  induction denotes with
  | given known =>
    refine last fun row looked => ?_
    rw [(CatalogAnswers.replied_of_rows looked).1] at known
    cases known
  | failed reply =>
    refine last fun row looked => ?_
    cases (CatalogAnswers.rows_of_replied reply).symm.trans looked
  | absent reply =>
    refine last fun row looked => ?_
    cases (CatalogAnswers.rows_of_replied reply).symm.trans looked
  | plain reply single =>
    refine last fun row looked => ?_
    cases (CatalogAnswers.rows_of_replied reply).symm.trans looked
    exact single
  | array reply nested inner ih =>
    obtain ⟨links, ends⟩ := ih
    refine ⟨links + 1, fun row looked _ => ?_⟩
    cases (CatalogAnswers.rows_of_replied reply).symm.trans looked
    exact ends

/-- A chain that ends denotes something. -/
theorem ChainEnds.exists_denotes {links : Nat}
    (ends : ChainEnds (fun oid reply => answers.type oid = reply) links oid) :
    ∃ result, CatalogDenotes answers.type query oid result := by
  induction links generalizing oid with
  | zero => exact ends.elim
  | succ links ih =>
    rcases known : TypeDescriptor.builtin? oid with _ | type
    · rcases reply : answers.type oid with error | _ | row
      · exact ⟨_, .failed ⟨known, reply⟩⟩
      · exact ⟨_, .absent ⟨known, reply⟩⟩
      · by_cases nested : row.kind = .array
        · obtain ⟨elem, inner⟩ := ih (ends row reply nested)
          exact ⟨_, .array ⟨known, reply⟩ nested inner⟩
        · exact ⟨_, .plain ⟨known, reply⟩ nested⟩
    · exact ⟨_, .given known⟩

end Chains

/-- A resolution that does not run endlessly gives what the identifier denotes by the memo and the
replies. -/
theorem Resolves.endless_or_denotes {σ : Type} {session : Session σ} {query : Option String}
    {links : Nat} {oid : Int} {state last : Resolving σ} {talk : List Exchange}
    {result : Except Error TypeDescriptor}
    {replied : Int → Except Error (Option CatalogType) → Prop}
    (run : Resolves session query links oid state talk result last)
    (heard : ∀ oid reply, .type oid reply ∈ talk → replied oid reply) :
    result = .error (.unforeseen .endlessType) ∨
      Denotes state.memo.Gives replied query oid result := by
  induction run with
  | endless => exact .inl rfl
  | memoized links found => exact .inr (.given (.inl found))
  | builtin links new known => exact .inr (.given (.inr known))
  | failed => exact .inr (.failed (heard _ _ List.mem_cons_self))
  | absent => exact .inr (.absent (heard _ _ List.mem_cons_self))
  | plain _ _ _ single => exact .inr (.plain (heard _ _ List.mem_cons_self) single)
  | array _ _ nested _ ih =>
    rcases ih fun oid reply later => heard oid reply (List.mem_cons_of_mem _ later) with
      endless | denotes
    · cases endless
    · exact .inr (.array (heard _ _ List.mem_cons_self) nested denotes)
  | broken _ _ nested _ ih =>
    rcases ih fun oid reply later => heard oid reply (List.mem_cons_of_mem _ later) with
      endless | denotes
    · exact .inl endless
    · exact .inr (.array (heard _ _ List.mem_cons_self) nested denotes)

section Fixed

variable {σ : Type} {session : Session σ} {valid : σ → Prop} {answers : CatalogAnswers}

theorem Session.IsFixed.readsTypes (fixed : session.IsFixed valid answers) :
    session.ReadsTypes valid answers.type where
  reply oid state is := (fixed.type oid state is).1
  keeps oid state is := (fixed.type oid state is).2
  room {state} is := fixed.room state is

/-- The session is valid and the memo is sound. -/
def Resolving.Settled (valid : σ → Prop) (answers : CatalogAnswers) (state : Resolving σ) : Prop :=
  valid state.session ∧ state.memo.Sound answers.type

theorem Resolving.settled_fresh {state : σ} (is : valid state) :
    Resolving.Settled valid answers ⟨state, {}⟩ :=
  ⟨is, TypeMemo.sound_empty _⟩

/-- From a sound memo a type resolves to what it denotes, and runs endlessly if that is nothing. -/
theorem Session.IsFixed.resolveType_settles (fixed : session.IsFixed valid answers) (oid : Int)
    (query : Option String) {state : Resolving σ} (settled : state.Settled valid answers) :
    (CatalogDenotes answers.type query oid ((resolveType session oid query).run state).1 ∨
      ((resolveType session oid query).run state).1 = .error (.unforeseen .endlessType) ∧
        ∀ result, ¬ CatalogDenotes answers.type query oid result) ∧
      ((resolveType session oid query).run state).2.Settled valid answers := by
  obtain ⟨talk, run⟩ := resolveType_resolves session query oid state
  obtain ⟨stays, heard⟩ := Resolves.heard fixed.readsTypes run settled.1
  have sound : ((resolveType session oid query).run state).2.memo.Sound answers.type :=
    fun other type found asker =>
      (settled.2.denotes (Resolves.memo_denotes run heard found)).lift_ok rfl
        (fun _ _ known => known) (fun _ _ reply => reply) asker
  refine ⟨?_, stays, sound⟩
  by_cases meant : ∃ result, CatalogDenotes answers.type query oid result
  · obtain ⟨result, denotes⟩ := meant
    obtain ⟨oids, room, listed⟩ := fixed.room state.session settled.1
    obtain ⟨links, ends⟩ := denotes.exists_chainEnds
    have within := (ends.within
      (fun oid row looked => listed oid row (CatalogAnswers.replied_of_rows looked).2) room).fewer
      fun _ _ => CatalogAnswers.rows_of_replied
    exact .inl (settled.2.denotes (Resolves.denotes run heard (.inr within)))
  · rcases Resolves.endless_or_denotes run heard with endless | denotes
    · exact .inr ⟨endless, fun result denotes => meant ⟨result, denotes⟩⟩
    · exact .inl (settled.2.denotes denotes)

end Fixed

namespace Attempt

variable {α β : Type}

/-- What the action gives is a matter of the answers alone: it is the same with every session that
gives them, in all valid states and with every sound memo.  An error is one of those allowed. -/
def Definite (answers : CatalogAnswers) (allowed : Error → Prop)
    (action : (σ : Type) → Session σ → Attempt (Resolving σ) α) : Prop :=
  ∃ result, (∀ error, result = .error error → allowed error) ∧
    ∀ (σ : Type) (session : Session σ) (valid : σ → Prop), session.IsFixed valid answers →
      (action σ session).Gives (Resolving.Settled valid answers) result

namespace Definite

variable {answers : CatalogAnswers} {allowed : Error → Prop}

theorem pure (value : α) : Definite answers allowed fun _ _ => Pure.pure value :=
  ⟨.ok value, fun _ failed => (nomatch failed), fun _ _ _ _ => .pure value⟩

theorem bind {first : (σ : Type) → Session σ → Attempt (Resolving σ) α}
    {next : α → (σ : Type) → Session σ → Attempt (Resolving σ) β}
    (one : Definite answers allowed first)
    (others : ∀ value, Definite answers allowed (next value)) :
    Definite answers allowed fun σ session => first σ session >>= fun value =>
      next value σ session := by
  obtain ⟨result, fails, gives⟩ := one
  rcases result with error | value
  · refine ⟨.error error, ?_, fun σ session valid fixed =>
      (gives σ session valid fixed).bind_error⟩
    rintro _ ⟨⟩
    exact fails error rfl
  · obtain ⟨last, failsLater, later⟩ := others value
    exact ⟨last, failsLater, fun σ session valid fixed =>
      (gives σ session valid fixed).bind (later σ session valid fixed)⟩

theorem mapM {action : α → (σ : Type) → Session σ → Attempt (Resolving σ) β}
    (each : ∀ item, Definite answers allowed (action item)) (items : List α) :
    Definite answers allowed fun σ session => items.mapM fun item => action item σ session := by
  induction items with
  | nil => exact .pure []
  | cons item items ih =>
    simp only [List.mapM_cons]
    exact (each item).bind fun _ => ih.bind fun _ => .pure _

theorem asking {question : (σ : Type) → Session σ → Attempt σ α} {answer : Except Error α}
    (fails : ∀ error, answer = .error error → allowed error)
    (gives : ∀ (σ : Type) (session : Session σ) (valid : σ → Prop),
      session.IsFixed valid answers → (question σ session).Gives valid answer) :
    Definite answers allowed fun σ session => Resolving.asking (question σ session) := by
  refine ⟨answer, fails, fun σ session valid fixed state settled => ?_⟩
  obtain ⟨same, kept⟩ := gives σ session valid fixed state.session settled.1
  exact ⟨same, kept, settled.2⟩

end Definite

end Attempt

section Inference

open Inference Attempt

variable {answers : CatalogAnswers} {allowed : Error → Prop} (fails : answers.FailsOnly allowed)

include fails

theorem CatalogDenotes.error_allowed {query : Option String} {oid : Int}
    {result : Except Error TypeDescriptor}
    (denotes : CatalogDenotes answers.type query oid result) {error : Error}
    (failed : result = .error error) : allowed error := by
  induction denotes with
  | given => cases failed
  | failed reply =>
    cases failed
    exact fails.type _ _ reply.2
  | absent =>
    cases failed
    exact fails.inference _ ⟨_, rfl⟩
  | plain => cases failed
  | @array _ _ elem _ _ _ ih =>
    cases elem with
    | error =>
      cases failed
      exact ih rfl
    | ok => cases failed

variable (ends : (∀ query oid, ∃ result, CatalogDenotes answers.type query oid result) ∨
  allowed (.unforeseen .endlessType))

include ends in
/-- A type denotes one thing or nothing, whatever memo leads to it. -/
theorem resolveType_definite (oid : Int) (query : Option String) :
    Definite answers allowed fun _ session => resolveType session oid query := by
  by_cases meant : ∃ result, CatalogDenotes answers.type query oid result
  · obtain ⟨result, meaning⟩ := meant
    refine ⟨result, fun error => meaning.error_allowed fails, fun σ session valid fixed => ?_⟩
    intro state settled
    obtain ⟨denotes | ⟨-, nothing⟩, kept⟩ := fixed.resolveType_settles oid query settled
    · exact ⟨meaning.unique denotes, kept⟩
    · exact absurd meaning (nothing result)
  · refine ⟨.error (.unforeseen .endlessType), ?_, fun σ session valid fixed => ?_⟩
    · rintro _ ⟨⟩
      exact ends.resolve_left fun all => meant (all query oid)
    · intro state settled
      obtain ⟨denotes | ⟨endless, -⟩, kept⟩ := fixed.resolveType_settles oid query settled
      · exact absurd ⟨_, denotes⟩ meant
      · exact ⟨endless, kept⟩

theorem describe_definite (query : SourceQuery) :
    Definite answers allowed fun _ session => describe session query := by
  refine ⟨query.told (answers.describe query.preparedSql), ?_, fun σ session valid fixed => ?_⟩
  · intro error failed
    unfold SourceQuery.told at failed
    split at failed
    · cases failed
      exact fails.inference _ ⟨_, rfl⟩
    · exact fails.describe _ error failed
  · intro state settled
    obtain ⟨after, ran, kept⟩ := (fixed.describe query.preparedSql).run settled.1
    rw [run_describe, ran]
    exact ⟨rfl, kept, settled.2⟩

theorem liftExcept_definite {α : Type} {result : Except Error α}
    (inference : ∀ error, result = .error error → error.IsInference) :
    Definite answers allowed fun _ _ => inferQuery.liftExcept result := by
  refine ⟨result, fun error failed => fails.inference error (inference error failed),
    fun σ session valid fixed state settled => ?_⟩
  rw [run_liftExcept]
  exact ⟨rfl, settled⟩

theorem provenance_definite (field : FieldDescription) :
    Definite answers allowed fun _ session => provenance session field := by
  unfold provenance
  split
  · exact .pure none
  · exact .asking (fails.column _ _) fun _ _ _ fixed => fixed.column _ _

theorem outputColumns_definite (shape : QueryShape) (index : Nat)
    (fields : List (FieldDescription × TypeDescriptor)) :
    Definite answers allowed fun _ session => outputColumns session shape index fields := by
  induction fields generalizing index with
  | nil => exact .pure []
  | cons pair rest ih =>
    unfold outputColumns
    exact (provenance_definite fails pair.1).bind fun _ => (ih (index + 1)).bind fun _ => .pure _

include ends in
/-- What an inference gives is a matter of the answers alone. -/
theorem inferQuery_definite (query : SourceQuery) :
    Definite answers allowed fun _ session => inferQuery session query := by
  have resolve (oid : Int) := resolveType_definite fails ends oid (some query.name)
  have resolveField (field : FieldDescription) := resolve field.typeOid
  unfold inferQuery
  refine (describe_definite fails query).bind fun description => ?_
  refine (liftExcept_definite fails fun _ => checkParams_isInference).bind fun _ => ?_
  refine (liftExcept_definite fails fun _ => checkResultKind_isInference).bind fun _ => ?_
  refine (Definite.mapM resolve _).bind fun inputTypes => ?_
  refine (Definite.mapM resolveField _).bind fun outputTypes => ?_
  exact (outputColumns_definite fails _ 0 _).bind fun outputs => .pure _

end Inference

end QueryTyping
