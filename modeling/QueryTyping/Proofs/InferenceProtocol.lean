import QueryTyping.Connection.Script
import QueryTyping.Proofs.ClientContract

/-!
# The order of an inference's questions

A session is asked to describe the statement, then about types, then about columns.
Types come in the order of the description, each chain of elements from the
outside in, without those that are known (`TypeLookups`); the last answer is the
only one that may end a conversation early (`AsksTypes`).  What a lookup that
failed would have led on to is unknown, so the questions are a prefix of those
that some rows would lead to, whatever the session (`inferQuery_asks_in_order`).
On a catalog session, such as the client of any server, each inference failure
names the query as well (`inferQuery_follows_protocol`).
-/

namespace QueryTyping

variable {σ : Type}

/-- The types of a chain of elements that are looked up, from the outside in, each with its row: up
to one that is known. -/
inductive ChainLookups (known : Int → Prop) : Int → List (Int × CatalogType) → Prop
  | known {oid : Int} (already : known oid) : ChainLookups known oid []
  | plain {oid : Int} {row : CatalogType} (new : ¬ known oid) (single : row.kind ≠ .array) :
    ChainLookups known oid [(oid, row)]
  | array {oid : Int} {row : CatalogType} {lookups : List (Int × CatalogType)}
    (new : ¬ known oid) (nested : row.kind = .array)
    (inner : ChainLookups known row.elemOid lookups) :
    ChainLookups known oid ((oid, row) :: lookups)

/-- The types that are looked up for several in order.  Those of one chain are known to the next. -/
inductive TypeLookups : (Int → Prop) → List Int → List (Int × CatalogType) → Prop
  | nil (known : Int → Prop) : TypeLookups known [] []
  | cons {known : Int → Prop} {oid : Int} {oids : List Int}
    {chain lookups : List (Int × CatalogType)} (first : ChainLookups known oid chain)
    (others : TypeLookups (fun other => known other ∨ other ∈ chain.map Prod.fst) oids lookups) :
    TypeLookups known (oid :: oids) (chain ++ lookups)

/-- The question of a lookup, answered with its row. -/
def Exchange.answered (lookup : Int × CatalogType) : Exchange :=
  .type lookup.1 (.ok (some lookup.2))

/-- The lookup that a row was the answer to. -/
def Exchange.lookup? : Exchange → Option (Int × CatalogType)
  | .type oid (.ok (some row)) => some (oid, row)
  | _ => none

/-- Lookups are made in order, and go on after one only with its row. -/
inductive AsksTypes : List Exchange → List (Int × CatalogType) → Prop
  | stopped (lookups : List (Int × CatalogType)) : AsksTypes [] lookups
  | failed {oid : Int} {reply : Except Error (Option CatalogType)}
    (rowless : ∀ row, reply ≠ .ok (some row)) (row : CatalogType)
    (lookups : List (Int × CatalogType)) : AsksTypes [.type oid reply] ((oid, row) :: lookups)
  | answered {oid : Int} {row : CatalogType} {talk : List Exchange}
    {lookups : List (Int × CatalogType)} (others : AsksTypes talk lookups) :
    AsksTypes (.type oid (.ok (some row)) :: talk) ((oid, row) :: lookups)

section Lookups

theorem exists_plain_row : ∃ row : CatalogType, row.kind ≠ .array :=
  ⟨⟨0, "", 0, "b", "U"⟩, by decide⟩

/-- Where an answer is missing, any plain row completes a chain. -/
theorem ChainLookups.exists_lookups (known : Int → Prop) (oid : Int) :
    ∃ lookups, ChainLookups known oid lookups := by
  by_cases already : known oid
  · exact ⟨[], .known already⟩
  · obtain ⟨row, single⟩ := exists_plain_row
    exact ⟨_, .plain already single⟩

theorem TypeLookups.exists_lookups (known : Int → Prop) (oids : List Int) :
    ∃ lookups, TypeLookups known oids lookups := by
  induction oids generalizing known with
  | nil => exact ⟨[], .nil known⟩
  | cons oid oids ih =>
    obtain ⟨chain, first⟩ := ChainLookups.exists_lookups known oid
    obtain ⟨lookups, others⟩ := ih fun other => known other ∨ other ∈ chain.map Prod.fst
    exact ⟨chain ++ lookups, .cons first others⟩

variable {talk : List Exchange} {lookups : List (Int × CatalogType)}

namespace AsksTypes

theorem append_lookups (asks : AsksTypes talk lookups) (more : List (Int × CatalogType)) :
    AsksTypes talk (lookups ++ more) := by
  induction asks with
  | stopped => exact .stopped _
  | failed rowless row => exact .failed rowless row _
  | answered _ ih => exact .answered ih

theorem append_answered (asks : AsksTypes talk lookups) (done : List (Int × CatalogType)) :
    AsksTypes (done.map Exchange.answered ++ talk) (done ++ lookups) := by
  induction done with
  | nil => exact asks
  | cons lookup done ih => exact .answered ih

theorem questions (asks : AsksTypes talk lookups) :
    talk.map Exchange.question <+: lookups.map fun lookup => .type lookup.1 := by
  induction asks with
  | stopped => exact List.nil_prefix
  | failed => exact ⟨_, rfl⟩
  | answered _ ih => exact List.cons_prefix_cons.mpr ⟨rfl, ih⟩

theorem column_not_mem (asks : AsksTypes talk lookups) {tableOid number : Int}
    {reply : Except Error (Option CatalogColumn)} : .column tableOid number reply ∉ talk := by
  induction asks with
  | stopped => exact List.not_mem_nil
  | failed => simp
  | answered _ ih => simpa using ih

theorem answers (asks : AsksTypes talk lookups) : talk.filterMap Exchange.lookup? <+: lookups := by
  induction asks with
  | stopped => exact List.nil_prefix
  | @failed oid reply rowless =>
    have none : Exchange.lookup? (.type oid reply) = none := by
      unfold Exchange.lookup?
      split
      next same =>
        cases same
        exact absurd rfl (rowless _)
      · rfl
    rw [List.filterMap_cons, none]
    exact List.nil_prefix
  | answered _ ih => exact List.cons_prefix_cons.mpr ⟨rfl, ih⟩

end AsksTypes

theorem map_question_answered :
    (lookups.map Exchange.answered).map Exchange.question =
      lookups.map fun lookup => .type lookup.1 := by
  rw [List.map_map]
  rfl

theorem filterMap_lookup_answered :
    (lookups.map Exchange.answered).filterMap Exchange.lookup? = lookups := by
  induction lookups with
  | nil => rfl
  | cons lookup lookups ih => exact congrArg (lookup :: ·) ih

end Lookups

theorem TypeMemo.knows_insert (memo : TypeMemo) (oid other : Int) (type : TypeDescriptor) :
    (memo.insert oid type).Knows other ↔ memo.Knows other ∨ other = oid := by
  unfold Knows
  rw [find?_insert]
  by_cases same : other = oid <;> simp [same]

section Types

variable {session : Session σ} {query : Option String} {state last : Resolving σ}
  {talk : List Exchange}

/-- A resolution looks up a chain, and knows it after. -/
theorem Resolves.asks_chain {links : Nat} {oid : Int} {result : Except Error TypeDescriptor}
    (run : Resolves session query links oid state talk result last) :
    ∃ lookups, ChainLookups state.memo.Knows oid lookups ∧ AsksTypes talk lookups ∧
      ∀ type, result = .ok type → talk = lookups.map Exchange.answered ∧
        ∀ other, last.memo.Knows other ↔
          state.memo.Knows other ∨ other ∈ lookups.map Prod.fst := by
  induction run with
  | endless oid state =>
    obtain ⟨lookups, chain⟩ := ChainLookups.exists_lookups state.memo.Knows oid
    exact ⟨lookups, chain, .stopped _, fun _ ok => nomatch ok⟩
  | memoized links found =>
    refine ⟨[], .known (.inl (by rw [found]; rfl)), .stopped _, fun _ _ => ⟨rfl, fun other => ?_⟩⟩
    simp
  | @builtin links oid state type new known =>
    have already : state.memo.Knows oid := .inr (by rw [known]; rfl)
    refine ⟨[], .known already, .stopped _, fun _ _ => ⟨rfl, fun other => ?_⟩⟩
    rw [TypeMemo.knows_insert]
    constructor
    · rintro (before | rfl)
      · exact .inl before
      · exact .inl already
    · rintro (before | none)
      · exact .inl before
      · cases none
  -- Without a row from the session any plain one completes the lookups.
  | failed links new =>
    obtain ⟨row, single⟩ := exists_plain_row
    refine ⟨_, .plain new single, .failed ?_ row [], fun _ ok => nomatch ok⟩
    rintro _ ⟨⟩
  | absent links new =>
    obtain ⟨row, single⟩ := exists_plain_row
    refine ⟨_, .plain new single, .failed ?_ row [], fun _ ok => nomatch ok⟩
    rintro _ ⟨⟩
  | plain links new asked single =>
    refine ⟨_, .plain new single, .answered (.stopped []), fun _ _ => ⟨rfl, fun other => ?_⟩⟩
    rw [TypeMemo.knows_insert]
    simp
  | array new asked nested inner ih =>
    obtain ⟨lookups, chain, asks, ends⟩ := ih
    obtain ⟨same, known⟩ := ends _ rfl
    refine ⟨_, .array new nested chain, .answered asks, fun _ _ => ⟨?_, fun other => ?_⟩⟩
    · rw [same]
      rfl
    · rw [TypeMemo.knows_insert, known, List.map_cons, List.mem_cons, or_assoc]
      exact or_congr_right or_comm
  | broken new asked nested inner ih =>
    obtain ⟨lookups, chain, asks, -⟩ := ih
    exact ⟨_, .array new nested chain, .answered asks, fun _ ok => nomatch ok⟩

/-- A sequence of resolutions looks up the types in order. -/
theorem RunsAll.asks_types {oids : List Int} {result : Except Error (List TypeDescriptor)}
    (runs : RunsAll (ResolvesType session query) oids state talk result last) :
    ∃ lookups, TypeLookups state.memo.Knows oids lookups ∧ AsksTypes talk lookups ∧
      ∀ types, result = .ok types → talk = lookups.map Exchange.answered := by
  induction runs with
  | nil => exact ⟨[], .nil _, .stopped [], fun _ _ => rfl⟩
  | @cons _ _ state next _ _ _ _ rest first _ ih =>
    obtain ⟨chain, looked, -, ends⟩ := Resolves.asks_chain first
    obtain ⟨same, known⟩ := ends _ rfl
    obtain ⟨lookups, others, asks, whole⟩ := ih
    -- The next chain stops at what this one looked up.
    have grown : next.memo.Knows = fun other =>
        state.memo.Knows other ∨ other ∈ chain.map Prod.fst :=
      funext fun other => propext (known other)
    rw [grown] at others
    refine ⟨chain ++ lookups, .cons looked others, same ▸ asks.append_answered chain, ?_⟩
    intro types ok
    cases rest with
    | error => cases ok
    | ok rest => rw [same, whole rest rfl, List.map_append]
  | @stop _ items state _ _ _ first =>
    obtain ⟨chain, looked, asks, -⟩ := Resolves.asks_chain first
    obtain ⟨lookups, others⟩ := TypeLookups.exists_lookups
      (fun other => state.memo.Knows other ∨ other ∈ chain.map Prod.fst) items
    exact ⟨chain ++ lookups, .cons looked others, asks.append_lookups lookups,
      fun _ ok => nomatch ok⟩

end Types

instance (field : FieldDescription) : Decidable field.HasSource :=
  inferInstanceAs (Decidable (_ ∧ _))

/-- The questions about the columns that the database names, in order. -/
def columnQuestions (fields : List FieldDescription) : List Question :=
  (fields.filter fun field => field.HasSource).map fun field =>
    .column field.tableOid field.tableColumn

theorem RunsAll.asks_columns {session : Session σ} {fields : List FieldDescription}
    {state last : Resolving σ} {talk : List Exchange}
    {result : Except Error (List (Option CatalogColumn))}
    (runs : RunsAll (FindsColumn session) fields state talk result last) :
    talk.map Exchange.question <+: columnQuestions fields ∧
      talk.filterMap Exchange.lookup? = [] ∧
      ∀ sources, result = .ok sources → talk.map Exchange.question = columnQuestions fields := by
  induction runs with
  | nil => exact ⟨List.nil_prefix, rfl, fun _ _ => rfl⟩
  | @cons _ _ _ _ _ _ _ _ rest first _ ih =>
    obtain ⟨asked, rowless, whole⟩ := ih
    have ends {sources : List (Option CatalogColumn)} {source : Option CatalogColumn}
        (ok : rest.map (source :: ·) = .ok sources) : ∃ others, rest = .ok others := by
      cases rest with
      | error => cases ok
      | ok others => exact ⟨others, rfl⟩
    cases first with
    | computed sourceless =>
      rw [columnQuestions, List.filter_cons_of_neg (by simpa using sourceless)]
      exact ⟨asked, rowless, fun _ ok => (ends ok).elim whole⟩
    | read source =>
      rw [columnQuestions, List.filter_cons_of_pos (by simpa using source)]
      refine ⟨List.cons_prefix_cons.mpr ⟨rfl, asked⟩, rowless, fun _ ok => ?_⟩
      exact congrArg _ ((ends ok).elim whole)
  | stop first =>
    cases first with
    | read source =>
      rw [columnQuestions, List.filter_cons_of_pos (by simpa using source)]
      exact ⟨⟨_, rfl⟩, rfl, fun _ ok => nomatch ok⟩

/-- What the session is asked for a description, by what is known before: about these types, then
about columns. -/
structure StatementDescription.AsksInOrder (description : StatementDescription)
    (known : Int → Prop) (lookups : List (Int × CatalogType)) (talk : List Exchange)
    (result : Except Error TypedQuery) : Prop where
  looked : TypeLookups known description.typeOids lookups
  questions : talk.map Exchange.question <+:
    lookups.map (fun lookup => .type lookup.1) ++ columnQuestions description.fields
  rows : talk.filterMap Exchange.lookup? <+: lookups
  /-- A type without a row ends the conversation before any column. -/
  resolved : ∀ tableOid number reply, .column tableOid number reply ∈ talk →
    talk.filterMap Exchange.lookup? = lookups
  complete : ∀ typed, result = .ok typed → talk.map Exchange.question =
    lookups.map (fun lookup => .type lookup.1) ++ columnQuestions description.fields

section Order

variable {session : Session σ} {query : Option String} {description : StatementDescription}
  {state middle last : Resolving σ} {types columns : List Exchange} {error : Error}

theorem asksInOrder_of_refused (description : StatementDescription) (known : Int → Prop) :
    ∃ lookups, description.AsksInOrder known lookups [] (.error error) := by
  obtain ⟨lookups, looked⟩ := TypeLookups.exists_lookups known description.typeOids
  exact ⟨lookups, looked, List.nil_prefix, List.nil_prefix, fun _ _ _ none => (nomatch none),
    fun _ ok => (nomatch ok)⟩

theorem asksInOrder_of_unresolved
    (resolution : RunsAll (ResolvesType session query) description.typeOids state types
      (.error error) last) :
    ∃ lookups, description.AsksInOrder state.memo.Knows lookups types (.error error) := by
  obtain ⟨lookups, looked, asks, -⟩ := resolution.asks_types
  refine ⟨lookups, looked, asks.questions.trans (List.prefix_append _ _), asks.answers,
    fun tableOid number reply member => ?_, fun _ ok => nomatch ok⟩
  exact absurd member asks.column_not_mem

theorem asksInOrder_of_resolved {typeList : List TypeDescriptor}
    {sources : Except Error (List (Option CatalogColumn))}
    (resolution : RunsAll (ResolvesType session query) description.typeOids state types
      (.ok typeList) middle)
    (search : RunsAll (FindsColumn session) description.fields middle columns sources last)
    (finish : List (Option CatalogColumn) → TypedQuery) :
    ∃ lookups, description.AsksInOrder state.memo.Knows lookups (types ++ columns)
      (sources.map finish) := by
  obtain ⟨lookups, looked, -, whole⟩ := resolution.asks_types
  obtain ⟨asked, rowless, all⟩ := search.asks_columns
  have rows : (types ++ columns).filterMap Exchange.lookup? = lookups := by
    rw [List.filterMap_append, rowless, whole typeList rfl, filterMap_lookup_answered,
      List.append_nil]
  have questions : (types ++ columns).map Exchange.question =
      lookups.map (fun lookup => .type lookup.1) ++ columns.map Exchange.question := by
    rw [List.map_append, whole typeList rfl, map_question_answered]
  refine ⟨lookups, looked, ?_, rows ▸ List.prefix_refl _, fun _ _ _ _ => rows, ?_⟩
  · rw [questions]
    exact (List.prefix_append_right_inj _).mpr asked
  · intro typed ok
    cases sources with
    | error => cases ok
    | ok found => rw [questions, all found rfl]

end Order

/-- An inference asks about types and columns only after a description that fits, and in its
order. -/
structure FollowsProtocol (query : SourceQuery) (known : Int → Prop)
    (reply : Except Error StatementDescription) (talk : List Exchange)
    (result : Except Error TypedQuery) : Prop where
  refused : (∀ description, reply = .ok description → ¬ description.Fits query) → talk = []
  ordered : ∀ description, reply = .ok description →
    ∃ lookups, description.AsksInOrder known lookups talk result

theorem Infers.follows_protocol {session : Session σ} {query : SourceQuery}
    {state last : Resolving σ} {talk : List Exchange} {result : Except Error TypedQuery}
    (run : Infers session query state talk result last) :
    ∃ reply rest, talk = .describe query.preparedSql reply :: rest ∧
      FollowsProtocol query state.memo.Knows reply rest result := by
  have fitting {reply : Except Error StatementDescription} {description : StatementDescription}
      (admission : query.admitted reply = .ok description) :
      reply = .ok description ∧ description.Fits query :=
    (query.admitted_eq_ok_iff description reply).mp admission
  cases run with
  | @refused next reply error asked refusal =>
    exact ⟨reply, [], rfl, fun _ => rfl, fun description _ =>
      asksInOrder_of_refused description _⟩
  | unresolved asked admission resolution =>
    obtain ⟨rfl, fits⟩ := fitting admission
    refine ⟨_, _, rfl, fun unfit => absurd fits (unfit _ rfl), fun described same => ?_⟩
    cases same
    have ordered := asksInOrder_of_unresolved resolution
    exact ordered
  | resolved asked admission resolution params search =>
    obtain ⟨rfl, fits⟩ := fitting admission
    refine ⟨_, _, rfl, fun unfit => absurd fits (unfit _ rfl), fun described same => ?_⟩
    cases same
    have ordered := asksInOrder_of_resolved resolution search
    exact ordered _

/-- For every session, query and memo: the statement is described, and nothing else is asked if that
fails or does not fit; then come the types and then the columns, as far as the answers let it.  An
inference failure names the query, unless the session raised it beside its contract. -/
theorem inferQuery_asks_in_order (session : Session σ) (query : SourceQuery) (state : σ)
    (memo : TypeMemo) :
    ∃ reply talk,
      session.Talks state (.describe query.preparedSql reply :: talk)
        ((inferQuery session.traced query).run ⟨(state, []), memo⟩).2.session.1 ∧
      ((inferQuery session.traced query).run ⟨(state, []), memo⟩).2.session.2.reverse =
        .describe query.preparedSql :: talk.map Exchange.question ∧
      FollowsProtocol query memo.Knows reply talk
        ((inferQuery session.traced query).run ⟨(state, []), memo⟩).1 ∧
      ∀ error, ((inferQuery session.traced query).run ⟨(state, []), memo⟩).1 = .error error →
        error.Accounted query.name (.describe query.preparedSql reply :: talk) := by
  obtain ⟨whole, run⟩ := inferQuery_infers session.traced query ⟨(state, []), memo⟩
  obtain ⟨talks, log⟩ := run.talks.traced
  obtain ⟨reply, talk, rfl, follows⟩ := run.follows_protocol
  refine ⟨reply, talk, talks, ?_, follows, fun error failed => run.accounted failed⟩
  rw [log, List.append_nil, List.reverse_reverse]
  rfl

/-- A server with an array whose elements have a type that is not in its catalog. -/
def ghostServer : ScriptedServer where
  script :=
    { statements := [("SELECT ghosts FROM house WHERE ghosts = $1",
        .described ⟨[5000], [⟨some "ghosts", 5000, 7, 1⟩]⟩)]
      catalog := { types := [⟨5000, "_ghost", 5001, "b", "A"⟩] } }

def ghostsQuery : SourceQuery :=
  ⟨"Ghosts", "SELECT ghosts FROM house WHERE ghosts = $1", ["ghosts"], .many, []⟩

end QueryTyping
