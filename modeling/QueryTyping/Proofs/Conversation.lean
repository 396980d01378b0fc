import QueryTyping.Inference

/-!
# Conversations with a session

What a session is asked and what it answers, call by call.  A session that keeps
its questions keeps those of the conversation, in order (`Session.Talks.traced`).
A list of steps that each converse is run up to the first that fails (`RunsAll`).
-/

namespace QueryTyping

theorem except_bind_eq_ok_iff {ε α β : Type} (first : Except ε α) (next : α → Except ε β)
    (value : β) :
    (first >>= next) = .ok value ↔ ∃ middle, first = .ok middle ∧ next middle = .ok value := by
  cases first with
  | error error => exact ⟨fun same => (nomatch same), fun ⟨_, same, _⟩ => (nomatch same)⟩
  | ok middle =>
    constructor
    · exact fun same => ⟨middle, rfl, same⟩
    · rintro ⟨_, same, rest⟩
      cases same
      exact rest

theorem except_bind_eq_error_iff {ε α β : Type} (first : Except ε α) (next : α → Except ε β)
    (error : ε) :
    (first >>= next) = .error error ↔
      first = .error error ∨ ∃ middle, first = .ok middle ∧ next middle = .error error := by
  cases first with
  | error other =>
    constructor
    · intro same
      cases same
      exact .inl rfl
    · rintro (same | ⟨_, same, _⟩)
      · cases same
        rfl
      · cases same
  | ok middle =>
    constructor
    · exact fun same => .inr ⟨middle, rfl, same⟩
    · rintro (same | ⟨_, same, rest⟩)
      · cases same
      · cases same
        exact rest

namespace Attempt

variable {σ α β : Type}

theorem run_pure (value : α) (state : σ) :
    (pure value : Attempt σ α).run state = (.ok value, state) := rfl

theorem run_get (state : σ) : (get : Attempt σ σ).run state = (.ok state, state) := rfl

/-- A failure ends a sequence, with the state that it leaves. -/
theorem run_bind (first : Attempt σ α) (next : α → Attempt σ β) (state : σ) :
    (first >>= next).run state =
      match first.run state with
      | (.ok value, after) => (next value).run after
      | (.error error, after) => (.error error, after) := by
  rw [ExceptT.run_bind]
  change StateT.bind first.run _ state = _
  unfold StateT.bind
  rcases first.run state with ⟨_ | _, after⟩ <;> rfl

theorem run_tryCatch (body : Attempt σ α) (handler : Error → Attempt σ α) (state : σ) :
    (tryCatch body handler).run state =
      match body.run state with
      | (.ok value, after) => (.ok value, after)
      | (.error error, after) => (handler error).run after := by
  change (ExceptT.tryCatch body handler).run state = _
  rw [ExceptT.tryCatch, ExceptT.run_mk]
  change StateT.bind body.run _ state = _
  unfold StateT.bind
  rcases body.run state with ⟨_ | _, after⟩ <;> rfl

end Attempt

namespace Resolving

variable {σ α : Type}

theorem run_asking (question : Attempt σ α) (state : Resolving σ) :
    (asking question).run state =
      ((question.run state.session).1, ⟨(question.run state.session).2, state.memo⟩) := rfl

end Resolving

/-- A question with the session's answer. -/
inductive Exchange where
  | describe (sql : String) (reply : Except Error StatementDescription)
  | type (oid : Int) (reply : Except Error (Option CatalogType))
  | column (tableOid number : Int) (reply : Except Error (Option CatalogColumn))

def Exchange.question : Exchange → Question
  | describe sql _ => .describe sql
  | type oid _ => .type oid
  | column tableOid number _ => .column tableOid number

variable {σ : Type}

/-- In one state the session answers so, and goes to another. -/
def Exchange.Occurs (session : Session σ) (state next : σ) : Exchange → Prop
  | describe sql reply => (session.describe sql).run state = (reply, next)
  | type oid reply => (session.lookupType oid).run state = (reply, next)
  | column tableOid number reply =>
    (session.lookupColumn tableOid number).run state = (reply, next)

/-- From one state the session goes to another by these exchanges. -/
inductive Session.Talks (session : Session σ) : σ → List Exchange → σ → Prop
  | nil (state : σ) : Talks session state [] state
  | cons {state next last : σ} {exchange : Exchange} {talk : List Exchange}
    (first : exchange.Occurs session state next) (others : Talks session next talk last) :
    Talks session state (exchange :: talk) last

namespace Session.Talks

variable {session : Session σ}

theorem single {state next : σ} {exchange : Exchange}
    (occurs : exchange.Occurs session state next) : session.Talks state [exchange] next :=
  .cons occurs (.nil next)

theorem append {state next last : σ} {talk more : List Exchange}
    (first : session.Talks state talk next) (second : session.Talks next more last) :
    session.Talks state (talk ++ more) last := by
  induction first with
  | nil => exact second
  | cons occurs _ ih => exact .cons occurs (ih second)

/-- What holds of each exchange with a session holds of all in a conversation. -/
theorem all {holds : Exchange → Prop}
    (each : ∀ {exchange : Exchange} {state next : σ}, exchange.Occurs session state next →
      holds exchange)
    {state last : σ} {talk : List Exchange} (talks : session.Talks state talk last) :
    ∀ exchange ∈ talk, holds exchange := by
  induction talks with
  | nil => exact fun _ member => nomatch member
  | cons occurs _ ih => exact List.forall_mem_cons.mpr ⟨each occurs, ih⟩

theorem occurs_traced {state next : σ × List Question} {exchange : Exchange}
    (occurs : exchange.Occurs session.traced state next) :
    exchange.Occurs session state.1 next.1 ∧ next.2 = exchange.question :: state.2 := by
  cases exchange <;>
    simp only [Exchange.Occurs, Session.traced, Session.traced.ask, ExceptT.run] at occurs ⊢ <;>
    obtain ⟨rfl, rfl⟩ := Prod.mk.inj occurs <;> exact ⟨rfl, rfl⟩

/-- A session that keeps its questions keeps those of the conversation, in order. -/
theorem traced {state last : σ × List Question} {talk : List Exchange}
    (talks : session.traced.Talks state talk last) :
    session.Talks state.1 talk last.1 ∧
      last.2 = (talk.map Exchange.question).reverse ++ state.2 := by
  induction talks with
  | nil state => exact ⟨.nil state.1, rfl⟩
  | cons occurs _ ih =>
    obtain ⟨answered, kept⟩ := occurs_traced occurs
    exact ⟨.cons answered ih.1, by simp [ih.2, kept]⟩

end Session.Talks

/-- One step after the other over a list, up to the first that fails. -/
inductive RunsAll {α β S : Type} (step : α → S → List Exchange → Except Error β → S → Prop) :
    List α → S → List Exchange → Except Error (List β) → S → Prop
  | nil (state : S) : RunsAll step [] state [] (.ok []) state
  | cons {item : α} {items : List α} {state next last : S} {talk more : List Exchange} {value : β}
    {result : Except Error (List β)} (first : step item state talk (.ok value) next)
    (others : RunsAll step items next more result last) :
    RunsAll step (item :: items) state (talk ++ more) (result.map (value :: ·)) last
  | stop {item : α} {items : List α} {state next : S} {talk : List Exchange} {error : Error}
    (first : step item state talk (.error error) next) :
    RunsAll step (item :: items) state talk (.error error) next

namespace RunsAll

variable {α β S : Type} {step : α → S → List Exchange → Except Error β → S → Prop}

theorem of_mapM {action : α → Attempt S β}
    (runs : ∀ item state, ∃ talk,
      step item state talk ((action item).run state).1 ((action item).run state).2)
    (items : List α) (state : S) :
    ∃ talk, RunsAll step items state talk ((items.mapM action).run state).1
      ((items.mapM action).run state).2 := by
  induction items generalizing state with
  | nil => exact ⟨[], .nil state⟩
  | cons item items ih =>
    obtain ⟨talk, first⟩ := runs item state
    rw [List.mapM_cons, Attempt.run_bind]
    rcases ran : (action item).run state with ⟨error | value, next⟩
    · rw [ran] at first
      exact ⟨talk, .stop first⟩
    · rw [ran] at first
      obtain ⟨more, others⟩ := ih next
      refine ⟨talk ++ more, ?_⟩
      simp only [Attempt.run_bind]
      rcases rest : (items.mapM action).run next with ⟨error | values, last⟩ <;>
        rw [rest] at others <;> exact .cons first others

/-- What each step preserves, a sequence preserves. -/
theorem preserves (holds : S → Prop)
    (each : ∀ {item state talk result next}, step item state talk result next →
      holds state → holds next)
    {items : List α} {state last : S} {talk : List Exchange} {result : Except Error (List β)}
    (runs : RunsAll step items state talk result last) (start : holds state) : holds last := by
  induction runs with
  | nil => exact start
  | cons first _ ih => exact ih (each first start)
  | stop first => exact each first start

/-- A sequence that does not fail went on after every step. -/
theorem ok_induction
    {motive : ∀ items state last talk values,
      RunsAll step items state talk (.ok values : Except Error (List β)) last → Prop}
    (nil : ∀ state, motive [] state state [] [] (.nil state))
    (cons : ∀ {item items state next last talk more value values}
      (first : step item state talk (.ok value) next)
      (others : RunsAll step items next more (.ok values) last),
      motive items next last more values others →
      motive (item :: items) state last (talk ++ more) (value :: values) (.cons first others))
    {items : List α} {state last : S} {talk : List Exchange} {values : List β}
    (runs : RunsAll step items state talk (.ok values) last) :
    motive items state last talk values runs := by
  have along {result : Except Error (List β)} (all : RunsAll step items state talk result last)
      (values : List β) (ok : result = .ok values) :
      motive items state last talk values (ok ▸ all) := by
    -- The result is an index, so the induction is on runs with any result.
    clear runs
    induction all generalizing values with
    | nil state =>
      cases ok
      exact nil state
    | @cons _ _ _ _ _ _ _ _ rest first others ih =>
      cases rest with
      | error => cases ok
      | ok rest =>
        cases ok
        exact cons first others (ih rest rfl)
    | stop => cases ok
  exact along runs values rfl

/-- A sequence that fails ended with a step that failed so. -/
theorem exists_failed {items : List α} {state last : S} {talk : List Exchange} {error : Error}
    (runs : RunsAll step items state talk (.error error : Except Error (List β)) last) :
    ∃ item before between more, step item between more (.error error) last ∧
      talk = before ++ more := by
  generalize outcome : (Except.error error : Except Error (List β)) = result at runs
  induction runs with
  | nil => cases outcome
  | @cons _ _ _ _ _ talk _ _ rest _ _ ih =>
    cases rest with
    | error =>
      cases outcome
      obtain ⟨item, before, between, more, failed, rfl⟩ := ih rfl
      exact ⟨item, talk ++ before, between, more, failed, (List.append_assoc _ _ _).symm⟩
    | ok => cases outcome
  | stop first =>
    cases outcome
    exact ⟨_, [], _, _, first, rfl⟩

/-- A sequence that does not fail has a value for every item. -/
theorem length {items : List α} {state last : S} {talk : List Exchange} {values : List β}
    (runs : RunsAll step items state talk (.ok values) last) : values.length = items.length := by
  induction runs using ok_induction with
  | nil => rfl
  | cons _ _ ih => rw [List.length_cons, List.length_cons, ih]

theorem append {items others : List α} {state next last : S} {talk more : List Exchange}
    {values : List β} {result : Except Error (List β)}
    (runs : RunsAll step items state talk (.ok values) next)
    (second : RunsAll step others next more result last) :
    RunsAll step (items ++ others) state (talk ++ more) (result.map (values ++ ·)) last := by
  induction runs using ok_induction with
  | nil => cases result <;> exact second
  | cons first _ ih =>
    have whole := RunsAll.cons first (ih second)
    rw [List.append_assoc]
    cases result <;> exact whole

theorem append_of_error {items : List α} {state next : S} {talk : List Exchange}
    {result : Except Error (List β)} (runs : RunsAll step items state talk result next)
    {error : Error} (failed : result = .error error) (others : List α) :
    RunsAll step (items ++ others) state talk (.error error) next := by
  induction runs with
  | nil => cases failed
  | @cons _ _ _ _ _ _ _ _ rest done _ ih =>
    cases rest with
    | error =>
      cases failed
      exact .cons done (ih rfl)
    | ok => cases failed
  | stop done =>
    cases failed
    exact .stop done

theorem talks {session : Session σ}
    {step : α → Resolving σ → List Exchange → Except Error β → Resolving σ → Prop}
    (each : ∀ {item state talk result next}, step item state talk result next →
      session.Talks state.session talk next.session)
    {items : List α} {state last : Resolving σ} {talk : List Exchange}
    {result : Except Error (List β)} (runs : RunsAll step items state talk result last) :
    session.Talks state.session talk last.session := by
  induction runs with
  | nil => exact .nil _
  | cons first _ ih => exact (each first).append ih
  | stop first => exact each first

end RunsAll

end QueryTyping
