import QueryTyping.Proofs.ClientContract
import QueryTyping.Proofs.InferenceSteps

/-!
# What a client does on its connection

Every step of a client adds events to those before it and lets the server act
(`Client.advance`).  An open connection sees one block for each statement that is
described and one event for each question to the catalog (`Server.Inquiry`), and no
second `connect` as long as the server closes it only with notice
(`Server.ClosesWithNotice`).  What only asks such questions is closed under the ways
in which inferences are put together (`Attempt.Inquires`).
-/

namespace QueryTyping

open Attempt

variable {σ α β : Type}

/-- The reply leaves the connection usable: it grants the request, or rejects the statement while
the connection is not broken. -/
def ServerReply.IsUsable (lost : Bool) : ServerReply α → Prop
  | done _ => True
  | rejected _ => lost = false
  | raised _ => False

theorem ServerReply.done_or_refused (reply : ServerReply α) :
    (∃ value, reply = .done value) ∨ ∀ value, reply ≠ .done value := by
  by_cases granted : ∃ value, reply = .done value
  · exact .inl granted
  · exact .inr fun value same => granted ⟨value, same⟩

namespace Server

/-- The server closes an open connection only with notice: with an error, or with a rejection that
finds the connection broken. -/
structure ClosesWithNotice (server : Server σ) : Prop where
  connect : ∀ settings state next, (server.connect settings).run state = (.ok (), next) →
    server.isClosed next = false
  execute : ∀ sql state next, server.isClosed state = false →
    (server.execute sql).run state = (.ok (), next) → server.isClosed next = false
  prepare : ∀ sql state reply next, server.isClosed state = false →
    (server.prepare sql).run state = (reply, next) → reply.IsUsable (server.isLost next) →
    server.isClosed next = false
  describePrepared : ∀ sql state reply next, server.isClosed state = false →
    (server.describePrepared sql).run state = (reply, next) →
    reply.IsUsable (server.isLost next) → server.isClosed next = false
  lookupType : ∀ oid state row next, server.isClosed state = false →
    (server.lookupType oid).run state = (.ok row, next) → server.isClosed next = false
  lookupColumn : ∀ table number state row next, server.isClosed state = false →
    (server.lookupColumn table number).run state = (.ok row, next) →
    server.isClosed next = false

/-- What one question to the catalog does on an open connection.  The block of a statement is
committed if the server described it, and rolled back if not. -/
inductive Inquiry (server : Server σ) : σ → List ConnectionEvent → σ → Prop
  | described {sql : String} {state between next : σ} {description : ServerDescription}
    (prepared : (server.prepare sql).run state = (.done (), between))
    (answered : (server.describePrepared sql).run between = (.done description, next)) :
    Inquiry server state [.begin false, .prepare sql, .describePrepared, .commit] next
  | unprepared {sql : String} {state next : σ} {reply : ServerReply Unit}
    (prepared : (server.prepare sql).run state = (reply, next))
    (refused : ∀ value, reply ≠ .done value) :
    Inquiry server state [.begin false, .prepare sql, .rollback] next
  | undescribed {sql : String} {state between next : σ} {reply : ServerReply ServerDescription}
    (prepared : (server.prepare sql).run state = (.done (), between))
    (answered : (server.describePrepared sql).run between = (reply, next))
    (refused : ∀ value, reply ≠ .done value) :
    Inquiry server state [.begin false, .prepare sql, .describePrepared, .rollback] next
  | type {oid : Int} {state next : σ} {answer : Except DatabaseError (Option CatalogType)}
    (asked : (server.lookupType oid).run state = (answer, next)) :
    Inquiry server state [.type oid] next
  | column {table number : Int} {state next : σ}
    {answer : Except DatabaseError (Option CatalogColumn)}
    (asked : (server.lookupColumn table number).run state = (answer, next)) :
    Inquiry server state [.column table number] next

/-- Questions to the catalog, one after the other. -/
inductive Inquiries (server : Server σ) : σ → List ConnectionEvent → σ → Prop
  | nil (state : σ) : Inquiries server state [] state
  | cons {state next last : σ} {trace more : List ConnectionEvent}
    (first : server.Inquiry state trace next) (others : Inquiries server next more last) :
    Inquiries server state (trace ++ more) last

namespace Inquiries

variable {server : Server σ} {state next last : σ} {trace more : List ConnectionEvent}

theorem single (inquiry : server.Inquiry state trace next) :
    server.Inquiries state trace next := by
  have one := cons inquiry (nil next)
  rwa [List.append_nil] at one

theorem append (first : server.Inquiries state trace next)
    (second : server.Inquiries next more last) : server.Inquiries state (trace ++ more) last := by
  induction first with
  | nil => exact second
  | cons inquiry _ ih =>
    rw [List.append_assoc]
    exact cons inquiry (ih second)

end Inquiries

end Server

namespace Client

/-- The connection was opened, and the server has not closed it. -/
def isLive (server : Server σ) (client : Client σ) : Bool :=
  client.isOpen && !server.isClosed client.server

/-- The client after further events, with the server in another state. -/
def advance (client : Client σ) (trace : List ConnectionEvent) (next : σ) : Client σ :=
  { client with events := trace.reverse ++ client.events, server := next }

section Steps

variable (server : Server σ) (client : Client σ) (trace more : List ConnectionEvent) (next last : σ)

@[simp]
theorem advance_server : (client.advance trace next).server = next := rfl

@[simp]
theorem advance_nil : client.advance [] client.server = client := rfl

@[simp]
theorem advance_advance :
    (client.advance trace next).advance more last = client.advance (trace ++ more) last := by
  simp [advance]

theorem isClosed_of_isLive {server : Server σ} {client : Client σ}
    (live : client.isLive server = true) : server.isClosed client.server = false := by
  simp [isLive] at live
  exact live.2

theorem isLive_advance {server : Server σ} {client : Client σ} {next : σ}
    (live : client.isLive server = true) (stands : server.isClosed next = false) :
    (client.advance trace next).isLive server = true := by
  simp [isLive] at live
  simp [isLive, advance, live.1, stands]

theorem run_record (event : ConnectionEvent) :
    (record event).run client = (.ok (), client.advance [event] client.server) := rfl

theorem run_serve (action : StateM σ α) :
    (serve action).run client =
      (.ok (action.run client.server).1, client.advance [] (action.run client.server).2) := rfl

theorem run_serveOr (sorted : DatabaseError → Error) (action : StateM σ (Except DatabaseError α)) :
    (serveOr sorted action).run client =
      ((action.run client.server).1.mapError sorted,
        client.advance [] (action.run client.server).2) := by
  unfold serveOr
  rw [run_bind, run_serve]
  dsimp only
  rcases (action.run client.server).1 with error | value <;> rfl

theorem run_execute (sorted : DatabaseError → Error) (sql : String) :
    (execute server sorted sql).run client =
      (((server.execute sql).run client.server).1.mapError sorted,
        client.advance [.execute sql] ((server.execute sql).run client.server).2) := by
  unfold execute
  rw [run_bind, run_record]
  dsimp only
  rw [run_serveOr]
  simp

theorem run_connect_of_isLive (live : client.isLive server = true) :
    (connect server).run client = (.ok (), client) := by
  unfold isLive at live
  unfold connect
  rw [run_bind, run_get]
  simp only [live, if_true, run_pure]

theorem run_script_of_isLive (live : client.isLive server = true) (sql : String) :
    (script server sql).run client =
      (((server.execute sql).run client.server).1.mapError DatabaseError.ofScript,
        client.advance [.execute sql] ((server.execute sql).run client.server).2) := by
  unfold script
  rw [run_bind, run_connect_of_isLive server client live]
  exact run_execute server client DatabaseError.ofScript sql

/-- How a block ends: it is rolled back if that is forced or if its body failed. -/
def closing (forced : Bool) (result : Except Error α) : ConnectionEvent :=
  if forced then .rollback
  else
    match result with
    | .ok _ => .commit
    | .error _ => .rollback

theorem run_transaction (forced : Bool) (body : Attempt (Client σ) α) :
    (transaction forced body).run client =
      let ran := body.run (client.advance [.begin forced] client.server)
      (ran.1, ran.2.advance [closing forced ran.1] ran.2.server) := by
  unfold transaction
  rw [run_bind, run_record]
  dsimp only
  rw [run_bind, run_tryCatch]
  rcases body.run (client.advance [.begin forced] client.server) with ⟨error | value, after⟩
  · cases forced <;> rfl
  · cases forced <;> rfl

end Steps

end Client

/-- The statements that send the settings of a connection. -/
def ResolvedConfig.settingStatements (config : ResolvedConfig) : List String :=
  config.timeoutStatement.toOption.toList ++ config.searchPathStatement.toList

/-- What happens when a connection is opened: it is made, and its settings are sent. -/
def ResolvedConfig.opening (config : ResolvedConfig) : List ConnectionEvent :=
  .connect config.connection :: config.settingStatements.map .execute

namespace Client

section Opening

variable {server : Server σ}

/-- Send the settings of a connection. -/
def sendSettings (server : Server σ) (config : ResolvedConfig) : Attempt (Client σ) Unit := do
  match config.timeoutStatement with
  | .ok sql => execute server DatabaseError.raw sql
  | .error error => throw error
  match config.searchPathStatement with
  | some sql => execute server DatabaseError.raw sql
  | none => return

/-- Without an open connection, one is made and the settings are sent. -/
theorem run_connect_of_not_isLive {client : Client σ} (dead : client.isLive server = false) :
    (connect server).run client =
      (do
        record (.connect client.config.connection)
        serveOr (DatabaseError.whileConnecting client.config.connection)
          (server.connect client.config.connection)
        modify fun client => { client with isOpen := true }
        sendSettings server client.config : Attempt (Client σ) Unit).run client := by
  unfold isLive at dead
  unfold connect
  rw [run_bind, run_get]
  simp only [dead]
  rfl

/-- The settings are sent in order, up to the first that fails; a server that closes its connection
only with notice leaves it open behind all of them. -/
theorem exists_settings (server : Server σ) (config : ResolvedConfig) (client : Client σ) :
    ∃ trace next, ((sendSettings server config).run client).2 = client.advance trace next ∧
      trace <+: config.settingStatements.map .execute ∧
      (((sendSettings server config).run client).1 = .ok () →
        trace = config.settingStatements.map .execute ∧
        (∃ timeout, config.timeoutStatement = .ok timeout) ∧
        (server.ClosesWithNotice → server.isClosed client.server = false →
          server.isClosed next = false)) := by
  unfold sendSettings ResolvedConfig.settingStatements
  rcases config.timeoutStatement with error | timeout
  · exact ⟨[], client.server, rfl, List.nil_prefix, fun ok => nomatch ok⟩
  simp only [run_bind, run_execute]
  rcases limited : (server.execute timeout).run client.server with ⟨error | ⟨⟩, between⟩
  · refine ⟨[.execute timeout], between, rfl, ?_, fun ok => nomatch ok⟩
    simp [Except.toOption]
  have stood : server.ClosesWithNotice → server.isClosed client.server = false →
      server.isClosed between = false :=
    fun notice stands => notice.execute timeout _ _ stands limited
  rcases config.searchPathStatement with _ | path
  · exact ⟨[.execute timeout], between, rfl, List.prefix_refl _,
      fun _ => ⟨rfl, ⟨timeout, rfl⟩, stood⟩⟩
  simp only [Except.mapError, run_execute, advance_server, advance_advance]
  rcases searched : (server.execute path).run between with ⟨error | ⟨⟩, next⟩
  · exact ⟨_, next, rfl, List.prefix_refl _, fun ok => nomatch ok⟩
  · exact ⟨_, next, rfl, List.prefix_refl _, fun _ => ⟨rfl, ⟨timeout, rfl⟩,
      fun notice stands => notice.execute path _ _ (stood notice stands) searched⟩⟩

/-- A connection that is not open is opened in one go, with part of the opening if that fails. -/
theorem exists_opening {client : Client σ} (dead : client.isLive server = false) :
    ∃ trace next opened,
      ((connect server).run client).2 = { client with isOpen := opened }.advance trace next ∧
      trace ≠ [] ∧ trace <+: client.config.opening ∧
      (((connect server).run client).1 = .ok () → trace = client.config.opening ∧
        (∃ timeout, client.config.timeoutStatement = .ok timeout) ∧
        (server.ClosesWithNotice → ((connect server).run client).2.isLive server = true)) := by
  rw [run_connect_of_not_isLive dead]
  unfold ResolvedConfig.opening
  simp only [run_bind, run_record, run_serveOr, advance_server, advance_advance]
  rcases made : (server.connect client.config.connection).run client.server with ⟨error | ⟨⟩, begun⟩
  · refine ⟨[.connect client.config.connection], begun, client.isOpen, rfl, ?_, ?_, ?_⟩
    · simp
    · simp
    · exact fun ok => nomatch ok
  obtain ⟨trace, next, sent, part, whole⟩ := exists_settings server client.config
    { client.advance [.connect client.config.connection] begun with isOpen := true }
  have opened : ((sendSettings server client.config).run
      { client.advance [.connect client.config.connection] begun with isOpen := true }).2 =
        { client with isOpen := true }.advance
          (.connect client.config.connection :: trace) next := by
    rw [sent]
    simp [advance]
  refine ⟨.connect client.config.connection :: trace, next, true, opened, ?_, ?_, fun ok => ?_⟩
  · simp
  · simpa using part
  · obtain ⟨all, limited, standing⟩ := whole ok
    refine ⟨by rw [all], limited, fun notice => ?_⟩
    have stands := standing notice (notice.connect _ _ _ made)
    have live : Client.isLive server ({ client with isOpen := true }.advance
        (.connect client.config.connection :: trace) next) = true := by
      simp [isLive, advance, stands]
    exact (congrArg (isLive server) opened).trans live

end Opening

end Client

/-- A run can go on after this: a value, or the failure of a single query. -/
def GoesOn (result : Except Error α) : Prop := ∀ error, result = .error error → error.IsInference

theorem goesOn_ok (value : α) : GoesOn (.ok value : Except Error α) :=
  fun _ failed => nomatch failed

theorem goesOn_error_iff (error : Error) :
    GoesOn (.error error : Except Error α) ↔ error.IsInference := by
  constructor
  · exact fun goes => goes error rfl
  · rintro inference _ ⟨⟩
    exact inference

theorem not_goesOn_of_foreign {error : Error} (foreign : Client.Foreign error) :
    ¬ GoesOn (.error error : Except Error α) := by
  rw [goesOn_error_iff]
  rintro ⟨failure, same⟩
  exact foreign failure same

/-- From a client with an open connection to another by questions to the catalog.  The connection
is still open if the run can go on. -/
def Client.Asks (server : Server σ) (client : Client σ) (result : Except Error α)
    (after : Client σ) : Prop :=
  ∃ trace next, after = client.advance trace next ∧ server.Inquiries client.server trace next ∧
    (GoesOn result → after.isLive server = true)

namespace Client

variable {server : Server σ} {client middle after : Client σ}

namespace Asks

theorem live {result : Except Error α} (asks : Asks server client result after)
    (goes : GoesOn result) : after.isLive server = true := by
  obtain ⟨trace, next, same, asked, live⟩ := asks
  exact live goes

theorem still (live : client.isLive server = true) (result : Except Error α) :
    Asks server client result client :=
  ⟨[], client.server, rfl, .nil client.server, fun _ => live⟩

theorem single {trace : List ConnectionEvent} {next : σ} {result : Except Error α}
    (live : client.isLive server = true) (inquiry : server.Inquiry client.server trace next)
    (stands : GoesOn result → server.isClosed next = false) :
    Asks server client result (client.advance trace next) :=
  ⟨trace, next, rfl, .single inquiry, fun goes => isLive_advance trace live (stands goes)⟩

/-- A later result may count, if the run can go on only when it could. -/
theorem trans {result : Except Error α} {last : Except Error β}
    (first : Asks server client result middle) (second : Asks server middle last after) :
    Asks server client last after := by
  obtain ⟨trace, between, rfl, asked, -⟩ := first
  obtain ⟨more, next, rfl, rest, live⟩ := second
  rw [advance_server] at rest
  refine ⟨trace ++ more, next, ?_, asked.append rest, live⟩
  rw [advance_advance]

theorem of_result {result : Except Error α} {other : Except Error β}
    (asks : Asks server client result after) (weaker : GoesOn other → GoesOn result) :
    Asks server client other after := by
  obtain ⟨trace, next, same, asked, live⟩ := asks
  exact ⟨trace, next, same, asked, fun goes => live (weaker goes)⟩

end Asks

section Questions

variable (notice : server.ClosesWithNotice) (live : client.isLive server = true)

include notice live

theorem lookupType_asks (oid : Int) :
    Asks server client ((lookupType server oid).run client).1
      ((lookupType server oid).run client).2 := by
  unfold lookupType
  simp only [run_bind, run_connect_of_isLive server client live, run_record, run_get, run_serveOr,
    advance_server, advance_advance]
  rcases asked : (server.lookupType oid).run client.server with ⟨error | row, next⟩
  · refine .single live (.type asked) fun goes => ?_
    exact absurd goes (not_goesOn_of_foreign (ofServer_ofQuery error _).foreign)
  · exact .single live (.type asked) fun _ =>
      notice.lookupType oid _ _ _ (isClosed_of_isLive live) asked

theorem lookupColumn_asks (table number : Int) :
    Asks server client ((lookupColumn server table number).run client).1
      ((lookupColumn server table number).run client).2 := by
  unfold lookupColumn
  simp only [run_bind, run_connect_of_isLive server client live, run_record, run_get, run_serveOr,
    advance_server, advance_advance]
  rcases asked : (server.lookupColumn table number).run client.server with ⟨error | row, next⟩
  · refine .single live (.column asked) fun goes => ?_
    exact absurd goes (not_goesOn_of_foreign (ofServer_ofQuery error _).foreign)
  · exact .single live (.column asked) fun _ =>
      notice.lookupColumn table number _ _ _ (isClosed_of_isLive live) asked

end Questions

theorem run_valueOf_done (value : α) :
    (valueOf server (.done value)).run client = (.ok value, client) := rfl

variable (server) in
/-- After a reply that is not granted the run can go on only if the connection is usable. -/
theorem run_valueOf_of_refused {reply : ServerReply α} (refused : ∀ value, reply ≠ .done value)
    (client : Client σ) :
    ∃ error, (valueOf server reply).run client = (.error error, client) ∧
      (error.IsInference → reply.IsUsable (server.isLost client.server)) := by
  unfold valueOf
  cases reply with
  | done value => exact absurd rfl (refused value)
  | raised error =>
    refine ⟨_, rfl, ?_⟩
    rintro ⟨failure, same⟩
    exact absurd same ((ofServer_ofStatement error).foreign failure)
  | rejected bytes =>
    simp only [run_bind, run_get]
    by_cases lost : server.isLost client.server = true
    · rw [if_pos lost]
      refine ⟨_, rfl, ?_⟩
      rintro ⟨failure, ⟨⟩⟩
    · rw [if_neg lost]
      refine ⟨_, rfl, fun _ => ?_⟩
      simpa [ServerReply.IsUsable] using lost

theorem describe_asks (notice : server.ClosesWithNotice) (live : client.isLive server = true)
    (sql : String) :
    Asks server client ((describe server sql).run client).1
      ((describe server sql).run client).2 := by
  have stands := isClosed_of_isLive live
  unfold describe
  simp only [run_bind, run_connect_of_isLive server client live, run_transaction, run_record,
    run_serve, advance_server, advance_advance, List.cons_append, List.nil_append]
  rcases prepared : (server.prepare sql).run client.server with ⟨reply, between⟩
  obtain ⟨value, rfl⟩ | refused := reply.done_or_refused
  · have stood := notice.prepare sql _ _ _ stands prepared trivial
    simp only [run_valueOf_done, advance_server, advance_advance, List.cons_append, List.nil_append]
    rcases answered : (server.describePrepared sql).run between with ⟨reply, next⟩
    obtain ⟨description, rfl⟩ | refused := reply.done_or_refused
    · have standing := notice.describePrepared sql _ _ _ stood answered trivial
      simp only [run_valueOf_done, run_pure, advance_server, advance_advance]
      exact .single live (.described prepared answered) fun _ => standing
    · obtain ⟨error, ran, usable⟩ := run_valueOf_of_refused server refused
        (client.advance [.begin false, .prepare sql, .describePrepared] next)
      simp only [ran, advance_server, advance_advance]
      refine .single live (.undescribed prepared answered refused) fun goes => ?_
      rw [goesOn_error_iff] at goes
      exact notice.describePrepared sql _ _ _ stood answered (usable goes)
  · obtain ⟨error, ran, usable⟩ := run_valueOf_of_refused server refused
      (client.advance [.begin false, .prepare sql] between)
    simp only [ran, advance_server, advance_advance]
    refine .single live (.unprepared prepared refused) fun goes => ?_
    rw [goesOn_error_iff] at goes
    exact notice.prepare sql _ _ _ stands prepared (usable goes)

end Client

/-- From an open connection on, the action only asks the catalog. -/
def Attempt.Inquires (server : Server σ) (action : Attempt (Resolving (Client σ)) α) : Prop :=
  ∀ state, state.session.isLive server = true →
    Client.Asks server state.session (action.run state).1 (action.run state).2.session

namespace Attempt.Inquires

variable {server : Server σ}

/-- An action that leaves the session alone asks nothing. -/
theorem of_session {action : Attempt (Resolving (Client σ)) α}
    (alone : ∀ state, (action.run state).2.session = state.session) : Inquires server action := by
  intro state live
  rw [alone]
  exact .still live _

theorem asking {question : Attempt (Client σ) α}
    (asks : ∀ client : Client σ, client.isLive server = true →
      Client.Asks server client (question.run client).1 (question.run client).2) :
    Inquires server (Resolving.asking question) :=
  fun state live => asks state.session live

theorem bind {first : Attempt (Resolving (Client σ)) α}
    {next : α → Attempt (Resolving (Client σ)) β} (one : Inquires server first)
    (others : ∀ value, Inquires server (next value)) : Inquires server (first >>= next) := by
  intro state live
  have asked := one state live
  rw [run_bind]
  rcases ran : first.run state with ⟨error | value, after⟩ <;> rw [ran] at asked
  · refine asked.of_result fun goes => ?_
    rw [goesOn_error_iff] at goes ⊢
    exact goes
  · exact asked.trans (others value after (asked.live (goesOn_ok value)))

/-- Only the failure of a single query is handled in any way. -/
theorem tryCatch {body : Attempt (Resolving (Client σ)) α}
    {handler : Error → Attempt (Resolving (Client σ)) α} (one : Inquires server body)
    (handled : ∀ error, error.IsInference → Inquires server (handler error))
    (passed : ∀ error, ¬ error.IsInference → handler error = throw error) :
    Inquires server (MonadExcept.tryCatch body handler) := by
  intro state live
  have asked := one state live
  rw [run_tryCatch]
  rcases ran : body.run state with ⟨error | value, after⟩ <;> rw [ran] at asked
  · dsimp only
    by_cases inference : error.IsInference
    · have goes : GoesOn (.error error : Except Error α) := (goesOn_error_iff error).mpr inference
      exact asked.trans (handled error inference after (asked.live goes))
    · rw [passed error inference]
      exact asked
  · exact asked

end Attempt.Inquires

theorem Attempt.Inquires.stepProperty {server : Server σ} (notice : server.ClosesWithNotice) :
    StepProperty (Client.session server) (Attempt.Inquires server) where
  describe sql := .asking fun client live => client.describe_asks notice live sql
  lookupType oid := .asking fun client live => client.lookupType_asks notice live oid
  lookupColumn table number := .asking fun client live =>
    client.lookupColumn_asks notice live table number
  alone action := .of_session fun state => (action state).1
  bind := .bind
  recover := .tryCatch

/-- While files are inferred an open connection sees questions to the catalog, and nothing else. -/
theorem Generation.inferAll_asks {server : Server σ} (notice : server.ClosesWithNotice)
    (tree : FileTree) (keepGoing : Bool) (files : List FilePath) {client : Client σ}
    (live : client.isLive server = true) :
    Client.Asks server client
      ((inferAll (Client.session server) tree keepGoing files).run client).1
      ((inferAll (Client.session server) tree keepGoing files).run client).2 := by
  have steps := Attempt.Inquires.stepProperty notice
  have each (file : FilePath) :
      (inferFile (Client.session server) tree keepGoing file).Inquires server := by
    unfold inferFile
    split
    · exact steps.inferQueries keepGoing _ _
    · exact .of_session fun _ => rfl
  exact steps.mapM each files ⟨client, {}⟩ live

end QueryTyping
