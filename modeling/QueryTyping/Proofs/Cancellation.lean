import QueryTyping.Proofs.Footing
import QueryTyping.Proofs.ManifestFiles
import QueryTyping.Proofs.SchemaRollback

/-!
# Cancelled statements

The server may cancel what it is asked for (`Footing.Cancels`), and that ends a run: no
step of a client goes on after it (`Client.Heeds`).  What the run ends with depends on what
was cancelled (`CancelledEnding`).  A question to the catalog ends it as a timeout; a
script or the preparation of a statement ends it as if the connection were at fault
(`Generation.cancelled_run_ends`).
-/

namespace QueryTyping

open Attempt

variable {σ α β : Type}

/-- The server cancels what the event asks for, with this message. -/
def Footing.Cancels (server : Server σ) (message : String) (footing : Footing σ) :
    ConnectionEvent → Prop
  | .execute sql => ((server.execute sql).run footing.server).1 = .error ⟨.canceled, message⟩
  | .prepare sql => ((server.prepare sql).run footing.server).1 = .raised ⟨.canceled, message⟩
  | .describePrepared =>
    ((server.describePrepared footing.prepared).run footing.server).1 =
      .raised ⟨.canceled, message⟩
  | .type oid => ((server.lookupType oid).run footing.server).1 = .error ⟨.canceled, message⟩
  | .column table number =>
    ((server.lookupColumn table number).run footing.server).1 = .error ⟨.canceled, message⟩
  | .query sql params =>
    ((server.query sql params).run footing.server).1 = .error ⟨.canceled, message⟩
  | _ => False

/-- The event asks the catalog for a row. -/
def ConnectionEvent.LooksUp : ConnectionEvent → Prop
  | .type _ => True
  | .column _ _ => True
  | _ => False

/-- What a run ends with after the server cancelled what an event asked for. -/
inductive CancelledEnding (config : ResolvedConfig) (message : String) :
    ConnectionEvent → Error → Prop
  | setting {sql : String} (sent : sql ∈ config.settingStatements) :
    CancelledEnding config message (.execute sql) (.unforeseen (.database ⟨.canceled, message⟩))
  | script {sql : String} :
    CancelledEnding config message (.execute sql)
      (.failure (.network ("Database error: " ++ message)))
  | prepare {sql : String} :
    CancelledEnding config message (.prepare sql)
      (.failure (.network ("Database error: " ++ message)))
  | describePrepared :
    CancelledEnding config message .describePrepared
      (.failure (.network ("Database error: " ++ message)))
  | lookUp {event : ConnectionEvent} (looksUp : event.LooksUp) :
    CancelledEnding config message event
      (.failure (.timeout ("Query timed out after " ++ config.statementTimeout.text ++ "s: " ++
        message)))

namespace CancelledEnding

variable {config : ResolvedConfig} {message : String} {event : ConnectionEvent} {error : Error}

theorem not_isInference (ending : CancelledEnding config message event error) :
    ¬ error.IsInference := by
  rintro ⟨failure, rfl⟩
  cases ending

/-- Only a question to the catalog ends a run with the status of a timeout. -/
theorem exitStatus_eq_iff (ending : CancelledEnding config message event error) :
    error.exitStatus = 6 ↔ event.LooksUp := by
  cases ending with
  | lookUp looksUp => exact iff_of_true rfl looksUp
  | _ => exact iff_of_false (by simp [Error.exitStatus, Failure.exitStatus]) id

end CancelledEnding

namespace Client

/-- The result is what the server's cancellation of the event leads to, if it cancels it. -/
def Reports (server : Server σ) (config : ResolvedConfig) (result : Except Error α)
    (footing : Footing σ) (event : ConnectionEvent) : Prop :=
  ∀ message, footing.Cancels server message event →
    ∃ error, result = .error error ∧ CancelledEnding config message event error

/-- From one client to another, each event where it happened: whatever the server cancelled, the
result reports it. -/
def Heeds (server : Server σ) (client : Client σ) (result : Except Error α) (after : Client σ) :
    Prop :=
  ∃ trace, after.events = trace ++ client.events ∧ after.config = client.config ∧
    ∀ origin : Footing σ, origin.server = client.server →
      (server.footing origin trace).server = after.server ∧
        server.Meets origin (Reports server client.config result) trace

variable {server : Server σ} {client middle after : Client σ}

/-- The other result has the same error, unless that is the failure of a query. -/
def Passes (result : Except Error α) (other : Except Error β) : Prop :=
  ∀ error, result = .error error → ¬ error.IsInference → other = .error error

theorem passes_ok (value : α) (other : Except Error β) : Passes (.ok value) other :=
  fun _ failed => nomatch failed

theorem passes_error (error : Error) :
    Passes (.error error : Except Error α) (.error error : Except Error β) := by
  rintro _ ⟨⟩ -
  rfl

theorem passes_self (result : Except Error α) : Passes result result :=
  fun _ same _ => same

theorem Reports.pass {result : Except Error α} {other : Except Error β} {config : ResolvedConfig}
    {footing : Footing σ} {event : ConnectionEvent} (passes : Passes result other)
    (reports : Reports server config result footing event) :
    Reports server config other footing event := by
  intro message cancels
  obtain ⟨error, same, ending⟩ := reports message cancels
  exact ⟨error, passes error same ending.not_isInference, ending⟩

namespace Heeds

theorem still (server : Server σ) (client : Client σ) (result : Except Error α) :
    Heeds server client result client :=
  ⟨[], rfl, rfl, fun _ same => ⟨same, server.meets_nil _⟩⟩

/-- One event that the server follows, and whose cancellation is reported. -/
theorem single {event : ConnectionEvent} {result : Except Error α} {next : σ}
    (follows : ∀ origin : Footing σ, origin.server = client.server →
      (origin.after server event).server = next)
    (reports : ∀ origin : Footing σ, origin.server = client.server →
      Reports server client.config result origin event) :
    Heeds server client result (client.advance [event] next) := by
  refine ⟨[event], rfl, rfl, fun origin same => ⟨follows origin same, ?_⟩⟩
  rw [server.meets_cons_iff]
  exact ⟨reports origin same, server.meets_nil _⟩

/-- A later result counts, if it has the errors of the earlier one. -/
theorem trans {result : Except Error α} {last : Except Error β}
    (first : Heeds server client result middle) (passes : Passes result last)
    (second : Heeds server middle last after) : Heeds server client last after := by
  obtain ⟨trace, went, kept, replayed⟩ := first
  obtain ⟨more, further, keeps, replays⟩ := second
  refine ⟨more ++ trace, by rw [further, went, List.append_assoc], keeps.trans kept, ?_⟩
  intro origin same
  obtain ⟨reached, early⟩ := replayed origin same
  obtain ⟨ended, late⟩ := replays (server.footing origin trace) reached
  rw [server.footing_append, server.meets_append_iff]
  rw [kept] at late
  exact ⟨ended, late, fun event earlier part => (early event earlier part).pass passes⟩

theorem of_result {result : Except Error α} {other : Except Error β}
    (heeds : Heeds server client result after) (passes : Passes result other) :
    Heeds server client other after :=
  heeds.trans passes (.still server after other)

/-- Whether the connection counts as open is not told by events. -/
theorem opened {result : Except Error α} (heeds : Heeds server client result after)
    (opened : Bool) : Heeds server client result { after with isOpen := opened } := heeds

end Heeds

end Client

/-- Whatever the server cancels while a client performs the action, the result reports it. -/
def Attempt.Heeds (server : Server σ) (action : Attempt (Client σ) α) : Prop :=
  ∀ client, Client.Heeds server client (action.run client).1 (action.run client).2

namespace Attempt.Heeds

open Client

variable {server : Server σ}

theorem pure (value : α) : Heeds server (Pure.pure value) :=
  fun client => .still server client _

theorem throw (error : Error) : Heeds server (MonadExcept.throw error : Attempt (Client σ) α) :=
  fun client => .still server client _

theorem bind {first : Attempt (Client σ) α} {next : α → Attempt (Client σ) β}
    (one : Heeds server first) (others : ∀ value, Heeds server (next value)) :
    Heeds server (first >>= next) := by
  intro client
  have begins := one client
  rw [run_bind]
  rcases ran : first.run client with ⟨error | value, middle⟩ <;> rw [ran] at begins
  · exact begins.of_result (passes_error error)
  · exact begins.trans (passes_ok value _) (others value middle)

/-- A block is begun and ended without a question that could be cancelled. -/
theorem transaction (forced : Bool) {body : Attempt (Client σ) α} (heeds : Heeds server body) :
    Heeds server (Client.transaction forced body) := by
  intro client
  rw [run_transaction]
  dsimp only
  have begins : Client.Heeds server client (.ok () : Except Error Unit)
      (client.advance [.begin forced] client.server) := by
    refine .single (fun origin same => ?_) fun origin same message cancels => ?_
    · simpa [Footing.after] using same
    · exact False.elim cancels
  refine begins.trans (passes_ok () _) ((heeds _).trans (passes_self _) ?_)
  unfold closing
  refine .single (fun origin same => ?_) fun origin same message cancels => ?_
  · split
    · exact same
    · split <;> exact same
  · split at cancels
    · exact False.elim cancels
    · split at cancels <;> exact False.elim cancels

end Attempt.Heeds

namespace Client

section Settings

variable (server : Server σ) (client : Client σ)

theorem execute_heeds (sorted : DatabaseError → Error) (sql : String)
    (sorts : ∀ message, CancelledEnding client.config message (.execute sql)
      (sorted ⟨.canceled, message⟩)) :
    Heeds server client ((execute server sorted sql).run client).1
      ((execute server sorted sql).run client).2 := by
  rw [run_execute]
  refine .single (fun origin same => ?_) fun origin same message cancels => ?_
  · rw [origin.server_execute, same]
  · simp only [Footing.Cancels, same] at cancels
    rw [cancels]
    exact ⟨_, rfl, sorts message⟩

theorem sendSettings_heeds :
    Heeds server client ((sendSettings server client.config).run client).1
      ((sendSettings server client.config).run client).2 := by
  have settings : client.config.settingStatements =
      client.config.timeoutStatement.toOption.toList ++ client.config.searchPathStatement.toList :=
    rfl
  unfold sendSettings
  rcases limit : client.config.timeoutStatement with error | timeout <;> rw [limit] at settings
  · exact .still server client _
  have limits := execute_heeds server client DatabaseError.raw timeout fun message =>
    .setting (by simp [settings, Except.toOption])
  rw [run_bind]
  rcases limited : (execute server DatabaseError.raw timeout).run client with ⟨error | ⟨⟩, between⟩ <;>
    rw [limited] at limits
  · exact limits.of_result (passes_error error)
  have kept : between.config = client.config := by
    obtain ⟨_, _, kept, _⟩ := limits
    exact kept
  refine limits.trans (passes_ok () _) ?_
  rcases path : client.config.searchPathStatement with _ | sql <;> rw [path] at settings
  · exact .still server between _
  · refine execute_heeds server between DatabaseError.raw sql fun message => .setting ?_
    rw [kept]
    simp [settings]

end Settings

section Steps

variable (server : Server σ)

theorem connect_heeds : Attempt.Heeds server (connect server) := by
  intro client
  cases live : client.isLive server with
  | true =>
    rw [run_connect_of_isLive server client live]
    exact .still server client _
  | false =>
    rw [run_connect_of_not_isLive live]
    simp only [run_bind, run_record, run_serveOr, advance_server, advance_advance]
    have connects (result : Except Error Unit) : Heeds server client result
        (client.advance [.connect client.config.connection]
          ((server.connect client.config.connection).run client.server).2) := by
      refine .single (fun origin same => ?_) fun origin same message cancels => False.elim cancels
      rcases made : (server.connect client.config.connection).run client.server with
        ⟨error | ⟨⟩, next⟩ <;> simp [Footing.after, same, made]
    rcases made : (server.connect client.config.connection).run client.server with
      ⟨error | ⟨⟩, next⟩ <;> rw [made] at connects
    · exact connects _
    · exact ((connects (.ok ())).opened true).trans (passes_ok () _) (sendSettings_heeds server _)

theorem script_heeds (sql : String) : Attempt.Heeds server (script server sql) :=
  .bind (connect_heeds server) fun _ client =>
    execute_heeds server client DatabaseError.ofScript sql fun _ => .script

theorem lookupType_heeds (oid : Int) : Attempt.Heeds server (lookupType server oid) := by
  refine .bind (connect_heeds server) fun _ client => ?_
  simp only [run_bind, run_record, run_get, run_serveOr, advance_server, advance_advance]
  refine .single (fun origin same => ?_) fun origin same message cancels => ?_
  · simp [Footing.after, same]
  · simp only [Footing.Cancels, same] at cancels
    rw [cancels]
    exact ⟨_, rfl, .lookUp trivial⟩

theorem lookupColumn_heeds (table number : Int) :
    Attempt.Heeds server (lookupColumn server table number) := by
  refine .bind (connect_heeds server) fun _ client => ?_
  simp only [run_bind, run_record, run_get, run_serveOr, advance_server, advance_advance]
  refine .single (fun origin same => ?_) fun origin same message cancels => ?_
  · simp [Footing.after, same]
  · simp only [Footing.Cancels, same] at cancels
    rw [cancels]
    exact ⟨_, rfl, .lookUp trivial⟩

/-- A reply that is refused leads to an error, and a cancellation to that of the connection. -/
theorem exists_refusal {reply : ServerReply α} (refused : ∀ value, reply ≠ .done value)
    (client : Client σ) :
    ∃ error, (valueOf server reply).run client = (.error error, client) ∧
      ∀ message, reply = .raised ⟨.canceled, message⟩ →
        error = .failure (.network ("Database error: " ++ message)) := by
  obtain ⟨error, ran, -⟩ := run_valueOf_of_refused server refused client
  refine ⟨error, ran, ?_⟩
  rintro message rfl
  cases ran
  rfl

/-- The server is asked about the statement that was just prepared, so the two events of a
description belong together. -/
theorem describe_heeds (sql : String) : Attempt.Heeds server (describe server sql) := by
  refine .bind (connect_heeds server) fun _ => .bind (.transaction false fun client => ?_)
    fun _ => .pure _
  simp only [run_bind, run_record, run_serve, advance_server, advance_advance, List.cons_append,
    List.nil_append]
  rcases prepared : (server.prepare sql).run client.server with ⟨reply, between⟩
  obtain ⟨⟨⟩, rfl⟩ | refused := reply.done_or_refused
  · simp only [run_valueOf_done, advance_server, advance_advance, List.cons_append, List.nil_append]
    rcases answered : (server.describePrepared sql).run between with ⟨reply, next⟩
    have replay (origin : Footing σ) (same : origin.server = client.server) :
        (origin.after server (.prepare sql)).prepared = sql ∧
          (origin.after server (.prepare sql)).server = between := by
      simp [Footing.after, same, prepared]
    have heeds {result : Except Error ServerDescription}
        (reports : ∀ message, reply = .raised ⟨.canceled, message⟩ →
          result = .error (.failure (.network ("Database error: " ++ message)))) :
        Heeds server client result
          (client.advance [.prepare sql, .describePrepared] next) := by
      refine ⟨[.describePrepared, .prepare sql], rfl, rfl, fun origin same => ?_⟩
      obtain ⟨asked, reached⟩ := replay origin same
      simp only [Server.footing_cons, Server.footing_nil, Server.meets_cons_iff, Server.meets_nil,
        and_true]
      refine ⟨?_, fun message cancels => ?_, fun message cancels => ?_⟩
      · simp [Footing.after, same, prepared, answered]
      · simp only [Footing.Cancels, asked, reached, answered] at cancels
        exact ⟨_, reports message cancels, .describePrepared⟩
      · simp only [Footing.Cancels, same, prepared] at cancels
        cases cancels
    obtain ⟨description, rfl⟩ | refused := reply.done_or_refused
    · apply heeds
      rintro message ⟨⟩
    · obtain ⟨error, ran, reports⟩ := exists_refusal server refused
        (client.advance [.prepare sql, .describePrepared] next)
      rw [ran]
      exact heeds fun message raised => by rw [reports message raised]
  · obtain ⟨error, ran, reports⟩ := exists_refusal server refused
      (client.advance [.prepare sql] between)
    rw [ran]
    refine .single (fun origin same => ?_) fun origin same message cancels => ?_
    · simp [Footing.after, same, prepared]
    · simp only [Footing.Cancels, same, prepared] at cancels
      rw [reports message cancels]
      exact ⟨_, rfl, .prepare⟩

/-- Inferences heed cancellations: only failures of a query are handled, and a cancellation is
none. -/
theorem heeds_stepProperty : StepProperty (Client.session server)
    (fun {α} (action : Attempt (Resolving (Client σ)) α) => ∀ state,
      Heeds server state.session (action.run state).1 (action.run state).2.session) where
  describe sql state := describe_heeds server sql state.session
  lookupType oid state := lookupType_heeds server oid state.session
  lookupColumn table number state := lookupColumn_heeds server table number state.session
  alone action state := by
    rw [(action state).1]
    exact .still server _ _
  bind {_ _ first next} one others state := by
    have begins := one state
    rw [run_bind]
    rcases ran : first.run state with ⟨error | value, middle⟩ <;> rw [ran] at begins
    · exact begins.of_result (passes_error error)
    · exact begins.trans (passes_ok value _) (others value middle)
  recover {_ body handler} one handled passed state := by
    have begins := one state
    rw [run_tryCatch]
    rcases ran : body.run state with ⟨error | value, middle⟩ <;> rw [ran] at begins
    · dsimp only
      by_cases inference : error.IsInference
      · refine begins.trans ?_ (handled error inference middle)
        rintro _ ⟨⟩ foreign
        exact absurd inference foreign
      · rw [passed error inference]
        exact begins
    · exact begins

end Steps

end Client

namespace Generation

open Client

variable (server : Server σ) (tree : FileTree)

theorem inferAll_heeds (keepGoing : Bool) (files : List FilePath) :
    Attempt.Heeds server (inferAll (Client.session server) tree keepGoing files) := by
  have steps := heeds_stepProperty server
  intro client
  refine steps.mapM (fun file => ?_) files ⟨client, {}⟩
  unfold inferFile
  split
  · exact steps.inferQueries keepGoing _ _
  · exact fun state => .still server _ _

theorem loadSchema_heeds (files : List FilePath) :
    Attempt.Heeds server (loadSchema server tree files) := by
  induction files with
  | nil => exact .pure ()
  | cons file rest ih =>
    unfold loadSchema
    split
    · exact .bind (script_heeds server _) fun _ => ih
    · exact .bind (.throw _) fun _ => ih

theorem inferFiles_heeds (keepGoing : Bool) (queryFiles schemaFiles : List FilePath) :
    Attempt.Heeds server (inferFiles server tree keepGoing queryFiles schemaFiles) := by
  have infers := inferAll_heeds server tree keepGoing queryFiles
  unfold inferFiles withSchema
  split
  · exact infers
  · exact .bind (connect_heeds server) fun _ => .transaction true <|
      .bind (loadSchema_heeds server tree schemaFiles) fun _ => infers

/-- A run ends as the server's cancellation of any of its events says, and only with the status of
a timeout if the event is a question to the catalog.  No file is written then. -/
def EndsAsCancelled (action : Attempt (Workplace σ) α) (workplace : Workplace σ) : Prop :=
  let run := action.run workplace
  ∃ trace, run.2.client.events = trace ++ workplace.client.events ∧
    ∀ event earlier message, event :: earlier <:+ trace →
      (server.footing { server := workplace.client.server } earlier).Cancels server message event →
        ∃ error, run.1 = .error error ∧
          CancelledEnding workplace.client.config message event error ∧
          (error.exitStatus = 6 ↔ event.LooksUp) ∧ run.2.tree = workplace.tree

theorem endsAsCancelled_of_heeds {action : Attempt (Workplace σ) α} {workplace : Workplace σ}
    (result : Except Error β)
    (heeds : Heeds server workplace.client result (action.run workplace).2.client)
    (failed : ∀ error, result = .error error →
      (action.run workplace).1 = .error error ∧
        (action.run workplace).2.tree = workplace.tree) :
    EndsAsCancelled server action workplace := by
  obtain ⟨trace, went, -, replays⟩ := heeds
  refine ⟨trace, went, fun event earlier message part cancels => ?_⟩
  obtain ⟨error, same, ending⟩ := (replays _ rfl).2 event earlier part message cancels
  obtain ⟨raised, unwritten⟩ := failed error same
  exact ⟨error, raised, ending, ending.exitStatus_eq_iff, unwritten⟩

theorem generate_endsAsCancelled (keepGoing : Bool) (queryFiles schemaFiles : List FilePath)
    (outputDir : FilePath) (workplace : Workplace σ) :
    EndsAsCancelled server (generate server keepGoing queryFiles outputDir schemaFiles)
      workplace := by
  have heeds := inferFiles_heeds server workplace.tree keepGoing queryFiles schemaFiles
    workplace.client
  have generates := run_generate server keepGoing queryFiles outputDir schemaFiles workplace
  rcases checked : Manifest.checkCollisions queryFiles outputDir with failure | ⟨⟩ <;>
    rw [checked] at generates
  · refine endsAsCancelled_of_heeds server (.ok ()) ?_ fun error failed => nomatch failed
    rw [generates]
    exact .still server _ _
  dsimp only at generates
  rcases ran : (inferFiles server workplace.tree keepGoing queryFiles schemaFiles).run
    workplace.client with ⟨error | outcomes, client⟩ <;> rw [ran] at heeds generates
  · refine endsAsCancelled_of_heeds server (.error error : Except Error Unit) ?_ ?_
    · rw [generates]
      exact heeds.of_result (passes_error error)
    · rintro _ ⟨⟩
      rw [generates]
      exact ⟨rfl, rfl⟩
  · -- Whatever the writing comes to, the server is not asked again.
    refine endsAsCancelled_of_heeds server (.ok outcomes) ?_ fun error failed => nomatch failed
    have written := client_writeManifests outputDir (queryFiles.zip outcomes)
      { workplace with client }
    rw [generates]
    dsimp only
    rw [run_bind]
    rcases wrote : (writeManifests outputDir (queryFiles.zip outcomes)).run
      { workplace with client } with ⟨error | paths, last⟩ <;> rw [wrote] at written
    · rw [show last.client = client from written]
      exact heeds
    · dsimp only
      rw [run_pure, show last.client = client from written]
      exact heeds

/-- Wherever the server cancels something, the run ends there, whether failures are kept or not, and
nothing is written.  It ends as a timeout exactly if a question to the catalog was cancelled: after
a script, a prepared or a described statement it ends as without a connection, and after a setting
of the connection with the error itself. -/
theorem cancelled_run_ends (keepGoing : Bool) (queryFiles schemaFiles : List FilePath)
    (outputDir : FilePath) (workplace : Workplace σ) :
    EndsAsCancelled server
        (Workplace.ask (inferFiles server workplace.tree keepGoing queryFiles schemaFiles))
        workplace ∧
      EndsAsCancelled server (generate server keepGoing queryFiles outputDir schemaFiles)
        workplace := by
  have heeds := inferFiles_heeds server workplace.tree keepGoing queryFiles schemaFiles
    workplace.client
  refine ⟨?_, generate_endsAsCancelled server keepGoing queryFiles schemaFiles outputDir workplace⟩
  exact endsAsCancelled_of_heeds server _ heeds fun error failed => ⟨failed, rfl⟩

/-- What a server says when it cancels. -/
def cancelMessage : String := "canceling statement due to statement timeout"

/-- A server that does not answer questions for types in time. -/
def slowCatalog : Server ScriptedServer :=
  { ScriptedServer.server with lookupType := fun _ => pure (.error ⟨.canceled, cancelMessage⟩) }

/-- A query with a type that only the catalog knows. -/
def moodScript : ServerScript where
  statements := [("SELECT 1", .described ⟨[], [{ name := some "mood", typeOid := 16385 }]⟩)]

/-- The question for a type is cancelled, and the run times out although failures are kept. -/
theorem cancelled_run_ends_lookup :
    let workplace : Workplace ScriptedServer :=
      ⟨{ config := {}, server := { script := moodScript } }, shelf⟩
    let run := (generate slowCatalog true [oneFile] ⟨0, ["out"]⟩ []).run workplace
    run.1 = .error (.failure (.timeout ("Query timed out after 30.0s: " ++ cancelMessage))) ∧
      EndsAsCancelled slowCatalog (generate slowCatalog true [oneFile] ⟨0, ["out"]⟩ [])
        workplace := by
  intro workplace run
  refine ⟨?_, (cancelled_run_ends slowCatalog true [oneFile] [] ⟨0, ["out"]⟩ workplace).2⟩
  have checked : Manifest.checkCollisions [oneFile] ⟨0, ["out"]⟩ = .ok () := by rfl
  simp only [run, run_generate, checked, workplace, inferFiles, withSchema, inferAll, inferFile,
    List.mapM_cons, readQueries_oneFile]
  rfl

/-- A server that cancels a script. -/
def slowScript : ScriptedServer where
  script := { executions := [("CREATE TABLE author ()", ⟨.canceled, cancelMessage⟩)] }

/-- A cancelled script is no timeout: the run ends as without a connection. -/
theorem cancelled_script_ends_as_network :
    let server := ScriptedServer.server
    let workplace : Workplace ScriptedServer := ⟨{ config := {}, server := slowScript }, halfSchema⟩
    let run := (generate server true [⟨0, ["find.sql"]⟩] ⟨0, ["out"]⟩ [⟨0, ["schema.sql"]⟩]).run
      workplace
    let earlier : List ConnectionEvent :=
      [.begin true, .execute "SET statement_timeout = 30000", .connect {}]
    run.2.client.events = .rollback :: .execute "CREATE TABLE author ()" :: earlier ∧
      (server.footing { server := slowScript } earlier).Cancels server cancelMessage
        (.execute "CREATE TABLE author ()") ∧
      run.1 = .error (.failure (.network ("Database error: " ++ cancelMessage))) ∧
      (∀ error, run.1 = .error error → error.exitStatus ≠ 6) := by
  intro server workplace run earlier
  have checked : Manifest.checkCollisions [⟨0, ["find.sql"]⟩] ⟨0, ["out"]⟩ = .ok () := by rfl
  have ran : run.1 = .error (.failure (.network ("Database error: " ++ cancelMessage))) ∧
      run.2.client.events = .rollback :: .execute "CREATE TABLE author ()" :: earlier := by
    simp only [run, run_generate, checked, workplace, inferFiles, withSchema, loadSchema,
      halfSchema_readSchema]
    exact ⟨rfl, rfl⟩
  refine ⟨ran.2, rfl, ran.1, fun error failed => ?_⟩
  rw [ran.1] at failed
  cases failed
  decide

end Generation

end QueryTyping
