import Mathlib.Data.List.Induction
import QueryTyping.Connection.Script
import QueryTyping.Proofs.Footing

/-!
# Settings come before statements

A client may be called in any order, after failed calls too (`Client.afterCalls`).  A
call that opens a connection sends its settings before anything else.  But the client
keeps the connection if that fails, and later calls use it as it is: a statement is sent
before the settings exactly if a call finds such a connection open
(`Client.sends_settings_first_iff`).
-/

namespace QueryTyping

open Attempt

variable {σ : Type}

/-- What a client can be asked to do. -/
inductive ClientCall where
  | connect
  | query (sql : String) (params : Option (List (String × Json)))
  | script (sql : String)
  | describe (sql : String)
  | lookupType (oid : Int)
  | lookupColumn (table number : Int)
  | close

namespace ClientCall

def perform (server : Server σ) : ClientCall → Attempt (Client σ) Unit
  | connect => Client.connect server
  | query sql params => discard (Client.query server sql params)
  | script sql => Client.script server sql
  | describe sql => discard (Client.describe server sql)
  | lookupType oid => discard (Client.lookupType server oid)
  | lookupColumn table number => discard (Client.lookupColumn server table number)
  | close => Client.close

/-- The call sends a statement besides the settings. -/
def Sends (config : ResolvedConfig) : ClientCall → Prop
  | connect => False
  | script sql => sql ∉ config.settingStatements
  | close => False
  | _ => True

end ClientCall

namespace Client

variable (server : Server σ)

/-- The client after a call, whatever came of it. -/
def afterCall (client : Client σ) (call : ClientCall) : Client σ :=
  ((call.perform server).run client).2

/-- The client after calls, some of which may have failed. -/
def afterCalls (client : Client σ) (calls : List ClientCall) : Client σ :=
  calls.foldl (afterCall server) client

end Client

namespace Footing

variable (config : ResolvedConfig) (footing : Footing σ)

/-- The time limit, and the search path if there is one, were set on the connection. -/
def IsConfigured : Prop :=
  (∃ timeout, config.timeoutStatement = .ok timeout) ∧
    ∀ sql ∈ config.settingStatements, sql ∈ footing.executed

/-- Statements come on a connection with its settings, except for the settings. -/
def IsConfiguredFor : ConnectionEvent → Prop
  | .connect _ => True
  | .commit => True
  | .rollback => True
  | .close => True
  | .execute sql => sql ∈ config.settingStatements ∨ footing.IsConfigured config
  | _ => footing.IsConfigured config

end Footing

/-- What is sent on a connection after it was looked for: from one state of the server to another,
with statements if it `sends` any.  Nothing that was executed before is lost. -/
structure Server.Talk (server : Server σ) (config : ResolvedConfig) (sends : Prop)
    (trace : List ConnectionEvent) (state next : σ) : Prop where
  follows : ∀ footing : Footing σ, footing.server = state →
    (server.footing footing trace.reverse).server = next
  keeps : ∀ footing : Footing σ, footing.server = state →
    footing.executed ⊆ (server.footing footing trace.reverse).executed
  meets : ∀ footing : Footing σ, footing.server = state →
    (server.Meets footing (Footing.IsConfiguredFor config) trace.reverse ↔
      (sends → footing.IsConfigured config))

section Talk

variable {server : Server σ} {config : ResolvedConfig} {state next : σ}

theorem Footing.IsConfigured.mono {footing other : Footing σ} (configured : footing.IsConfigured config)
    (more : footing.executed ⊆ other.executed) : other.IsConfigured config :=
  ⟨configured.1, fun sql sent => more (configured.2 sql sent)⟩

open Client

theorem run_discard {S α : Type} (action : Attempt S α) (state : S) :
    (discard action : Attempt S Unit).run state =
      ((action.run state).1.map fun _ => (), (action.run state).2) := by
  change (action >>= fun _ => pure ()).run state = _
  rw [run_bind]
  rcases action.run state with ⟨error | value, after⟩ <;> rfl

/-- One statement is sent. -/
theorem Server.Talk.single {event : ConnectionEvent} {sends : Prop}
    (follows : ∀ footing : Footing σ, footing.server = state →
      (footing.after server event).server = next)
    (keeps : ∀ footing : Footing σ, footing.executed ⊆ (footing.after server event).executed)
    (meets : ∀ footing : Footing σ,
      footing.IsConfiguredFor config event ↔ (sends → footing.IsConfigured config)) :
    server.Talk config sends [event] state next where
  follows := follows
  keeps footing _ := keeps footing
  meets footing _ := by simpa using meets footing

variable (server config) in
/-- Describing a statement is one block. -/
theorem describe_talks (sql : String) {client opened : Client σ}
    (connected : (Client.connect server).run client = (.ok (), opened)) :
    ∃ trace next, ((Client.describe server sql).run client).2 = opened.advance trace next ∧
      server.Talk config True trace opened.server next := by
  unfold Client.describe
  simp only [run_bind, connected, run_transaction, run_record, run_serve, advance_server,
    advance_advance, List.cons_append, List.nil_append]
  rcases prepared : (server.prepare sql).run opened.server with ⟨reply, between⟩
  obtain ⟨value, rfl⟩ | refused := reply.done_or_refused
  · simp only [run_valueOf_done, advance_server, advance_advance, List.cons_append, List.nil_append]
    rcases answered : (server.describePrepared sql).run between with ⟨reply, next⟩
    obtain ⟨description, rfl⟩ | refused := reply.done_or_refused
    · simp only [run_valueOf_done, run_pure, advance_server, advance_advance]
      refine ⟨_, next, rfl, ?_, ?_, ?_⟩
      · rintro footing same
        simp [Footing.after, same, prepared, answered, closing]
      · rintro footing same
        simp [Footing.after, closing]
      · rintro footing same
        simp [Footing.after, Footing.IsConfiguredFor, Footing.IsConfigured, closing]
    · obtain ⟨error, ran, -⟩ := run_valueOf_of_refused server refused
        (opened.advance [.begin false, .prepare sql, .describePrepared] next)
      simp only [ran, advance_server, advance_advance]
      refine ⟨_, next, rfl, ?_, ?_, ?_⟩
      · rintro footing same
        simp [Footing.after, same, prepared, answered, closing]
      · rintro footing same
        simp [Footing.after, closing]
      · rintro footing same
        simp [Footing.after, Footing.IsConfiguredFor, Footing.IsConfigured, closing]
  · obtain ⟨error, ran, -⟩ := run_valueOf_of_refused server refused
      (opened.advance [.begin false, .prepare sql] between)
    simp only [ran, advance_server, advance_advance]
    refine ⟨_, between, rfl, ?_, ?_, ?_⟩
    · rintro footing same
      simp [Footing.after, same, prepared, closing]
    · rintro footing same
      simp [Footing.after, closing]
    · rintro footing same
      simp [Footing.after, Footing.IsConfiguredFor, Footing.IsConfigured, closing]

variable (server config) in
/-- What a call does with an open connection. -/
theorem ClientCall.perform_talks (call : ClientCall) (other : call ≠ .close)
    {client opened : Client σ}
    (connected : (Client.connect server).run client = (.ok (), opened)) :
    ∃ trace next, ((call.perform server).run client).2 = opened.advance trace next ∧
      server.Talk config (call.Sends config) trace opened.server next := by
  cases call with
  | connect =>
    refine ⟨[], opened.server, congrArg Prod.snd connected, fun _ => id, fun _ _ => ?_,
      fun _ _ => ?_⟩
    · simp
    · simp [Sends]
  | query sql params =>
    refine ⟨[.query sql params], ((server.query sql params).run opened.server).2, ?_, .single ?_ ?_ ?_⟩
    · unfold perform Client.query
      simp only [run_discard, run_bind, connected, run_record, run_get, run_serveOr, advance_server,
        advance_advance]
      rcases (server.query sql params).run opened.server with ⟨error | result, next⟩ <;> rfl
    · rintro footing same
      simp [Footing.after, same]
    · simp [Footing.after]
    · simp [Footing.IsConfiguredFor, Sends]
  | script sql =>
    refine ⟨[.execute sql], ((server.execute sql).run opened.server).2, ?_, .single ?_ ?_ ?_⟩
    · unfold perform Client.script
      simp only [run_bind, connected, run_execute]
    · rintro footing same
      rw [footing.server_execute, same]
    · exact fun footing => footing.subset_execute server sql
    · simp [Footing.IsConfiguredFor, Sends, or_iff_not_imp_left]
  | describe sql =>
    obtain ⟨trace, next, went, talk⟩ := describe_talks server config sql connected
    refine ⟨trace, next, ?_, talk⟩
    unfold perform
    rw [run_discard, went]
  | lookupType oid =>
    refine ⟨[.type oid], ((server.lookupType oid).run opened.server).2, ?_, .single ?_ ?_ ?_⟩
    · unfold perform Client.lookupType
      simp only [run_discard, run_bind, connected, run_record, run_get, run_serveOr, advance_server,
        advance_advance]
      rfl
    · rintro footing same
      simp [Footing.after, same]
    · simp [Footing.after]
    · simp [Footing.IsConfiguredFor, Sends]
  | lookupColumn table number =>
    refine ⟨[.column table number], ((server.lookupColumn table number).run opened.server).2, ?_,
      .single ?_ ?_ ?_⟩
    · unfold perform Client.lookupColumn
      simp only [run_discard, run_bind, connected, run_record, run_get, run_serveOr, advance_server,
        advance_advance]
      rfl
    · rintro footing same
      simp [Footing.after, same]
    · simp [Footing.after]
    · simp [Footing.IsConfiguredFor, Sends]
  | close => exact absurd rfl other

end Talk

/-- Without a connection a call ends as the attempt to get one. -/
theorem ClientCall.perform_of_unconnected {server : Server σ} (call : ClientCall)
    (other : call ≠ .close) {client after : Client σ} {error : Error}
    (failed : (Client.connect server).run client = (.error error, after)) :
    (call.perform server).run client = (.error error, after) := by
  cases call with
  | connect => exact failed
  | close => exact absurd rfl other
  | script sql =>
    unfold perform Client.script
    rw [run_bind, failed]
  | query sql params =>
    unfold perform Client.query
    rw [run_discard, run_bind, failed]
    rfl
  | describe sql =>
    unfold perform Client.describe
    rw [run_discard, run_bind, failed]
    rfl
  | lookupType oid =>
    unfold perform Client.lookupType
    rw [run_discard, run_bind, failed]
    rfl
  | lookupColumn table number =>
    unfold perform Client.lookupColumn
    rw [run_discard, run_bind, failed]
    rfl

namespace Client

variable {server : Server σ} {config : ResolvedConfig} {origin : Footing σ} {client : Client σ}

/-- The history of a client with this configuration leads to where its server is. -/
structure Tracks (server : Server σ) (config : ResolvedConfig) (origin : Footing σ)
    (client : Client σ) : Prop where
  config : client.config = config
  follows : (server.footing origin client.events).server = client.server

/-- The settings were sent on the connection that the client has. -/
def IsConfigured (server : Server σ) (config : ResolvedConfig) (origin : Footing σ)
    (client : Client σ) : Prop :=
  (server.footing origin client.events).IsConfigured config

/-- Every statement so far came on a connection with its settings. -/
def SendsSettingsFirst (server : Server σ) (config : ResolvedConfig) (origin : Footing σ)
    (client : Client σ) : Prop :=
  server.Meets origin (Footing.IsConfiguredFor config) client.events

section Opening

variable (tracks : client.Tracks server config origin)

include tracks

theorem Tracks.advance {trace : List ConnectionEvent} {next : σ} {sends : Prop}
    (talk : server.Talk config sends trace client.server next) :
    (client.advance trace next).Tracks server config origin ∧
      ((client.advance trace next).SendsSettingsFirst server config origin ↔
        client.SendsSettingsFirst server config origin ∧
          (sends → client.IsConfigured server config origin)) ∧
      (client.IsConfigured server config origin →
        (client.advance trace next).IsConfigured server config origin) := by
  refine ⟨⟨tracks.config, ?_⟩, ?_, fun configured => ?_⟩
  · rw [Client.advance, Server.footing_append]
    exact talk.follows _ tracks.follows
  · unfold SendsSettingsFirst
    rw [Client.advance, Server.meets_append_iff, talk.meets _ tracks.follows, and_comm]
    rfl
  · refine configured.mono ?_
    rw [Client.advance, Server.footing_append]
    exact talk.keeps _ tracks.follows

theorem Tracks.execute (sorted : DatabaseError → Error) (sql : String)
    (setting : sql ∈ config.settingStatements) :
    let ran := (Client.execute server sorted sql).run client
    ran.2.Tracks server config origin ∧
      (ran.2.SendsSettingsFirst server config origin ↔
        client.SendsSettingsFirst server config origin) ∧
      (server.footing origin client.events).executed ⊆
        (server.footing origin ran.2.events).executed ∧
      (ran.1 = .ok () → sql ∈ (server.footing origin ran.2.events).executed) := by
  have talk : server.Talk config False [.execute sql] client.server
      ((server.execute sql).run client.server).2 := by
    refine .single (fun footing same => ?_) (fun footing => footing.subset_execute server sql) ?_
    · rw [footing.server_execute, same]
    · simp [Footing.IsConfiguredFor, setting]
  obtain ⟨follows, sends, -⟩ := tracks.advance talk
  rw [run_execute]
  refine ⟨follows, by simpa using sends, ?_, fun done => ?_⟩
  · exact Footing.subset_execute _ server sql
  · rcases ran : (server.execute sql).run client.server with ⟨error | ⟨⟩, next⟩
    · rw [ran] at done
      cases done
    · simp [Client.advance, Footing.after, tracks.follows, ran]

/-- The settings come first, and all of them if that succeeds. -/
theorem Tracks.sendSettings :
    let ran := (Client.sendSettings server config).run client
    ran.2.Tracks server config origin ∧
      (ran.2.SendsSettingsFirst server config origin ↔
        client.SendsSettingsFirst server config origin) ∧
      (ran.1 = .ok () → ran.2.IsConfigured server config origin) := by
  have settings : config.settingStatements =
      config.timeoutStatement.toOption.toList ++ config.searchPathStatement.toList := rfl
  unfold Client.sendSettings
  rcases limit : config.timeoutStatement with error | timeout <;> rw [limit] at settings
  · refine ⟨tracks, Iff.rfl, fun done => ?_⟩
    cases done
  have limiting := tracks.execute DatabaseError.raw timeout
    (by simp [settings, Except.toOption])
  simp only [run_bind]
  rcases limited : (Client.execute server DatabaseError.raw timeout).run client with
    ⟨error | ⟨⟩, after⟩ <;> rw [limited] at limiting
  · refine ⟨limiting.1, limiting.2.1, fun done => ?_⟩
    cases done
  obtain ⟨follows, sends, -, has⟩ := limiting
  rcases path : config.searchPathStatement with _ | sql <;> rw [path] at settings
  · have configured : after.IsConfigured server config origin :=
      ⟨⟨timeout, limit⟩, by simpa [settings, Except.toOption] using has rfl⟩
    exact ⟨follows, sends, fun _ => configured⟩
  · obtain ⟨follows, sent, kept, had⟩ :=
      follows.execute DatabaseError.raw sql (by simp [settings, Except.toOption])
    refine ⟨follows, sent.trans sends, fun done => ⟨⟨timeout, limit⟩, ?_⟩⟩
    simpa [settings, Except.toOption] using ⟨kept (has rfl), had done⟩

/-- Opening a connection sends the settings before statements, and all of them if it succeeds. -/
theorem Tracks.connect (dead : client.isLive server = false) :
    let ran := (Client.connect server).run client
    ran.2.Tracks server config origin ∧
      (ran.2.SendsSettingsFirst server config origin ↔
        client.SendsSettingsFirst server config origin) ∧
      (ran.1 = .ok () → ran.2.IsConfigured server config origin) := by
  rw [run_connect_of_not_isLive dead, tracks.config]
  simp only [run_bind, run_record, run_serveOr, advance_server, advance_advance]
  have connects : server.Meets origin (Footing.IsConfiguredFor config)
      (.connect config.connection :: client.events) ↔
        client.SendsSettingsFirst server config origin := by
    simp [SendsSettingsFirst, Footing.IsConfiguredFor]
  rcases made : (server.connect config.connection).run client.server with ⟨error | ⟨⟩, next⟩
  · have refused : (client.advance [.connect config.connection] next).Tracks server config origin :=
      ⟨tracks.config, by simp [Client.advance, Footing.after, tracks.follows, made]⟩
    refine ⟨refused, connects, fun done => ?_⟩
    cases done
  · have opened : Tracks server config origin
        { client.advance [.connect config.connection] next with isOpen := true } :=
      ⟨tracks.config, by simp [Client.advance, Footing.after, made, tracks.follows]⟩
    obtain ⟨follows, sends, configured⟩ := opened.sendSettings
    exact ⟨follows, sends.trans connects, configured⟩

theorem Tracks.close :
    let after := client.afterCall server .close
    after.Tracks server config origin ∧
      (after.SendsSettingsFirst server config origin ↔
        client.SendsSettingsFirst server config origin) ∧ after.isLive server = false := by
  unfold Client.afterCall ClientCall.perform Client.close
  simp only [run_bind, run_get]
  by_cases opened : client.isOpen = true
  · rw [if_pos opened]
    have closed : Tracks server config origin
        { client.advance [.close] client.server with isOpen := false } :=
      ⟨tracks.config, by simp [Client.advance, Footing.after, tracks.follows]⟩
    refine ⟨closed, ?_, rfl⟩
    have closes : server.Meets origin (Footing.IsConfiguredFor config) (.close :: client.events) ↔
        client.SendsSettingsFirst server config origin := by
      simp [SendsSettingsFirst, Footing.IsConfiguredFor]
    exact closes
  · rw [if_neg opened]
    refine ⟨tracks, Iff.rfl, ?_⟩
    simp [isLive, run_pure, opened]

/-- One call.  If it sends anything on an open connection, then as the connection was found.  It
leaves an open connection without its settings only where it found one, or where it fails itself. -/
theorem Tracks.afterCall (call : ClientCall) :
    let after := client.afterCall server call
    after.Tracks server config origin ∧
      (after.SendsSettingsFirst server config origin ↔
        client.SendsSettingsFirst server config origin ∧
          (call.Sends config → client.isLive server = true →
            client.IsConfigured server config origin)) ∧
      (after.isLive server = true → ¬ after.IsConfigured server config origin →
        if client.isLive server then ¬ client.IsConfigured server config origin
        else ∃ error, ((call.perform server).run client).1 = .error error) := by
  by_cases closes : call = .close
  · subst closes
    have ended := tracks.close
    exact ⟨ended.1, by simpa [ClientCall.Sends] using ended.2.1, fun live => by
      rw [ended.2.2] at live
      cases live⟩
  rcases connected : (Client.connect server).run client with ⟨error | ⟨⟩, opened⟩
  · have dead : client.isLive server = false := by
      by_contra live
      rw [run_connect_of_isLive server client (by simpa using live)] at connected
      cases connected
    have opening := tracks.connect dead
    have ended := call.perform_of_unconnected closes connected
    unfold Client.afterCall
    rw [connected] at opening
    rw [ended]
    exact ⟨opening.1, by simpa [dead] using opening.2.1, fun _ _ => by simp [dead]⟩
  · obtain ⟨trace, next, went, talk⟩ := call.perform_talks server config closes connected
    unfold Client.afterCall
    rw [went]
    cases live : client.isLive server with
    | true =>
      rw [run_connect_of_isLive server client live] at connected
      cases connected
      obtain ⟨follows, sends, kept⟩ := tracks.advance talk
      exact ⟨follows, by simpa using sends, fun _ lacks => fun configured => lacks (kept configured)⟩
    | false =>
      have opening := tracks.connect live
      rw [connected] at opening
      obtain ⟨follows, sent, configured⟩ := opening
      obtain ⟨follows, sends, kept⟩ := follows.advance talk
      refine ⟨follows, ?_, fun _ lacks => absurd (kept (configured rfl)) lacks⟩
      simpa [sent, configured rfl] using sends

theorem Tracks.afterCalls (calls : List ClientCall) :
    (client.afterCalls server calls).Tracks server config origin := by
  induction calls generalizing client with
  | nil => exact tracks
  | cons call rest ih => exact ih (tracks.afterCall call).1

/-- Statements come before their settings exactly at calls that find such a connection. -/
theorem Tracks.sendsSettingsFirst_iff (calls : List ClientCall) :
    (client.afterCalls server calls).SendsSettingsFirst server config origin ↔
      client.SendsSettingsFirst server config origin ∧
        ∀ before call rest, calls = before ++ call :: rest → call.Sends config →
          (client.afterCalls server before).isLive server = true →
            (client.afterCalls server before).IsConfigured server config origin := by
  induction calls generalizing client with
  | nil => simp [Client.afterCalls]
  | cons call rest ih =>
    obtain ⟨follows, sends, -⟩ := tracks.afterCall call
    rw [Client.afterCalls, List.foldl_cons]
    refine (ih follows).trans ?_
    rw [sends, and_assoc]
    refine and_congr_right fun _ => ⟨?_, fun all => ⟨all [] call rest rfl, ?_⟩⟩
    · rintro ⟨first, others⟩ (_ | ⟨_, before⟩) other later split
      · cases split
        exact first
      · cases split
        exact others before other later rfl
    · rintro before other later rfl
      exact all (call :: before) other later rfl

end Opening

/-- The call opens a connection and fails to send the settings, and the connection is kept. -/
structure HalfOpens (server : Server σ) (config : ResolvedConfig) (origin : Footing σ)
    (client : Client σ) (call : ClientCall) : Prop where
  found : client.isLive server = false
  failed : ∃ error, ((call.perform server).run client).1 = .error error
  keeps : (client.afterCall server call).isLive server = true
  lacks : ¬ (client.afterCall server call).IsConfigured server config origin

theorem afterCalls_append (client : Client σ) (calls more : List ClientCall) :
    client.afterCalls server (calls ++ more) = (client.afterCalls server calls).afterCalls server more :=
  List.foldl_append

/-- A connection without its settings is left by a call that failed to send them. -/
theorem Tracks.exists_halfOpens (tracks : client.Tracks server config origin)
    (closed : client.isLive server = false) {calls : List ClientCall}
    (live : (client.afterCalls server calls).isLive server = true)
    (lacks : ¬ (client.afterCalls server calls).IsConfigured server config origin) :
    ∃ before call rest, calls = before ++ call :: rest ∧
      (client.afterCalls server before).HalfOpens server config origin call := by
  induction calls using List.reverseRecOn with
  | nil => exact absurd live (by simp [Client.afterCalls, closed])
  | append_singleton calls call ih =>
    rw [afterCalls_append] at live lacks
    have step := ((tracks.afterCalls calls).afterCall call).2.2 live lacks
    split at step
    next found =>
      obtain ⟨before, other, rest, rfl, opens⟩ := ih found step
      exact ⟨before, other, rest ++ [call], by simp, opens⟩
    next found => exact ⟨calls, call, [], rfl, by simpa using found, step, live, lacks⟩

/-- Whatever a client is asked to do and whatever its server does, a statement is sent without the
settings exactly if a call that sends one finds an open connection that lacks them.  Such a
connection is left by an earlier call that opened it and failed to send the settings. -/
theorem sends_settings_first_iff (server : Server σ) (config : ResolvedConfig) (state : σ)
    (calls : List ClientCall) :
    let client : Client σ := { config, server := state }
    let origin : Footing σ := { server := state }
    ((client.afterCalls server calls).SendsSettingsFirst server config origin ↔
      ∀ before call rest, calls = before ++ call :: rest → call.Sends config →
        (client.afterCalls server before).isLive server = true →
          (client.afterCalls server before).IsConfigured server config origin) ∧
    ∀ before rest, calls = before ++ rest →
      (client.afterCalls server before).isLive server = true →
      ¬ (client.afterCalls server before).IsConfigured server config origin →
        ∃ earlier call later, before = earlier ++ call :: later ∧
          (client.afterCalls server earlier).HalfOpens server config origin call := by
  intro client origin
  have tracks : client.Tracks server config origin := ⟨rfl, rfl⟩
  refine ⟨(tracks.sendsSettingsFirst_iff calls).trans ?_, fun before rest _ live lacks =>
    tracks.exists_halfOpens rfl live lacks⟩
  exact and_iff_right (Server.meets_nil server origin)

/-- A server that cannot wait for so long. -/
def impatient : ScriptedServer where
  script :=
    { executions := [("SET statement_timeout = 3000000000",
        ⟨.dataError, "3000000000 is outside the valid range for parameter " ++
          "\"statement_timeout\" (0 .. 2147483647)"⟩)] }

/-- The first call fails to set the time limit, and the second one runs without it. -/
theorem script_before_settings :
    let config : ResolvedConfig := { statementTimeout := .ofInt 3000000 }
    let client : Client ScriptedServer := { config, server := impatient }
    let after := client.afterCalls ScriptedServer.server [.script "SELECT 1", .script "SELECT 1"]
    after.events = [.execute "SELECT 1", .execute "SET statement_timeout = 3000000000",
      .connect config.connection] ∧
    ¬ after.SendsSettingsFirst ScriptedServer.server config { server := impatient } := by
  intro config client after
  have limit : config.timeoutStatement = .ok "SET statement_timeout = 3000000000" := by
    decide +kernel
  have events : after.events = [.execute "SELECT 1", .execute "SET statement_timeout = 3000000000",
      .connect config.connection] := by
    rfl
  have settings : config.settingStatements = ["SET statement_timeout = 3000000000"] := by
    unfold ResolvedConfig.settingStatements
    rw [limit]
    rfl
  refine ⟨events, fun first => ?_⟩
  unfold SendsSettingsFirst at first
  rw [events] at first
  rcases first _ _ (List.suffix_refl _) with setting | ⟨-, sent⟩
  · rw [settings] at setting
    revert setting
    decide
  · rw [settings] at sent
    exact List.not_mem_nil (sent _ List.mem_cons_self)

end Client

end QueryTyping
