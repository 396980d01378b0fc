import QueryTyping.Proofs.Footing
import QueryTyping.Proofs.Independence
import QueryTyping.Proofs.ServedCatalog

/-!
# Clients answer as a catalog in memory does

A client of a healthy server is served (`Client.IsServed`): it has a healthy connection
or can get one, and whatever it asks, the blocks that are open around its questions stay
open and are never spoiled.  So its answers are those of the server's tables in memory,
and so are the outcomes of all queries (`Client.inferEach_refines`).
-/

namespace QueryTyping

open Text Attempt

namespace Client

variable {σ : Type}

/-- The history leads to where the server is and to these open blocks, and nothing in it came into
a spoiled block. -/
structure InBlocks (server : Server σ) (origin : Footing σ) (blocks : List Bool)
    (client : Client σ) : Prop where
  follows : (server.footing origin client.events).server = client.server
  blocks : (server.footing origin client.events).blocks = blocks
  usable : server.Meets origin Footing.IsUsable client.events

/-- The client has a healthy connection. -/
structure Connected (server : Server σ) (config : ResolvedConfig) (healthy : σ → Prop)
    (origin : Footing σ) (blocks : List Bool) (client : Client σ) : Prop where
  config : client.config = config
  isOpen : client.isOpen = true
  healthy : healthy client.server
  inBlocks : client.InBlocks server origin blocks

/-- The client has a healthy connection, or can get one. -/
inductive IsServed (server : Server σ) (config : ResolvedConfig) (away healthy : σ → Prop)
    (origin : Footing σ) (blocks : List Bool) (client : Client σ) : Prop
  | connected (on : client.Connected server config healthy origin blocks)
  | unconnected (same : client.config = config) (dead : client.isLive server = false)
    (off : away client.server) (outside : client.InBlocks server origin blocks)
    (none : blocks = [])

section Serving

variable {server : Server σ} {catalog : ServedCatalog} {config : ResolvedConfig}
  {away healthy : σ → Prop} {origin : Footing σ} {blocks left : List Bool} {client : Client σ}

theorem InBlocks.advance (now : client.InBlocks server origin blocks)
    {trace : List ConnectionEvent} {next : σ}
    (moved : ∀ footing : Footing σ, footing.server = client.server → footing.blocks = blocks →
      (server.footing footing trace.reverse).server = next ∧
        (server.footing footing trace.reverse).blocks = left ∧
        server.Meets footing Footing.IsUsable trace.reverse) :
    (client.advance trace next).InBlocks server origin left := by
  obtain ⟨same, still, usable⟩ := moved (server.footing origin client.events) now.follows now.blocks
  refine ⟨?_, ?_, ?_⟩
  · rw [Client.advance, Server.footing_append]
    exact same
  · rw [Client.advance, Server.footing_append]
    exact still
  · rw [Client.advance, Server.meets_append_iff]
    exact ⟨usable, now.usable⟩

theorem Connected.advance (on : client.Connected server config healthy origin blocks)
    {trace : List ConnectionEvent} {next : σ} (stays : healthy next)
    (moved : ∀ footing : Footing σ, footing.server = client.server → footing.blocks = blocks →
      (server.footing footing trace.reverse).server = next ∧
        (server.footing footing trace.reverse).blocks = blocks ∧
        server.Meets footing Footing.IsUsable trace.reverse) :
    (client.advance trace next).Connected server config healthy origin blocks :=
  ⟨on.config, on.isOpen, stays, on.inBlocks.advance moved⟩

variable (serves : server.Serves catalog config away healthy) (sound : blocks.head? ≠ some true)

include sound in
theorem Connected.execute (on : client.Connected server config healthy origin blocks)
    (sorted : DatabaseError → Error) {sql : String}
    (granted : Server.Grants healthy (server.execute sql) (.ok ())) :
    ∃ after, (Client.execute server sorted sql).run client = (.ok (), after) ∧
      after.Connected server config healthy origin blocks := by
  obtain ⟨next, ran, stays⟩ := granted client.server on.healthy
  refine ⟨client.advance [.execute sql] next, ?_, on.advance stays fun footing same here => ?_⟩
  · rw [run_execute, ran]
    rfl
  · simp [Footing.after, Footing.IsUsable, same, here, ran, sound]

include serves

/-- A rejection on a healthy connection is the statement's fault. -/
theorem run_valueOf_rejected {α : Type} {message : Bytes} (stays : healthy client.server) :
    (valueOf server (.rejected message : ServerReply α)).run client =
      (.error (.failure (CatalogSnapshot.rejection (String.ofList (trim (decodeLossy message))))),
        client) := by
  unfold valueOf
  simp only [run_bind, run_get, (serves.stands _ stays).2]
  rfl

include sound

theorem Connected.sendSettings (on : client.Connected server config healthy origin blocks) :
    ∃ after, (Client.sendSettings server config).run client = (.ok (), after) ∧
      after.Connected server config healthy origin blocks := by
  obtain ⟨timeout, limit⟩ := serves.limit
  have setting := serves.execute
  unfold ResolvedConfig.settingStatements at setting
  unfold Client.sendSettings
  simp only [limit, Except.toOption, Option.toList] at setting ⊢
  obtain ⟨limited, ran, on⟩ := on.execute sound DatabaseError.raw
    (setting timeout List.mem_cons_self)
  simp only [run_bind, ran]
  rcases path : config.searchPathStatement with _ | sql
  · exact ⟨limited, rfl, on⟩
  · rw [path] at setting
    exact on.execute sound _ (setting sql (by simp))

/-- Whoever is served has a connection when it is needed. -/
theorem IsServed.connect (served : client.IsServed server config away healthy origin blocks) :
    ∃ after, (Client.connect server).run client = (.ok (), after) ∧
      after.Connected server config healthy origin blocks := by
  cases served with
  | connected on =>
    have live : client.isLive server = true := by
      simp [isLive, on.isOpen, (serves.stands _ on.healthy).1]
    exact ⟨client, run_connect_of_isLive server client live, on⟩
  | unconnected same dead off outside none =>
    subst same none
    obtain ⟨next, made, stays⟩ := serves.connect client.server off
    have begun : (client.advance [.connect client.config.connection] next).InBlocks server
        origin [] := by
      refine outside.advance fun footing same here => ?_
      simp [Footing.after, Footing.IsUsable, same, made]
    have opened : ({ client.advance [.connect client.config.connection] next with
        isOpen := true } : Client σ).Connected server client.config healthy origin [] :=
      ⟨rfl, rfl, stays, begun.follows, begun.blocks, begun.usable⟩
    obtain ⟨after, sent, on⟩ := opened.sendSettings serves sound
    refine ⟨after, ?_, on⟩
    rw [run_connect_of_not_isLive dead]
    simp only [run_bind, run_record, run_serveOr, advance_server, advance_advance, made]
    exact sent

theorem IsServed.lookupType (served : client.IsServed server config away healthy origin blocks)
    (oid : Int) :
    ∃ after, (Client.lookupType server oid).run client =
        (.ok (catalog.snapshot.typeRow? oid), after) ∧
      after.Connected server config healthy origin blocks := by
  obtain ⟨opened, connected, on⟩ := served.connect serves sound
  obtain ⟨next, asked, stays⟩ := serves.type oid opened.server on.healthy
  refine ⟨opened.advance [.type oid] next, ?_, on.advance stays fun footing same here => ?_⟩
  · unfold Client.lookupType
    simp only [run_bind, connected, run_record, run_get, run_serveOr, advance_server,
      advance_advance, asked]
    rfl
  · simp [Footing.after, Footing.answered, Footing.IsUsable, same, here, asked, sound]

theorem IsServed.lookupColumn (served : client.IsServed server config away healthy origin blocks)
    (table number : Int) :
    ∃ after, (Client.lookupColumn server table number).run client =
        (.ok (catalog.snapshot.column? table number), after) ∧
      after.Connected server config healthy origin blocks := by
  obtain ⟨opened, connected, on⟩ := served.connect serves sound
  obtain ⟨next, asked, stays⟩ := serves.column table number opened.server on.healthy
  refine ⟨opened.advance [.column table number] next, ?_,
    on.advance stays fun footing same here => ?_⟩
  · unfold Client.lookupColumn
    simp only [run_bind, connected, run_record, run_get, run_serveOr, advance_server,
      advance_advance, asked]
    rfl
  · simp [Footing.after, Footing.answered, Footing.IsUsable, same, here, asked, sound]

/-- Whatever the server has to say about a statement, its block is left as it was found around. -/
theorem IsServed.describe (served : client.IsServed server config away healthy origin blocks)
    (sql : String) :
    ∃ after, (Client.describe server sql).run client =
        ((catalog.statement sql).inMemory.mapError .failure, after) ∧
      after.Connected server config healthy origin blocks := by
  obtain ⟨opened, connected, on⟩ := served.connect serves sound
  unfold Client.describe
  simp only [run_bind, connected, run_transaction, run_record, run_serve, advance_server,
    advance_advance, List.cons_append, List.nil_append]
  have takes := serves.takes sql opened.server on.healthy
  generalize catalog.statement sql = served at takes ⊢
  cases takes with
  | @described between next description prepared answered stays =>
    refine ⟨opened.advance [.begin false, .prepare sql, .describePrepared, .commit] next, ?_,
      on.advance stays fun footing same here => ?_⟩
    · simp only [prepared, answered, run_valueOf_done, run_pure, advance_server, advance_advance,
        List.cons_append, List.nil_append, ServedStatement.inMemory, Except.mapError]
      simp [ServerField.description_eq, closing]
    · simp [Footing.after, Footing.replied, Footing.IsUsable, same, here, prepared, answered, sound]
  | @unprepared next message prepared stays =>
    refine ⟨opened.advance [.begin false, .prepare sql, .rollback] next, ?_,
      on.advance stays fun footing same here => ?_⟩
    · simp only [prepared]
      rw [run_valueOf_rejected serves (by simpa using stays)]
      simp [closing, ServedStatement.inMemory, Except.mapError]
    · simp [Footing.after, Footing.replied, Footing.spoiled, Footing.IsUsable, same, here, prepared,
        sound]
  | @undescribed between next message prepared answered stays =>
    refine ⟨opened.advance [.begin false, .prepare sql, .describePrepared, .rollback] next, ?_,
      on.advance stays fun footing same here => ?_⟩
    · simp only [prepared, answered, run_valueOf_done, advance_server, advance_advance,
        List.cons_append, List.nil_append]
      rw [run_valueOf_rejected serves (by simpa using stays)]
      simp [closing, ServedStatement.inMemory, Except.mapError]
    · simp [Footing.after, Footing.replied, Footing.spoiled, Footing.IsUsable, same, here, prepared,
        answered, sound]

/-- A client that is served answers as the catalog in memory does. -/
theorem session_isFixed :
    (Client.session server).IsFixed
      (fun client => client.IsServed server config away healthy origin blocks)
      catalog.snapshot.answers where
  describe sql client served := by
    obtain ⟨after, ran, on⟩ := served.describe serves sound sql
    refine ⟨(congrArg Prod.fst ran).trans ?_, (congrArg Prod.snd ran).symm ▸ .connected on⟩
    rw [← catalog.describe_snapshot]
    rfl
  type oid client served := by
    obtain ⟨after, ran, on⟩ := served.lookupType serves sound oid
    exact ⟨congrArg Prod.fst ran, (congrArg Prod.snd ran).symm ▸ .connected on⟩
  column table number client served := by
    obtain ⟨after, ran, on⟩ := served.lookupColumn serves sound table number
    exact ⟨congrArg Prod.fst ran, (congrArg Prod.snd ran).symm ▸ .connected on⟩
  room client served := by
    refine ⟨catalog.types.map CatalogType.oid, ?_, fun oid row found =>
      CatalogSnapshot.mem_oids_of_typeRow? (Except.ok.inj found)⟩
    rw [List.length_map]
    cases served with
    | connected on => exact serves.room _ (.inr on.healthy)
    | unconnected _ _ off => exact serves.room _ (.inl off)

end Serving

end Client

/-- The outcome of every query, in order; a failure leaves the others to be inferred. -/
def inferEach {σ : Type} (session : Session σ) (queries : List SourceQuery) :
    Attempt (Resolving σ) (List (Except Error TypedQuery)) :=
  queries.mapM fun query =>
    tryCatch (Except.ok <$> inferQuery session query) fun error => return .error error

theorem inferEach_gives {σ : Type} {session : Session σ} {holds : Resolving σ → Prop}
    {results : SourceQuery → Except Error TypedQuery}
    (gives : ∀ query, (inferQuery session query).Gives holds (results query))
    (queries : List SourceQuery) :
    (inferEach session queries).Gives holds (.ok (queries.map results)) := by
  refine .mapM fun query _ => ?_
  have one := gives query
  rcases result : results query with error | typed <;> rw [result] at one
  · exact .tryCatch_error one.bind_error (.pure _)
  · exact .tryCatch_ok (one.bind (.pure _))

/-- The outcome of a query on the catalog in memory, by itself. -/
def CatalogSnapshot.outcome (snapshot : CatalogSnapshot) (query : SourceQuery) :
    Except Error TypedQuery :=
  ((Resolving.fresh (inferQuery session query)).run snapshot).1

/-- Whoever answers as the catalog in memory does comes to its outcomes. -/
theorem CatalogSnapshot.outcome_gives (snapshot : CatalogSnapshot) {σ : Type}
    {session : Session σ} {valid : σ → Prop} (fixed : session.IsFixed valid snapshot.answers)
    (query : SourceQuery) :
    (inferQuery session query).Gives (Resolving.Settled valid snapshot.answers)
      (snapshot.outcome query) := by
  obtain ⟨result, -, gives⟩ :=
    inferQuery_definite snapshot.answers.failsOnly_any (.inr trivial) query
  have alone : snapshot.outcome query = result :=
    (Resolving.fresh_gives (gives _ _ _ snapshot.session_isFixed) snapshot rfl).1
  rw [alone]
  exact gives _ _ _ fixed

namespace Client

variable {σ : Type} {server : Server σ} {catalog : ServedCatalog} {config : ResolvedConfig}
  {away healthy : σ → Prop} {origin : Footing σ} {blocks : List Bool} {client : Client σ}

/-- A statement without a column name, and one that is rejected while it is described. -/
def tails : ServedCatalog where
  statements :=
    [("SELECT 1", .described ⟨[], [{ name := none, typeOid := 23 }]⟩),
      ("SELECT tail", .rejected true (encodeUtf8 " no tail\n".toList))]

def tailQueries : List SourceQuery :=
  [⟨"Tail", "SELECT tail", [], .one, []⟩, ⟨"Ears", "SELECT ears", [], .one, []⟩,
    ⟨"One", "SELECT 1", [], .one, []⟩]

end Client

end QueryTyping
