import QueryTyping.Connection.Script
import QueryTyping.Proofs.ConnectionTrace

/-!
# Served catalogs

Statements, types and columns as a server has them, and the same tables in memory
(`ServedCatalog.snapshot`): there every column has a name, and rejections are trimmed
texts.  A healthy connection to a server of these tables takes statements and answers
questions by them, and stays healthy (`Server.Serves`); a script of them makes such a
server (`ScriptedServer.serves`).
-/

namespace QueryTyping

open Text

/-- What a server has to say about a statement. -/
inductive ServedStatement where
  | described (description : ServerDescription)
  /-- It is rejected, while it is prepared or while it is described. -/
  | rejected (whileDescribed : Bool) (message : Bytes)

/-- The tables of a server. -/
structure ServedCatalog where
  /-- Statements by key. -/
  statements : List (String × ServedStatement) := []
  types : List CatalogType := []
  columns : List CatalogColumn := []

namespace ServedStatement

/-- The name of a result column, which may have none. -/
def columnName : Option String → String
  | none => "?column?"
  | some "" => "?column?"
  | some name => name

/-- The statement in memory. -/
def inMemory : ServedStatement → Except Failure StatementDescription
  | described description =>
    .ok {
      paramOids := description.paramOids
      fields := description.fields.map fun field =>
        ⟨columnName field.name, field.typeOid, field.tableOid, field.tableColumn⟩ }
  | rejected _ message =>
    .error (CatalogSnapshot.rejection (String.ofList (trim (decodeLossy message))))

end ServedStatement

theorem ServerField.description_eq (field : ServerField) :
    field.description = ⟨ServedStatement.columnName field.name, field.typeOid, field.tableOid,
      field.tableColumn⟩ := by
  obtain ⟨name, typeOid, tableOid, tableColumn⟩ := field
  unfold description ServedStatement.columnName
  rcases name with _ | name
  · rfl
  · by_cases empty : name = ""
    · subst empty
      rfl
    · have kept : (some name).filter (!·.isEmpty) = some name := by
        simp [empty]
      simp [kept]

namespace ServedCatalog

variable (catalog : ServedCatalog)

/-- What the server has to say about a text; one that it does not know is rejected. -/
def statement (sql : String) : ServedStatement :=
  (catalog.statements.lookup (statementKey sql)).getD
    (.rejected false (encodeUtf8 "no such statement".toList))

/-- The same tables in memory. -/
def snapshot : CatalogSnapshot where
  statements := catalog.statements.map fun (key, served) => (key, served.inMemory)
  types := catalog.types
  columns := catalog.columns

theorem lookup_map {α β γ : Type} [BEq α] (f : β → γ) (key : α) (items : List (α × β)) :
    (items.map fun (other, value) => (other, f value)).lookup key = (items.lookup key).map f := by
  induction items with
  | nil => rfl
  | cons item items ih =>
    obtain ⟨other, value⟩ := item
    rw [List.map_cons, List.lookup_cons, List.lookup_cons, ih]
    cases key == other <;> rfl

theorem describe_snapshot (sql : String) :
    catalog.snapshot.describe sql = (catalog.statement sql).inMemory := by
  unfold CatalogSnapshot.describe snapshot statement
  rw [lookup_map]
  rcases catalog.statements.lookup (statementKey sql) with _ | served
  · decide +kernel
  · rfl

/-- In memory only rejections fail. -/
theorem describe_snapshot_fails {sql : String} {failure : Failure}
    (failed : catalog.snapshot.describe sql = .error failure) :
    ∃ cause, failure = .inference cause := by
  rw [describe_snapshot] at failed
  generalize catalog.statement sql = served at failed
  rcases served with description | ⟨whileDescribed, message⟩ <;> cases failed
  exact ⟨_, rfl⟩

end ServedCatalog

namespace Server

/-- From every healthy state the server gives this answer, and stays healthy. -/
def Grants {σ α : Type} (healthy : σ → Prop) (action : StateM σ α) (answer : α) : Prop :=
  ∀ state, healthy state → ∃ next, action.run state = (answer, next) ∧ healthy next

variable {σ : Type} (server : Server σ)

/-- How a server takes a statement, and stays healthy. -/
inductive Takes (healthy : σ → Prop) (sql : String) (state : σ) : ServedStatement → Prop
  | described {between next : σ} {description : ServerDescription}
    (prepared : (server.prepare sql).run state = (.done (), between))
    (answered : (server.describePrepared sql).run between = (.done description, next))
    (stays : healthy next) : Takes healthy sql state (.described description)
  | unprepared {next : σ} {message : Bytes}
    (prepared : (server.prepare sql).run state = (.rejected message, next))
    (stays : healthy next) : Takes healthy sql state (.rejected false message)
  | undescribed {between next : σ} {message : Bytes}
    (prepared : (server.prepare sql).run state = (.done (), between))
    (answered : (server.describePrepared sql).run between = (.rejected message, next))
    (stays : healthy next) : Takes healthy sql state (.rejected true message)

/-- The server takes connections from clients that are away, accepts the settings, and serves these
tables on a healthy connection. -/
structure Serves (catalog : ServedCatalog) (config : ResolvedConfig) (away healthy : σ → Prop) :
    Prop where
  limit : ∃ sql, config.timeoutStatement = .ok sql
  connect : ∀ state, away state →
    ∃ next, (server.connect config.connection).run state = (.ok (), next) ∧ healthy next
  execute : ∀ sql ∈ config.settingStatements, Grants healthy (server.execute sql) (.ok ())
  takes : ∀ sql state, healthy state → server.Takes healthy sql state (catalog.statement sql)
  type : ∀ oid, Grants healthy (server.lookupType oid) (.ok (catalog.snapshot.typeRow? oid))
  column : ∀ table number,
    Grants healthy (server.lookupColumn table number) (.ok (catalog.snapshot.column? table number))
  stands : ∀ state, healthy state → server.isClosed state = false ∧ server.isLost state = false
  /-- Chains of element types may be as long as there are types. -/
  room : ∀ state, away state ∨ healthy state → catalog.types.length < server.chainBound state

end Server

/-- The statement in a script, without loss of the connection. -/
def ServedStatement.scripted : ServedStatement → ScriptedStatement
  | described description => .described description
  | rejected whileDescribed message => .rejected whileDescribed false message

/-- The script by which these tables are served. -/
def ServedCatalog.script (catalog : ServedCatalog) : ServerScript where
  statements := catalog.statements.map fun (key, served) => (key, served.scripted)
  catalog := { types := catalog.types, columns := catalog.columns }

namespace ScriptedServer

theorem run_prepare (sql : String) (state : ScriptedServer) :
    (prepare sql).run state =
      match state.script.statements.lookup (statementKey sql) with
      | some (.rejected false loses message) => (reject loses message).run state
      | some (.raised error) => (.raised error, state)
      | some _ => (.done (), state)
      | none => (.rejected (encodeUtf8 "no such statement".toList), state) := by
  unfold prepare statement?
  simp only [StateT.run_bind, StateT.run_get, pure_bind, StateT.run_pure]
  rcases state.script.statements.lookup (statementKey sql) with
    _ | ⟨description⟩ | ⟨_ | _, loses, message⟩ | ⟨error⟩ <;> rfl

theorem run_describePrepared (sql : String) (state : ScriptedServer) :
    (describePrepared sql).run state =
      match state.script.statements.lookup (statementKey sql) with
      | some (.described description) => (.done description, state)
      | some (.rejected _ loses message) => (reject loses message).run state
      | some (.raised error) => (.raised error, state)
      | none => (.done ⟨[], []⟩, state) := by
  unfold describePrepared statement?
  simp only [StateT.run_bind, StateT.run_get, pure_bind, StateT.run_pure]
  rcases state.script.statements.lookup (statementKey sql) with
    _ | ⟨description⟩ | ⟨whileDescribed, loses, message⟩ | ⟨error⟩ <;> rfl

theorem takes (catalog : ServedCatalog) (sql : String) :
    server.Takes (· = ⟨catalog.script, false, false⟩) sql ⟨catalog.script, false, false⟩
      (catalog.statement sql) := by
  have known : catalog.script.statements.lookup (statementKey sql) =
      (catalog.statements.lookup (statementKey sql)).map ServedStatement.scripted := by
    unfold ServedCatalog.script
    rw [ServedCatalog.lookup_map]
  have prepares := run_prepare sql ⟨catalog.script, false, false⟩
  have describes := run_describePrepared sql ⟨catalog.script, false, false⟩
  rw [known] at prepares describes
  unfold ServedCatalog.statement
  generalize catalog.statements.lookup (statementKey sql) = found at prepares describes ⊢
  rcases found with _ | ⟨description⟩ | ⟨_ | _, message⟩
  · exact .unprepared (prepares.trans rfl) rfl
  · exact .described (prepares.trans rfl) (describes.trans rfl) rfl
  · exact .unprepared (prepares.trans rfl) rfl
  · exact .undescribed (prepares.trans rfl) (describes.trans rfl) rfl

theorem serves (catalog : ServedCatalog) {config : ResolvedConfig}
    (limit : ∃ sql, config.timeoutStatement = .ok sql) :
    server.Serves catalog config (fun state => state.script = catalog.script)
      (· = ⟨catalog.script, false, false⟩) where
  limit := limit
  connect := by
    rintro ⟨_, lost, closed⟩ rfl
    exact ⟨_, rfl, rfl⟩
  execute sql _ := by
    rintro _ rfl
    exact ⟨_, rfl, rfl⟩
  takes sql := by
    rintro _ rfl
    exact takes catalog sql
  type oid := by
    rintro _ rfl
    exact ⟨_, rfl, rfl⟩
  column table number := by
    rintro _ rfl
    exact ⟨_, rfl, rfl⟩
  stands := by
    rintro _ rfl
    exact ⟨rfl, rfl⟩
  room := by
    rintro ⟨_, lost, closed⟩ (rfl | ⟨rfl, rfl⟩) <;> exact Nat.lt_add_of_pos_right (by decide)

end ScriptedServer

end QueryTyping
