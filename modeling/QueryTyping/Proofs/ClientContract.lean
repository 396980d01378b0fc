import QueryTyping.Connection.Client
import QueryTyping.Proofs.FailureNames

/-!
# Clients are catalog sessions

Errors are followed through the steps of a client (`Attempt.FailsOnly`): whatever a
server does, only the description of a statement ends in an inference failure, and
then in a rejection.  So a client of any server is a session that keeps its contract
(`Client.catalogSession`).
-/

namespace QueryTyping

variable {σ : Type}

/-- Every error of the action is one of these. -/
def Attempt.FailsOnly {α : Type} (allowed : Error → Prop) (action : Attempt σ α) : Prop :=
  ∀ state error, (action.run state).1 = .error error → allowed error

namespace Attempt.FailsOnly

variable {α β : Type} {allowed more : Error → Prop}

theorem pure (value : α) : FailsOnly allowed (Pure.pure value : Attempt σ α) :=
  fun _ _ failed => nomatch failed

theorem throw {error : Error} (is : allowed error) :
    FailsOnly allowed (MonadExcept.throw error : Attempt σ α) := by
  rintro state _ ⟨⟩
  exact is

theorem of_ok {action : Attempt σ α} (ok : ∀ state, ∃ value, (action.run state).1 = .ok value) :
    FailsOnly allowed action := by
  intro state error failed
  obtain ⟨value, same⟩ := ok state
  rw [same] at failed
  cases failed

theorem mono {action : Attempt σ α} (only : FailsOnly allowed action)
    (weaker : ∀ error, allowed error → more error) : FailsOnly more action :=
  fun state error failed => weaker error (only state error failed)

theorem bind {first : Attempt σ α} {next : α → Attempt σ β} (one : FailsOnly allowed first)
    (others : ∀ value, FailsOnly allowed (next value)) : FailsOnly allowed (first >>= next) := by
  intro state error failed
  rw [run_bind] at failed
  rcases ran : first.run state with ⟨raised | value, after⟩ <;> rw [ran] at failed
  · cases failed
    exact one state error (by rw [ran])
  · exact others value after error failed

theorem tryCatch {body : Attempt σ α} {handler : Error → Attempt σ α}
    (only : FailsOnly more body)
    (handled : ∀ error, more error → FailsOnly allowed (handler error)) :
    FailsOnly allowed (MonadExcept.tryCatch body handler) := by
  intro state error failed
  rw [run_tryCatch] at failed
  rcases ran : body.run state with ⟨raised | value, after⟩ <;> rw [ran] at failed
  · exact handled raised (only state raised (by rw [ran])) after error failed
  · cases failed

end Attempt.FailsOnly

namespace Client

open Attempt

/-- No inference failure. -/
def Foreign (error : Error) : Prop := ∀ failure, error ≠ .failure (.inference failure)

/-- The server or the connection is at fault, or nothing foreseen. -/
def OfServer : Error → Prop
  | .failure (.general _) => True
  | .failure (.network _) => True
  | .failure (.timeout _) => True
  | .unforeseen _ => True
  | _ => False

/-- The server is at fault, or the statement, which was rejected. -/
def OfStatement (error : Error) : Prop :=
  OfServer error ∨ ∃ failure, error = .failure (.inference failure) ∧ failure.cause = .catalog

theorem OfServer.foreign {error : Error} (fault : OfServer error) : Foreign error := by
  rintro failure rfl
  exact fault

section Errors

variable (error : DatabaseError)

theorem ofServer_raw : OfServer error.raw := trivial

theorem ofServer_whileConnecting (settings : ConnectionSettings) :
    OfServer (error.whileConnecting settings) := by
  unfold DatabaseError.whileConnecting
  split
  · trivial
  · exact ofServer_raw error

theorem ofServer_ofQuery (timeout : Double) : OfServer (error.ofQuery timeout) := by
  unfold DatabaseError.ofQuery
  split
  · trivial
  · trivial
  · trivial
  · exact ofServer_raw error

theorem ofServer_ofScript : OfServer error.ofScript := by
  unfold DatabaseError.ofScript
  split
  · trivial
  · trivial

theorem ofServer_ofStatement : OfServer error.ofStatement := by
  unfold DatabaseError.ofStatement
  split
  · trivial
  · exact ofServer_raw error

theorem ofServer_timeoutStatement {config : ResolvedConfig} {error : Error}
    (failed : config.timeoutStatement = .error error) : OfServer error := by
  unfold ResolvedConfig.timeoutStatement at failed
  split at failed
  · cases failed
    trivial
  · split at failed
    · cases failed
    · cases failed
      trivial

end Errors

variable {α : Type} (server : Server σ)

theorem serve_failsOnly (action : StateM σ α) (allowed : Error → Prop) :
    FailsOnly allowed (serve action) :=
  .of_ok fun _ => ⟨_, rfl⟩

theorem record_failsOnly (event : ConnectionEvent) (allowed : Error → Prop) :
    FailsOnly allowed (record event : Attempt (Client σ) Unit) :=
  .of_ok fun _ => ⟨_, rfl⟩

theorem serveOr_failsOnly {sorted : DatabaseError → Error}
    (fault : ∀ error, OfServer (sorted error))
    (action : StateM σ (Except DatabaseError α)) : FailsOnly OfServer (serveOr sorted action) := by
  unfold serveOr
  refine .bind (serve_failsOnly action OfServer) fun answer => ?_
  cases answer with
  | ok value => exact .pure value
  | error error => exact .throw (fault error)

theorem execute_failsOnly {sorted : DatabaseError → Error}
    (fault : ∀ error, OfServer (sorted error)) (sql : String) :
    FailsOnly OfServer (execute server sorted sql) :=
  .bind (record_failsOnly _ _) fun _ => serveOr_failsOnly fault _

theorem connect_failsOnly : FailsOnly OfServer (connect server) := by
  unfold connect
  refine .bind (.of_ok fun _ => ⟨_, rfl⟩) fun client => ?_
  dsimp only
  split
  · exact .pure ()
  refine .bind (record_failsOnly _ _) fun _ => ?_
  refine .bind (serveOr_failsOnly (fun error => ofServer_whileConnecting error _) _) fun _ => ?_
  refine .bind (.of_ok fun _ => ⟨_, rfl⟩) fun _ => ?_
  split
  case' h_1 => refine .bind (execute_failsOnly server ofServer_raw _) fun _ => ?_
  case' h_2 _ failed => refine .bind (.throw (ofServer_timeoutStatement failed)) fun _ => ?_
  all_goals
    split
    · exact execute_failsOnly server ofServer_raw _
    · exact .pure ()

theorem lookupType_failsOnly (oid : Int) : FailsOnly OfServer (lookupType server oid) := by
  refine .bind (connect_failsOnly server) fun _ => .bind (record_failsOnly _ _) fun _ => ?_
  refine .bind (.of_ok fun _ => ⟨_, rfl⟩) fun _ => ?_
  exact serveOr_failsOnly (fun error => ofServer_ofQuery error _) _

theorem lookupColumn_failsOnly (table number : Int) :
    FailsOnly OfServer (lookupColumn server table number) := by
  refine .bind (connect_failsOnly server) fun _ => .bind (record_failsOnly _ _) fun _ => ?_
  refine .bind (.of_ok fun _ => ⟨_, rfl⟩) fun _ => ?_
  exact serveOr_failsOnly (fun error => ofServer_ofQuery error _) _

theorem transaction_failsOnly {body : Attempt (Client σ) α} {allowed : Error → Prop}
    (only : FailsOnly allowed body) (forceRollback : Bool) :
    FailsOnly allowed (transaction forceRollback body) := by
  refine .bind (record_failsOnly _ _) fun _ => .bind (.tryCatch only fun error is => ?_) fun _ => ?_
  · exact .bind (record_failsOnly _ _) fun _ => .throw is
  · exact .bind (record_failsOnly _ _) fun _ => .pure _

theorem valueOf_failsOnly (reply : ServerReply α) :
    FailsOnly OfStatement (valueOf server reply) := by
  unfold valueOf
  cases reply with
  | done value => exact .pure value
  | raised error => exact .throw (.inl (ofServer_ofStatement error))
  | rejected bytes =>
    refine .bind (.of_ok fun _ => ⟨_, rfl⟩) fun client => ?_
    split
    · exact .throw (.inl trivial)
    · exact .throw (.inr ⟨_, rfl, rfl⟩)

theorem describe_failsOnly (sql : String) : FailsOnly OfStatement (describe server sql) := by
  refine .bind ((connect_failsOnly server).mono fun _ => .inl) fun _ => ?_
  refine .bind (transaction_failsOnly ?_ _) fun _ => .pure _
  refine .bind (record_failsOnly _ _) fun _ => .bind (serve_failsOnly _ _) fun _ => ?_
  refine .bind (valueOf_failsOnly server _) fun _ => .bind (record_failsOnly _ _) fun _ => ?_
  exact .bind (serve_failsOnly _ _) fun _ => valueOf_failsOnly server _

/-- A client rejects statements, and has no other inference failures, whatever its server does. -/
def catalogSession : CatalogSession (Client σ) where
  toSession := Client.session server
  never_raises := by
    intro exchange state next failure occurs raises
    cases exchange with
    | describe sql reply =>
      obtain ⟨same, other⟩ := raises
      have failed := (congrArg Prod.fst occurs).trans same
      rcases describe_failsOnly server sql state _ failed with fault | ⟨_, ⟨⟩, rejected⟩
      · cases fault
      · exact other rejected
    | type oid reply =>
      have failed := (congrArg Prod.fst occurs).trans raises
      exact (lookupType_failsOnly server oid state _ failed).foreign failure rfl
    | column table number reply =>
      have failed := (congrArg Prod.fst occurs).trans raises
      exact (lookupColumn_failsOnly server table number state _ failed).foreign failure rfl

end Client

end QueryTyping
