import QueryTyping.Proofs.ConnectionTrace

/-!
# How a connection stands

What became of a connection by the events on it: the statements executed on it and
the blocks that are open (`Server.footing`).  A statement that fails spoils the
innermost block, and only a rollback helps.  A history meets a rule if each event does,
where it happened (`Server.Meets`).
-/

namespace QueryTyping

variable {σ α : Type}

/-- How a connection stands. -/
structure Footing (σ : Type) where
  server : σ
  /-- What was executed on the connection, latest first. -/
  executed : List String := []
  /-- The statement that was prepared last. -/
  prepared : String := ""
  /-- The blocks that are open, innermost first, each by whether a statement failed in it. -/
  blocks : List Bool := []

namespace Footing

variable (footing : Footing σ)

/-- After a statement that failed. -/
def spoiled (next : σ) : Footing σ :=
  { footing with
    server := next
    blocks :=
      match footing.blocks with
      | [] => []
      | _ :: outer => true :: outer }

/-- After an answer. -/
def answered : Except DatabaseError α × σ → Footing σ
  | (.ok _, next) => { footing with server := next }
  | (.error _, next) => footing.spoiled next

/-- After a reply about a statement. -/
def replied : ServerReply α × σ → Footing σ
  | (.done _, next) => { footing with server := next }
  | (_, next) => footing.spoiled next

@[simp]
theorem executed_spoiled (next : σ) : (footing.spoiled next).executed = footing.executed := rfl

@[simp]
theorem server_spoiled (next : σ) : (footing.spoiled next).server = next := rfl

@[simp]
theorem executed_answered {α : Type} (answer : Except DatabaseError α × σ) :
    (footing.answered answer).executed = footing.executed := by
  obtain ⟨_ | _, next⟩ := answer <;> rfl

@[simp]
theorem server_answered {α : Type} (answer : Except DatabaseError α × σ) :
    (footing.answered answer).server = answer.2 := by
  obtain ⟨_ | _, next⟩ := answer <;> rfl

@[simp]
theorem executed_replied {α : Type} (reply : ServerReply α × σ) :
    (footing.replied reply).executed = footing.executed := by
  obtain ⟨_ | _ | _, next⟩ := reply <;> rfl

@[simp]
theorem server_replied {α : Type} (reply : ServerReply α × σ) :
    (footing.replied reply).server = reply.2 := by
  obtain ⟨_ | _ | _, next⟩ := reply <;> rfl

@[simp]
theorem prepared_replied {α : Type} (reply : ServerReply α × σ) :
    (footing.replied reply).prepared = footing.prepared := by
  obtain ⟨_ | _ | _, next⟩ := reply <;> rfl

/-- What the server makes of an event.  Nothing of a connection is left on the next one; if none is
made, the one before stays as it is. -/
def after (server : Server σ) : ConnectionEvent → Footing σ
  | .connect settings =>
    match (server.connect settings).run footing.server with
    | (.ok _, next) => { server := next }
    | (.error _, next) => { footing with server := next }
  | .execute sql =>
    match (server.execute sql).run footing.server with
    | (.ok _, next) => { footing with server := next, executed := sql :: footing.executed }
    | (.error _, next) => footing.spoiled next
  | .begin _ => { footing with blocks := false :: footing.blocks }
  | .commit => { footing with blocks := footing.blocks.tail }
  | .rollback => { footing with blocks := footing.blocks.tail }
  | .prepare sql =>
    { footing with prepared := sql }.replied ((server.prepare sql).run footing.server)
  | .describePrepared =>
    footing.replied ((server.describePrepared footing.prepared).run footing.server)
  | .type oid => footing.answered ((server.lookupType oid).run footing.server)
  | .column table number =>
    footing.answered ((server.lookupColumn table number).run footing.server)
  | .query sql params => footing.answered ((server.query sql params).run footing.server)
  | .close => { server := footing.server }

/-- The block in which the event happens is not spoiled, unless it is rolled back or left. -/
def IsUsable : ConnectionEvent → Prop
  | .connect _ => True
  | .rollback => True
  | .close => True
  | _ => footing.blocks.head? ≠ some true

theorem server_execute (server : Server σ) (sql : String) :
    (footing.after server (.execute sql)).server = ((server.execute sql).run footing.server).2 := by
  rcases ran : (server.execute sql).run footing.server with ⟨error | _, next⟩ <;> simp [after, ran]

theorem subset_execute (server : Server σ) (sql : String) :
    footing.executed ⊆ (footing.after server (.execute sql)).executed := by
  rcases ran : (server.execute sql).run footing.server with ⟨error | _, next⟩ <;> simp [after, ran]

end Footing

namespace Server

variable (server : Server σ) (origin : Footing σ)

/-- How the connection stands after these events, latest first. -/
def footing : List ConnectionEvent → Footing σ
  | [] => origin
  | event :: earlier => (footing earlier).after server event

/-- Each of the events, latest first, meets the rule where it happened. -/
def Meets (rule : Footing σ → ConnectionEvent → Prop) (events : List ConnectionEvent) : Prop :=
  ∀ event earlier, event :: earlier <:+ events → rule (server.footing origin earlier) event

@[simp]
theorem footing_nil : server.footing origin [] = origin := rfl

@[simp]
theorem footing_cons (event : ConnectionEvent) (earlier : List ConnectionEvent) :
    server.footing origin (event :: earlier) = (server.footing origin earlier).after server event :=
  rfl

theorem footing_append (later earlier : List ConnectionEvent) :
    server.footing origin (later ++ earlier) =
      server.footing (server.footing origin earlier) later := by
  induction later with
  | nil => rfl
  | cons event later ih => rw [List.cons_append, footing_cons, footing_cons, ih]

variable {rule : Footing σ → ConnectionEvent → Prop}

@[simp]
theorem meets_nil : server.Meets origin rule [] :=
  fun _ _ part => absurd (List.suffix_nil.mp part) (List.cons_ne_nil _ _)

@[simp]
theorem meets_cons_iff (event : ConnectionEvent) (earlier : List ConnectionEvent) :
    server.Meets origin rule (event :: earlier) ↔
      rule (server.footing origin earlier) event ∧ server.Meets origin rule earlier := by
  constructor
  · intro meets
    exact ⟨meets event earlier (List.suffix_refl _), fun other before part =>
      meets other before (part.trans (List.suffix_cons event earlier))⟩
  · rintro ⟨now, before⟩ other rest part
    rcases List.suffix_cons_iff.mp part with same | part
    · cases same
      exact now
    · exact before other rest part

theorem meets_append_iff (later earlier : List ConnectionEvent) :
    server.Meets origin rule (later ++ earlier) ↔
      server.Meets (server.footing origin earlier) rule later ∧
        server.Meets origin rule earlier := by
  induction later with
  | nil => simp
  | cons event later ih =>
    rw [List.cons_append, meets_cons_iff, meets_cons_iff, ih, footing_append, and_assoc]

end Server

end QueryTyping
