import QueryTyping.Connection

/-!
# Nested transaction blocks

Which blocks are open along a trace of a connection (`openBlocks`), and what it is
for a trace to keep to them (`KeepsBlocks`): it does if it sends what it has to send
before its questions to the catalog, all in one forced block
(`ForcedBlock.keepsBlocks`).
-/

namespace QueryTyping

/-- The blocks that are open after an event, innermost first, each by whether it is forced to roll
back.  Only the innermost block is closed, and a forced one is not committed. -/
def ConnectionEvent.blocksAfter (blocks : List Bool) : ConnectionEvent → Option (List Bool)
  | .begin forced => some (forced :: blocks)
  | .commit =>
    match blocks with
    | false :: outer => some outer
    | _ => none
  | .rollback => blocks.tail?
  | _ => some blocks

/-- The blocks that are open after a trace, unless it closes one that is not open. -/
def openBlocks (blocks : List Bool) (trace : List ConnectionEvent) : Option (List Bool) :=
  trace.foldlM ConnectionEvent.blocksAfter blocks

section Nesting

variable {blocks middle after : List Bool} {trace more : List ConnectionEvent}

theorem openBlocks_append (blocks : List Bool) (trace more : List ConnectionEvent) :
    openBlocks blocks (trace ++ more) = (openBlocks blocks trace).bind (openBlocks · more) := by
  unfold openBlocks
  rw [List.foldlM_append]
  rfl

theorem openBlocks_append_of_eq (first : openBlocks blocks trace = some middle) :
    openBlocks blocks (trace ++ more) = openBlocks middle more := by
  rw [openBlocks_append, first]
  rfl

theorem ConnectionEvent.blocksAfter_outer {event : ConnectionEvent}
    (opened : event.blocksAfter blocks = some after) (outer : List Bool) :
    event.blocksAfter (blocks ++ outer) = some (after ++ outer) := by
  cases event with
  | commit =>
    rcases blocks with _ | ⟨_ | _, blocks⟩
    · cases opened
    · cases opened
      rfl
    · cases opened
  | rollback =>
    rcases blocks with _ | ⟨block, blocks⟩
    · cases opened
    · cases opened
      rfl
  | _ =>
    cases opened
    rfl

/-- Blocks around those of a trace stay open. -/
theorem openBlocks_outer (opened : openBlocks blocks trace = some after) (outer : List Bool) :
    openBlocks (blocks ++ outer) trace = some (after ++ outer) := by
  induction trace generalizing blocks with
  | nil =>
    cases opened
    rfl
  | cons event trace ih =>
    obtain ⟨next, one, others⟩ := Option.bind_eq_some_iff.mp opened
    exact Option.bind_eq_some_iff.mpr ⟨_, ConnectionEvent.blocksAfter_outer one outer, ih others⟩

/-- The blocks that are open along a well nested trace. -/
theorem exists_openBlocks_of_append (opened : openBlocks blocks (trace ++ more) = some after) :
    ∃ middle, openBlocks blocks trace = some middle := by
  rw [openBlocks_append] at opened
  obtain ⟨middle, first, -⟩ := Option.bind_eq_some_iff.mp opened
  exact ⟨middle, first⟩

end Nesting

namespace ConnectionEvent

/-- The event sends something on its own: a connection is made or a statement executed. -/
def Sends : ConnectionEvent → Prop
  | connect _ => True
  | execute _ => True
  | _ => False

/-- The event is part of a question to the catalog. -/
def Inquires : ConnectionEvent → Prop
  | begin forced => forced = false
  | commit => True
  | rollback => True
  | prepare _ => True
  | describePrepared => True
  | type _ => True
  | column _ _ => True
  | _ => False

def isConnect : ConnectionEvent → Bool
  | connect _ => true
  | _ => false

theorem blocksAfter_of_sends {event : ConnectionEvent} (sends : event.Sends) (blocks : List Bool) :
    event.blocksAfter blocks = some blocks := by
  cases event <;> first | rfl | cases sends

end ConnectionEvent

theorem openBlocks_of_sends {trace : List ConnectionEvent} (sends : ∀ event ∈ trace, event.Sends)
    (blocks : List Bool) : openBlocks blocks trace = some blocks := by
  induction trace with
  | nil => rfl
  | cons event trace ih =>
    obtain ⟨first, others⟩ := List.forall_mem_cons.mp sends
    exact Option.bind_eq_some_iff.mpr
      ⟨blocks, ConnectionEvent.blocksAfter_of_sends first blocks, ih others⟩

/-- How a trace keeps to its blocks. -/
structure KeepsBlocks (trace : List ConnectionEvent) : Prop where
  nested : openBlocks [] trace = some []
  /-- Once a forced block has begun, it is the outermost one until the last event. -/
  outermost : ∀ before rest, trace = before ++ rest → .begin true ∈ before → rest ≠ [] →
    ∃ blocks, openBlocks [] before = some (blocks ++ [true])
  /-- What is committed is a block inside the forced one. -/
  commits : ∀ before rest, trace = before ++ .commit :: rest →
    ∃ blocks, openBlocks [] before = some (false :: blocks ++ [true])
  /-- Nothing is executed after a statement was prepared. -/
  prepares : ∀ before sql rest, trace = before ++ .execute sql :: rest →
    ∀ other, .prepare other ∉ before

/-- A list with a part enclosed is split before that part or within. -/
theorem split_enclosed {α : Type} {opening inner before rest : List α} {first last : α}
    (whole : opening ++ first :: (inner ++ [last]) = before ++ rest) (more : rest ≠ []) :
    (∃ left, opening = before ++ left ∧ rest = left ++ first :: (inner ++ [last])) ∨
      ∃ part left, before = opening ++ first :: part ∧ inner = part ++ left ∧
        rest = left ++ [last] := by
  rcases List.append_eq_append_iff.mp whole with ⟨behind, same, others⟩ | ⟨left, same, others⟩
  · rcases behind with _ | ⟨_, part⟩
    · exact .inl ⟨[], by simpa using same.symm, others.symm⟩
    · obtain ⟨rfl, later⟩ := List.cons.inj others
      rcases List.append_eq_append_iff.mp later with ⟨behind, rfl, closes⟩ | ⟨left, rfl, closes⟩
      · rcases behind with _ | ⟨_, behind⟩
        · exact .inr ⟨inner, [], by simpa using same, by simp, closes.symm⟩
        · have none := (List.append_eq_nil_iff.mp (List.cons.inj closes).2.symm).2
          exact absurd none more
      · exact .inr ⟨part, left, same, rfl, closes⟩
  · exact .inl ⟨left, same, others⟩

namespace KeepsBlocks

theorem of_sends {trace : List ConnectionEvent} (sends : ∀ event ∈ trace, event.Sends) :
    KeepsBlocks trace where
  nested := openBlocks_of_sends sends []
  outermost before rest whole begun _ :=
    (sends (.begin true) (whole ▸ List.mem_append_left rest begun)).elim
  commits before rest whole := (sends .commit (by simp [whole])).elim
  prepares before sql rest whole other prepared :=
    (sends (.prepare other) (whole ▸ List.mem_append_left _ prepared)).elim

end KeepsBlocks

/-- A connection is opened, then one forced block sends scripts and asks questions, whose own blocks
are closed. -/
structure ForcedBlock (opening scripts questions : List ConnectionEvent) : Prop where
  opens : ∀ event ∈ opening, event.Sends
  loads : ∀ event ∈ scripts, event.Sends
  asks : ∀ event ∈ questions, event.Inquires
  closed : openBlocks [] questions = some []

namespace ForcedBlock

variable {opening scripts questions : List ConnectionEvent}

/-- The trace with these parts. -/
def trace (opening scripts questions : List ConnectionEvent) : List ConnectionEvent :=
  opening ++ .begin true :: (scripts ++ questions ++ [.rollback])

variable (parts : ForcedBlock opening scripts questions)

include parts

theorem inside : openBlocks [] (scripts ++ questions) = some [] := by
  rw [openBlocks_append_of_eq (openBlocks_of_sends parts.loads []), parts.closed]

theorem openBlocks_begun (part : List ConnectionEvent) :
    openBlocks [] (opening ++ .begin true :: part) = openBlocks [true] part :=
  openBlocks_append_of_eq (openBlocks_of_sends parts.opens [])

theorem nested : openBlocks [] (trace opening scripts questions) = some [] := by
  have forced : openBlocks [true] (scripts ++ questions) = some [true] :=
    openBlocks_outer parts.inside [true]
  rw [trace, parts.openBlocks_begun, openBlocks_append_of_eq forced]
  rfl

theorem outermost {before rest : List ConnectionEvent}
    (whole : trace opening scripts questions = before ++ rest) (begins : .begin true ∈ before)
    (more : rest ≠ []) : ∃ blocks, openBlocks [] before = some (blocks ++ [true]) := by
  rcases split_enclosed whole more with ⟨left, rfl, -⟩ | ⟨part, left, rfl, split, -⟩
  · exact (parts.opens _ (List.mem_append_left left begins)).elim
  · have inside := parts.inside
    rw [split] at inside
    obtain ⟨blocks, part⟩ := exists_openBlocks_of_append inside
    exact ⟨blocks, (parts.openBlocks_begun _).trans (openBlocks_outer part [true])⟩

/-- Nothing is committed before the forced block. -/
theorem begins_of_commit {before rest : List ConnectionEvent}
    (split : trace opening scripts questions = before ++ .commit :: rest) :
    .begin true ∈ before := by
  rcases split_enclosed split (List.cons_ne_nil _ _) with ⟨left, rfl, others⟩ | ⟨_, _, rfl, _⟩
  · rcases left with _ | ⟨event, left⟩
    · cases others
    · cases others
      exact (parts.opens .commit (by simp)).elim
  · simp

theorem commits {before rest : List ConnectionEvent}
    (split : trace opening scripts questions = before ++ .commit :: rest) :
    ∃ blocks, openBlocks [] before = some (false :: blocks ++ [true]) := by
  obtain ⟨blocks, opened⟩ :=
    parts.outermost split (parts.begins_of_commit split) (List.cons_ne_nil _ _)
  have whole := parts.nested
  rw [split, openBlocks_append_of_eq opened] at whole
  -- Only a block that is not forced is committed, so another one is open inside.
  rcases blocks with _ | ⟨_ | _, blocks⟩
  · cases whole
  · exact ⟨blocks, opened⟩
  · cases whole

theorem prepares {before rest : List ConnectionEvent} {sql : String}
    (split : trace opening scripts questions = before ++ .execute sql :: rest) (other : String) :
    .prepare other ∉ before := by
  intro prepared
  rcases split_enclosed split (List.cons_ne_nil _ _)
    with ⟨left, rfl, -⟩ | ⟨part, left, rfl, inner, ends⟩
  · exact parts.opens _ (List.mem_append_left left prepared)
  rcases List.mem_append.mp prepared with early | late
  · exact parts.opens _ early
  have prepared : .prepare other ∈ part := by simpa using late
  rcases left with _ | ⟨event, left⟩
  · cases ends
  cases ends
  -- What was prepared is no script, so the execution is among the questions.
  rcases List.append_eq_append_iff.mp inner with ⟨_, _, rfl⟩ | ⟨_, rfl, _⟩
  · exact parts.asks (.execute sql) (by simp)
  · exact parts.loads _ (List.mem_append_left _ prepared)

theorem keepsBlocks : KeepsBlocks (trace opening scripts questions) where
  nested := parts.nested
  outermost _ _ := parts.outermost
  commits _ _ := parts.commits
  prepares _ _ _ := parts.prepares

end ForcedBlock

end QueryTyping
