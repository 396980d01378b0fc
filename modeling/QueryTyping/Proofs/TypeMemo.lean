import QueryTyping.Catalog.Snapshot
import QueryTyping.Proofs.Denotation

/-!
# The memo of resolved types

A resolver lives through resolutions, failed ones too, while its catalog gets more
rows (`ResolverStep`).  Its memo stays sound, since what a catalog says of a type it
goes on to say with more rows, and closed, since a type is kept after its element.
Hence nobody can tell that there is a memo, but for the questions that it saves
(`resolveType_memo_invisible`).
-/

namespace QueryTyping

namespace TypeDescriptor

/-- The identifiers on a type's chain of elements, its own first. -/
def chain : TypeDescriptor → List Int
  | plain oid _ _ => [oid]
  | derived oid _ _ elem => oid :: elem.chain

theorem oid_mem_chain (type : TypeDescriptor) : type.oid ∈ type.chain := by
  cases type <;> exact List.mem_cons_self

theorem builtinScalars_chain : ∀ type ∈ builtinScalars, type.chain = [type.oid] := by
  decide

theorem builtinScalar?_chain {oid : Int} {type : TypeDescriptor}
    (known : builtinScalar? oid = some type) : type.oid = oid ∧ type.chain = [oid] := by
  have same : type.oid = oid := by simpa using List.find?_some known
  refine ⟨same, ?_⟩
  rw [builtinScalars_chain type (List.mem_of_find?_eq_some known), same]

theorem builtin?_of_builtinScalar? {oid : Int} {type : TypeDescriptor}
    (known : builtinScalar? oid = some type) : builtin? oid = some type := by
  unfold builtin?
  rw [known]

/-- The elements of built-in types are built in. -/
theorem builtin?_chain {oid : Int} {type : TypeDescriptor} (known : builtin? oid = some type) :
    type.oid = oid ∧ ∀ link ∈ type.chain, (builtin? link).isSome := by
  have self : (builtin? oid).isSome := by rw [known]; rfl
  cases scalar : builtinScalar? oid with
  | some found =>
    rw [builtin?_of_builtinScalar? scalar] at known
    cases known
    obtain ⟨same, chain⟩ := builtinScalar?_chain scalar
    refine ⟨same, fun link member => ?_⟩
    rw [chain] at member
    cases List.mem_singleton.mp member
    exact self
  | none =>
    simp only [builtin?, scalar, Option.bind_eq_bind, Option.bind_eq_some_iff, Option.pure_def,
      Option.some.injEq] at known
    obtain ⟨elemOid, -, elem, found, rfl⟩ := known
    refine ⟨rfl, fun link member => ?_⟩
    rcases List.mem_cons.mp member with rfl | member
    · exact self
    · rw [(builtinScalar?_chain found).2] at member
      cases List.mem_singleton.mp member
      rw [builtin?_of_builtinScalar? found]
      rfl

end TypeDescriptor

theorem CatalogDenotes.oid_eq {types : Int → Except Error (Option CatalogType)}
    {query : Option String} {oid : Int} {result : Except Error TypeDescriptor}
    (denotes : CatalogDenotes types query oid result) {type : TypeDescriptor}
    (ok : result = .ok type) : type.oid = oid := by
  cases denotes with
  | given known =>
    cases ok
    exact (TypeDescriptor.builtin?_chain known).1
  | failed => cases ok
  | absent => cases ok
  | plain =>
    cases ok
    rfl
  | @array _ _ elem =>
    cases elem with
    | error => cases ok
    | ok =>
      cases ok
      rfl

/-- With a type the memo knows the types on its chain. -/
def TypeMemo.Closed (memo : TypeMemo) : Prop :=
  ∀ oid type, memo.find? oid = some type → ∀ link ∈ type.chain, memo.Knows link

theorem TypeMemo.closed_empty : ({} : TypeMemo).Closed :=
  fun _ _ found => nomatch found

theorem TypeMemo.Closed.insert {memo : TypeMemo} (closed : memo.Closed) {oid : Int}
    {type : TypeDescriptor}
    (chain : ∀ link ∈ type.chain, link = oid ∨ memo.Knows link) :
    (memo.insert oid type).Closed := by
  have grows {link : Int} (known : link = oid ∨ memo.Knows link) :
      (memo.insert oid type).Knows link := by
    by_cases same : link = oid
    · subst same
      exact .inl (by rw [find?_insert_self]; rfl)
    · rcases known with same' | known
      · exact absurd same' same
      · unfold Knows at known ⊢
        rwa [find?_insert_of_ne _ _ same]
  intro other entry found link member
  rw [find?_insert] at found
  split at found
  · cases found
    exact grows (chain link member)
  · exact grows (.inr (closed other entry found link member))

namespace Resolves

variable {σ : Type} {session : Session σ} {query : Option String} {links : Nat} {oid : Int}
  {state last : Resolving σ} {talk : List Exchange} {result : Except Error TypeDescriptor}

theorem closed (run : Resolves session query links oid state talk result last)
    (closed : state.memo.Closed) : last.memo.Closed := by
  induction run with
  | endless => exact closed
  | memoized => exact closed
  | builtin _ _ known =>
    exact closed.insert fun link member =>
      .inr (.inr ((TypeDescriptor.builtin?_chain known).2 link member))
  | failed => exact closed
  | absent => exact closed
  | plain => exact closed.insert fun link member => .inl (List.mem_singleton.mp member)
  | array _ _ _ inner ih =>
    refine (ih closed).insert fun link member => ?_
    rcases List.mem_cons.mp member with same | member
    · exact .inl same
    · exact .inr (ih closed _ _ (inner.remembers rfl) link member)
  | broken _ _ _ _ ih => exact ih closed

end Resolves

/-- The session answers about types from a catalog that no question changes, and allows more links
than the catalog has rows. -/
structure Session.KeepsCatalog {σ : Type} (session : Session σ)
    (rows : σ → Int → Option CatalogType) : Prop where
  reply : ∀ oid state, ((session.lookupType oid).run state).1 = .ok (rows state oid)
  keeps : ∀ oid state, rows ((session.lookupType oid).run state).2 = rows state
  room : ∀ state, ∃ oids : List Int, oids.length < session.chainBound state ∧
    ∀ oid row, rows state oid = some row → oid ∈ oids

section History

variable {σ : Type} {session : Session σ} {rows : σ → Int → Option CatalogType}

theorem Session.KeepsCatalog.reads (keeps : session.KeepsCatalog rows)
    (catalog : Int → Option CatalogType) :
    session.ReadsTypes (fun state => rows state = catalog) (fun oid => .ok (catalog oid)) where
  reply oid state same := by
    rw [← same]
    exact keeps.reply oid state
  keeps oid state same := (keeps.keeps oid state).trans same
  room := by
    rintro state rfl
    obtain ⟨oids, room, listed⟩ := keeps.room state
    exact ⟨oids, room, fun oid row found => listed oid row (Except.ok.inj found)⟩

/-- Keeping the questions does not change the answers. -/
theorem Session.KeepsCatalog.traced (keeps : session.KeepsCatalog rows) :
    session.traced.KeepsCatalog fun state => rows state.1 where
  reply oid state := keeps.reply oid state.1
  keeps oid state := keeps.keeps oid state.1
  room state := keeps.room state.1

theorem Session.KeepsCatalog.readsTypes (keeps : session.KeepsCatalog rows)
    (catalog : Int → Option CatalogType) :
    session.traced.ReadsTypes (fun state => rows state.1 = catalog)
      (fun oid => .ok (catalog oid)) :=
  keeps.traced.reads catalog

/-- What a catalog says of a type it goes on to say with more rows. -/
theorem TypeMemo.Sound.grow {memo : TypeMemo} {catalog larger : Int → Option CatalogType}
    (sound : memo.Sound fun oid => .ok (catalog oid))
    (more : ∀ oid row, catalog oid = some row → larger oid = some row) :
    memo.Sound fun oid => .ok (larger oid) := by
  intro oid type found query
  refine (sound oid type found query).lift_ok rfl (fun _ _ known => known) ?_ query
  rintro oid row ⟨new, reply⟩
  exact ⟨new, congrArg Except.ok (more oid row (Except.ok.inj reply))⟩

/-- A catalog that always answers gives a type or lacks one. -/
theorem CatalogDenotes.ok_or_unknown {catalog : Int → Option CatalogType} {query : Option String}
    {oid : Int} {result : Except Error TypeDescriptor}
    (denotes : CatalogDenotes (fun oid => .ok (catalog oid)) query oid result) :
    (∃ type, result = .ok type) ∨
      ∃ missing, result = .error (.failure (.unknownType missing query)) := by
  induction denotes with
  | given => exact .inl ⟨_, rfl⟩
  | failed reply => cases reply.2
  | absent => exact .inr ⟨_, rfl⟩
  | plain => exact .inl ⟨_, rfl⟩
  | array _ _ _ ih =>
    rcases ih with ⟨type, rfl⟩ | ⟨missing, rfl⟩
    · exact .inl ⟨_, rfl⟩
    · exact .inr ⟨missing, rfl⟩

variable (session rows) in
/-- What happens to a resolver on a session that keeps its questions: it resolves a type, or the
catalog gets rows for types that had none. -/
inductive ResolverStep :
    Resolving (σ × List Question) → Resolving (σ × List Question) → Prop
  | resolve (oid : Int) (query : Option String) (state : Resolving (σ × List Question)) :
    ResolverStep state ((resolveType session.traced oid query).run state).2
  | grow (state : Resolving (σ × List Question)) {next : σ}
    (more : ∀ oid row, rows state.session.1 oid = some row → rows next oid = some row)
    (acyclic : NoElementCycle fun oid => .ok (rows next oid)) :
    ResolverStep state ⟨(next, state.session.2), state.memo⟩

/-- What holds of a resolver at all times. -/
structure ResolverInvariant (rows : σ → Int → Option CatalogType)
    (state : Resolving (σ × List Question)) : Prop where
  acyclic : NoElementCycle fun oid => .ok (rows state.session.1 oid)
  sound : state.memo.Sound fun oid => .ok (rows state.session.1 oid)
  closed : state.memo.Closed
  asked : ∀ oid, .type oid ∈ state.session.2 → TypeDescriptor.builtin? oid = none

/-- A step asks for types only that the memo does not know, and keeps what it knows. -/
theorem ResolverStep.asks {state later : Resolving (σ × List Question)}
    (step : ResolverStep session rows state later) :
    ∃ asked, later.session.2 = asked ++ state.session.2 ∧
      (∀ oid, .type oid ∈ asked → ¬ state.memo.Knows oid) ∧
      ∀ oid, state.memo.Knows oid → later.memo.Knows oid := by
  cases step with
  | resolve oid query =>
    obtain ⟨talk, run⟩ := resolveType_resolves session.traced query oid state
    refine ⟨_, (Resolves.talks run).traced.2, fun other member => ?_,
      fun other => Resolves.knows run⟩
    obtain ⟨exchange, told, question⟩ := List.mem_map.mp (List.mem_reverse.mp member)
    obtain ⟨looked, reply, rfl, new⟩ := Resolves.asks run told
    cases question
    exact new
  | grow =>
    exact ⟨[], rfl, fun _ member => absurd member List.not_mem_nil, fun _ known => known⟩

theorem ResolverStep.invariant (keeps : session.KeepsCatalog rows)
    {state later : Resolving (σ × List Question)} (step : ResolverStep session rows state later)
    (holds : ResolverInvariant rows state) : ResolverInvariant rows later := by
  obtain ⟨asked, log, new, -⟩ := step.asks
  have builtin : ∀ oid, .type oid ∈ later.session.2 → TypeDescriptor.builtin? oid = none := by
    intro oid member
    rw [log] at member
    rcases List.mem_append.mp member with member | member
    · exact ((TypeMemo.not_knows_iff _ _).mp (new oid member)).2
    · exact holds.asked oid member
  cases step with
  | resolve oid query =>
    obtain ⟨talk, run⟩ := resolveType_resolves session.traced query oid state
    obtain ⟨-, same, sound⟩ := ResolvesType.denotes
      (keeps.readsTypes (rows state.session.1)) holds.acyclic run rfl holds.sound
    exact ⟨by rw [same]; exact holds.acyclic, by rw [same]; exact sound,
      Resolves.closed run holds.closed, builtin⟩
  | grow _ more acyclic => exact ⟨acyclic, holds.sound.grow more, holds.closed, builtin⟩

theorem resolverInvariant_of_history (keeps : session.KeepsCatalog rows) {start : σ}
    (acyclic : NoElementCycle fun oid => .ok (rows start oid))
    {state : Resolving (σ × List Question)}
    (history : Relation.ReflTransGen (ResolverStep session rows) ⟨(start, []), {}⟩ state) :
    ResolverInvariant rows state := by
  induction history with
  | refl =>
    exact ⟨acyclic, TypeMemo.sound_empty _, TypeMemo.closed_empty, fun _ member => nomatch member⟩
  | tail _ step ih => exact step.invariant keeps ih

/-- In a history no type is asked for that the memo knows at its beginning. -/
theorem history_asks {state later : Resolving (σ × List Question)}
    (history : Relation.ReflTransGen (ResolverStep session rows) state later) :
    ∃ asked, later.session.2 = asked ++ state.session.2 ∧
      ∀ oid, state.memo.Knows oid → .type oid ∉ asked ∧ later.memo.Knows oid := by
  induction history with
  | refl => exact ⟨[], rfl, fun _ known => ⟨List.not_mem_nil, known⟩⟩
  | tail _ step ih =>
    obtain ⟨before, log, kept⟩ := ih
    obtain ⟨asked, more, new, grows⟩ := step.asks
    refine ⟨asked ++ before, by rw [more, log, List.append_assoc], fun oid known => ?_⟩
    obtain ⟨unasked, still⟩ := kept oid known
    refine ⟨fun member => ?_, grows oid still⟩
    rcases List.mem_append.mp member with member | member
    · exact new oid member still
    · exact unasked member

/-- At every moment a resolver answers as a fresh one does: with the type, or with the error that
one is unknown.  Once it has resolved a type, that type and those on its chain of elements are
never asked for again; built-in types are never asked for at all. -/
theorem resolveType_memo_invisible (keeps : session.KeepsCatalog rows) {start : σ}
    (acyclic : NoElementCycle fun oid => .ok (rows start oid))
    {state : Resolving (σ × List Question)}
    (history : Relation.ReflTransGen (ResolverStep session rows) ⟨(start, []), {}⟩ state) :
    (∀ oid query,
      ((resolveType session.traced oid query).run state).1 =
          ((resolveType session.traced oid query).run ⟨state.session, {}⟩).1 ∧
        ((∃ type, ((resolveType session.traced oid query).run state).1 = .ok type) ∨
          ∃ missing, ((resolveType session.traced oid query).run state).1 =
            .error (.failure (.unknownType missing query)))) ∧
    (∀ oid query type, ((resolveType session.traced oid query).run state).1 = .ok type →
      oid ∈ type.chain ∧
        ∀ later, Relation.ReflTransGen (ResolverStep session rows)
            ((resolveType session.traced oid query).run state).2 later →
          ∃ asked, later.session.2 =
              asked ++ ((resolveType session.traced oid query).run state).2.session.2 ∧
            ∀ link ∈ type.chain, .type link ∉ asked) ∧
    ∀ oid, .type oid ∈ state.session.2 → TypeDescriptor.builtin? oid = none := by
  have holds := resolverInvariant_of_history keeps acyclic history
  have reads := keeps.readsTypes (rows state.session.1)
  have meaning (oid : Int) (query : Option String) (memo : TypeMemo)
      (sound : memo.Sound fun oid => .ok (rows state.session.1 oid)) :
      CatalogDenotes (fun oid => .ok (rows state.session.1 oid)) query oid
        ((resolveType session.traced oid query).run ⟨state.session, memo⟩).1 := by
    obtain ⟨talk, run⟩ := resolveType_resolves session.traced query oid ⟨state.session, memo⟩
    exact (ResolvesType.denotes reads holds.acyclic run rfl sound).1
  refine ⟨fun oid query => ?_, fun oid query type ok => ?_, holds.asked⟩
  · have denotes := meaning oid query state.memo holds.sound
    have fresh := meaning oid query {} (TypeMemo.sound_empty _)
    exact ⟨fresh.unique denotes, denotes.ok_or_unknown⟩
  · obtain ⟨talk, run⟩ := resolveType_resolves session.traced query oid state
    have denotes := meaning oid query state.memo holds.sound
    refine ⟨denotes.oid_eq ok ▸ type.oid_mem_chain, fun later history => ?_⟩
    obtain ⟨asked, log, unasked⟩ := history_asks history
    refine ⟨asked, log, fun link member => (unasked link ?_).1⟩
    exact Resolves.closed run holds.closed oid type (Resolves.remembers run ok) link member

end History

namespace CatalogSnapshot

theorem mem_oids_of_typeRow? {snapshot : CatalogSnapshot} {oid : Int} {row : CatalogType}
    (found : snapshot.typeRow? oid = some row) : oid ∈ snapshot.types.map CatalogType.oid := by
  have same : row.oid = oid := by simpa using List.find?_some found
  exact List.mem_map.mpr ⟨row, List.mem_of_find?_eq_some found, same⟩

theorem keepsCatalog : session.KeepsCatalog typeRow? where
  reply _ _ := rfl
  keeps _ _ := rfl
  room snapshot := by
    refine ⟨snapshot.types.map CatalogType.oid, ?_, fun oid row => mem_oids_of_typeRow?⟩
    rw [List.length_map]
    exact Nat.lt_add_of_pos_right (by decide)

theorem typeRow?_addType {snapshot : CatalogSnapshot} {oid : Int} {row : CatalogType}
    (found : snapshot.typeRow? oid = some row) (added : CatalogType) :
    (snapshot.addType added).typeRow? oid = some row := by
  unfold typeRow? at found ⊢
  rw [addType, List.find?_append, found, Option.some_or]

/-- A catalog with an array of moods, but no moods. -/
def moodArrays : CatalogSnapshot := { types := [⟨16409, "_mood", 16410, "b", "A"⟩] }

/-- The same catalog with moods. -/
def moods : CatalogSnapshot := moodArrays.addType ⟨16410, "mood", 0, "e", "E"⟩

theorem moods_link {oid elem : Int}
    (link : ElementLink (fun oid => .ok (moods.typeRow? oid)) oid elem) : oid < elem := by
  obtain ⟨row, found, nested, rfl⟩ := link
  have found := Except.ok.inj found
  have same : row.oid = oid := by simpa using List.find?_some found
  have member : row ∈ moods.types := List.mem_of_find?_eq_some found
  simp only [moods, moodArrays, addType, List.cons_append, List.nil_append, List.mem_cons,
    List.not_mem_nil, or_false] at member
  rcases member with rfl | rfl
  · subst same
    decide
  · exact absurd nested (by decide)

/-- A resolver that failed for want of an element type. -/
def withoutMood : Resolving (CatalogSnapshot × List Question) :=
  ((resolveType session.traced 16409 none).run ⟨(moodArrays, []), {}⟩).2

/-- A failed resolution leaves nothing behind that would outlast the missing row. -/
theorem resolveType_memo_invisible_after_growth :
    NoElementCycle (fun oid => .ok (moodArrays.typeRow? oid)) ∧
      Relation.ReflTransGen (ResolverStep session typeRow?) ⟨(moodArrays, []), {}⟩
        ⟨(moods, withoutMood.session.2), withoutMood.memo⟩ ∧
      ((resolveType session.traced 16409 none).run
          ⟨(moods, withoutMood.session.2), withoutMood.memo⟩).1 =
        ((resolveType session.traced 16409 none).run
          ⟨(moods, withoutMood.session.2), {}⟩).1 := by
  have acyclic : NoElementCycle (fun oid => .ok (moods.typeRow? oid)) :=
    noElementCycle_of_lt fun _ _ => moods_link
  have before : NoElementCycle (fun oid => .ok (moodArrays.typeRow? oid)) := by
    refine noElementCycle_of_lt ?_
    rintro oid elem ⟨row, found, nested, same⟩
    exact moods_link ⟨row, congrArg _ (typeRow?_addType (Except.ok.inj found) _), nested, same⟩
  have history : Relation.ReflTransGen (ResolverStep session typeRow?) ⟨(moodArrays, []), {}⟩
      ⟨(moods, withoutMood.session.2), withoutMood.memo⟩ := by
    refine .tail (.single (.resolve 16409 none _)) ?_
    exact .grow withoutMood (fun oid row found => typeRow?_addType found _) acyclic
  exact ⟨before, history, ((resolveType_memo_invisible keepsCatalog before history).1 16409 none).1⟩

end CatalogSnapshot

end QueryTyping
