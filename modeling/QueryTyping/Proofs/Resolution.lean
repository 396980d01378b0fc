import QueryTyping.Proofs.Conversation

/-!
# Resolving one type

All that a resolution can do: `Resolves` has one case for each way, and every run
is one of them (`resolveType_resolves`), so what holds of all runs is proved by
induction on it.  A session is asked only about types that neither the memo nor
the built-in types give (`Resolves.asks`), and what the memo has stays in it
(`Resolves.keeps`).
-/

namespace QueryTyping

variable {σ : Type}

namespace TypeMemo

/-- The memo or the table of built-in types has the type, so that no session is asked for it. -/
def Knows (memo : TypeMemo) (oid : Int) : Prop :=
  (memo.find? oid).isSome ∨ (TypeDescriptor.builtin? oid).isSome

theorem not_knows_iff (memo : TypeMemo) (oid : Int) :
    ¬ memo.Knows oid ↔ memo.find? oid = none ∧ TypeDescriptor.builtin? oid = none := by
  simp [Knows]

theorem find?_insert (memo : TypeMemo) (oid other : Int) (type : TypeDescriptor) :
    (memo.insert oid type).find? other = if other = oid then some type else memo.find? other := by
  unfold find? insert
  rw [List.lookup_cons]
  by_cases same : other = oid
  · simp [same]
  · have apart : (other == oid) = false := beq_eq_false_iff_ne.mpr same
    rw [apart, if_neg same]

theorem find?_insert_of_ne (memo : TypeMemo) {oid other : Int} (type : TypeDescriptor)
    (differ : other ≠ oid) : (memo.insert oid type).find? other = memo.find? other := by
  rw [find?_insert, if_neg differ]

theorem find?_insert_self (memo : TypeMemo) (oid : Int) (type : TypeDescriptor) :
    (memo.insert oid type).find? oid = some type := by
  rw [find?_insert, if_pos rfl]

end TypeMemo

/-- A type is resolved within so many links: a chain is read from the outside in, and its types are
kept from the inside out. -/
inductive Resolves (session : Session σ) (query : Option String) :
    Nat → Int → Resolving σ → List Exchange → Except Error TypeDescriptor → Resolving σ → Prop
  | endless (oid : Int) (state : Resolving σ) :
    Resolves session query 0 oid state [] (.error (.unforeseen .endlessType)) state
  | memoized (links : Nat) {oid : Int} {state : Resolving σ} {type : TypeDescriptor}
    (found : state.memo.find? oid = some type) :
    Resolves session query (links + 1) oid state [] (.ok type) state
  | builtin (links : Nat) {oid : Int} {state : Resolving σ} {type : TypeDescriptor}
    (new : state.memo.find? oid = none) (known : TypeDescriptor.builtin? oid = some type) :
    Resolves session query (links + 1) oid state [] (.ok type)
      ⟨state.session, state.memo.insert oid type⟩
  | failed (links : Nat) {oid : Int} {state : Resolving σ} {next : σ} {error : Error}
    (new : ¬ state.memo.Knows oid)
    (asked : (session.lookupType oid).run state.session = (.error error, next)) :
    Resolves session query (links + 1) oid state [.type oid (.error error)] (.error error)
      ⟨next, state.memo⟩
  | absent (links : Nat) {oid : Int} {state : Resolving σ} {next : σ}
    (new : ¬ state.memo.Knows oid)
    (asked : (session.lookupType oid).run state.session = (.ok none, next)) :
    Resolves session query (links + 1) oid state [.type oid (.ok none)]
      (.error (.failure (.unknownType oid query))) ⟨next, state.memo⟩
  | plain (links : Nat) {oid : Int} {state : Resolving σ} {next : σ} {row : CatalogType}
    (new : ¬ state.memo.Knows oid)
    (asked : (session.lookupType oid).run state.session = (.ok (some row), next))
    (single : row.kind ≠ .array) :
    Resolves session query (links + 1) oid state [.type oid (.ok (some row))]
      (.ok (.plain oid row.name row.kind))
      ⟨next, state.memo.insert oid (.plain oid row.name row.kind)⟩
  | array {links : Nat} {oid : Int} {state last : Resolving σ} {next : σ} {row : CatalogType}
    {talk : List Exchange} {elem : TypeDescriptor} (new : ¬ state.memo.Knows oid)
    (asked : (session.lookupType oid).run state.session = (.ok (some row), next))
    (nested : row.kind = .array)
    (inner : Resolves session query links row.elemOid ⟨next, state.memo⟩ talk (.ok elem) last) :
    Resolves session query (links + 1) oid state (.type oid (.ok (some row)) :: talk)
      (.ok (.derived oid row.name row.kind elem))
      ⟨last.session, last.memo.insert oid (.derived oid row.name row.kind elem)⟩
  | broken {links : Nat} {oid : Int} {state last : Resolving σ} {next : σ} {row : CatalogType}
    {talk : List Exchange} {error : Error} (new : ¬ state.memo.Knows oid)
    (asked : (session.lookupType oid).run state.session = (.ok (some row), next))
    (nested : row.kind = .array)
    (inner : Resolves session query links row.elemOid ⟨next, state.memo⟩ talk (.error error) last) :
    Resolves session query (links + 1) oid state (.type oid (.ok (some row)) :: talk)
      (.error error) last

open Attempt Resolving in
theorem resolveWithin_resolves (session : Session σ) (query : Option String) (links : Nat)
    (oid : Int) (state : Resolving σ) :
    ∃ talk, Resolves session query links oid state talk
      ((resolveWithin session query links oid).run state).1
      ((resolveWithin session query links oid).run state).2 := by
  induction links generalizing oid state with
  | zero => exact ⟨[], .endless oid state⟩
  | succ links ih =>
    unfold resolveWithin
    simp only [run_bind, run_get]
    cases found : state.memo.find? oid with
    | some type => exact ⟨[], .memoized links found⟩
    | none =>
      cases known : TypeDescriptor.builtin? oid with
      | some type => exact ⟨[], .builtin links found known⟩
      | none =>
        have new : ¬ state.memo.Knows oid := (state.memo.not_knows_iff oid).mpr ⟨found, known⟩
        simp only [run_bind, run_asking]
        rcases asked : (session.lookupType oid).run state.session with ⟨error | reply, next⟩
        · exact ⟨_, .failed links new asked⟩
        · cases reply with
          | none => exact ⟨_, .absent links new asked⟩
          | some row =>
            by_cases nested : row.kind = .array
            · obtain ⟨talk, inner⟩ := ih row.elemOid ⟨next, state.memo⟩
              simp only [nested, if_true, run_bind]
              rcases ran : (resolveWithin session query links row.elemOid).run ⟨next, state.memo⟩
                with ⟨error | elem, last⟩
              · rw [ran] at inner
                exact ⟨_, .broken new asked nested inner⟩
              · rw [ran] at inner
                have whole := Resolves.array new asked nested inner
                rw [nested] at whole
                exact ⟨_, whole⟩
            · simp only [nested, if_false]
              exact ⟨_, .plain links new asked nested⟩

/-- A type is resolved within the links that the session allows. -/
def ResolvesType (session : Session σ) (query : Option String) (oid : Int) (state : Resolving σ)
    (talk : List Exchange) (result : Except Error TypeDescriptor) (last : Resolving σ) : Prop :=
  Resolves session query (session.chainBound state.session) oid state talk result last

theorem resolveType_resolves (session : Session σ) (query : Option String) (oid : Int)
    (state : Resolving σ) :
    ∃ talk, ResolvesType session query oid state talk
      ((resolveType session oid query).run state).1
      ((resolveType session oid query).run state).2 :=
  resolveWithin_resolves session query _ oid state

namespace Resolves

variable {session : Session σ} {query : Option String} {links : Nat} {oid : Int}
  {state last : Resolving σ} {talk : List Exchange} {result : Except Error TypeDescriptor}

/-- A session is asked about types only that neither the memo nor the built-in types give. -/
theorem asks (run : Resolves session query links oid state talk result last) {exchange : Exchange}
    (asked : exchange ∈ talk) :
    ∃ oid reply, exchange = .type oid reply ∧ ¬ state.memo.Knows oid := by
  induction run with
  | endless => cases asked
  | memoized => cases asked
  | builtin => cases asked
  | failed links new => exact ⟨_, _, List.mem_singleton.mp asked, new⟩
  | absent links new => exact ⟨_, _, List.mem_singleton.mp asked, new⟩
  | plain links new => exact ⟨_, _, List.mem_singleton.mp asked, new⟩
  | array new _ _ _ ih =>
    rcases List.mem_cons.mp asked with rfl | later
    · exact ⟨_, _, rfl, new⟩
    · exact ih later
  | broken new _ _ _ ih =>
    rcases List.mem_cons.mp asked with rfl | later
    · exact ⟨_, _, rfl, new⟩
    · exact ih later

/-- What the memo has stays in it. -/
theorem keeps (run : Resolves session query links oid state talk result last) {other : Int}
    {type : TypeDescriptor} (found : state.memo.find? other = some type) :
    last.memo.find? other = some type := by
  have differs {oid : Int} {memo : TypeMemo} (new : memo.find? oid = none)
      (found : memo.find? other = some type) : other ≠ oid := by
    rintro rfl
    rw [new] at found
    cases found
  induction run with
  | endless => exact found
  | memoized => exact found
  | builtin links new known =>
    rw [TypeMemo.find?_insert_of_ne _ _ (differs new found)]
    exact found
  | failed => exact found
  | absent => exact found
  | plain links new =>
    rw [TypeMemo.find?_insert_of_ne _ _ (differs ((TypeMemo.not_knows_iff _ _).mp new).1 found)]
    exact found
  | array new _ _ _ ih =>
    rw [TypeMemo.find?_insert_of_ne _ _ (differs ((TypeMemo.not_knows_iff _ _).mp new).1 found)]
    exact ih found
  | broken _ _ _ _ ih => exact ih found

/-- A resolved type is in the memo. -/
theorem remembers (run : Resolves session query links oid state talk result last)
    {type : TypeDescriptor} (ok : result = .ok type) : last.memo.find? oid = some type := by
  cases run <;> cases ok
  case memoized found => exact found
  all_goals exact TypeMemo.find?_insert_self _ _ _

/-- A resolution that fails leaves nothing in the memo, also of the arrays that it came through. -/
theorem memo_of_error (run : Resolves session query links oid state talk result last)
    {error : Error} (failed : result = .error error) : last.memo = state.memo := by
  induction run with
  | endless => rfl
  | failed => rfl
  | absent => rfl
  | broken _ _ _ _ ih => exact ih failed
  | memoized => cases failed
  | builtin => cases failed
  | plain => cases failed
  | array => cases failed

theorem knows (run : Resolves session query links oid state talk result last) {other : Int}
    (known : state.memo.Knows other) : last.memo.Knows other := by
  rcases known with found | known
  · obtain ⟨type, found⟩ := Option.isSome_iff_exists.mp found
    exact .inl (by rw [run.keeps found]; rfl)
  · exact .inr known

theorem talks (run : Resolves session query links oid state talk result last) :
    session.Talks state.session talk last.session := by
  induction run with
  | endless oid state => exact .nil _
  | memoized links found => exact .nil _
  | builtin links new known => exact .nil _
  | failed links new asked => exact .single asked
  | absent links new asked => exact .single asked
  | plain links new asked single => exact .single asked
  | array new asked nested inner ih => exact .cons asked ih
  | broken new asked nested inner ih => exact .cons asked ih

end Resolves

end QueryTyping
