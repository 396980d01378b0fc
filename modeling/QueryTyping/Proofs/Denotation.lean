import Mathlib.Data.List.Perm.Subperm
import Mathlib.Logic.Relation
import QueryTyping.Proofs.Resolution

/-!
# What a type identifier denotes

Without a memo: built-in types denote themselves, and a row of the catalog denotes
its type, an array after its element (`Denotes`).  A memo is sound if each entry is
what its identifier denotes.  On a session that answers from a catalog without
cycles every resolution gives what the catalog says, and keeps a memo sound,
whether it succeeds or fails (`ResolvesType.denotes`).
-/

namespace QueryTyping

/-- The memo or the table of built-in types has this type. -/
def TypeMemo.Gives (memo : TypeMemo) (oid : Int) (type : TypeDescriptor) : Prop :=
  memo.find? oid = some type ∨ TypeDescriptor.builtin? oid = some type

/-- What an identifier denotes: a type, or the error that it is met with.  Given types need no
reply; the reply about an array leads on to its element. -/
inductive Denotes (given : Int → TypeDescriptor → Prop)
    (replied : Int → Except Error (Option CatalogType) → Prop) (query : Option String) :
    Int → Except Error TypeDescriptor → Prop
  | given {oid : Int} {type : TypeDescriptor} (known : given oid type) :
    Denotes given replied query oid (.ok type)
  | failed {oid : Int} {error : Error} (reply : replied oid (.error error)) :
    Denotes given replied query oid (.error error)
  | absent {oid : Int} (reply : replied oid (.ok none)) :
    Denotes given replied query oid (.error (.failure (.unknownType oid query)))
  | plain {oid : Int} {row : CatalogType} (reply : replied oid (.ok (some row)))
    (single : row.kind ≠ .array) :
    Denotes given replied query oid (.ok (.plain oid row.name row.kind))
  | array {oid : Int} {row : CatalogType} {elem : Except Error TypeDescriptor}
    (reply : replied oid (.ok (some row))) (nested : row.kind = .array)
    (inner : Denotes given replied query row.elemOid elem) :
    Denotes given replied query oid (elem.map (.derived oid row.name row.kind))

namespace Denotes

variable {given more : Int → TypeDescriptor → Prop}
  {replied heard : Int → Except Error (Option CatalogType) → Prop}
  {query : Option String} {oid : Int} {result : Except Error TypeDescriptor}

/-- Given types may be replaced by what they denote. -/
theorem lift (known : ∀ oid type, given oid type → Denotes more heard query oid (.ok type))
    (replies : ∀ oid reply, replied oid reply → heard oid reply)
    (denotes : Denotes given replied query oid result) : Denotes more heard query oid result := by
  induction denotes with
  | given is => exact known _ _ is
  | failed reply => exact .failed (replies _ _ reply)
  | absent reply => exact .absent (replies _ _ reply)
  | plain reply single => exact .plain (replies _ _ reply) single
  | array reply nested _ ih => exact .array (replies _ _ reply) nested ih

/-- A type needs no more than given types and rows; the query is named in errors only. -/
theorem lift_ok {type : TypeDescriptor} (denotes : Denotes given replied query oid result)
    (ok : result = .ok type)
    (known : ∀ oid type, given oid type → more oid type)
    (replies : ∀ oid row, replied oid (.ok (some row)) → heard oid (.ok (some row)))
    (other : Option String) : Denotes more heard other oid (.ok type) := by
  induction denotes generalizing type with
  | given is =>
    cases ok
    exact .given (known _ _ is)
  | failed => cases ok
  | absent => cases ok
  | plain reply single =>
    cases ok
    exact .plain (replies _ _ reply) single
  | @array _ _ elem reply nested _ ih =>
    cases elem with
    | error => cases ok
    | ok elem =>
      cases ok
      exact .array (replies _ _ reply) nested (ih rfl)

end Denotes

/-- What an identifier denotes in a catalog.  Built-in types are never looked up there. -/
def CatalogDenotes (types : Int → Except Error (Option CatalogType)) (query : Option String) :
    Int → Except Error TypeDescriptor → Prop :=
  Denotes (fun oid type => TypeDescriptor.builtin? oid = some type)
    (fun oid reply => TypeDescriptor.builtin? oid = none ∧ types oid = reply) query

theorem CatalogDenotes.unique {types : Int → Except Error (Option CatalogType)}
    {query : Option String} {oid : Int} {result other : Except Error TypeDescriptor}
    (denotes : CatalogDenotes types query oid result)
    (again : CatalogDenotes types query oid other) : other = result := by
  induction denotes generalizing other with
  | given known => cases again <;> simp_all
  | failed reply => cases again <;> simp_all
  | absent reply => cases again <;> simp_all
  | plain reply single => cases again <;> simp_all
  | array reply nested inner ih =>
    cases again with
    | given known => simp_all
    | failed reply => simp_all
    | absent reply => simp_all
    | plain reply single => simp_all
    | array replyAgain nested innerAgain =>
      obtain ⟨-, reply⟩ := reply
      obtain ⟨-, replyAgain⟩ := replyAgain
      rw [reply] at replyAgain
      cases replyAgain
      rw [ih innerAgain]

/-- Within so many links a chain of elements ends. -/
def ChainEnds (replied : Int → Except Error (Option CatalogType) → Prop) : Nat → Int → Prop
  | 0, _ => False
  | links + 1, oid => ∀ row, replied oid (.ok (some row)) → row.kind = .array →
      ChainEnds replied links row.elemOid

theorem ChainEnds.fewer {replied heard : Int → Except Error (Option CatalogType) → Prop}
    (fewer : ∀ oid reply, heard oid reply → replied oid reply) {links : Nat} {oid : Int}
    (ends : ChainEnds replied links oid) : ChainEnds heard links oid := by
  induction links generalizing oid with
  | zero => exact ends
  | succ links ih => exact fun row reply nested => ih (ends row (fewer _ _ reply) nested)

/-- The catalog's row of an array names its element. -/
def ElementLink (types : Int → Except Error (Option CatalogType)) (oid elem : Int) : Prop :=
  ∃ row, types oid = .ok (some row) ∧ row.kind = .array ∧ row.elemOid = elem

/-- No type is, over however many links, an element of itself. -/
def NoElementCycle (types : Int → Except Error (Option CatalogType)) : Prop :=
  ∀ oid, ¬ Relation.TransGen (ElementLink types) oid oid

/-- On the way along a chain no type comes twice, so the way is no longer than the catalog. -/
theorem chainEnds_of_path {types : Int → Except Error (Option CatalogType)} {oids : List Int}
    (listed : ∀ oid row, types oid = .ok (some row) → oid ∈ oids) {links : Nat} {path : List Int}
    {oid : Int}
    (acyclic : ∀ other, Relation.ReflTransGen (ElementLink types) oid other →
      ¬ Relation.TransGen (ElementLink types) other other)
    (apart : path.Nodup) (within : path ⊆ oids)
    (leads : ∀ before ∈ path, Relation.TransGen (ElementLink types) before oid)
    (room : oids.length < path.length + links) :
    ChainEnds (fun oid reply => types oid = reply) links oid := by
  induction links generalizing path oid with
  | zero =>
    have short : path.length ≤ oids.length := (List.subperm_of_subset apart within).length_le
    omega
  | succ links ih =>
    intro row reply nested
    have link : ElementLink types oid row.elemOid := ⟨row, reply, nested, rfl⟩
    have new : oid ∉ path := fun member => acyclic oid .refl (leads oid member)
    -- The way grows by this type, which is new on it since nothing leads to itself.
    have longer : (oid :: path).Nodup := List.nodup_cons.mpr ⟨new, apart⟩
    have inside : oid :: path ⊆ oids := List.cons_subset.mpr ⟨listed oid row reply, within⟩
    refine ih (fun other way => acyclic other (.head link way)) longer inside ?_ ?_
    · intro before member
      rcases List.mem_cons.mp member with rfl | member
      · exact .single link
      · exact (leads before member).tail link
    · rw [List.length_cons]
      omega

/-- Without cycles a chain ends within one link more than the catalog has rows. -/
theorem chainEnds_of_noElementCycle {types : Int → Except Error (Option CatalogType)}
    (acyclic : NoElementCycle types) {oids : List Int}
    (listed : ∀ oid row, types oid = .ok (some row) → oid ∈ oids) {links : Nat}
    (room : oids.length < links) (oid : Int) :
    ChainEnds (fun oid reply => types oid = reply) links oid :=
  chainEnds_of_path listed (fun other _ => acyclic other) List.nodup_nil (List.nil_subset oids)
    (fun _ member => absurd member List.not_mem_nil) (by simpa using room)

section Endings

variable {types : Int → Except Error (Option CatalogType)} {links : Nat} {oid other : Int}

/-- Along a chain that ends, fewer links are left. -/
theorem ChainEnds.descends (ends : ChainEnds (fun oid reply => types oid = reply) links oid)
    (way : Relation.TransGen (ElementLink types) oid other) :
    ∃ fewer, fewer < links ∧ ChainEnds (fun oid reply => types oid = reply) fewer other := by
  have step {links : Nat} {oid elem : Int}
      (ends : ChainEnds (fun oid reply => types oid = reply) links oid)
      (link : ElementLink types oid elem) :
      ∃ fewer, fewer < links ∧ ChainEnds (fun oid reply => types oid = reply) fewer elem := by
    cases links with
    | zero => exact ends.elim
    | succ links =>
      obtain ⟨row, reply, nested, rfl⟩ := link
      exact ⟨links, Nat.lt_succ_self links, ends row reply nested⟩
  induction way with
  | single link => exact step ends link
  | tail _ link ih =>
    obtain ⟨fewer, less, rest⟩ := ih
    obtain ⟨least, lesser, last⟩ := step rest link
    exact ⟨least, Nat.lt_trans lesser less, last⟩

/-- A chain that ends does not come back to where it began. -/
theorem ChainEnds.not_cycle (ends : ChainEnds (fun oid reply => types oid = reply) links oid) :
    ¬ Relation.TransGen (ElementLink types) oid oid := by
  intro cycle
  induction links using Nat.strongRecOn with
  | ind links ih =>
    obtain ⟨fewer, less, again⟩ := ends.descends cycle
    exact ih fewer less again

/-- A chain that ends at all ends within one link more than the catalog has rows. -/
theorem ChainEnds.within (ends : ChainEnds (fun oid reply => types oid = reply) links oid)
    {oids : List Int} (listed : ∀ oid row, types oid = .ok (some row) → oid ∈ oids) {room : Nat}
    (enough : oids.length < room) : ChainEnds (fun oid reply => types oid = reply) room oid := by
  refine chainEnds_of_path listed (fun other way => ?_) List.nodup_nil (List.nil_subset oids)
    (fun _ member => absurd member List.not_mem_nil) (by simpa using enough)
  rcases Relation.reflTransGen_iff_eq_or_transGen.mp way with rfl | way
  · exact ends.not_cycle
  · obtain ⟨fewer, -, rest⟩ := ends.descends way
    exact rest.not_cycle

end Endings

/-- There is no cycle where every array has a smaller identifier than its element. -/
theorem noElementCycle_of_lt {types : Int → Except Error (Option CatalogType)}
    (ascends : ∀ oid elem, ElementLink types oid elem → oid < elem) : NoElementCycle types := by
  have climbs {oid other : Int} (way : Relation.TransGen (ElementLink types) oid other) :
      oid < other := by
    induction way with
    | single link => exact ascends _ _ link
    | tail _ link ih => exact Int.lt_trans ih (ascends _ _ link)
  exact fun oid cycle => Int.lt_irrefl oid (climbs cycle)

namespace Resolves

variable {σ : Type} {session : Session σ} {query : Option String} {links : Nat} {oid : Int}
  {state last : Resolving σ} {talk : List Exchange} {result : Except Error TypeDescriptor}

/-- A resolution gives what the identifier denotes by the memo and the replies; if it fails,
only for a chain that ends. -/
theorem denotes {replied : Int → Except Error (Option CatalogType) → Prop}
    (run : Resolves session query links oid state talk result last)
    (heard : ∀ oid reply, .type oid reply ∈ talk → replied oid reply)
    (ends : (∃ type, result = .ok type) ∨ ChainEnds replied links oid) :
    Denotes state.memo.Gives replied query oid result := by
  induction run with
  | endless =>
    rcases ends with ⟨type, ok⟩ | ends
    · cases ok
    · exact ends.elim
  | memoized links found => exact .given (.inl found)
  | builtin links new known => exact .given (.inr known)
  | failed => exact .failed (heard _ _ List.mem_cons_self)
  | absent => exact .absent (heard _ _ List.mem_cons_self)
  | plain _ _ _ single => exact .plain (heard _ _ List.mem_cons_self) single
  | @array _ _ _ _ _ row _ _ _ _ nested _ ih =>
    have reply := heard _ _ List.mem_cons_self
    exact .array reply nested
      (ih (fun oid reply later => heard oid reply (List.mem_cons_of_mem _ later)) (.inl ⟨_, rfl⟩))
  | @broken _ _ _ _ _ row _ _ _ _ nested _ ih =>
    have reply := heard _ _ List.mem_cons_self
    rcases ends with ⟨type, ok⟩ | ends
    · cases ok
    · exact .array reply nested
        (ih (fun oid reply later => heard oid reply (List.mem_cons_of_mem _ later))
          (.inr (ends row reply nested)))

/-- What a resolution adds to the memo is what the identifiers denote. -/
theorem memo_denotes {replied : Int → Except Error (Option CatalogType) → Prop}
    (run : Resolves session query links oid state talk result last)
    (heard : ∀ oid reply, .type oid reply ∈ talk → replied oid reply) {other : Int}
    {type : TypeDescriptor} (found : last.memo.find? other = some type) :
    Denotes state.memo.Gives replied query other (.ok type) := by
  have inserted {oid : Int} {memo : TypeMemo} {given : Int → TypeDescriptor → Prop}
      {added : TypeDescriptor} (found : (memo.insert oid added).find? other = some type)
      (new : Denotes given replied query oid (.ok added))
      (old : memo.find? other = some type → Denotes given replied query other (.ok type)) :
      Denotes given replied query other (.ok type) := by
    rw [TypeMemo.find?_insert] at found
    split at found
    next same =>
      cases same
      cases found
      exact new
    · exact old found
  induction run with
  | endless => exact .given (.inl found)
  | memoized => exact .given (.inl found)
  | builtin links new known =>
    exact inserted found (.given (.inr known)) fun old => .given (.inl old)
  | failed => exact .given (.inl found)
  | absent => exact .given (.inl found)
  | plain _ _ _ single =>
    exact inserted found (.plain (heard _ _ List.mem_cons_self) single) fun old => .given (.inl old)
  | array _ _ nested inner ih =>
    have later := fun oid reply (member : Exchange.type oid reply ∈ _) =>
      heard oid reply (List.mem_cons_of_mem _ member)
    exact inserted found
      (.array (heard _ _ List.mem_cons_self) nested (inner.denotes later (.inl ⟨_, rfl⟩)))
      fun old => ih later old
  | broken _ _ _ _ ih =>
    exact ih (fun oid reply later => heard oid reply (List.mem_cons_of_mem _ later)) found

end Resolves

/-- Every entry is what its identifier denotes in the catalog. -/
def TypeMemo.Sound (memo : TypeMemo) (types : Int → Except Error (Option CatalogType)) : Prop :=
  ∀ oid type, memo.find? oid = some type → ∀ query, CatalogDenotes types query oid (.ok type)

theorem TypeMemo.sound_empty (types : Int → Except Error (Option CatalogType)) :
    ({} : TypeMemo).Sound types :=
  fun _ _ found => nomatch found

/-- By a sound memo, whatever the memo and the catalog's replies lead to is denoted in the
catalog. -/
theorem TypeMemo.Sound.denotes {memo : TypeMemo}
    {types : Int → Except Error (Option CatalogType)} (sound : memo.Sound types)
    {query : Option String} {oid : Int} {result : Except Error TypeDescriptor}
    (denotes : Denotes memo.Gives
      (fun oid reply => TypeDescriptor.builtin? oid = none ∧ types oid = reply) query oid result) :
    CatalogDenotes types query oid result := by
  refine denotes.lift (fun oid type given => ?_) fun _ _ reply => reply
  rcases given with found | known
  · exact sound oid type found query
  · exact .given known

/-- In states for which `valid` holds, a session answers about types from a catalog, which has
fewer rows than the links that the session allows. -/
structure Session.ReadsTypes {σ : Type} (session : Session σ) (valid : σ → Prop)
    (types : Int → Except Error (Option CatalogType)) : Prop where
  reply : ∀ oid {state}, valid state → ((session.lookupType oid).run state).1 = types oid
  keeps : ∀ oid {state}, valid state → valid ((session.lookupType oid).run state).2
  room : ∀ {state}, valid state → ∃ oids : List Int, oids.length < session.chainBound state ∧
    ∀ oid row, types oid = .ok (some row) → oid ∈ oids

section Catalog

variable {σ : Type} {session : Session σ} {valid : σ → Prop}
  {types : Int → Except Error (Option CatalogType)}

theorem Resolves.heard (reads : session.ReadsTypes valid types) {query : Option String}
    {links : Nat} {oid : Int} {state last : Resolving σ} {talk : List Exchange}
    {result : Except Error TypeDescriptor}
    (run : Resolves session query links oid state talk result last) (start : valid state.session) :
    valid last.session ∧
      ∀ oid reply, .type oid reply ∈ talk →
        TypeDescriptor.builtin? oid = none ∧ types oid = reply := by
  have answered {oid : Int} {state : Resolving σ} {next : σ}
      {reply : Except Error (Option CatalogType)} (start : valid state.session)
      (asked : (session.lookupType oid).run state.session = (reply, next)) :
      valid next ∧ types oid = reply := by
    have same := reads.reply oid start
    have stays := reads.keeps oid start
    rw [asked] at same stays
    exact ⟨stays, same.symm⟩
  have only {oid other : Int} {reply heard : Except Error (Option CatalogType)}
      {memo : TypeMemo} (new : ¬ memo.Knows oid) (same : types oid = heard)
      (member : Exchange.type other reply ∈ [Exchange.type oid heard]) :
      TypeDescriptor.builtin? other = none ∧ types other = reply := by
    cases List.mem_singleton.mp member
    exact ⟨((TypeMemo.not_knows_iff _ _).mp new).2, same⟩
  induction run with
  | endless => exact ⟨start, fun _ _ member => nomatch member⟩
  | memoized => exact ⟨start, fun _ _ member => nomatch member⟩
  | builtin => exact ⟨start, fun _ _ member => nomatch member⟩
  | failed links new asked =>
    obtain ⟨stays, same⟩ := answered start asked
    exact ⟨stays, fun _ _ => only new same⟩
  | absent links new asked =>
    obtain ⟨stays, same⟩ := answered start asked
    exact ⟨stays, fun _ _ => only new same⟩
  | plain links new asked =>
    obtain ⟨stays, same⟩ := answered start asked
    exact ⟨stays, fun _ _ => only new same⟩
  | array new asked _ _ ih =>
    obtain ⟨stays, same⟩ := answered start asked
    obtain ⟨ends, later⟩ := ih stays
    refine ⟨ends, fun other reply member => ?_⟩
    rcases List.mem_cons.mp member with first | member
    · exact only new same (List.mem_singleton.mpr first)
    · exact later other reply member
  | broken new asked _ _ ih =>
    obtain ⟨stays, same⟩ := answered start asked
    obtain ⟨ends, later⟩ := ih stays
    refine ⟨ends, fun other reply member => ?_⟩
    rcases List.mem_cons.mp member with first | member
    · exact only new same (List.mem_singleton.mpr first)
    · exact later other reply member

/-- Whether a resolution succeeds or fails, it keeps a memo sound. -/
theorem Resolves.keeps_sound {query : Option String} {links : Nat} {oid : Int}
    {state last : Resolving σ} {talk : List Exchange} {result : Except Error TypeDescriptor}
    (run : Resolves session query links oid state talk result last)
    (heard : ∀ oid reply, .type oid reply ∈ talk →
      TypeDescriptor.builtin? oid = none ∧ types oid = reply)
    (sound : state.memo.Sound types) : last.memo.Sound types := by
  intro other type found asker
  exact (sound.denotes (run.memo_denotes heard found)).lift_ok rfl
    (fun _ _ known => known) (fun _ _ reply => reply) asker

/-- With a sound memo a resolver gives what the catalog says, and its memo stays sound. -/
theorem ResolvesType.denotes (reads : session.ReadsTypes valid types)
    (acyclic : NoElementCycle types) {query : Option String} {oid : Int}
    {state last : Resolving σ} {talk : List Exchange} {result : Except Error TypeDescriptor}
    (run : ResolvesType session query oid state talk result last) (start : valid state.session)
    (sound : state.memo.Sound types) :
    CatalogDenotes types query oid result ∧ valid last.session ∧ last.memo.Sound types := by
  obtain ⟨oids, room, listed⟩ := reads.room start
  obtain ⟨stays, heard⟩ := Resolves.heard reads run start
  have ends : ChainEnds (fun oid reply => TypeDescriptor.builtin? oid = none ∧ types oid = reply)
      (session.chainBound state.session) oid :=
    (chainEnds_of_noElementCycle acyclic listed room oid).fewer fun _ _ reply => reply.2
  exact ⟨sound.denotes (Resolves.denotes run heard (.inr ends)), stays,
    Resolves.keeps_sound run heard sound⟩

end Catalog

end QueryTyping
