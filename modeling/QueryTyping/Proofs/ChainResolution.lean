import QueryTyping.Proofs.TypeMemo

/-!
# Resolving along a chain of elements

From a type that is not built in, a row of the catalog for an array leads on to its
element (`ArrayLink`).  Where no chain of such links comes back to itself, every
resolution ends, whatever was resolved or failed before: with the type that the rows
spell out link by link (`Follows`), or with the error that names the type at which
the chain breaks off (`DeadEnd`).  Which of the two it is, is told by the catalog
alone, and a failure leaves the memo as it was (`resolveType_follows_catalog`).
-/

namespace QueryTyping

theorem TypeKind.ofCode_ne_array (code : String) : ofCode code ≠ .array := by
  unfold ofCode
  split <;> decide

theorem CatalogType.kind_eq_array_iff (row : CatalogType) :
    row.kind = .array ↔ row.category = "A" ∧ row.elemOid ≠ 0 := by
  unfold kind
  split
  next nested => exact ⟨fun _ => nested, fun _ => rfl⟩
  next single =>
    exact ⟨fun array => absurd array (TypeKind.ofCode_ne_array _),
      fun nested => absurd nested single⟩

variable (catalog : Int → Option CatalogType)

/-- The catalog has the type, which is not built in, for an array, and names its element. -/
def ArrayLink (oid elem : Int) : Prop :=
  TypeDescriptor.builtin? oid = none ∧ ∃ row, catalog oid = some row ∧
    row.category = "A" ∧ row.elemOid ≠ 0 ∧ row.elemOid = elem

/-- Nobody knows the type. -/
def DeadEnd (oid : Int) : Prop := TypeDescriptor.builtin? oid = none ∧ catalog oid = none

/-- The type is what the catalog's rows spell out from this identifier on: an array at each link,
and at the end a built-in type or one that is no array. -/
inductive Follows : Int → TypeDescriptor → Prop
  | builtin {oid : Int} {type : TypeDescriptor} (known : TypeDescriptor.builtin? oid = some type) :
    Follows oid type
  | single {oid : Int} {row : CatalogType} (new : TypeDescriptor.builtin? oid = none)
    (found : catalog oid = some row) (last : ¬ (row.category = "A" ∧ row.elemOid ≠ 0))
    (kind : TypeKind.ofCode row.kindCode ≠ .array) :
    Follows oid (.plain oid row.name (.ofCode row.kindCode))
  | array {oid : Int} {row : CatalogType} {elem : TypeDescriptor}
    (new : TypeDescriptor.builtin? oid = none) (found : catalog oid = some row)
    (category : row.category = "A") (nested : row.elemOid ≠ 0)
    (inner : Follows row.elemOid elem) : Follows oid (.derived oid row.name .array elem)

variable {catalog} {oid elem other : Int} {type : TypeDescriptor}

theorem ArrayLink.unique (link : ArrayLink catalog oid elem) (again : ArrayLink catalog oid other) :
    elem = other := by
  obtain ⟨-, row, found, -, -, rfl⟩ := link
  obtain ⟨-, _, same, -, -, rfl⟩ := again
  cases found.symm.trans same
  rfl

theorem DeadEnd.not_arrayLink (dead : DeadEnd catalog oid) : ¬ ArrayLink catalog oid elem := by
  rintro ⟨-, row, found, -⟩
  rw [dead.2] at found
  cases found

/-- A chain breaks off at one place only. -/
theorem DeadEnd.unique (dead : DeadEnd catalog elem) (deadOther : DeadEnd catalog other)
    (way : Relation.ReflTransGen (ArrayLink catalog) oid elem)
    (wayOther : Relation.ReflTransGen (ArrayLink catalog) oid other) : elem = other := by
  have halts {place further : Int} (dead : DeadEnd catalog place)
      (way : Relation.ReflTransGen (ArrayLink catalog) place further) : place = further := by
    rcases way.cases_head with same | ⟨_, link, -⟩
    · exact same
    · exact absurd link dead.not_arrayLink
  have single : Relator.RightUnique (ArrayLink catalog) := fun _ _ _ => ArrayLink.unique
  rcases Relation.ReflTransGen.total_of_right_unique single way wayOther with on | back
  · exact halts dead on
  · exact (halts deadOther back).symm

theorem Follows.unique (follows : Follows catalog oid type) {another : TypeDescriptor}
    (again : Follows catalog oid another) : another = type := by
  induction follows generalizing another with
  | builtin known => cases again <;> simp_all
  | single => cases again <;> simp_all
  | array new found category nested inner ih =>
    cases again with
    | builtin => simp_all
    | single => simp_all
    | array newAgain foundAgain _ _ innerAgain =>
      cases found.symm.trans foundAgain
      rw [ih innerAgain]

/-- A chain that the catalog spells out does not break off. -/
theorem Follows.not_deadEnd (follows : Follows catalog oid type)
    (way : Relation.ReflTransGen (ArrayLink catalog) oid other) : ¬ DeadEnd catalog other := by
  induction follows with
  | builtin known =>
    rcases way.cases_head with rfl | ⟨_, link, -⟩
    · exact fun dead => by simp [dead.1] at known
    · exact fun _ => by simp [link.1] at known
  | single new found last =>
    rcases way.cases_head with rfl | ⟨_, ⟨-, row, same, category, nested, -⟩, -⟩
    · exact fun dead => by simp [dead.2] at found
    · cases found.symm.trans same
      exact absurd ⟨category, nested⟩ last
  | array new found category nested _ ih =>
    rcases way.cases_head with rfl | ⟨_, link, rest⟩
    · exact fun dead => by simp [dead.2] at found
    · obtain rfl := link.unique ⟨new, _, found, category, nested, rfl⟩
      exact ih rest

/-- What an identifier denotes is a type that the catalog spells out, or the error that names the
place where the chain breaks off. -/
theorem CatalogDenotes.follows {query : Option String} {result : Except Error TypeDescriptor}
    (denotes : CatalogDenotes (fun oid => .ok (catalog oid)) query oid result) :
    (∃ type, result = .ok type ∧ Follows catalog oid type) ∨
      ∃ missing, result = .error (.failure (.unknownType missing query)) ∧
        Relation.ReflTransGen (ArrayLink catalog) oid missing ∧ DeadEnd catalog missing := by
  induction denotes with
  | given known => exact .inl ⟨_, rfl, .builtin known⟩
  | failed reply => cases reply.2
  | absent reply => exact .inr ⟨_, rfl, .refl, reply.1, Except.ok.inj reply.2⟩
  | @plain oid row reply single =>
    have last : ¬ (row.category = "A" ∧ row.elemOid ≠ 0) :=
      fun nested => single (row.kind_eq_array_iff.mpr nested)
    have kind : row.kind = .ofCode row.kindCode := if_neg last
    refine .inl ⟨_, rfl, ?_⟩
    rw [kind]
    exact .single reply.1 (Except.ok.inj reply.2) last (TypeKind.ofCode_ne_array _)
  | @array oid row elem reply nested _ ih =>
    have found : catalog oid = some row := Except.ok.inj reply.2
    obtain ⟨category, inside⟩ := row.kind_eq_array_iff.mp nested
    rcases ih with ⟨type, rfl, follows⟩ | ⟨missing, rfl, way, dead⟩
    · refine .inl ⟨_, rfl, ?_⟩
      rw [nested]
      exact .array reply.1 found category inside follows
    · exact .inr ⟨missing, rfl, .head ⟨reply.1, row, found, category, inside, rfl⟩ way, dead⟩

section Outcomes

variable {query : Option String} {result : Except Error TypeDescriptor}
  (denotes : CatalogDenotes (fun oid => .ok (catalog oid)) query oid result)

include denotes

theorem CatalogDenotes.ok_iff : result = .ok type ↔ Follows catalog oid type := by
  rcases denotes.follows with ⟨found, rfl, follows⟩ | ⟨missing, rfl, way, dead⟩
  · exact ⟨by rintro ⟨⟩; exact follows, fun again => congrArg _ (again.unique follows)⟩
  · exact ⟨fun ok => (nomatch ok), fun follows => absurd dead (follows.not_deadEnd way)⟩

theorem CatalogDenotes.error_iff {error : Error} :
    result = .error error ↔ ∃ missing, error = .failure (.unknownType missing query) ∧
      Relation.ReflTransGen (ArrayLink catalog) oid missing ∧ DeadEnd catalog missing := by
  rcases denotes.follows with ⟨found, rfl, follows⟩ | ⟨missing, rfl, way, dead⟩
  · refine ⟨fun failed => (nomatch failed), ?_⟩
    rintro ⟨missing, -, way, dead⟩
    exact absurd dead (follows.not_deadEnd way)
  · constructor
    · rintro ⟨⟩
      exact ⟨missing, rfl, way, dead⟩
    · rintro ⟨other, rfl, wayOther, deadOther⟩
      rw [dead.unique deadOther way wayOther]

/-- A catalog leaves no resolution without an end. -/
theorem CatalogDenotes.ne_endless : result ≠ .error (.unforeseen .endlessType) := by
  rw [ne_eq, denotes.error_iff]
  rintro ⟨missing, same, -⟩
  cases same

end Outcomes

variable (catalog) in
/-- The rows that a resolution may look at: built-in types are never looked up. -/
def foreignRows (oid : Int) : Option CatalogType :=
  if TypeDescriptor.builtin? oid = none then catalog oid else none

theorem ArrayLink.of_elementLink
    (link : ElementLink (fun oid => .ok (foreignRows catalog oid)) oid elem) :
    ArrayLink catalog oid elem := by
  obtain ⟨row, found, nested, same⟩ := link
  obtain ⟨category, inside⟩ := row.kind_eq_array_iff.mp nested
  have found := Except.ok.inj found
  unfold foreignRows at found
  split at found
  next new => exact ⟨new, row, found, category, inside, same⟩
  next => cases found

/-- Chains through identifiers of built-in types need not be looked at. -/
theorem not_arrayLink_cycle (apart : NoElementCycle fun oid => .ok (catalog oid)) (oid : Int) :
    ¬ Relation.TransGen (ArrayLink catalog) oid oid := by
  refine fun cycle => apart oid (cycle.lift id ?_)
  rintro oid elem ⟨-, row, found, category, inside, same⟩
  exact ⟨row, congrArg _ found, row.kind_eq_array_iff.mpr ⟨category, inside⟩, same⟩

/-- Without a cycle of links a chain ends within one link more than the catalog has rows. -/
theorem chainEnds_of_arrayLinks
    (acyclic : ∀ oid, ¬ Relation.TransGen (ArrayLink catalog) oid oid) {oids : List Int}
    (listed : ∀ oid row, catalog oid = some row → oid ∈ oids) {links : Nat}
    (room : oids.length < links) (oid : Int) :
    ChainEnds (fun oid reply => TypeDescriptor.builtin? oid = none ∧ .ok (catalog oid) = reply)
      links oid := by
  have apart : NoElementCycle fun oid => .ok (foreignRows catalog oid) := by
    intro oid cycle
    exact acyclic oid (cycle.lift id fun _ _ => ArrayLink.of_elementLink)
  have known : ∀ oid row, (Except.ok (foreignRows catalog oid) : Except Error _) = .ok (some row) →
      oid ∈ oids := by
    intro oid row found
    have found := Except.ok.inj found
    unfold foreignRows at found
    split at found
    · exact listed oid row found
    · cases found
  refine (chainEnds_of_noElementCycle apart known room oid).fewer ?_
  rintro oid reply ⟨new, same⟩
  rw [← same, foreignRows, if_pos new]

namespace Resolves

variable {σ : Type} {session : Session σ} {query : Option String} {links : Nat}
  {state last : Resolving σ} {talk : List Exchange} {result : Except Error TypeDescriptor}

/-- A resolution that ends within so many links goes the same way with one link more. -/
theorem more (run : Resolves session query links oid state talk result last)
    (ends : result ≠ .error (.unforeseen .endlessType)) :
    Resolves session query (links + 1) oid state talk result last := by
  induction run with
  | endless => exact absurd rfl ends
  | memoized _ found => exact .memoized _ found
  | builtin _ new known => exact .builtin _ new known
  | failed _ new asked => exact .failed _ new asked
  | absent _ new asked => exact .absent _ new asked
  | plain _ new asked single => exact .plain _ new asked single
  | array new asked nested _ ih => exact .array new asked nested (ih fun endless => nomatch endless)
  | broken new asked nested _ ih => exact .broken new asked nested (ih ends)

open Attempt Resolving in
/-- There is no way but that of the run. -/
theorem run_eq (run : Resolves session query links oid state talk result last) :
    (resolveWithin session query links oid).run state = (result, last) := by
  induction run with
  | endless => rfl
  | memoized _ found =>
    unfold resolveWithin
    simp only [run_bind, run_get, found]
    rfl
  | builtin _ new known =>
    unfold resolveWithin
    simp only [run_bind, run_get, new, known]
    rfl
  | failed _ new asked =>
    obtain ⟨found, known⟩ := (TypeMemo.not_knows_iff _ _).mp new
    unfold resolveWithin
    simp only [run_bind, run_get, run_asking, found, known, asked]
  | absent _ new asked =>
    obtain ⟨found, known⟩ := (TypeMemo.not_knows_iff _ _).mp new
    unfold resolveWithin
    simp only [run_bind, run_get, run_asking, found, known, asked]
    rfl
  | plain _ new asked single =>
    obtain ⟨found, known⟩ := (TypeMemo.not_knows_iff _ _).mp new
    unfold resolveWithin
    simp only [run_bind, run_get, run_asking, found, known, asked, single, if_false]
    rfl
  | array new asked nested _ ih =>
    obtain ⟨found, known⟩ := (TypeMemo.not_knows_iff _ _).mp new
    unfold resolveWithin
    simp only [run_bind, run_get, run_asking, found, known, asked, nested, if_true, ih]
    rfl
  | broken new asked nested _ ih =>
    obtain ⟨found, known⟩ := (TypeMemo.not_knows_iff _ _).mp new
    unfold resolveWithin
    simp only [run_bind, run_get, run_asking, found, known, asked, nested, if_true, ih]

end Resolves

/-- A resolution that ends within so many links is the same with more. -/
theorem resolveWithin_eq_of_le {σ : Type} {session : Session σ} {query : Option String}
    {links more : Nat} {state : Resolving σ} (room : links ≤ more)
    (ends : ((resolveWithin session query links oid).run state).1 ≠
      .error (.unforeseen .endlessType)) :
    (resolveWithin session query more oid).run state =
      (resolveWithin session query links oid).run state := by
  obtain ⟨talk, run⟩ := resolveWithin_resolves session query links oid state
  suffices longer : Resolves session query more oid state talk _ _ from longer.run_eq
  induction room with
  | refl => exact run
  | step _ ih => exact ih.more ends

section History

variable {σ : Type} {session : Session σ} {rows : σ → Int → Option CatalogType}

variable (session rows) in
/-- What happens to a resolver: it resolves a type or fails to, or its session moves on to a state
in which the catalog has the rows that it had, and may have more. -/
inductive ResolverMove : Resolving σ → Resolving σ → Prop
  | resolve (oid : Int) (query : Option String) (state : Resolving σ) :
    ResolverMove state ((resolveType session oid query).run state).2
  | grow (state : Resolving σ) {next : σ}
    (more : ∀ oid row, rows state.session oid = some row → rows next oid = some row) :
    ResolverMove state ⟨next, state.memo⟩

/-- A move keeps the memo sound, also where chains come back to themselves. -/
theorem ResolverMove.keeps_sound (keeps : session.KeepsCatalog rows) {state later : Resolving σ}
    (move : ResolverMove session rows state later)
    (sound : state.memo.Sound fun oid => .ok (rows state.session oid)) :
    later.memo.Sound fun oid => .ok (rows later.session oid) := by
  cases move with
  | resolve oid query =>
    obtain ⟨talk, run⟩ := resolveType_resolves session query oid state
    obtain ⟨same, heard⟩ := Resolves.heard (keeps.reads (rows state.session)) run rfl
    rw [same]
    exact Resolves.keeps_sound run heard sound
  | grow _ more => exact sound.grow more

theorem sound_of_moves (keeps : session.KeepsCatalog rows) {start : σ} {state : Resolving σ}
    (history : Relation.ReflTransGen (ResolverMove session rows) ⟨start, {}⟩ state) :
    state.memo.Sound fun oid => .ok (rows state.session oid) := by
  induction history with
  | refl => exact TypeMemo.sound_empty _
  | tail _ move ih => exact move.keeps_sound keeps ih

/-- With more links than the catalog has rows a resolution gives what the catalog says. -/
theorem resolveWithin_denotes (keeps : session.KeepsCatalog rows) {state : Resolving σ}
    (sound : state.memo.Sound fun oid => .ok (rows state.session oid))
    (acyclic : ∀ oid, ¬ Relation.TransGen (ArrayLink (rows state.session)) oid oid)
    {oids : List Int} (listed : ∀ oid row, rows state.session oid = some row → oid ∈ oids)
    {links : Nat} (room : oids.length < links) (query : Option String) (oid : Int) :
    CatalogDenotes (fun oid => .ok (rows state.session oid)) query oid
      ((resolveWithin session query links oid).run state).1 := by
  obtain ⟨talk, run⟩ := resolveWithin_resolves session query links oid state
  obtain ⟨-, heard⟩ := Resolves.heard (keeps.reads (rows state.session)) run rfl
  exact sound.denotes (run.denotes heard (.inr (chainEnds_of_arrayLinks acyclic listed room oid)))

/-- Whatever a resolver went through before, if no chain of the catalog comes back to itself then
every resolution ends, within one link more than the catalog has rows.  It gives the type that the
rows spell out, or the error that names the type at which the chain breaks off; and a
failure leaves the memo as it was. -/
theorem resolveType_follows_catalog (keeps : session.KeepsCatalog rows) {start : σ}
    {state : Resolving σ}
    (history : Relation.ReflTransGen (ResolverMove session rows) ⟨start, {}⟩ state)
    (acyclic : ∀ oid, ¬ Relation.TransGen (ArrayLink (rows state.session)) oid oid)
    (oid : Int) (query : Option String) :
    (∀ oids : List Int, (∀ other row, rows state.session other = some row → other ∈ oids) →
      ∀ links, oids.length < links →
        (resolveWithin session query links oid).run state =
          (resolveType session oid query).run state) ∧
    (∀ type, ((resolveType session oid query).run state).1 = .ok type ↔
      Follows (rows state.session) oid type) ∧
    (∀ error, ((resolveType session oid query).run state).1 = .error error ↔
      ∃ missing, error = .failure (.unknownType missing query) ∧
        Relation.ReflTransGen (ArrayLink (rows state.session)) oid missing ∧
        DeadEnd (rows state.session) missing) ∧
    ∀ error, ((resolveType session oid query).run state).1 = .error error →
      ((resolveType session oid query).run state).2.memo = state.memo := by
  have sound := sound_of_moves keeps history
  obtain ⟨known, allowed, complete⟩ := keeps.room state.session
  have denotes := resolveWithin_denotes keeps sound acyclic complete allowed query oid
  refine ⟨fun oids listed links room => ?_, fun type => denotes.ok_iff,
    fun error => denotes.error_iff, fun error failed => ?_⟩
  · have again := resolveWithin_denotes keeps sound acyclic listed room query oid
    rcases Nat.le_total links (session.chainBound state.session) with fewer | more
    · exact (resolveWithin_eq_of_le fewer again.ne_endless).symm
    · exact resolveWithin_eq_of_le more denotes.ne_endless
  · obtain ⟨talk, run⟩ := resolveType_resolves session query oid state
    exact Resolves.memo_of_error run failed

end History

namespace CatalogSnapshot

/-- The memo of a resolver that failed for want of an element type. -/
def memoWithoutMood : TypeMemo :=
  ((resolveType session 16409 (some "Feel")).run ⟨moodArrays, {}⟩).2.memo

/-- An array of moods is resolved once there are moods; before, the resolution fails for them. -/
theorem moodArray_follows_catalog :
    ((resolveType session 16409 (some "Feel")).run ⟨moodArrays, {}⟩).1 =
        .error (.failure (.unknownType 16410 (some "Feel"))) ∧
      memoWithoutMood = {} ∧
      Relation.ReflTransGen (ResolverMove session typeRow?) ⟨moodArrays, {}⟩
        ⟨moods, memoWithoutMood⟩ ∧
      (∀ oid, ¬ Relation.TransGen (ArrayLink moods.typeRow?) oid oid) ∧
      ((resolveType session 16409 none).run ⟨moods, memoWithoutMood⟩).1 =
        .ok (.derived 16409 "_mood" .array (.plain 16410 "mood" .enum)) := by
  have grown (oid : Int) (row : CatalogType) (found : moodArrays.typeRow? oid = some row) :
      moods.typeRow? oid = some row := typeRow?_addType found _
  have apart : NoElementCycle fun oid => .ok (moods.typeRow? oid) :=
    noElementCycle_of_lt fun _ _ => moods_link
  have apartBefore : NoElementCycle fun oid => .ok (moodArrays.typeRow? oid) := by
    refine noElementCycle_of_lt ?_
    rintro oid elem ⟨row, found, nested, same⟩
    exact moods_link ⟨row, congrArg _ (grown oid row (Except.ok.inj found)), nested, same⟩
  have history : Relation.ReflTransGen (ResolverMove session typeRow?) ⟨moodArrays, {}⟩
      ⟨moods, memoWithoutMood⟩ :=
    .tail (.single (.resolve 16409 (some "Feel") _)) (.grow ⟨moodArrays, memoWithoutMood⟩ grown)
  obtain ⟨-, -, fails, forgets⟩ := resolveType_follows_catalog keepsCatalog .refl
    (not_arrayLink_cycle apartBefore) 16409 (some "Feel")
  obtain ⟨-, gives, -⟩ := resolveType_follows_catalog keepsCatalog history
    (not_arrayLink_cycle apart) 16409 none
  have failed := (fails (.failure (.unknownType 16410 (some "Feel")))).mpr
    ⟨16410, rfl, .single ⟨rfl, _, rfl, rfl, by decide, rfl⟩, rfl, rfl⟩
  have mood : Follows moods.typeRow? 16410 (.plain 16410 "mood" .enum) :=
    @Follows.single _ _ ⟨16410, "mood", 0, "e", "E"⟩ rfl rfl (by decide) (by decide)
  have array : Follows moods.typeRow? 16409
      (.derived 16409 "_mood" .array (.plain 16410 "mood" .enum)) :=
    @Follows.array _ _ ⟨16409, "_mood", 16410, "b", "A"⟩ _ rfl rfl rfl (by decide) mood
  exact ⟨failed, forgets _ failed, history, not_arrayLink_cycle apart, (gives _).mpr array⟩

end CatalogSnapshot

end QueryTyping
