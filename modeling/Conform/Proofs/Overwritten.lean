import Conform.Proofs.Cores
import Conform.Proofs.Registrations
import Conform.Proofs.Transport

/-!
# What is registered shows in what is compiled

Compiling looks up primitives and the coercing types of families in the registry, and these names
may be registered anew.  For a primitive the compiler passes over what is no definition of it, but
takes over the metadata of what is one.  For a family it puts the members or the items into whatever
it finds.  So a type comes back from its node exactly if every lookup finds something that still
serves, and this can be told query by query.

* `Node.queries`, `Query.Served` — what compiling looks up, and when it is good enough.
* `Family.Refits` — what is found under the name of a family, with another core in it.
* `Node.Rebuilds` — a node compiles to a given type; one equivalence for each form of node.
* `Ty.FollowsLookups` — a type comes back exactly if its own lookups are served; one lemma for each
  form of type.
* `Ty.rebuilt_iff_served` — a type comes back exactly if its queries are served.
* `Ty.overwritten_not_rebuilt` — not all are, after some registrations.
-/

namespace Conform

/-! ## Metadata -/

namespace Metadata

/-- Whatever the first metadata says is said anew by the second. -/
def OverriddenBy (k m : Metadata) : Prop :=
  k.map (·.1) ⊆ m.map (·.1)

theorem names_eq_of_equals {m k : Metadata} (h : Metadata.equals m k = true) :
    m.map (·.1) = k.map (·.1) := by
  induction m generalizing k with
  | nil =>
    cases k with
    | nil => rfl
    | cons f k => cases h
  | cons e m ih =>
    cases k with
    | nil => cases h
    | cons f k =>
      rw [Metadata.equals, Bool.and_eq_true, Bool.and_eq_true, beq_iff_eq] at h
      rw [List.map_cons, List.map_cons, h.1.1, ih h.2]

/-- Only empty metadata equals the empty one. -/
theorem equals_nil {m : Metadata} : Metadata.equals m [] = true ↔ m = [] := by
  cases m with
  | nil => exact iff_of_true rfl rfl
  | cons e m => exact iff_of_false Bool.false_ne_true (List.cons_ne_nil e m)

/-- Metadata put on other metadata stands alone exactly if it overrides all of that. -/
theorem equals_foldl_place_iff {k m : Metadata} (hk : Named.Ascending k) (hm : Named.Ascending m) :
    Metadata.equals (m.foldl (fun named e => Named.place e.1 e.2 named) k) m = true ↔
      OverriddenBy k m := by
  constructor
  · intro h
    rw [OverriddenBy, ← names_eq_of_equals h]
    exact Named.names_subset_foldl_place hm k
  · intro h
    rw [hm.foldl_place_eq hk h]
    exact equals_self m

end Metadata

/-! ## What compiling takes from the registry -/

/-- A registered type that compiling a node looks up, with the metadata that is put on it. -/
inductive Query
  | primitive (p : Primitive) (m : Metadata)
  | hash (family : Family) (m : Metadata)
  | array (family : Family) (m : Metadata)

namespace Node

mutual

/-- What compiling the node looks up. -/
def queries : Node → List Query
  | .definition p m => [.primitive p m]
  | .decorated _ inner _ => inner.queries
  | .sum left right _ => left.queries ++ right.queries
  | .schema none _ _ members _ => membersQueries members
  | .schema (some family) _ _ members m => .hash family m :: membersQueries members
  | .array none item _ => item.queries
  | .array (some family) item m => .array family m :: item.queries
  | .map key value _ => key.queries ++ value.queries

/-- The same for the members of a schema. -/
def membersQueries : List (Value × Node) → List Query
  | [] => []
  | (_, n) :: rest => n.queries ++ membersQueries rest

end

-- the equations are derived here, once for all proofs that open these functions
attribute [grind =] queries membersQueries

end Node

/-- The type runs the first function of the family in front of a core, or is the core. -/
def Family.Surrounds (b : Builtin) (core : Ty) : Family → Ty → Prop
  | .params, t => ∃ f, f == b.toCoercion ∧ t = Ty.decorate (.constructor [f]) core
  | .json, t => t = core

/-- A core without metadata that can be turned into any other core for hashes. -/
def Ty.IsBareHash : Ty → Prop
  | .definition .hash [] => True
  | .schema _ _ _ [] => True
  | _ => False

/-- The same for arrays. -/
def Ty.IsBareArray : Ty → Prop
  | .definition .array [] => True
  | .array _ [] => True
  | _ => False

namespace Ty

theorem isBareHash_iff {c : Ty} :
    c.IsBareHash ↔ c = .definition .hash [] ∨ ∃ q f ms, c = .schema q f ms [] := by
  unfold IsBareHash
  split
  · simp
  · simp
  · next hd hs =>
    simp only [false_iff]
    rintro (rfl | ⟨q, f, ms, rfl⟩)
    · exact hd rfl
    · exact hs q f ms rfl

theorem isBareArray_iff {c : Ty} :
    c.IsBareArray ↔ c = .definition .array [] ∨ ∃ t, c = .array t [] := by
  unfold IsBareArray
  split
  · simp
  · simp
  · next hd ha =>
    simp only [false_iff]
    rintro (rfl | ⟨t, rfl⟩)
    · exact hd rfl
    · exact ha t rfl

end Ty

namespace Query

/-- The name that is looked up. -/
def identifier : Query → String
  | .primitive p _ => p.identifier
  | .hash family _ => family.hashIdentifier
  | .array family _ => family.arrayIdentifier

/-- What is registered is as good as the standard type.  Another type under the name of a primitive
is passed over, but a definition of the primitive counts with its metadata.  Under the name of a
family there must be a coercing type like the standard one, whatever it has for a core. -/
def Served (types : TypeRegistry) : Query → Prop
  | .primitive p m => ∀ k, types.get? p.identifier = some (.definition p k) → k.OverriddenBy m
  | .hash family m => ∃ inner core k,
    types.get? family.hashIdentifier = some (.decorated .safe inner k) ∧
      family.Surrounds .paramsHash core inner ∧ core.IsBareHash ∧ k.OverriddenBy m
  | .array family m => ∃ inner core k,
    types.get? family.arrayIdentifier = some (.decorated .safe inner k) ∧
      family.Surrounds .paramsArray core inner ∧ core.IsBareArray ∧ k.OverriddenBy m

end Query

/-! ## Registered families -/

theorem Decorator.equals_safe_iff {d : Decorator} : d.equals .safe = true ↔ d = .safe := by
  cases d with
  | safe => exact iff_of_true rfl rfl
  | _ => exact iff_of_false (by simp [equals]) (by simp)

/-- Only one function around equals one function around. -/
theorem Decorator.equals_constructor_iff {d : Decorator} {g : Coercion} :
    d.equals (.constructor [g]) = true ↔ ∃ f, f == g ∧ d = .constructor [f] := by
  constructor
  · intro h
    cases d with
    | constructor fns =>
      match fns with
      | [] => cases h
      | [f] => exact ⟨f, (Bool.and_true _).symm.trans h, rfl⟩
      | f :: e :: rest => simp [equals] at h
    | _ => cases h
  · rintro ⟨f, hf, rfl⟩
    exact (Bool.and_true _).trans hf

namespace Ty

/-- What equals a decorated type is decorated alike, around an equal type. -/
theorem equals_decorated_iff {u t : Ty} {d : Decorator} {m : Metadata} :
    u.equals true (.decorated d t m) = true ↔ ∃ e v k, u = .decorated e v k ∧
      Metadata.equals k m = true ∧ e.equals d = true ∧ v.equals true t = true := by
  cases u with
  | decorated e v k => simp [equals, agree, and_assoc]
  | _ => simp [equals]

theorem IsCore.of_equals {u t : Ty} (ht : t.IsCore) (h : u.equals true t = true) : u.IsCore := by
  cases u with
  | decorated d v k =>
    cases t with
    | decorated => exact ht.elim
    | _ => cases h
  | _ => trivial

end Ty

namespace Family

/-- How a core is replaced, and when the result is the one that is wanted. -/
structure Refits (f : Ty → Except CoercionError Ty) (wanted : Ty) (fit : Ty → Prop) (same : Prop) :
    Prop where
  cores : ∀ c v, f c = .ok v → c.IsCore ∧ v.IsCore
  wantedCore : wanted.IsCore
  fits : ∀ c, (∃ v, f c = .ok v ∧ v.equals true wanted = true) ↔ fit c ∧ same

variable {f : Ty → Except CoercionError Ty} {wanted : Ty} {fit : Ty → Prop} {same : Prop}

/-- A type that takes another core equals the wanted one exactly if it has a bare core in it and the
new core is the same. -/
theorem Refits.replaceCore (h : Refits f wanted fit same) {t : Ty} :
    (∃ v, t.replaceCore f = .ok v ∧ v.equals true wanted = true) ↔ fit t ∧ same := by
  rw [← h.fits]
  refine exists_congr fun v => and_congr_left fun hv => ?_
  exact Ty.replaceCore_eq_core h.cores (h.wantedCore.of_equals hv)

/-- What a family puts around the core is kept. -/
theorem Refits.surround (h : Refits f wanted fit same) (family : Family) (b : Builtin) {t : Ty} :
    (∃ v, t.replaceCore f = .ok v ∧ v.equals true (family.surround b wanted) = true) ↔
      (∃ core, family.Surrounds b core t ∧ fit core) ∧ same := by
  cases family with
  | json =>
    show (∃ v, t.replaceCore f = .ok v ∧ v.equals true wanted = true) ↔ _
    simp only [h.replaceCore, Surrounds, exists_eq_left']
  | params =>
    constructor
    · rintro ⟨v, hv, he⟩
      obtain ⟨e, v, k, rfl, hk, hd, hw⟩ := Ty.equals_decorated_iff.1 he
      obtain ⟨g, hg, rfl⟩ := Decorator.equals_constructor_iff.1 hd
      obtain rfl := Metadata.equals_nil.1 hk
      obtain ⟨core, rfl, -, hc⟩ := (Ty.replaceCore_eq_decorated h.cores).1 hv
      obtain ⟨hfit, hsame⟩ := h.replaceCore.1 ⟨v, hc, hw⟩
      exact ⟨⟨core, ⟨g, hg, rfl⟩, hfit⟩, hsame⟩
    · rintro ⟨⟨core, ⟨g, hg, rfl⟩, hfit⟩, hsame⟩
      obtain ⟨v, hv, hw⟩ := h.replaceCore.2 ⟨hfit, hsame⟩
      refine ⟨.decorated (.constructor [g]) v [], (Ty.replaceCore_eq_decorated h.cores).2
        ⟨core, rfl, rfl, hv⟩, ?_⟩
      exact Ty.equals_decorated_iff.2 ⟨_, v, [], rfl, rfl, Decorator.equals_constructor_iff.2
        ⟨g, hg, rfl⟩, hw⟩

/-- A registered type serves for a family if it has the form of the standard one. -/
theorem Refits.family (h : Refits f wanted fit same) (family : Family) (b : Builtin) {t : Ty}
    {m : Metadata} (ht : Named.Ascending t.metadata) (hm : Named.Ascending m) :
    (∃ u, t.replaceCore f = .ok u ∧
        (u.withMetadata m).equals true (.decorated .safe (family.surround b wanted) m) = true) ↔
      (∃ inner core k, t = .decorated .safe inner k ∧ family.Surrounds b core inner ∧ fit core ∧
        Metadata.OverriddenBy k m) ∧ same := by
  constructor
  · rintro ⟨u, hu, he⟩
    obtain ⟨e, v, k, heq, hk, hd, hw⟩ := Ty.equals_decorated_iff.1 he
    obtain rfl := Decorator.equals_safe_iff.1 hd
    cases u with
    | decorated d v' l =>
      cases heq
      obtain ⟨inner, rfl, -, hi⟩ := (Ty.replaceCore_eq_decorated h.cores).1 hu
      obtain ⟨⟨core, hcore, hfit⟩, hsame⟩ := (h.surround family b).1 ⟨_, hi, hw⟩
      exact ⟨⟨inner, core, l, rfl, hcore, hfit, (Metadata.equals_foldl_place_iff ht hm).1 hk⟩,
        hsame⟩
    | _ => cases heq
  · rintro ⟨⟨inner, core, k, rfl, hcore, hfit, hk⟩, hsame⟩
    obtain ⟨v, hv, hw⟩ := (h.surround family b).2 ⟨⟨core, hcore, hfit⟩, hsame⟩
    refine ⟨.decorated .safe v k, (Ty.replaceCore_eq_decorated h.cores).2 ⟨inner, rfl, rfl, hv⟩, ?_⟩
    exact Ty.equals_decorated_iff.2 ⟨.safe, v, _, rfl,
      (Metadata.equals_foldl_place_iff ht hm).2 hk, rfl, hw⟩

/-- A schema is put in the place of a bare hash. -/
theorem refits_schema (policy : Policy) (transform : KeyTransform)
    (us members : List (Value × Ty)) :
    Refits (fun c => Ty.schemaCore policy us c >>= Ty.transformCore transform)
      (.schema policy transform members []) Ty.IsBareHash
        (Ty.membersEqual true us members = true) where
  cores := by
    intro c v h
    obtain ⟨w, hw, hv⟩ := bind_eq_ok.1 h
    obtain ⟨m, hc, rfl⟩ := Ty.schemaCore_eq_ok.1 hw
    cases hv
    obtain rfl | ⟨q, f, ms, rfl⟩ := hc <;> exact ⟨trivial, trivial⟩
  wantedCore := trivial
  fits := by
    intro c
    simp only [bind_eq_ok, Ty.schemaCore_eq_ok]
    constructor
    · rintro ⟨v, ⟨w, ⟨m, hc, rfl⟩, hv⟩, he⟩
      cases hv
      simp only [Ty.equals, Ty.agree, Bool.not_true, Bool.false_or, Bool.and_eq_true] at he
      obtain rfl := Metadata.equals_nil.1 he.1.1.1
      exact ⟨Ty.isBareHash_iff.2 hc, he.2⟩
    · rintro ⟨hc, hm⟩
      refine ⟨.schema policy transform us [], ⟨_, ⟨[], Ty.isBareHash_iff.1 hc, rfl⟩, rfl⟩, ?_⟩
      simp only [Ty.equals, Ty.agree_self, beq_self_eq_true, hm, Bool.and_self]

/-- Items are put in the place of a bare array. -/
theorem refits_array (item t : Ty) : Refits (Ty.itemCore item) (.array t []) Ty.IsBareArray
    (item.equals true t = true) where
  cores := by
    intro c v h
    obtain ⟨m, hc, rfl⟩ := Ty.itemCore_eq_ok.1 h
    obtain rfl | ⟨t, rfl⟩ := hc <;> exact ⟨trivial, trivial⟩
  wantedCore := trivial
  fits := by
    intro c
    simp only [Ty.itemCore_eq_ok]
    constructor
    · rintro ⟨v, ⟨m, hc, rfl⟩, he⟩
      simp only [Ty.equals, Ty.agree, Bool.not_true, Bool.false_or, Bool.and_eq_true] at he
      obtain rfl := Metadata.equals_nil.1 he.1
      exact ⟨Ty.isBareArray_iff.2 hc, he.2⟩
    · rintro ⟨hc, ht⟩
      refine ⟨.array item [], ⟨[], Ty.isBareArray_iff.1 hc, rfl⟩, ?_⟩
      simp only [Ty.equals, Ty.agree_self, ht, Bool.and_self]

end Family

/-! ## Nodes -/

/-- Every registered type has its own metadata in order, and every name that is looked up stands for
some type. -/
structure TypeRegistry.Complete (types : TypeRegistry) : Prop where
  inOrder : ∀ name t, types.get? name = some t → Named.Ascending t.metadata
  registered : ∀ q : Query, ∃ t, types.get? q.identifier = some t

namespace Node

/-- The node compiles to a type equal to `t`, metadata included. -/
def Rebuilds (env : Environment) (n : Node) (t : Ty) : Prop :=
  ∃ u, n.compile env = .ok u ∧ u.equals true t = true

/-- The same for the members of a schema. -/
def MembersRebuild (env : Environment) (nodes : List (Value × Node)) (members : List (Value × Ty)) :
    Prop :=
  ∃ us, compileMembers env nodes = .ok us ∧ Ty.membersEqual true us members = true

variable {env : Environment}

/-- A decorated node rebuilds its type exactly if the node inside does. -/
theorem rebuilds_decorated {nd : NodeDecorator} {d : Decorator} {n : Node} {t : Ty} {m : Metadata}
    (hd : ∀ u, n.compile env = .ok u →
      (Node.decorated nd n m).compile env = .ok (.decorated d u m)) :
    (Node.decorated nd n m).Rebuilds env (.decorated d t m) ↔ n.Rebuilds env t := by
  constructor
  · rintro ⟨u, hu, he⟩
    have hinner : ∃ v, n.compile env = .ok v := by
      cases nd <;> simp only [compile, bind_eq_ok] at hu
      case default =>
        obtain ⟨-, -, v, hv, -⟩ := hu
        exact ⟨v, hv⟩
      all_goals
        obtain ⟨v, hv, -⟩ := hu
        exact ⟨v, hv⟩
    obtain ⟨v, hv⟩ := hinner
    obtain rfl : Ty.decorated d v m = u := Except.ok.inj ((hd v hv).symm.trans hu)
    obtain ⟨_, _, _, heq, -, -, hv'⟩ := Ty.equals_decorated_iff.1 he
    cases heq
    exact ⟨v, hv, hv'⟩
  · rintro ⟨v, hv, he⟩
    exact ⟨_, hd v hv, Ty.equals_decorated_iff.2 ⟨d, v, m, rfl, m.equals_self, d.equals_self, he⟩⟩

/-- A sum is rebuilt exactly if both sides are. -/
theorem rebuilds_sum {a b : Node} {s t : Ty} {m : Metadata} :
    (Node.sum a b m).Rebuilds env (.sum s t m) ↔ a.Rebuilds env s ∧ b.Rebuilds env t := by
  simp only [Rebuilds, compile, bind_eq_ok, pure, Except.pure, Except.ok.injEq]
  constructor
  · rintro ⟨-, ⟨u, hu, v, hv, rfl⟩, he⟩
    rw [Ty.equals, Bool.and_eq_true, Bool.and_eq_true] at he
    exact ⟨⟨u, hu, he.1.2⟩, v, hv, he.2⟩
  · rintro ⟨⟨u, hu, he⟩, v, hv, he'⟩
    refine ⟨_, ⟨u, hu, v, hv, rfl⟩, ?_⟩
    rw [Ty.equals, Ty.agree_self, he, he', Bool.and_self, Bool.and_self]

/-- A schema is rebuilt exactly if its members are. -/
theorem rebuilds_schema {policy : Policy} {transform : KeyTransform} {nodes : List (Value × Node)}
    {members : List (Value × Ty)} {m : Metadata} :
    (Node.schema none policy transform nodes m).Rebuilds env (.schema policy transform members m) ↔
      MembersRebuild env nodes members := by
  simp only [Rebuilds, compile, bind_eq_ok, pure, Except.pure, Except.ok.injEq]
  constructor
  · rintro ⟨-, ⟨us, hus, rfl⟩, he⟩
    rw [Ty.equals, Bool.and_eq_true] at he
    exact ⟨us, hus, he.2⟩
  · rintro ⟨us, hus, he⟩
    refine ⟨_, ⟨us, hus, rfl⟩, ?_⟩
    simp only [Ty.equals, Ty.agree_self, beq_self_eq_true, he, Bool.and_self]

/-- An array is rebuilt exactly if its items are. -/
theorem rebuilds_array {n : Node} {t : Ty} {m : Metadata} :
    (Node.array none n m).Rebuilds env (.array t m) ↔ n.Rebuilds env t := by
  simp only [Rebuilds, compile, bind_eq_ok, pure, Except.pure, Except.ok.injEq]
  constructor
  · rintro ⟨-, ⟨u, hu, rfl⟩, he⟩
    rw [Ty.equals, Bool.and_eq_true] at he
    exact ⟨u, hu, he.2⟩
  · rintro ⟨u, hu, he⟩
    refine ⟨_, ⟨u, hu, rfl⟩, ?_⟩
    rw [Ty.equals, Ty.agree_self, he, Bool.and_self]

/-- A map is rebuilt exactly if its keys and values are. -/
theorem rebuilds_map {a b : Node} {s t : Ty} {m : Metadata} :
    (Node.map a b m).Rebuilds env (.map s t m) ↔ a.Rebuilds env s ∧ b.Rebuilds env t := by
  simp only [Rebuilds, compile, bind_eq_ok, pure, Except.pure, Except.ok.injEq]
  constructor
  · rintro ⟨-, ⟨u, hu, v, hv, rfl⟩, he⟩
    rw [Ty.equals, Bool.and_eq_true, Bool.and_eq_true] at he
    exact ⟨⟨u, hu, he.1.2⟩, v, hv, he.2⟩
  · rintro ⟨⟨u, hu, he⟩, v, hv, he'⟩
    refine ⟨_, ⟨u, hu, v, hv, rfl⟩, ?_⟩
    rw [Ty.equals, Ty.agree_self, he, he', Bool.and_self, Bool.and_self]

/-- Members are rebuilt one by one. -/
theorem membersRebuild_cons {name : Value} {n : Node} {t : Ty} {nodes : List (Value × Node)}
    {members : List (Value × Ty)} :
    MembersRebuild env ((name, n) :: nodes) ((name, t) :: members) ↔
      n.Rebuilds env t ∧ MembersRebuild env nodes members := by
  simp only [MembersRebuild, compileMembers, bind_eq_ok, pure, Except.pure, Except.ok.injEq]
  constructor
  · rintro ⟨-, ⟨u, hu, us, hus, rfl⟩, he⟩
    rw [Ty.membersEqual, Bool.and_eq_true, Bool.and_eq_true] at he
    exact ⟨⟨u, hu, he.1.2⟩, us, hus, he.2⟩
  · rintro ⟨⟨u, hu, he⟩, us, hus, he'⟩
    refine ⟨_, ⟨u, hu, us, hus, rfl⟩, ?_⟩
    rw [Ty.membersEqual, Value.beq_self, he, he', Bool.and_self, Bool.and_self]

/-! ### Nodes that look something up -/

variable (h : env.types.Complete) {m : Metadata} (hm : Named.Ascending m)

include h hm

/-- A primitive is rebuilt exactly if the lookup of its name serves it. -/
theorem rebuilds_definition {p : Primitive} :
    (Node.definition p m).Rebuilds env (.definition p m) ↔
      (Query.primitive p m).Served env.types := by
  obtain ⟨t, ht⟩ := h.registered (.primitive p m)
  replace ht : env.types.get? p.identifier = some t := ht
  have hresolve := TypeRegistry.resolve_registered ht
  by_cases hk : ∃ k, t = .definition p k
  · obtain ⟨k, rfl⟩ := hk
    have hd : env.definition p = .definition p k := by
      rw [Environment.definition, hresolve]
      exact if_pos rfl
    have hk : Named.Ascending k := h.inOrder _ _ ht
    simp only [Rebuilds, compile, hd, Except.ok.injEq, exists_eq_left', Ty.withMetadata,
      Ty.setMetadata, Ty.equals, Ty.agree, Ty.metadata, Bool.not_true, Bool.false_or,
      beq_self_eq_true, Bool.and_true, Query.Served, ht, Option.some.injEq, Ty.definition.injEq,
      true_and, forall_eq', Metadata.equals_foldl_place_iff hk hm]
  · have hd : env.definition p = .definition p [] := by
      rw [Environment.definition, hresolve]
      split
      · next q k heq =>
        cases heq
        refine if_neg ?_
        rintro rfl
        exact hk ⟨k, rfl⟩
      · rfl
    refine iff_of_true ⟨_, rfl, ?_⟩ fun k hget =>
      absurd ⟨k, Option.some.inj (ht.symm.trans hget)⟩ hk
    rw [hd, Ty.withMetadata_of_ascending rfl hm]
    exact Ty.equals_self true _

/-- A schema of a family is rebuilt exactly if the family's hash is served and the members are
rebuilt. -/
theorem rebuilds_family_schema (family : Family) {policy : Policy} {transform : KeyTransform}
    {nodes : List (Value × Node)} {members : List (Value × Ty)} :
    (Node.schema (some family) policy transform nodes m).Rebuilds env
        (.decorated .safe (family.surround .paramsHash (.schema policy transform members [])) m) ↔
      (Query.hash family m).Served env.types ∧ MembersRebuild env nodes members := by
  obtain ⟨t, ht⟩ := h.registered (.hash family m)
  replace ht : env.types.get? family.hashIdentifier = some t := ht
  have hfits :=
    fun us => (Family.refits_schema policy transform us members).family family .paramsHash
    (h.inOrder _ _ ht) hm
  have hcompile : ∀ u, (Node.schema (some family) policy transform nodes m).compile env = .ok u ↔
      ∃ us, compileMembers env nodes = .ok us ∧ ∃ v, t.replaceCore (fun c =>
        Ty.schemaCore policy us c >>= Ty.transformCore transform) = .ok v ∧
        v.withMetadata m = u := by
    intro u
    simp only [compile, Environment.type, TypeRegistry.resolve_registered ht, Ty.orCoercion,
      bind_eq_ok, mapError_eq_ok, ← Ty.schemaWith_bind, pure, Except.pure, Except.ok.injEq,
      exists_eq_left']
    constructor
    · rintro ⟨us, hus, w, hw, v, hv, hu⟩
      exact ⟨us, hus, v, ⟨w, hw, hv⟩, hu⟩
    · rintro ⟨us, hus, v, ⟨w, hw, hv⟩, hu⟩
      exact ⟨us, hus, w, hw, v, hv, hu⟩
  have hserved : (Query.hash family m).Served env.types ↔ ∃ inner core k,
      t = .decorated .safe inner k ∧ family.Surrounds .paramsHash core inner ∧ core.IsBareHash ∧
        Metadata.OverriddenBy k m := by
    simp only [Query.Served, ht, Option.some.injEq]
  rw [hserved]
  constructor
  · rintro ⟨u, hu, he⟩
    obtain ⟨us, hus, v, hv, rfl⟩ := (hcompile u).1 hu
    obtain ⟨hq, hsame⟩ := (hfits us).1 ⟨v, hv, he⟩
    exact ⟨hq, us, hus, hsame⟩
  · rintro ⟨hq, us, hus, hsame⟩
    obtain ⟨v, hv, he⟩ := (hfits us).2 ⟨hq, hsame⟩
    exact ⟨_, (hcompile _).2 ⟨us, hus, v, hv, rfl⟩, he⟩

theorem rebuilds_family_array (family : Family) {n : Node} {t : Ty} :
    (Node.array (some family) n m).Rebuilds env
        (.decorated .safe (family.surround .paramsArray (.array t [])) m) ↔
      (Query.array family m).Served env.types ∧ n.Rebuilds env t := by
  obtain ⟨r, hr⟩ := h.registered (.array family m)
  replace hr : env.types.get? family.arrayIdentifier = some r := hr
  have hfits := fun u => (Family.refits_array u t).family family .paramsArray (h.inOrder _ _ hr) hm
  have hcompile : ∀ u, (Node.array (some family) n m).compile env = .ok u ↔
      ∃ w, n.compile env = .ok w ∧ ∃ v, r.replaceCore (Ty.itemCore w) = .ok v ∧
        v.withMetadata m = u := by
    intro u
    simp only [compile, Environment.type, TypeRegistry.resolve_registered hr, Ty.orCoercion,
      bind_eq_ok, mapError_eq_ok, ← Ty.arrayOf_eq, pure, Except.pure, Except.ok.injEq,
      exists_eq_left']
  have hserved : (Query.array family m).Served env.types ↔ ∃ inner core k,
      r = .decorated .safe inner k ∧ family.Surrounds .paramsArray core inner ∧ core.IsBareArray ∧
        Metadata.OverriddenBy k m := by
    simp only [Query.Served, hr, Option.some.injEq]
  rw [hserved]
  constructor
  · rintro ⟨u, hu, he⟩
    obtain ⟨w, hw, v, hv, rfl⟩ := (hcompile u).1 hu
    obtain ⟨hq, hsame⟩ := (hfits w).1 ⟨v, hv, he⟩
    exact ⟨hq, w, hw, hsame⟩
  · rintro ⟨hq, w, hw, hsame⟩
    obtain ⟨v, hv, he⟩ := (hfits w).2 ⟨hq, hsame⟩
    exact ⟨_, (hcompile _).2 ⟨w, hw, v, hv, rfl⟩, he⟩

end Node

/-! ## Types -/

namespace Ty

/-- A type with built-in functions only and with metadata in order. -/
structure Portable (t : Ty) : Prop where
  builtins : t.RunsBuiltins
  inOrder : t.InOrder

namespace Portable

/-- A part of what can be carried over can be carried over. -/
theorem part {t u : Ty} (ht : t.Portable) (hu : u.Within t) : u.Portable where
  builtins := ht.builtins.part hu
  inOrder := fun m hm => ht.inOrder m (hu.notes hm)

theorem inner {d : Decorator} {t : Ty} {m : Metadata} (ht : Portable (.decorated d t m)) :
    t.Portable :=
  ht.part (within_decorated d t m)

theorem item {t : Ty} {m : Metadata} (ht : Portable (.array t m)) : t.Portable :=
  ht.part (within_array t m)

theorem members {policy : Policy} {transform : KeyTransform} {members : List (Value × Ty)}
    {m : Metadata} (ht : Portable (.schema policy transform members m)) :
    ∀ e ∈ members, e.2.Portable :=
  fun _ he => ht.part (within_schema policy transform m he)

theorem rebuildable {t : Ty} (ht : t.Portable) : t.Rebuildable .byName :=
  ht.builtins.rebuildable ht.inOrder

theorem metadata {t : Ty} (ht : t.Portable) : Named.Ascending t.metadata :=
  ht.rebuildable.metadata

end Portable

/-- The functions of a decorator come back, so a decorated type comes back when the inner one
does. -/
theorem Portable.records_decorator {d : Decorator} {inner : Ty} {m : Metadata}
    (ht : Portable (.decorated d inner m)) (types : TypeRegistry) :
    Records .byName d.toNode fun nd gs => ∀ (n : Node) (t : Ty) (k : Metadata),
      (Node.decorated nd n k).Rebuilds ⟨types, gs⟩ (.decorated d t k) ↔
        n.Rebuilds ⟨types, gs⟩ t := by
  refine (ht.rebuildable.records_decorator types).mono fun nd gs hnd n t k => ?_
  exact Node.rebuilds_decorated fun u hu => hnd n u k hu

/-- With built-in functions only, the function that the node of a family leaves out is the built-in
one. -/
theorem Portable.eq_builtin {b : Builtin} {f : Coercion} {t : Ty} {m : Metadata}
    (ht : Portable (.decorated (.constructor [f]) t m)) (hf : f.name = some b.name) :
    f = b.toCoercion := by
  obtain ⟨c, rfl⟩ := ht.builtins.constructor
  exact (recognize_builtin b true c).symm.trans (recognize_of_name hf)

section Forms

variable {types : TypeRegistry} {policy : Policy} {transform : KeyTransform}
  {members : List (Value × Ty)} {item left right key value : Ty} {m : Metadata}

/-- The node of the type is compiled to the type exactly where all lookups are served. -/
def FollowsLookups (types : TypeRegistry) (t : Ty) : Prop :=
  Records .byName (t.toNode true) fun n gs =>
    n.Rebuilds ⟨types, gs⟩ t ↔ ∀ q ∈ n.queries, q.Served types

/-- The same for the members of a schema. -/
def MembersFollowLookups (types : TypeRegistry) (members : List (Value × Ty)) : Prop :=
  Records .byName (membersToNodes true members) fun nodes gs =>
    Node.MembersRebuild ⟨types, gs⟩ nodes members ↔ ∀ q ∈ Node.membersQueries nodes, q.Served types

/-- The members of a schema follow the lookups if each of them does. -/
theorem membersFollowLookups (h : ∀ e ∈ members, FollowsLookups types e.2) :
    MembersFollowLookups types members := by
  induction members with
  | nil => exact .pure fun gs => iff_of_true ⟨[], rfl, rfl⟩ (by simp [Node.membersQueries])
  | cons e rest ih =>
    obtain ⟨ht, hrest⟩ := List.forall_mem_cons.1 h
    rw [MembersFollowLookups, membersToNodes]
    refine ht.bind fun node => (ih hrest).bind fun nodes => .pure fun gs hns hn => ?_
    rw [Node.membersRebuild_cons, hn, hns, Node.membersQueries, List.forall_mem_append]

/-- A primitive follows the lookup of its name. -/
theorem followsLookups_definition (h : types.Complete) (p : Primitive) (hm : Named.Ascending m) :
    FollowsLookups types (.definition p m) := by
  rw [FollowsLookups, toNode]
  refine .pure fun gs => (Node.rebuilds_definition h hm).trans ?_
  rw [Node.queries, List.forall_mem_singleton]
  rfl

/-- A JSON schema follows the lookup of the hash of its family, and those of its members. -/
theorem followsLookups_jsonSchema (h : types.Complete) (hm : Named.Ascending m)
    (hms : MembersFollowLookups types members) :
    FollowsLookups types (.decorated .safe (.schema policy transform members []) m) := by
  rw [FollowsLookups, toNode_jsonSchema rfl]
  refine Records.bind hms fun nodes => .pure fun gs hns => ?_
  refine (Node.rebuilds_family_schema h hm .json).trans ?_
  rw [hns, Node.queries, List.forall_mem_cons]
  rfl

/-- A JSON array follows the lookup of the array of its family, and those of its items. -/
theorem followsLookups_jsonArray (h : types.Complete) (hm : Named.Ascending m)
    (hi : FollowsLookups types item) :
    FollowsLookups types (.decorated .safe (.array item []) m) := by
  rw [FollowsLookups, toNode_jsonArray rfl]
  refine hi.bind fun node => .pure fun gs hn => ?_
  refine (Node.rebuilds_family_array h hm .json).trans ?_
  rw [hn, Node.queries, List.forall_mem_cons]
  rfl

/-- A schema of parameters does so in the family of parameters. -/
theorem followsLookups_paramsSchema (h : types.Complete) (hm : Named.Ascending m)
    (hms : MembersFollowLookups types members) :
    FollowsLookups types (.decorated .safe
      (.decorated (.constructor [Builtin.paramsHash.toCoercion])
        (.schema policy transform members []) []) m) := by
  rw [FollowsLookups, toNode_paramsSchema (inFamily_paramsSchema.2 ⟨rfl, rfl, rfl⟩)]
  refine Records.bind hms fun nodes => .pure fun gs hns => ?_
  refine (Node.rebuilds_family_schema h hm .params).trans ?_
  rw [hns, Node.queries, List.forall_mem_cons]
  rfl

theorem followsLookups_paramsArray (h : types.Complete) (hm : Named.Ascending m)
    (hi : FollowsLookups types item) :
    FollowsLookups types (.decorated .safe
      (.decorated (.constructor [Builtin.paramsArray.toCoercion]) (.array item []) []) m) := by
  rw [FollowsLookups, toNode_paramsArray (inFamily_paramsArray.2 ⟨rfl, rfl, rfl⟩)]
  refine hi.bind fun node => .pure fun gs hn => ?_
  refine (Node.rebuilds_family_array h hm .params).trans ?_
  rw [hn, Node.queries, List.forall_mem_cons]
  rfl

/-- Outside the families only the inner type looks something up. -/
theorem followsLookups_decorated {d : Decorator} {inner : Ty} (ht : Portable (.decorated d inner m))
    (h : inFamily true (.decorated d inner m) = false) (hi : FollowsLookups types inner) :
    FollowsLookups types (.decorated d inner m) := by
  rw [FollowsLookups, toNode_decorated h]
  exact hi.bind fun n => (ht.records_decorator types).bind fun nd =>
    .pure fun gs hnd hn => (hnd n inner m).trans hn

/-- A sum follows the lookups of both sides. -/
theorem followsLookups_sum (hl : FollowsLookups types left) (hr : FollowsLookups types right) :
    FollowsLookups types (.sum left right m) := by
  rw [FollowsLookups, toNode]
  refine hl.bind fun l => hr.bind fun r => .pure fun gs hr hl => Node.rebuilds_sum.trans ?_
  rw [hl, hr, Node.queries, List.forall_mem_append]

/-- A plain schema follows those of its members only. -/
theorem followsLookups_schema (hms : MembersFollowLookups types members) :
    FollowsLookups types (.schema policy transform members m) := by
  rw [FollowsLookups, toNode]
  exact Records.bind hms fun nodes => .pure fun gs hns => Node.rebuilds_schema.trans hns

/-- A plain array follows those of its items only. -/
theorem followsLookups_array (hi : FollowsLookups types item) :
    FollowsLookups types (.array item m) := by
  rw [FollowsLookups, toNode]
  exact hi.bind fun node => .pure fun gs hn => Node.rebuilds_array.trans hn

/-- A map follows those of its keys and of its values. -/
theorem followsLookups_map (hk : FollowsLookups types key) (hv : FollowsLookups types value) :
    FollowsLookups types (.map key value m) := by
  rw [FollowsLookups, toNode]
  refine hk.bind fun k => hv.bind fun v => .pure fun gs hv hk => Node.rebuilds_map.trans ?_
  rw [hk, hv, Node.queries, List.forall_mem_append]

end Forms

/-- **A node is compiled to the type that it was made of exactly where all lookups are served.** -/
theorem records_rebuilds {types : TypeRegistry} (h : types.Complete) (t : Ty) (ht : t.Portable) :
    Records .byName (t.toNode true) fun n gs =>
      n.Rebuilds ⟨types, gs⟩ t ↔ ∀ q ∈ n.queries, q.Served types := by
  show FollowsLookups types t
  induction t using formsInduct true with
  | definition p m => exact followsLookups_definition h p ht.metadata
  | jsonSchema policy transform members k m hin ih =>
    obtain rfl := inFamily_jsonSchema.1 hin
    have hms := membersFollowLookups fun e he => ih e he (ht.inner.members e he)
    exact followsLookups_jsonSchema h ht.metadata hms
  | jsonArray item k m hin ih =>
    obtain rfl := inFamily_jsonArray.1 hin
    exact followsLookups_jsonArray h ht.metadata (ih ht.inner.item)
  | paramsSchema f policy transform members k l m hin ih =>
    obtain ⟨hf, rfl, rfl⟩ := inFamily_paramsSchema.1 hin
    obtain rfl := ht.inner.eq_builtin hf
    have hms := membersFollowLookups fun e he => ih e he (ht.inner.inner.members e he)
    exact followsLookups_paramsSchema h ht.metadata hms
  | paramsArray f item k l m hin ih =>
    obtain ⟨hf, rfl, rfl⟩ := inFamily_paramsArray.1 hin
    obtain rfl := ht.inner.eq_builtin hf
    exact followsLookups_paramsArray h ht.metadata (ih ht.inner.inner.item)
  | decorated d inner m hin ih => exact followsLookups_decorated ht hin (ih ht.inner)
  | sum left right m ihl ihr =>
    exact followsLookups_sum (ihl (ht.part (within_sum_left left right m)))
      (ihr (ht.part (within_sum_right left right m)))
  | schema policy transform members m ih =>
    exact followsLookups_schema (membersFollowLookups fun e he => ih e he (ht.members e he))
  | array item m ih => exact followsLookups_array (ih ht.item)
  | map key value m ihk ihv =>
    exact followsLookups_map (ihk (ht.part (within_map_key key value m)))
      (ihv (ht.part (within_map_value key value m)))

end Ty

/-! ## Registrations -/

namespace TypeRegistry

/-- The standard registry after some registrations. -/
def registered (registrations : List (String × Ty)) : TypeRegistry :=
  standard.afterSteps (registrations.map fun e => .register e.1 e.2)

/-- The standard registry holds an entry for all that compiling looks up. -/
theorem complete_standard : standard.Complete where
  inOrder := by
    have hempty : standardTypes.all (fun e => e.2.metadata.isEmpty) = true := by decide
    intro name t ht
    rw [get?_standard] at ht
    have hmem := List.mem_reverse.1 (Named.mem_of_find? ht)
    rw [List.isEmpty_iff.1 (List.all_eq_true.1 hempty _ hmem)]
    exact List.Pairwise.nil
  registered := by
    intro q
    cases q with
    | primitive p m => exact ⟨_, (get?_standard _).trans (find?_primitive p)⟩
    | hash family m => exact ⟨_, (get?_standard _).trans family.find?_hash⟩
    | array family m => exact ⟨_, (get?_standard _).trans family.find?_array⟩

/-- Registering a type in order leaves no gaps. -/
theorem Complete.register {types : TypeRegistry} (h : types.Complete) (name : String) {t : Ty}
    (ht : t.InOrder) : (Step.run types (.register name t)).Complete where
  inOrder := by
    intro other u hu
    rw [get?_run_register] at hu
    split at hu
    · obtain rfl := Option.some.inj hu
      exact ht _ (Ty.notes_subset_gather t (List.mem_singleton.2 rfl))
    · exact h.inOrder other u hu
  registered := by
    intro q
    rw [get?_run_register]
    split
    · exact ⟨t, rfl⟩
    · exact h.registered q

theorem complete_registered {registrations : List (String × Ty)}
    (h : ∀ e ∈ registrations, e.2.InOrder) : (registered registrations).Complete := by
  have hrun : ∀ (l : List (String × Ty)) (types : TypeRegistry), types.Complete →
      (∀ e ∈ l, e.2.InOrder) → (types.afterSteps (l.map fun e => .register e.1 e.2)).Complete := by
    intro l
    induction l with
    | nil => exact fun types htypes _ => htypes
    | cons e l ih =>
      intro types htypes hl
      obtain ⟨he, hl'⟩ := List.forall_mem_cons.1 hl
      exact ih _ (htypes.register e.1 he) hl'
  exact hrun registrations standard complete_standard h

/-- One registration of a name with visible characters is found. -/
theorem get?_registered {name : String} (h : (Text.trim name.toList).isEmpty = false) (t : Ty) :
    (registered [(name, t)]).get? name = some t :=
  (get?_run_register standard name name t).trans (if_pos ⟨rfl, h⟩)

end TypeRegistry

namespace Ty

/-- **Registered types show in what is compiled.**  Whatever was registered, names of standard types
included, a type with built-in functions comes back from its node exactly if every standard name
that the node looks up still serves. -/
theorem rebuilt_iff_served {t : Ty} (ht : t.Portable) {fs functions : Functions}
    (hfs : fs.HasBuiltins) (hfunctions : functions.HasBuiltins) {registrations : List (String × Ty)}
    (hr : ∀ e ∈ registrations, e.2.InOrder) :
    let types := TypeRegistry.registered registrations
    (∃ u, (t.toNode true fs).1.compile ⟨types, functions⟩ = .ok u ∧ u.equals true t = true) ↔
      ∀ q ∈ (t.toNode true fs).1.queries, q.Served types :=
  (records_rebuilds (TypeRegistry.complete_registered hr) t ht fs hfs).2.2 functions hfunctions
    trivial

/-- The definition of strings with a number beside it. -/
def noted (n : Int) : Ty :=
  .definition .string [("a", .number (.integer n))]

theorem portable_noted (n : Int) : (noted n).Portable where
  builtins := ⟨by simp [noted, coercions, gather], by simp [noted, generators, gather]⟩
  inOrder := by simp [InOrder, noted, notes, gather, Named.Ascending]

theorem portable_ofPrimitive (p : Primitive) : (ofPrimitive p).Portable where
  builtins := ⟨by simp [ofPrimitive, coercions, gather], by simp [ofPrimitive, generators, gather]⟩
  inOrder := by simp [InOrder, ofPrimitive, notes, gather, Named.Ascending]

/-- Arrays of integers, or whatever else is given. -/
def numbers : Ty :=
  .decorated .safe (.array (.definition .integer []) []) []

theorem portable_numbers : numbers.Portable where
  builtins := ⟨by simp [numbers, coercions, gather, Decorator.coercions],
    by simp [numbers, generators, gather, Decorator.generators]⟩
  inOrder := by simp [InOrder, numbers, notes, gather, Named.Ascending]

/-- With a note of its own for every name that the registered type has a note for, a type comes back
although the standard one was overwritten. -/
theorem rebuilt_iff_served_noted :
    (noted 2).Portable ∧ Functions.standard.HasBuiltins ∧
      (∀ e ∈ [("string", noted 1)], e.2.InOrder) ∧
      ∃ u, ((noted 2).toNode true Functions.standard).1.compile
        ⟨TypeRegistry.registered [("string", noted 1)], Functions.standard⟩ = .ok u ∧
          u.equals true (noted 2) = true := by
  have hr : ∀ e ∈ [("string", noted 1)], e.2.InOrder :=
    List.forall_mem_singleton.2 (portable_noted 1).inOrder
  refine ⟨portable_noted 2, Functions.hasBuiltins_standard, hr, ?_⟩
  refine (rebuilt_iff_served (portable_noted 2) Functions.hasBuiltins_standard
    Functions.hasBuiltins_standard hr).2 (List.forall_mem_singleton.2 fun k hk => ?_)
  cases (TypeRegistry.get?_registered (by decide) (noted 1)).symm.trans hk
  exact fun _ h => h

/-- Without one, the note of the registered type shows; and behind a name of a family that stands
for something else now, nothing comes back. -/
theorem overwritten_not_rebuilt :
    (∃ types, TypeRegistry.standard.register "string" (noted 1) = .ok types) ∧
      ¬ (∃ u, ((ofPrimitive .string).toNode true Functions.standard).1.compile
        ⟨TypeRegistry.registered [("string", noted 1)], Functions.standard⟩ = .ok u ∧
          u.equals true (ofPrimitive .string) = true) ∧
      (∃ types, TypeRegistry.standard.register "json.array" (ofPrimitive .string) = .ok types) ∧
      ¬ (∃ u, (numbers.toNode true Functions.standard).1.compile
        ⟨TypeRegistry.registered [("json.array", ofPrimitive .string)],
          Functions.standard⟩ = .ok u ∧ u.equals true numbers = true) := by
  have hrebuilds : ∀ {name : String} {r t : Ty}, r.InOrder → t.Portable →
      (∃ u, (t.toNode true Functions.standard).1.compile
        ⟨TypeRegistry.registered [(name, r)], Functions.standard⟩ = .ok u ∧
        u.equals true t = true) →
      ∀ q ∈ (t.toNode true Functions.standard).1.queries,
        q.Served (TypeRegistry.registered [(name, r)]) := fun hr ht =>
    ((records_rebuilds (TypeRegistry.complete_registered (List.forall_mem_singleton.2 hr)) _ ht
      Functions.standard Functions.hasBuiltins_standard).2.2 _ Functions.hasBuiltins_standard
        trivial).1
  refine ⟨⟨_, rfl⟩, fun h => ?_, ⟨_, rfl⟩, fun h => ?_⟩
  · have hserved := hrebuilds (portable_noted 1).inOrder (portable_ofPrimitive .string) h _
      List.mem_cons_self
    have hover := hserved _ (TypeRegistry.get?_registered (by decide) (noted 1))
    exact List.not_mem_nil (hover List.mem_cons_self)
  · obtain ⟨inner, core, k, hget, -⟩ := hrebuilds (portable_ofPrimitive .string).inOrder
      portable_numbers h _ List.mem_cons_self
    cases (TypeRegistry.get?_registered (by decide) (ofPrimitive .string)).symm.trans hget

end Ty

end Conform
