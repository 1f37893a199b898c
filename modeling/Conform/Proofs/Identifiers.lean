import Conform.Proofs.Idempotence
import Conform.Proofs.Registered

/-!
# The types that identifiers stand for

An identifier stands for a standard type, or for what qualifiers and `outer<member>` make of such
types.  Every type built in this way has one of a few shapes (`Ty.Nameable`), and types of these
shapes are stable.

The induction runs along the lookup: every entry of the registry is nameable, and a lookup adds
nameable entries only.

* `Ty.Nameable` — the shapes, and `Ty.Nameable.stable`.
* `TypeRegistry.Nameable` — a registry with such types only; `lookup` keeps it so.
* `TypeRegistry.coerces_once` — the result of a looked up type is a result of itself.
-/

namespace Conform

namespace Ty

/-- The types that identifiers can stand for.  The function of a constructor is a built-in one and
aims at the primitive behind it; the left side of a sum is a primitive with or without rules, or the
sum is the one that reads truth values. -/
inductive Nameable : Ty → Prop
  | definition (p : Primitive) (m : Metadata) : Nameable (.definition p m)
  | array {item : Ty} (m : Metadata) : Nameable item → Nameable (.array item m)
  | constrained {inner : Ty} (rule : Rule) (m : Metadata) :
    Nameable inner → Nameable (.decorated (.constrained rule) inner m)
  | constructor {b : Builtin} {inner : Ty} (m : Metadata) : Nameable inner → inner.isCore = true →
    inner.primitive? = some b.target →
    Nameable (.decorated (.constructor [b.toCoercion]) inner m)
  | safe {inner : Ty} (m : Metadata) : Nameable inner → Nameable (.decorated .safe inner m)
  | maybe {inner : Ty} (m : Metadata) : Nameable inner → Nameable (.decorated .maybe inner m)
  | sum {left right : Ty} (m : Metadata) : Nameable left → left.isCore = true →
    left.primitive? ≠ some .array → Nameable right → Nameable (.sum left right m)
  | truth : Nameable ((TypeRegistry.build .paramsTrue).orElse (TypeRegistry.build .paramsFalse))

/-! ## Nameable types are stable -/

/-- Every built-in type gives the same again when it is given its own results. -/
theorem stable_build (b : Builtin) : (TypeRegistry.build b).Stable :=
  (Stable.definition b.target).constructor rfl rfl

/-- What the second side of the sum gives for an input that is no word for `true` is no such word
either. -/
theorem stable_truth :
    ((TypeRegistry.build .paramsTrue).orElse (TypeRegistry.build .paramsFalse)).Stable := by
  refine (stable_build .paramsTrue).sum (stable_build .paramsFalse) ?_
  intro x y z hx hy hz
  obtain ⟨w, hw, hy⟩ := applies_constructor.1 hy
  have hyw : y = w := by
    split at hy
    · exact hy
    · exact (applies_definition.1 hy).symm
  subst hyw
  rcases Builtin.run_paramsFalse x with h | h
  · cases h.symm.trans hw
    exact absurd hx hz.not_rejects
  · cases h.symm.trans hw
    obtain ⟨u, hu, hz⟩ := accepts_constructor.1 hz
    cases hu
    exact (accepts_definition.1 hz).1.symm

/-- Whatever an identifier can name gives the same again. -/
theorem Nameable.stable {t : Ty} (ht : t.Nameable) : t.Stable := by
  induction ht with
  | definition p m => exact .definition p
  | array m _ ih => exact ih.array
  | constrained rule m _ ih => exact ih.constrained rule
  | constructor m _ hc hp ih => exact ih.constructor hc hp
  | safe m _ ih => exact ih.safe
  | maybe m _ ih => exact ih.maybe
  | sum m _ hc hp _ ihl ihr => exact ihl.sum_of_core ihr hc hp
  | truth => exact stable_truth

/-! ## Adding a rule -/

/-- A rule does not change the primitive of a type. -/
theorem primitive?_constrainedBy (rule : Rule) (t : Ty) :
    (t.constrainedBy rule).primitive? = t.primitive? := by
  induction t with
  | decorated d inner m ih =>
    cases d with
    | constrained r => rfl
    | _ => simpa only [constrainedBy, primitive?] using ih
  | sum left right m ihl ihr =>
    simp only [constrainedBy]
    split <;> rfl
  | _ => rfl

theorem isCore_constrainedBy (rule : Rule) {t : Ty} (ht : t.isCore = true) :
    (t.constrainedBy rule).isCore = true := by
  cases t with
  | decorated d inner m =>
    cases d with
    | constrained r => exact ht
    | _ => cases ht
  | definition p m => rfl
  | array item m => rfl
  | _ => cases ht

/-- A rule is added to types about one primitive only, which are no sums. -/
theorem Nameable.constrainedBy {t : Ty} (ht : t.Nameable) (rule : Rule) {p : Primitive}
    (hp : t.primitive? = some p) : (t.constrainedBy rule).Nameable := by
  induction ht with
  | definition q m => exact .constrained _ _ (.definition q m)
  | array m hi _ => exact .constrained _ _ (.array m hi)
  | constrained r m hi _ => exact .constrained _ _ hi
  | constructor m hi hc hb ih =>
    refine .constructor m (ih hp) (isCore_constrainedBy rule hc) ?_
    rw [primitive?_constrainedBy, hb]
  | safe m _ ih => exact .safe m (ih hp)
  | maybe m _ ih => exact .maybe m (ih hp)
  | sum => cases hp
  | truth => cases hp

/-! ## Qualifiers -/

theorem nameable_strict (p : Primitive) : (strict p).Nameable :=
  .constrained _ _ (.definition p [])

theorem Nameable.optional {t : Ty} (ht : t.Nameable) : t.optional.Nameable :=
  .sum _ (nameable_strict .nil) rfl nofun ht

/-- A `maybe` is not put around another one. -/
theorem Nameable.toMaybe {t : Ty} (ht : t.Nameable) : t.maybe.Nameable := by
  unfold Ty.maybe
  split
  · exact ht
  · exact .maybe _ ht

/-! ## Items of arrays -/

/-- A decorator around the core is put around the core with other items. -/
theorem arrayOf_decorated_inv {d : Decorator} {inner item u : Ty} {m : Metadata}
    (hd : d.surroundsCore = true) (h : (decorated d inner m).arrayOf item = .ok u) :
    ∃ core, inner.arrayOf item = .ok core ∧ u = .decorated d core m := by
  rw [arrayOf, replaceCore, if_pos hd] at h
  change (inner.arrayOf item).map _ = _ at h
  cases hc : inner.arrayOf item with
  | error e =>
    rw [hc] at h
    cases h
  | ok core =>
    rw [hc] at h
    cases h
    exact ⟨core, rfl, rfl⟩

/-- With other items a core stays a core about the same primitive. -/
theorem isCore_arrayOf {t item u : Ty} (ht : t.isCore = true) (h : t.arrayOf item = .ok u) :
    u.isCore = true ∧ u.primitive? = t.primitive? := by
  induction t generalizing u with
  | definition p m =>
    cases p <;> cases h
    exact ⟨rfl, rfl⟩
  | array item' m =>
    cases h
    exact ⟨rfl, rfl⟩
  | decorated d inner m ih =>
    cases d with
    | constrained r =>
      obtain ⟨core, hc, rfl⟩ := arrayOf_decorated_inv rfl h
      obtain ⟨hcore, hp⟩ := ih ht hc
      exact ⟨hcore, hp⟩
    | _ => cases ht
  | _ => cases ht

/-- The core of a nameable type may get nameable items. -/
theorem Nameable.arrayOf {t item u : Ty} (ht : t.Nameable) (hi : item.Nameable)
    (h : t.arrayOf item = .ok u) : u.Nameable := by
  induction ht generalizing u with
  | definition p m =>
    cases p <;> cases h
    exact .array _ hi
  | array m _ _ =>
    cases h
    exact .array _ hi
  | constrained rule m _ ih =>
    obtain ⟨core, hc, rfl⟩ := arrayOf_decorated_inv rfl h
    exact .constrained _ _ (ih hc)
  | constructor m _ hcore hb ih =>
    obtain ⟨core, hc, rfl⟩ := arrayOf_decorated_inv rfl h
    obtain ⟨hcore', hp⟩ := isCore_arrayOf hcore hc
    exact .constructor _ (ih hc) hcore' (hp.trans hb)
  | safe m _ ih =>
    obtain ⟨core, hc, rfl⟩ := arrayOf_decorated_inv rfl h
    exact .safe _ (ih hc)
  | maybe => cases h
  | sum => cases h
  | truth => cases h

end Ty

/-! ## Registries -/

namespace TypeRegistry

/-- Every type of the registry is nameable. -/
def Nameable (r : TypeRegistry) : Prop :=
  ∀ name t, r.get? name = some t → t.Nameable

/-- The built-in types are nameable. -/
theorem nameable_standard : Nameable standard := by
  intro name t h
  rw [get?_standard] at h
  have hmem : (name, t) ∈ standardTypes := List.mem_reverse.1 (Named.mem_of_find? h)
  simp only [standardTypes, List.mem_append, List.mem_flatMap, List.mem_map] at hmem
  rcases hmem with (⟨p, -, hp⟩ | ⟨c, -, hc⟩) | hother
  · unfold ofPrimitive at hp
    rcases List.mem_cons.1 hp with hp | hp
    · cases hp
      exact .definition p []
    · split at hp
      · cases hp
      · cases List.mem_singleton.1 hp
        exact Ty.nameable_strict p
  · cases hc
    exact .constructor _ (.definition _ []) rfl rfl
  · have hbuild : ∀ b, (build b).Nameable := fun b =>
      .constructor _ (.definition _ []) rfl rfl
    simp only [List.mem_cons, Prod.mk.injEq, List.not_mem_nil, or_false] at hother
    rcases hother with ⟨-, rfl⟩ | ⟨-, rfl⟩ | ⟨-, rfl⟩ | ⟨-, rfl⟩ | ⟨-, rfl⟩ | ⟨-, rfl⟩ | ⟨-, rfl⟩ |
      ⟨-, rfl⟩
    · exact .definition .any []
    · exact .sum _ (.definition .yes []) rfl nofun (.definition .no [])
    · exact .sum _ (Ty.nameable_strict .yes) rfl nofun (Ty.nameable_strict .no)
    · exact .truth
    · exact .safe _ (hbuild .paramsArray)
    · exact .safe _ (hbuild .paramsHash)
    · exact .safe _ (.definition .array [])
    · exact .safe _ (.definition .hash [])

/-- A qualifier takes what can be named to what can be named. -/
theorem nameable_qualify {identifier : String} {q : Qualifier} {base t : Ty} (hb : base.Nameable)
    (h : qualify identifier q base = .ok t) : t.Nameable := by
  unfold qualify at h
  split at h
  · split at h
    · next p hp =>
      cases h
      exact hb.constrainedBy _ hp
    · cases h
  · cases h
    exact hb.optional
  · cases h
    exact hb.toMaybe
  · cases h

theorem nameable_generic {identifier : String} {outer member t : Ty} (ho : outer.Nameable)
    (hm : member.Nameable) (h : generic identifier outer member = .ok t) : t.Nameable := by
  unfold generic at h
  cases hu : outer.arrayOf member with
  | error e => rw [hu] at h; cases h
  | ok u =>
    rw [hu] at h
    cases h
    exact ho.arrayOf hm hu

/-- A lookup has left a nameable registry behind, and found a nameable type if any. -/
def FindsNameable (found : Except RegistryError Ty × TypeRegistry) : Prop :=
  Nameable found.2 ∧ ∀ t, found.1 = .ok t → t.Nameable

/-- A failed search says nothing about a type, and leaves the registry nameable. -/
theorem findsNameable_error {e : RegistryError} {r : TypeRegistry} (hr : Nameable r) :
    FindsNameable (.error e, r) :=
  ⟨hr, nofun⟩

theorem findsNameable_ok {t : Ty} {r : TypeRegistry} (hr : Nameable r) (ht : t.Nameable) :
    FindsNameable (.ok t, r) := by
  refine ⟨hr, ?_⟩
  rintro u ⟨⟩
  exact ht

/-- Storing a nameable type keeps the registry nameable. -/
theorem findsNameable_remember {identifier : String} {built : Except RegistryError Ty}
    {r : TypeRegistry} (hr : Nameable r) (hb : ∀ t, built = .ok t → t.Nameable) :
    FindsNameable (remember identifier built r) := by
  cases built with
  | error e => exact findsNameable_error hr
  | ok u =>
    simp only [remember, Registry.getOrInsert]
    split
    · next v hv => exact findsNameable_ok hr (hr _ _ hv)
    · refine findsNameable_ok ?_ (hb u rfl)
      intro name t ht
      rw [Registry.get?_put] at ht
      split at ht
      · cases ht
        exact hb u rfl
      · exact hr _ _ ht

/-! ## Lookups -/

/-- A form `outer<member>` that is not registered is put together from its parts. -/
theorem lookup_generic {r r' r'' : TypeRegistry} {identifier outer member : String} {t u : Ty}
    (hn : r.get? identifier = none) (hp : Identifier.parse identifier = .ok (.generic outer member))
    (ho : lookup outer r = (.ok t, r')) (hm : lookup member r' = (.ok u, r'')) :
    lookup identifier r = remember identifier (generic identifier t u) r'' := by
  rw [lookup]
  split
  · next hs => cases hn.symm.trans hs
  · split
    · next h => cases hp.symm.trans h
    · next h => cases hp.symm.trans h
    · next h =>
      cases hp.symm.trans h
      simp only [ho, hm]
    · next h => cases hp.symm.trans h

/-- **A lookup keeps a registry nameable** and finds nameable types only.  The induction is the
recursion of the lookup, along the grammar of identifiers. -/
theorem findsNameable_lookup (identifier : String) (r : TypeRegistry) (hr : Nameable r) :
    FindsNameable (lookup identifier r) := by
  fun_induction lookup identifier r with
  | case1 identifier r t h => exact findsNameable_ok hr (hr _ _ h)
  | case2 => exact findsNameable_error hr
  | case3 => exact findsNameable_error hr
  | case4 identifier r _ outer member _ _ e r' ho ih =>
    rw [ho] at ih
    exact findsNameable_error (ih hr).1
  | case5 identifier r _ outer member _ _ t r' ho e r'' hm iho ihm =>
    rw [ho] at iho
    rw [hm] at ihm
    exact findsNameable_error (ihm (iho hr).1).1
  | case6 identifier r _ outer member _ _ t r' ho u r'' hm iho ihm =>
    rw [ho] at iho
    rw [hm] at ihm
    obtain ⟨hr', ht⟩ := iho hr
    obtain ⟨hr'', hu⟩ := ihm hr'
    exact findsNameable_remember hr'' fun v hv => nameable_generic (ht t rfl) (hu u rfl) hv
  | case7 identifier r _ q rest _ _ e r' hb ih =>
    rw [hb] at ih
    exact findsNameable_error (ih hr).1
  | case8 identifier r _ q rest _ _ t r' hb ih =>
    rw [hb] at ih
    obtain ⟨hr', ht⟩ := ih hr
    exact findsNameable_remember hr' fun v hv => nameable_qualify (ht t rfl) hv

/-- **Looked up types coerce once.**  Whatever the type of an identifier gives, applied or tried, it
gives again. -/
theorem coerces_once {identifier : String} {t : Ty} (h : (lookup identifier standard).1 = .ok t)
    (x y : Value) (s s' : Supply) :
    ((t.apply x).outcome s = .ok y → (t.apply y).outcome s' = .ok y) ∧
      ((t.tryApply x).outcome s = .ok y → (t.tryApply y).outcome s' = .ok y) := by
  have ht : t.Stable := ((findsNameable_lookup identifier standard nameable_standard).2 t h).stable
  constructor
  · intro hy
    obtain ⟨r, hr⟩ := Ty.settled_apply ht.generators x
    rw [hr.outcome_eq] at hy
    subst hy
    exact (ht.applies hr).outcome_eq s'
  · intro hy
    obtain ⟨r, hr⟩ := Ty.settled_tryApply ht.generators x
    rw [hr.outcome_eq] at hy
    subst hy
    exact (ht.accepts hr).outcome_eq s'

/-- Integers as parameters have them: a text is read once, a gap is closed once. -/
theorem coerces_once_params_array : ∃ t,
    (lookup "params.array<params.integer>" standard).1 = .ok t ∧
      (t.apply (.array [.string "12", .undefined])).outcome ⟨default, []⟩ =
        .ok (.array [.integer 12]) ∧
      (t.apply (.array [.integer 12])).outcome ⟨default, []⟩ = .ok (.array [.integer 12]) := by
  have none : standard.get? "params.array<params.integer>" = none := by
    rw [get?_standard]
    rfl
  have outer : lookup "params.array" standard = (.ok (build .paramsArray).safe, standard) :=
    lookup_registered (by rw [get?_standard]; rfl)
  have member : lookup "params.integer" standard = (.ok (build .paramsInteger), standard) :=
    lookup_registered (by rw [get?_standard]; rfl)
  have h : (lookup "params.array<params.integer>" standard).1 =
      .ok ((Ty.decorated (.constructor [Builtin.paramsArray.toCoercion])
        (.array (build .paramsInteger) []) []).safe) := by
    rw [lookup_generic none rfl outer member]
    show (remember _ (.ok _) _).1 = _
    simp only [remember, Registry.getOrInsert, none]
    rfl
  have hx : (((Ty.decorated (.constructor [Builtin.paramsArray.toCoercion])
      (.array (build .paramsInteger) []) []).safe).apply
        (.array [.string "12", .undefined])).outcome ⟨default, []⟩ =
          .ok (.array [.integer 12]) := rfl
  exact ⟨_, h, hx, (coerces_once h _ _ _ ⟨default, []⟩).1 hx⟩

end TypeRegistry

end Conform
