import Conform.Proofs.Idempotence
import Conform.Ty.Combinators

/-!
# What a further rule does to the values that a type accepts

A constrained type is tried by applying the type inside it, so that a primitive inside a rule is not
checked: only the rule is.  Adding a rule can therefore widen a type.  The rule goes inwards through
the decorators, up to a type that takes it around itself; where that type would accept the value
that gets there also when it is tried, nothing is widened, and where it would only apply, the type
is.  A type with a rule already gets no new node and is never widened.

* `Ty.takesRule` — the types that a rule is put around.
* `Ty.Reaches` — the type that takes the rule, and the value that gets there.
* `Ty.Narrowed` — what acceptance under a further rule says, with a lemma for each kind of node.
* `Ty.valid_of_constrainedBy` — **a further rule widens a type only where it is applied leniently.**
-/

namespace Conform.Ty

/-! ## Where a rule goes -/

/-- The type takes a rule around itself: it is no decorated type and no optional sum. -/
def takesRule : Ty → Bool
  | .decorated .. => false
  | t => !t.isOptional

/-- The type inside the first that takes a rule, and the value that the decorators and the left
sides around it make of the input.  A type with a rule takes none. -/
inductive Reaches : Ty → Value → Ty → Value → Prop
  | here {t x} (ht : t.takesRule = true) : Reaches t x t x
  | constructor {fns inner m x y c z} (hy : Coercion.runAll fns x = .ok y)
    (hdef : y.isUndefined = false) (h : Reaches inner y c z) :
    Reaches (.decorated (.constructor fns) inner m) x c z
  | enumeration {mapping inner m x c z} (h : Reaches inner (aliased mapping x) c z) :
    Reaches (.decorated (.enumeration mapping) inner m) x c z
  | safe {inner m x c z} (h : Reaches inner x c z) : Reaches (.decorated .safe inner m) x c z
  | default {d inner m x c z} (hdef : x.isUndefined = false) (h : Reaches inner x c z) :
    Reaches (.decorated (.default d) inner m) x c z
  | maybe {inner m x c z} (hx : x.isAbsent = false) (h : Reaches inner x c z) :
    Reaches (.decorated .maybe inner m) x c z
  | right {left right m x c z} (hopt : (Ty.sum left right m).isOptional = true)
    (hl : left.Rejects x) (h : Reaches right x c z) : Reaches (.sum left right m) x c z

/-- What acceptance of `x` under a further rule says: where the rule is taken the value was applied
and passed the rule, and the type itself accepts `x` exactly if the value is accepted there. -/
structure Narrowed (t : Ty) (rule : Rule) (x : Value) : Prop where
  passes : ∀ c y, t.Reaches x c y → ∃ w, c.Applies y w ∧ rule.evaluate w = .ok ()
  accepts : (∃ w, t.Accepts x w) ↔ ∀ c y, t.Reaches x c y → ∃ w, c.Accepts y w

variable {m : Metadata} {inner left right t : Ty} {x y : Value} {rule : Rule}

/-! ## Acceptance -/

/-- A rule is passed exactly if it is satisfied. -/
theorem rule_check_iff : rule.check y = .ok y ↔ rule.evaluate y = .ok () := by
  rw [Rule.check]
  split
  · next h => exact iff_of_true rfl h
  · next h => exact iff_of_false nofun fun h' => by rw [h'] at h; cases h

/-- What the functions give is handed to the inner type, unless it is undefined. -/
theorem exists_accepts_constructor {fns : List Coercion} (hy : Coercion.runAll fns x = .ok y) :
    (∃ w, (decorated (.constructor fns) inner m).Accepts x w) ↔
      y.isUndefined = true ∨ ∃ w, inner.Accepts y w := by
  simp only [Accepts, tryApply, hy]
  split
  case isTrue hdef => exact iff_of_true ⟨y, Eval.yields_pure y⟩ (.inl hdef)
  case isFalse hdef => rw [or_iff_right hdef]

/-- A type behind functions accepts only what they convert. -/
theorem runAll_of_accepts {fns : List Coercion} {w : Value}
    (h : (decorated (.constructor fns) inner m).Accepts x w) :
    ∃ y, Coercion.runAll fns x = .ok y := by
  cases hy : Coercion.runAll fns x with
  | ok y => exact ⟨y, rfl⟩
  | error e =>
    simp only [Accepts, tryApply, hy] at h
    cases (Eval.yields_throw _).unique h

/-- An optional type accepts what is absent besides what the type inside does. -/
theorem exists_accepts_maybe :
    (∃ w, (decorated .maybe inner m).Accepts x w) ↔ x.isAbsent = true ∨ ∃ w, inner.Accepts x w := by
  simp only [accepts_maybe]
  split
  case isTrue hx => exact iff_of_true ⟨_, rfl⟩ (.inl hx)
  case isFalse hx => rw [or_iff_right hx]

/-- A sum accepts what one of its sides does. -/
theorem exists_accepts_sum (hl : left.generators = []) (hr : right.generators = []) :
    (∃ w, (sum left right m).Accepts x w) ↔
      (∃ w, left.Accepts x w) ∨ ∃ w, right.Accepts x w := by
  simp only [accepts_sum hl hr, exists_or, exists_and_left]
  rcases accepts_or_rejects hl x with hacc | hrej
  · exact iff_of_true (.inl hacc) (.inl hacc)
  · rw [and_iff_right hrej]

/-- An enumeration accepts a value if the type inside accepts what the alias stands for. -/
theorem accepts_enumeration {mapping : List (Value × Value)} :
    (decorated (.enumeration mapping) inner m).Accepts x y ↔
      inner.Accepts (aliased mapping x) y := by
  simp only [Accepts, tryApply]

/-- A default without generators is the same every time. -/
theorem exists_steady_default {d : Default}
    (ht : (decorated (.default d) inner m).generators = []) :
    ∃ w, Steady d.evaluate w := by
  refine d.steady_evaluate fun g hdg => ?_
  have hg := mem_generators_of_drawn hdg inner m
  rw [ht] at hg
  cases hg

/-- A default accepts undefined inputs, and otherwise what the inner type accepts. -/
theorem exists_accepts_default {d : Default}
    (ht : (decorated (.default d) inner m).generators = []) :
    (∃ y, (decorated (.default d) inner m).Accepts x y) ↔
      x.isUndefined = true ∨ ∃ y, inner.Accepts x y := by
  have hi : inner.generators = [] :=
    List.eq_nil_of_subset_nil (ht ▸ (within_decorated (.default d) inner m).generators)
  obtain ⟨w, hw⟩ := exists_steady_default ht
  simp only [Accepts, tryApply]
  split
  case isTrue hx => exact iff_of_true ⟨w, Eval.yields_lift hw⟩ (.inl hx)
  case isFalse hx =>
    rw [or_iff_right hx]
    have hrest : ∀ u : Value,
        ∃ y, (if u.isAbsent = true then liftM d.evaluate else pure u :
          Eval Failure Value).Yields (.ok y) := by
      intro u
      split
      · exact ⟨w, Eval.yields_lift hw⟩
      · exact ⟨u, Eval.yields_pure u⟩
    constructor
    · rintro ⟨y, h⟩
      obtain ⟨u, hu, -⟩ := (settled_tryApply hi x).bind_ok_inv
        (fun u => (hrest u).elim fun y hy => ⟨_, hy⟩) h
      exact ⟨u, hu⟩
    · rintro ⟨u, hu⟩
      obtain ⟨y, hy⟩ := hrest u
      exact ⟨y, Eval.Yields.bind_ok hu hy⟩

/-- Validity is acceptance. -/
theorem isValid_iff_accepts (ht : t.generators = []) {s : Supply} :
    ((t.isValid x).run s).1 = true ↔ ∃ y, t.Accepts x y := by
  obtain ⟨r, hr⟩ := settled_tryApply ht x
  have hvalid : ((t.isValid x).run s).1 = r.toBool := steady_isValid t (by simp [ht]) hr s
  rw [hvalid]
  cases r with
  | ok y => exact iff_of_true rfl ⟨y, hr⟩
  | error f => exact iff_of_false Bool.false_ne_true fun ⟨y, hy⟩ => nomatch hr.unique hy

/-! ## Acceptance under a further rule -/

/-- A type that takes a rule itself is decorated with it. -/
theorem constrainedBy_of_takesRule (rule : Rule) (ht : t.takesRule = true) :
    t.constrainedBy rule = .decorated (.constrained rule) t [] := by
  cases t with
  | decorated d inner m => cases ht
  | sum left right m =>
    have hopt : ¬(Ty.sum left right m).isOptional = true := by simpa [takesRule] using ht
    rw [constrainedBy, if_neg hopt]
    rfl
  | _ => rfl

/-! ### The way of a value, node by node -/

section Reaches

variable {c : Ty} {z : Value}

theorem not_reaches_constrained {r : Rule} :
    ¬(decorated (.constrained r) inner m).Reaches x c z := by
  intro h
  cases h with
  | here ht => cases ht

/-- Behind functions the input is what they make of it, unless that is undefined. -/
theorem reaches_constructor {fns : List Coercion} (hy : Coercion.runAll fns x = .ok y) :
    (decorated (.constructor fns) inner m).Reaches x c z ↔
      ¬y.isUndefined = true ∧ inner.Reaches y c z := by
  refine ⟨fun h => ?_, fun h => .constructor hy (Bool.eq_false_iff.2 h.1) h.2⟩
  cases h with
  | here ht => cases ht
  | constructor hy' hdef h =>
    cases hy.symm.trans hy'
    exact ⟨Bool.eq_false_iff.1 hdef, h⟩

/-- In an enumeration it is the value behind the alias. -/
theorem reaches_enumeration {mapping : List (Value × Value)} :
    (decorated (.enumeration mapping) inner m).Reaches x c z ↔
      inner.Reaches (aliased mapping x) c z := by
  refine ⟨fun h => ?_, .enumeration⟩
  cases h with
  | here ht => cases ht
  | enumeration h => exact h

theorem reaches_safe : (decorated .safe inner m).Reaches x c z ↔ inner.Reaches x c z := by
  refine ⟨fun h => ?_, .safe⟩
  cases h with
  | here ht => cases ht
  | safe h => exact h

/-- A default keeps what is undefined from the type inside. -/
theorem reaches_default {d : Default} :
    (decorated (.default d) inner m).Reaches x c z ↔
      ¬x.isUndefined = true ∧ inner.Reaches x c z := by
  refine ⟨fun h => ?_, fun h => .default (Bool.eq_false_iff.2 h.1) h.2⟩
  cases h with
  | here ht => cases ht
  | default hdef h => exact ⟨Bool.eq_false_iff.1 hdef, h⟩

/-- An optional type keeps what is absent from it. -/
theorem reaches_maybe :
    (decorated .maybe inner m).Reaches x c z ↔ ¬x.isAbsent = true ∧ inner.Reaches x c z := by
  refine ⟨fun h => ?_, fun h => .maybe (Bool.eq_false_iff.2 h.1) h.2⟩
  cases h with
  | here ht => cases ht
  | maybe hx h => exact ⟨Bool.eq_false_iff.1 hx, h⟩

/-- An optional sum hands on to the right what the left side does not accept. -/
theorem reaches_optional (hopt : (sum left right m).isOptional = true) (hl : left.generators = []) :
    (sum left right m).Reaches x c z ↔ ¬(∃ y, left.Accepts x y) ∧ right.Reaches x c z := by
  constructor
  · intro h
    cases h with
    | here ht => simp [takesRule, hopt] at ht
    | right _ hl h => exact ⟨fun ⟨y, hy⟩ => hy.not_rejects hl, h⟩
  · rintro ⟨hl', h⟩
    exact .right hopt ((accepts_or_rejects hl x).resolve_left hl') h

end Reaches

/-! ### The type with the rule -/

/-- A rule holds no generators. -/
theorem generators_constrainedBy (rule : Rule) (t : Ty) :
    (t.constrainedBy rule).generators = t.generators := by
  induction t with
  | decorated d inner m ih =>
    simp only [generators] at ih
    cases d with
    | constrained r => rfl
    | _ => simp only [constrainedBy, generators, gather, ih]
  | sum left right m ihl ihr =>
    simp only [generators] at ihr
    rw [constrainedBy]
    split
    · simp only [generators, gather, ihr]
    · rfl
  | _ => rfl

namespace Narrowed

/-- Nothing takes the rule, and the type accepts anyway. -/
theorem of_accepts (ht : ∃ w, t.Accepts x w) (h : ∀ c y, ¬t.Reaches x c y) : t.Narrowed rule x where
  passes := fun c y hr => absurd hr (h c y)
  accepts := iff_of_true ht fun c y hr => absurd hr (h c y)

/-- The type takes the rule itself. -/
theorem here (ht : t.takesRule = true) {w : Value} (hw : t.Applies x w)
    (hrule : rule.evaluate w = .ok ()) : t.Narrowed rule x := by
  have hreach : ∀ c y, t.Reaches x c y → c = t ∧ y = x := by
    intro c y h
    cases h with
    | here => exact ⟨rfl, rfl⟩
    | right hopt => simp [takesRule, hopt] at ht
    | _ => cases ht
  constructor
  · intro c y h
    obtain ⟨rfl, rfl⟩ := hreach c y h
    exact ⟨w, hw, hrule⟩
  · constructor
    · intro haccepts c y h
      obtain ⟨rfl, rfl⟩ := hreach c y h
      exact haccepts
    · exact fun h => h t x (.here ht)

/-- The rule goes on to an inner type, unless the type accepts the value without it. -/
theorem inward {done : Prop} (hreach : ∀ c z, t.Reaches x c z ↔ ¬done ∧ inner.Reaches y c z)
    (haccepts : (∃ w, t.Accepts x w) ↔ done ∨ ∃ w, inner.Accepts y w)
    (h : ¬done → inner.Narrowed rule y) : t.Narrowed rule x := by
  by_cases hdone : done
  · exact .of_accepts (haccepts.2 (.inl hdone)) fun c z hr => ((hreach c z).1 hr).1 hdone
  · have hreach' : ∀ c z, t.Reaches x c z ↔ inner.Reaches y c z := fun c z =>
      (hreach c z).trans (and_iff_right hdone)
    refine ⟨fun c z hr => (h hdone).passes c z ((hreach' c z).1 hr), ?_⟩
    rw [haccepts, or_iff_right hdone, (h hdone).accepts]
    exact forall₂_congr fun c z => by rw [hreach']

/-- The rule always goes on to an inner type. -/
theorem through (hreach : ∀ c z, t.Reaches x c z ↔ inner.Reaches y c z)
    (haccepts : ∀ w, t.Accepts x w ↔ inner.Accepts y w) (h : inner.Narrowed rule y) :
    t.Narrowed rule x :=
  .inward (fun c z => (hreach c z).trans (and_iff_right id).symm)
    ((exists_congr haccepts).trans (or_iff_right id).symm) fun _ => h

end Narrowed

/-- A type that takes a rule itself accepts under the rule only what passes it. -/
theorem narrowed_of_takesRule (ht : t.generators = []) (htakes : t.takesRule = true) {w : Value}
    (h : (t.constrainedBy rule).Accepts x w) : t.Narrowed rule x := by
  rw [constrainedBy_of_takesRule rule htakes] at h
  obtain ⟨hw, hcheck⟩ := (applies_constrained ht).1 ((accepts_constrained ht).1 h)
  exact .here htakes hw (rule_check_iff.1 hcheck)

/-- What passes both rules passes the first. -/
theorem check_of_and {r : Rule} {w : Value} (h : (Rule.and r rule).check w = .ok w) :
    r.check w = .ok w := by
  rw [rule_check_iff] at h ⊢
  rw [Rule.evaluate] at h
  cases hr : r.evaluate w with
  | ok => rfl
  | error f => rw [hr] at h; cases h

/-- **Acceptance under a further rule**, by induction on the type: the rule goes inwards as the
value does. -/
theorem narrowed_of_constrainedBy (ht : t.generators = []) {w : Value}
    (h : (t.constrainedBy rule).Accepts x w) : t.Narrowed rule x := by
  have ht' : (t.constrainedBy rule).generators = [] := by rw [generators_constrainedBy, ht]
  induction t generalizing x w with
  | decorated d inner m ih =>
    have hi : inner.generators = [] :=
      List.eq_nil_of_subset_nil (ht ▸ (within_decorated d inner m).generators)
    have hi' : (inner.constrainedBy rule).generators = [] := by rw [generators_constrainedBy, hi]
    replace ih := fun {x w} h => @ih x hi w h hi'
    cases d with
    | constrained r =>
      obtain ⟨hw, hcheck⟩ := (applies_constrained hi).1 ((accepts_constrained hi).1 h)
      have haccepts := (accepts_constrained hi).2
        ((applies_constrained (m := m) hi).2 ⟨hw, check_of_and hcheck⟩)
      exact .of_accepts ⟨w, haccepts⟩ fun c z => not_reaches_constrained
    | constructor fns =>
      obtain ⟨y, hy⟩ := runAll_of_accepts h
      refine .inward (fun c z => reaches_constructor hy) (exists_accepts_constructor hy)
        fun hdef => ?_
      obtain ⟨u, hu⟩ := ((exists_accepts_constructor hy).1 ⟨w, h⟩).resolve_left hdef
      exact ih hu
    | enumeration mapping =>
      exact .through (fun c z => reaches_enumeration) (fun w => accepts_enumeration) (ih h)
    | safe => exact .through (fun c z => reaches_safe) (fun w => accepts_safe) (ih h)
    | default d =>
      refine .inward (fun c z => reaches_default) (exists_accepts_default ht) fun hdef => ?_
      obtain ⟨u, hu⟩ := ((exists_accepts_default ht').1 ⟨w, h⟩).resolve_left hdef
      exact ih hu
    | maybe =>
      refine .inward (fun c z => reaches_maybe) exists_accepts_maybe fun hx => ?_
      obtain ⟨u, hu⟩ := (exists_accepts_maybe.1 ⟨w, h⟩).resolve_left hx
      exact ih hu
  | sum left right m ihl ihr =>
    cases hopt : (sum left right m).isOptional with
    | true =>
      have hl : left.generators = [] :=
        List.eq_nil_of_subset_nil (ht ▸ (within_sum_left left right m).generators)
      have hr : right.generators = [] :=
        List.eq_nil_of_subset_nil (ht ▸ (within_sum_right left right m).generators)
      have hr' : (right.constrainedBy rule).generators = [] := by rw [generators_constrainedBy, hr]
      rw [constrainedBy, if_pos hopt] at h
      refine .inward (fun c z => reaches_optional hopt hl) (exists_accepts_sum hl hr) fun hrej => ?_
      obtain ⟨u, hu⟩ := ((exists_accepts_sum hl hr').1 ⟨w, h⟩).resolve_left hrej
      exact ihr hr hu hr'
    | false => exact narrowed_of_takesRule ht (by simp [takesRule, hopt]) h
  | _ => exact narrowed_of_takesRule ht rfl h

/-- **A further rule widens a type only where it is applied leniently.**  If the type with the rule
accepts a value, then the value passed the rule at the type that takes it, and the type itself
accepts it exactly if what gets there is also accepted when it is tried. -/
theorem valid_of_constrainedBy (t : Ty) (ht : t.generators = []) (rule : Rule) (x : Value)
    (s : Supply) (h : (((t.constrainedBy rule).isValid x).run s).1 = true) :
    (∀ c y, t.Reaches x c y → ∃ w, c.Applies y w ∧ rule.evaluate w = .ok ()) ∧
      (((t.isValid x).run s).1 = true ↔ ∀ c y, t.Reaches x c y → ∃ w, c.Accepts y w) := by
  have ht' : (t.constrainedBy rule).generators = [] := by rw [generators_constrainedBy, ht]
  obtain ⟨w, hw⟩ := (isValid_iff_accepts ht').1 h
  have hn := narrowed_of_constrainedBy ht hw
  exact ⟨hn.passes, (isValid_iff_accepts ht).trans hn.accepts⟩

/-- Integers, also as text, or `nil`. -/
def counted : Ty :=
  .decorated .maybe (.decorated (.constructor [Builtin.kernelInteger.toCoercion])
    (.definition .integer []) []) []

/-- The text `5` gets to the primitive as an integer, which it accepts, so nothing is widened. -/
theorem valid_of_constrainedBy_counted :
    counted.generators = [] ∧
      (((counted.constrainedBy (.predicate (.gt (.integer 3)))).isValid (.string "5")).run
        ⟨default, []⟩).1 = true ∧
      (∃ w, (definition .integer []).Applies (.integer 5) w ∧
        (Rule.predicate (.gt (.integer 3))).evaluate w = .ok ()) ∧
      ((counted.isValid (.string "5")).run ⟨default, []⟩).1 = true := by
  have hvalid : (((counted.constrainedBy (.predicate (.gt (.integer 3)))).isValid
      (.string "5")).run ⟨default, []⟩).1 = true := by rfl
  have hread :
      Coercion.runAll [Builtin.kernelInteger.toCoercion] (.string "5") = .ok (.integer 5) := by
    rfl
  obtain ⟨hpasses, hiff⟩ := valid_of_constrainedBy counted rfl _ _ _ hvalid
  refine ⟨rfl, hvalid, hpasses _ _ (.maybe rfl (.constructor hread rfl (.here rfl))), hiff.2 ?_⟩
  intro c y h
  obtain ⟨-, h⟩ := (reaches_constructor hread).1 (reaches_maybe.1 h).2
  cases h with
  | here => exact ⟨_, accepts_definition.2 ⟨rfl, rfl⟩⟩

/-- A rule can widen a type: inside a rule a primitive is not checked. -/
theorem rule_can_widen :
    (ofPrimitive .integer).generators = [] ∧
      ((((ofPrimitive .integer).constrainedBy (.predicate (.eql (.string "x")))).isValid
        (.string "x")).run ⟨default, []⟩).1 = true ∧
      (((ofPrimitive .integer).isValid (.string "x")).run ⟨default, []⟩).1 = false :=
  ⟨rfl, rfl, rfl⟩

end Conform.Ty
