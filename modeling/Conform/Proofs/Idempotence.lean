import Conform.Proofs.Agreement
import Conform.Proofs.Repeat

/-!
# Types that change a value at most once

A type is stable when its results are results of themselves, both applied and tried.  Not every type
is stable: an undefined result of a constructor would be turned into `nil` by a surrounding `maybe`
the second time, and the second pass of a sum could take its other side.  The types that identifiers
stand for are stable for reasons that this file collects, one closure lemma for each way to build
them.

* `Ty.Applies`, `Ty.Accepts`, `Ty.Rejects` — the outcomes of evaluation as relations.
* `Ty.Stable` — the property that carries the induction.
* `Ty.isCore` — primitives and arrays with rules around them, which keep the class of a value.
-/

namespace Conform

/-- One function gives what it gives. -/
theorem Coercion.runAll_singleton (f : Coercion) (v : Value) : runAll [f] v = f.run v := by
  rw [runAll]
  cases f.run v with
  | error e => rfl
  | ok w => exact ite_self (Except.ok w)

/-- A row of items comes to a result if each of them does. -/
theorem settled_collect {ε : Type} {f : Value → Eval ε Value} (hf : ∀ v, (f v).Settled)
    (items : List Value) : (collect f items).Settled :=
  (refines_collect (fun v => (hf v).refines_self) items).settled_left

/-- A second pass over collected items keeps them: none of them is undefined. -/
theorem collect_again {ε : Type} {f : Value → Eval ε Value} (hs : ∀ v, (f v).Settled)
    (hf : ∀ v w, (f v).Yields (.ok w) → (f w).Yields (.ok w)) {items ws : List Value}
    (h : (collect f items).Yields (.ok ws)) : (collect f ws).Yields (.ok ws) := by
  induction items generalizing ws with
  | nil =>
    cases h.unique (Eval.yields_pure [])
    exact Eval.yields_pure []
  | cons v rest ih =>
    obtain ⟨w, hw, h⟩ := (hs v).bind_ok_inv
      (fun _ => (settled_collect hs rest).bind fun _ => Eval.settled_pure _) h
    obtain ⟨us, hus, h⟩ := (settled_collect hs rest).bind_ok_inv (fun _ => Eval.settled_pure _) h
    obtain rfl := Except.ok.inj (h.unique (Eval.yields_pure _))
    cases hu : w.isUndefined with
    | true => simpa [hu] using ih hus
    | false =>
      simp only [Bool.false_eq_true, if_false]
      refine (hf v w hw).bind_ok ((ih hus).bind_ok ?_)
      simpa [hu] using Eval.yields_pure (w :: us)

namespace Ty

/-- Applying the type to the first value gives the second. -/
def Applies (t : Ty) (x y : Value) : Prop :=
  (t.apply x).Yields (.ok y)

/-- Trying the type on the first value gives the second. -/
def Accepts (t : Ty) (x y : Value) : Prop :=
  (t.tryApply x).Yields (.ok y)

/-- Trying the type on the value fails. -/
def Rejects (t : Ty) (x : Value) : Prop :=
  ∃ f, (t.tryApply x).Yields (.error f)

/-- The type has no generators, its results are results of themselves, and only the undefined value
has an undefined result. -/
structure Stable (t : Ty) : Prop where
  generators : t.generators = []
  applies : ∀ {x y}, t.Applies x y → t.Applies y y
  accepts : ∀ {x y}, t.Accepts x y → t.Accepts y y
  applies_undefined : ∀ {x}, t.Applies x .undefined → x = .undefined
  accepts_undefined : ∀ {x}, t.Accepts x .undefined → x = .undefined

/-! ## Evaluation without generators -/

section Settled

variable {t : Ty} (ht : t.generators = [])

include ht

/-- Applying a type without generators comes to a result. -/
theorem settled_apply (x : Value) : (t.apply x).Settled := by
  refine (refines_tryApply_apply t ?_ x).settled_right
  simp [ht]

theorem settled_tryApply (x : Value) : (t.tryApply x).Settled := by
  refine (refines_tryApply_apply t ?_ x).settled_left
  simp [ht]

/-- A type without generators accepts a value or rejects it. -/
theorem accepts_or_rejects (x : Value) : (∃ y, t.Accepts x y) ∨ t.Rejects x := by
  obtain ⟨r, hr⟩ := settled_tryApply ht x
  cases r with
  | ok y => exact .inl ⟨y, hr⟩
  | error f => exact .inr ⟨f, hr⟩

theorem Accepts.applies {x y : Value} (h : t.Accepts x y) : t.Applies x y := by
  obtain ⟨r, q, hr, hq, hrq⟩ := refines_tryApply_apply t (by simp [ht]) x
  cases hr.unique h
  rw [hrq y rfl] at hq
  exact hq

end Settled

/-- No value is both accepted and rejected. -/
theorem Accepts.not_rejects {t : Ty} {x y : Value} (hy : t.Accepts x y) : ¬ t.Rejects x := by
  rintro ⟨f, hf⟩
  cases Eval.Yields.unique hy hf

/-! ## What each kind of type gives -/

section Kinds

variable {x y : Value} {m : Metadata}

@[simp] theorem applies_definition {p : Primitive} : (definition p m).Applies x y ↔ x = y := by
  constructor
  · intro h
    simp only [Applies, apply] at h
    exact Except.ok.inj ((Eval.yields_pure x).unique h)
  · rintro rfl
    simp only [Applies, apply]
    exact Eval.yields_pure x

@[simp] theorem accepts_definition {p : Primitive} :
    (definition p m).Accepts x y ↔ x = y ∧ p.admits x = true := by
  simp only [Accepts, tryApply]
  cases hp : p.admits x with
  | true =>
    simp only [if_true, and_true]
    exact ⟨fun h => Except.ok.inj ((Eval.yields_pure x).unique h), fun h => h ▸ Eval.yields_pure x⟩
  | false =>
    simp only [Bool.false_eq_true, if_false, and_false, iff_false]
    intro h
    cases (Eval.yields_throw _).unique h

/-- A rule that is passed leaves the value as it is. -/
theorem check_eq_ok {rule : Rule} {v w : Value} (h : rule.check v = .ok w) : w = v := by
  unfold Rule.check at h
  split at h
  · cases h; rfl
  · cases h

/-- A rule lets pass or refuses what the inner type gives. -/
theorem applies_constrained {rule : Rule} {inner : Ty} (hi : inner.generators = []) :
    (decorated (.constrained rule) inner m).Applies x y ↔
      inner.Applies x y ∧ rule.check y = .ok y := by
  simp only [Applies, apply]
  constructor
  · intro h
    obtain ⟨w, hw, hc⟩ :=
      (settled_apply hi x).bind_ok_inv (fun w => Eval.settled_liftExcept (rule.check w)) h
    have hy := (Eval.yields_liftExcept (rule.check w)).unique hc
    obtain rfl := check_eq_ok hy
    exact ⟨hw, hy⟩
  · rintro ⟨hw, hc⟩
    refine hw.bind_ok ?_
    rw [hc]
    exact Eval.yields_pure y

/-- Trying a constrained type is applying it. -/
theorem accepts_constrained {rule : Rule} {inner : Ty} (hi : inner.generators = []) :
    (decorated (.constrained rule) inner m).Accepts x y ↔
      (decorated (.constrained rule) inner m).Applies x y := by
  simp only [Accepts, Applies, tryApply, apply, Eval.blame]
  have hs : (do let w ← inner.apply x; liftM (rule.check w) : Eval CoercionError Value).Settled :=
    (settled_apply hi x).bind fun w => Eval.settled_liftExcept _
  constructor
  · intro h
    rcases (hs.recover_ok_iff fun _ => Eval.settled_throw _).1 h with h | ⟨e, -, h⟩
    · exact h
    · cases (Eval.yields_throw _).unique h
  · intro h
    exact h.recover_ok _

/-- A safe type gives what the inner type accepts, and back what it rejects. -/
theorem applies_safe {inner : Ty} (hi : inner.generators = []) :
    (decorated .safe inner m).Applies x y ↔ inner.Accepts x y ∨ inner.Rejects x ∧ y = x := by
  have hback : (pure x : Eval CoercionError Value).Yields (.ok y) ↔ y = x :=
    ⟨fun h => Except.ok.inj (h.unique (Eval.yields_pure x)), fun h => h ▸ Eval.yields_pure y⟩
  rw [Applies, apply, (settled_tryApply hi x).recover_ok_iff fun _ => Eval.settled_pure x, hback,
    exists_and_right]
  rfl

/-- Safety makes no difference to what is accepted. -/
theorem accepts_safe {inner : Ty} : (decorated .safe inner m).Accepts x y ↔ inner.Accepts x y := by
  simp only [Accepts, tryApply]

/-- A type with `nil` for absent values gives `nil` for them. -/
theorem applies_maybe {inner : Ty} :
    (decorated .maybe inner m).Applies x y ↔
      if x.isAbsent = true then y = .nil else inner.Applies x y := by
  simp only [Applies, apply]
  split
  · exact ⟨fun h => Except.ok.inj (h.unique (Eval.yields_pure _)), fun h => h ▸ Eval.yields_pure _⟩
  · exact Iff.rfl

/-- An optional type accepts nil in place of what is absent. -/
theorem accepts_maybe {inner : Ty} :
    (decorated .maybe inner m).Accepts x y ↔
      if x.isAbsent = true then y = .nil else inner.Accepts x y := by
  simp only [Accepts, tryApply]
  split
  · exact ⟨fun h => Except.ok.inj (h.unique (Eval.yields_pure _)), fun h => h ▸ Eval.yields_pure _⟩
  · exact Iff.rfl

/-- The right side of a sum is used when the left side rejects the value. -/
theorem applies_sum {left right : Ty} (hl : left.generators = []) (hr : right.generators = []) :
    (sum left right m).Applies x y ↔ left.Accepts x y ∨ left.Rejects x ∧ right.Applies x y := by
  rw [Applies, apply, (settled_tryApply hl x).recover_ok_iff fun _ => settled_apply hr x,
    exists_and_right]
  rfl

/-- A sum accepts what its left side does, and what its right side does of the rest. -/
theorem accepts_sum {left right : Ty} (hl : left.generators = []) (hr : right.generators = []) :
    (sum left right m).Accepts x y ↔ left.Accepts x y ∨ left.Rejects x ∧ right.Accepts x y := by
  rw [Accepts, tryApply, (settled_tryApply hl x).recover_ok_iff fun _ => settled_tryApply hr x,
    exists_and_right]
  rfl

/-- A constructor hands what its function gives to the inner type, unless that is undefined. -/
theorem applies_constructor {f : Coercion} {inner : Ty} :
    (decorated (.constructor [f]) inner m).Applies x y ↔
      ∃ w, f.run x = .ok w ∧ if w.isUndefined = true then y = w else inner.Applies w y := by
  simp only [Applies, apply, Coercion.runAll_singleton]
  cases hf : f.run x with
  | error e =>
    simp only [reduceCtorEq, false_and, exists_false, iff_false]
    intro h
    cases (Eval.yields_throw e).unique h
  | ok w =>
    simp only [Eval.liftM_ok, pure_bind, Except.ok.injEq, exists_eq_left']
    split
    · exact ⟨fun h => Except.ok.inj (h.unique (Eval.yields_pure _)),
        fun h => h ▸ Eval.yields_pure _⟩
    · exact Iff.rfl

/-- A type behind a function accepts what it accepts of what the function makes. -/
theorem accepts_constructor {f : Coercion} {inner : Ty} :
    (decorated (.constructor [f]) inner m).Accepts x y ↔
      ∃ w, f.run x = .ok w ∧ if w.isUndefined = true then y = w else inner.Accepts w y := by
  simp only [Accepts, tryApply, Coercion.runAll_singleton]
  cases hf : f.run x with
  | error e =>
    simp only [reduceCtorEq, false_and, exists_false, iff_false]
    intro h
    cases (Eval.yields_throw _).unique h
  | ok w =>
    simp only [Except.ok.injEq, exists_eq_left']
    split
    · exact ⟨fun h => Except.ok.inj (h.unique (Eval.yields_pure _)),
        fun h => h ▸ Eval.yields_pure _⟩
    · exact Iff.rfl

/-- An array type goes through the items of an array; applied, it gives other values back. -/
theorem applies_array {item : Ty} (hi : item.generators = []) :
    (array item m).Applies x y ↔
      (∃ items ws, x = .array items ∧ y = .array ws ∧
        (collect (fun v => item.apply v) items).Yields (.ok ws)) ∨
      (∀ items, x ≠ .array items) ∧ y = x := by
  cases x with
  | array items =>
    simp only [Applies, apply]
    constructor
    · intro h
      have hs := settled_collect (fun v => settled_apply hi v) items
      obtain ⟨ws, hws, h⟩ := hs.bind_ok_inv (fun _ => Eval.settled_pure _) h
      exact .inl ⟨items, ws, rfl, Except.ok.inj (h.unique (Eval.yields_pure _)), hws⟩
    · rintro (⟨items', ws, ⟨⟩, rfl, hws⟩ | ⟨hx, -⟩)
      · exact hws.bind_ok (Eval.yields_pure _)
      · exact absurd rfl (hx items)
  | _ =>
    simp only [Applies, apply, reduceCtorEq, false_and, exists_false, ne_eq, not_false_eq_true,
      implies_true, true_and, false_or]
    exact ⟨fun h => Except.ok.inj (h.unique (Eval.yields_pure _)), fun h => h ▸ Eval.yields_pure _⟩

/-- An array accepts items that its type accepts one by one. -/
theorem accepts_array {item : Ty} (hi : item.generators = []) :
    (array item m).Accepts x y ↔
      ∃ items ws, x = .array items ∧ y = .array ws ∧
        (collect (fun v => item.tryApply v) items).Yields (.ok ws) := by
  cases x with
  | array items =>
    simp only [Accepts, tryApply]
    have hs := settled_collect (fun v => settled_tryApply hi v) items
    constructor
    · intro h
      obtain ⟨ws, hws, h⟩ := (hs.recover fun _ => Eval.settled_throw _).bind_ok_inv
        (fun _ => Eval.settled_pure _) h
      rcases (hs.recover_ok_iff fun _ => Eval.settled_throw _).1 hws with hws | ⟨f, -, hf⟩
      · exact ⟨items, ws, rfl, Except.ok.inj (h.unique (Eval.yields_pure _)), hws⟩
      · cases (Eval.yields_throw _).unique hf
    · rintro ⟨items', ws, ⟨⟩, rfl, hws⟩
      exact (hws.recover_ok _).bind_ok (Eval.yields_pure _)
  | _ =>
    simp only [Accepts, tryApply, reduceCtorEq, false_and, exists_false, iff_false]
    intro h
    cases (Eval.yields_throw _).unique h

end Kinds

/-! ## Stable types from stable types -/

namespace Stable

variable {m : Metadata}

/-- A primitive gives the value that it was given, so once is enough. -/
theorem definition (p : Primitive) : Stable (.definition p m) where
  generators := rfl
  applies := fun _ => applies_definition.2 rfl
  accepts := by
    intro x y h
    obtain ⟨rfl, hp⟩ := accepts_definition.1 h
    exact accepts_definition.2 ⟨rfl, hp⟩
  applies_undefined := applies_definition.1
  accepts_undefined := fun h => (accepts_definition.1 h).1

/-- A rule around a stable type keeps it stable. -/
theorem constrained {inner : Ty} (rule : Rule) (hi : inner.Stable) :
    Stable (.decorated (.constrained rule) inner m) := by
  have again : ∀ {x y}, Applies (.decorated (.constrained rule) inner m) x y →
      Applies (.decorated (.constrained rule) inner m) y y := by
    intro x y h
    obtain ⟨hxy, hc⟩ := (applies_constrained hi.generators).1 h
    exact (applies_constrained hi.generators).2 ⟨hi.applies hxy, hc⟩
  have undefined : ∀ {x}, Applies (.decorated (.constrained rule) inner m) x .undefined →
      x = .undefined :=
    fun h => hi.applies_undefined ((applies_constrained hi.generators).1 h).1
  exact {
    generators := by simpa [Ty.generators, gather, Decorator.generators] using hi.generators
    applies := again
    accepts := fun h =>
      (accepts_constrained hi.generators).2 (again ((accepts_constrained hi.generators).1 h))
    applies_undefined := undefined
    accepts_undefined := fun h => undefined ((accepts_constrained hi.generators).1 h) }

theorem safe {inner : Ty} (hi : inner.Stable) : Stable (.decorated .safe inner m) where
  generators := by simpa [Ty.generators, gather, Decorator.generators] using hi.generators
  applies := by
    intro x y h
    rcases (applies_safe hi.generators).1 h with h | ⟨hx, rfl⟩
    · exact (applies_safe hi.generators).2 (.inl (hi.accepts h))
    · exact (applies_safe hi.generators).2 (.inr ⟨hx, rfl⟩)
  accepts := fun h => accepts_safe.2 (hi.accepts (accepts_safe.1 h))
  applies_undefined := by
    intro x h
    rcases (applies_safe hi.generators).1 h with h | ⟨-, rfl⟩
    · exact hi.accepts_undefined h
    · rfl
  accepts_undefined := fun h => hi.accepts_undefined (accepts_safe.1 h)

/-- A present value has no undefined result, and so the second pass of a `maybe` meets `nil` or what
the inner type keeps. -/
theorem maybe {inner : Ty} (hi : inner.Stable) : Stable (.decorated .maybe inner m) where
  generators := by simpa [Ty.generators, gather, Decorator.generators] using hi.generators
  applies := by
    intro x y h
    rw [applies_maybe] at h ⊢
    cases y with
    | nil => rfl
    | undefined =>
      split at h
      · cases h
      · next hx => exact absurd (by rw [hi.applies_undefined h]; rfl) hx
    | _ =>
      split at h
      · cases h
      · exact hi.applies h
  accepts := by
    intro x y h
    rw [accepts_maybe] at h ⊢
    cases y with
    | nil => rfl
    | undefined =>
      split at h
      · cases h
      · next hx => exact absurd (by rw [hi.accepts_undefined h]; rfl) hx
    | _ =>
      split at h
      · cases h
      · exact hi.accepts h
  applies_undefined := by
    intro x h
    rw [applies_maybe] at h
    split at h
    · cases h
    · exact hi.applies_undefined h
  accepts_undefined := by
    intro x h
    rw [accepts_maybe] at h
    split at h
    · cases h
    · exact hi.accepts_undefined h

theorem array {item : Ty} (hi : item.Stable) : Stable (.array item m) where
  generators := by simpa [Ty.generators, gather] using hi.generators
  applies := by
    intro x y h
    rcases (applies_array hi.generators).1 h with ⟨items, ws, rfl, rfl, hws⟩ | ⟨hx, rfl⟩
    · exact (applies_array hi.generators).2 (.inl ⟨ws, ws, rfl, rfl,
        collect_again (fun v => settled_apply hi.generators v) (fun _ _ => hi.applies) hws⟩)
    · exact (applies_array hi.generators).2 (.inr ⟨hx, rfl⟩)
  accepts := by
    intro x y h
    obtain ⟨items, ws, rfl, rfl, hws⟩ := (accepts_array hi.generators).1 h
    exact (accepts_array hi.generators).2 ⟨ws, ws, rfl, rfl,
      collect_again (fun v => settled_tryApply hi.generators v) (fun _ _ => hi.accepts) hws⟩
  applies_undefined := by
    intro x h
    rcases (applies_array hi.generators).1 h with ⟨_, _, _, h, _⟩ | ⟨-, rfl⟩
    · cases h
    · rfl
  accepts_undefined := by
    intro x h
    obtain ⟨_, _, _, h, _⟩ := (accepts_array hi.generators).1 h
    cases h

/-- A sum is stable when its left side cannot change, the second time, what the right side gave. -/
theorem sum {left right : Ty} (hl : left.Stable) (hr : right.Stable)
    (ha : ∀ {x y z}, left.Rejects x → right.Applies x y → left.Accepts y z → z = y) :
    Stable (.sum left right m) := by
  have hgl := hl.generators
  have hgr := hr.generators
  have again : ∀ {x y}, left.Rejects x → right.Applies x y → left.Accepts y y ∨ left.Rejects y := by
    intro x y hx hy
    rcases accepts_or_rejects hgl y with ⟨z, hz⟩ | h
    · rw [ha hx hy hz] at hz
      exact .inl hz
    · exact .inr h
  exact {
    generators := by simpa [Ty.generators, gather] using ⟨hgl, hgr⟩
    applies := by
      intro x y h
      rw [applies_sum hgl hgr] at h ⊢
      rcases h with h | ⟨hx, h⟩
      · exact .inl (hl.accepts h)
      · exact (again hx h).imp_right fun hy => ⟨hy, hr.applies h⟩
    accepts := by
      intro x y h
      rw [accepts_sum hgl hgr] at h ⊢
      rcases h with h | ⟨hx, h⟩
      · exact .inl (hl.accepts h)
      · exact (again hx (h.applies hgr)).imp_right fun hy => ⟨hy, hr.accepts h⟩
    applies_undefined := by
      intro x h
      rcases (applies_sum hgl hgr).1 h with h | ⟨-, h⟩
      · exact hl.accepts_undefined h
      · exact hr.applies_undefined h
    accepts_undefined := by
      intro x h
      rcases (accepts_sum hgl hgr).1 h with h | ⟨-, h⟩
      · exact hl.accepts_undefined h
      · exact hr.accepts_undefined h }

end Stable

/-! ## Constructors in front of a core -/

/-- Whether the type is a primitive or an array, perhaps with rules around it. -/
def isCore : Ty → Bool
  | .definition .. => true
  | .array .. => true
  | .decorated (.constrained _) inner _ => inner.isCore
  | _ => false

/-- A core gives its input back, or an array if it is about arrays. -/
theorem applies_core {t : Ty} (ht : t.generators = []) (hc : t.isCore = true) {x y : Value}
    (h : t.Applies x y) : y = x ∨ t.primitive? = some .array ∧ ∃ ws, y = .array ws := by
  induction t with
  | definition p notes => exact .inl (applies_definition.1 h).symm
  | decorated d inner notes ih =>
    cases d with
    | constrained rule =>
      have hi : inner.generators = [] := by
        simpa [Ty.generators, gather, Decorator.generators] using ht
      exact ih hi hc ((applies_constrained hi).1 h).1
    | _ => cases hc
  | array item notes ih =>
    have hi : item.generators = [] := by simpa [Ty.generators, gather] using ht
    rcases (applies_array hi).1 h with ⟨items, ws, rfl, rfl, -⟩ | ⟨-, rfl⟩
    · exact .inr ⟨rfl, ws, rfl⟩
    · exact .inl rfl
  | _ => cases hc

/-- A core about another primitive than arrays gives its input back. -/
theorem applies_core_eq {t : Ty} (ht : t.generators = []) (hc : t.isCore = true)
    (hp : t.primitive? ≠ some .array) {x y : Value} (h : t.Applies x y) : y = x := by
  rcases applies_core ht hc h with h | ⟨h, -⟩
  · exact h
  · exact absurd h hp

namespace Stable

/-- A built-in function keeps what the core behind it makes of its own results, if the core is about
the target of the function. -/
theorem constructor {b : Builtin} {inner : Ty} {m : Metadata} (hi : inner.Stable)
    (hc : inner.isCore = true) (hb : inner.primitive? = some b.target) :
    Stable (.decorated (.constructor [b.toCoercion]) inner m) := by
  have hg := hi.generators
  have keep : ∀ {x w y}, b.run x = .ok w → inner.Applies w y → b.run y = .ok y := by
    intro x w y hw hy
    rcases applies_core hg hc hy with rfl | ⟨hp, ws, rfl⟩
    · exact (Builtin.run_again hw).1
    · exact Builtin.run_array (Option.some.inj (hb.symm.trans hp)) ws
  have undefined : ∀ {x w}, b.run x = .ok w → (w.isUndefined = true ∨ w = .undefined) →
      x = .undefined := by
    rintro x w hw (hu | rfl)
    · cases w <;> first | exact (Builtin.run_again hw).2 rfl | cases hu
    · exact (Builtin.run_again hw).2 rfl
  exact {
    generators := by simpa [Ty.generators, gather, Decorator.generators] using hg
    applies := by
      intro x y h
      obtain ⟨w, hw, hy⟩ := applies_constructor.1 h
      refine applies_constructor.2 ⟨y, ?_⟩
      split at hy
      · subst hy
        exact ⟨(Builtin.run_again hw).1, by simp [*]⟩
      · refine ⟨keep hw hy, ?_⟩
        split
        · rfl
        · exact hi.applies hy
    accepts := by
      intro x y h
      obtain ⟨w, hw, hy⟩ := accepts_constructor.1 h
      refine accepts_constructor.2 ⟨y, ?_⟩
      split at hy
      · subst hy
        exact ⟨(Builtin.run_again hw).1, by simp [*]⟩
      · refine ⟨keep hw (hy.applies hg), ?_⟩
        split
        · rfl
        · exact hi.accepts hy
    applies_undefined := by
      intro x h
      obtain ⟨w, hw, hy⟩ := applies_constructor.1 h
      split at hy
      · exact undefined hw (.inl ‹_›)
      · exact undefined hw (.inr (hi.applies_undefined hy))
    accepts_undefined := by
      intro x h
      obtain ⟨w, hw, hy⟩ := accepts_constructor.1 h
      split at hy
      · exact undefined hw (.inl ‹_›)
      · exact undefined hw (.inr (hi.accepts_undefined hy)) }

/-- A core on the left that is not about arrays accepts a value only as it is. -/
theorem sum_of_core {left right : Ty} {m : Metadata} (hl : left.Stable) (hr : right.Stable)
    (hc : left.isCore = true) (hp : left.primitive? ≠ some .array) : Stable (.sum left right m) :=
  hl.sum hr fun _ _ hz => applies_core_eq hl.generators hc hp (hz.applies hl.generators)

end Stable

end Ty

end Conform
