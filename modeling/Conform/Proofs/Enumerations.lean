import Conform.Proofs.Enforcement
import Conform.Proofs.Policies

/-!
# Enumerations are closed

An enumeration replaces aliases by its values, and it adds the rule that its values are the only
results.  The rule does not stand around the enumerated type: it goes inwards, past the functions,
the rules and the enumerations that the type has already.  Nothing on this way makes another value
of what passed the rule, because all of them act on the input.  What can come out besides the values
is what the functions of a constructor left undefined, since that is never handed to the rule.

A type that is safe, has a default, is a maybe or an optional sum can give a value in other ways.
Here the way inwards ends before it reaches such a type; generators may be anywhere else.

* `Ty.chainEnd` — the type inside the outer constructors, rules and enumerations.
* `Ty.Returns` — a type gives a value, applied or tried, against some supply.
* `Ty.passed_of_returns` — what a type with a further rule gives has passed the rule or is
  undefined.
* `aliased_of_key`, `aliased_of_alias` — the aliases of an enumeration.
* `Ty.enumeration_closed` — **an enumeration gives its values only, and for an alias its first
  value.**
-/

namespace Conform

/-! ## Aliases -/

section Aliases

variable {mapping before after : List (Value × Value)} {key other x v : Value}

/-- A value of the enumeration is no alias. -/
theorem aliased_of_key (h : ∃ p ∈ mapping, (p.1 == x) = true) : aliased mapping x = x :=
  if_pos (List.any_eq_true.2 h)

/-- The alias of several values stands for the first of them. -/
theorem aliased_of_alias (hmapping : mapping = before ++ (key, other) :: after)
    (hkey : ¬∃ p ∈ mapping, (p.1 == x) = true) (hother : (other == x) = true)
    (hfirst : ∀ p ∈ before, (p.2 == x) = false) : aliased mapping x = key := by
  have hfind : mapping.find? (fun p => p.2 == x) = some (key, other) :=
    List.find?_eq_some_iff_append.2
      ⟨hother, before, after, hmapping, fun p hp => by rw [hfirst p hp]; rfl⟩
  rw [aliased, if_neg fun h => hkey (List.any_eq_true.1 h), hfind]

/-- The rule of an enumeration is about equality with its values. -/
theorem includedIn_iff :
    (Rule.predicate (.includedIn (.array (mapping.map (·.1))))).evaluate v = .ok () ↔
      ∃ p ∈ mapping, (p.1 == v) = true := by
  have htest : (Predicate.includedIn (.array (mapping.map (·.1)))).test v =
      mapping.any fun p => p.1 == v := List.any_map
  rw [Rule.evaluate, htest, ← List.any_eq_true]
  cases mapping.any fun p => p.1 == v <;> simp

end Aliases

namespace Ty

open Eval

variable {m : Metadata} {inner t : Ty} {rule : Rule} {x v : Value}

/-! ## Results against any supply -/

/-- Applying the type to the first value gives the second against some supply, or trying it does. -/
def Returns (t : Ty) (x v : Value) : Prop :=
  ∃ s s', (t.apply x).Runs s (.ok v) s' ∨ (t.tryApply x).Runs s (.ok v) s'

/-- An enumeration returns what the name stands for. -/
theorem returns_enumeration {mapping : List (Value × Value)} :
    (decorated (.enumeration mapping) inner m).Returns x v ↔
      inner.Returns (aliased mapping x) v := by
  simp only [Returns, apply, tryApply]

/-- A constructed type gives what its functions leave undefined, or a result of the inner type. -/
theorem returns_constructor {fns : List Coercion}
    (h : (decorated (.constructor fns) inner m).Returns x v) :
    v = .undefined ∨ ∃ y, inner.Returns y v := by
  obtain ⟨s, s', h⟩ := h
  rw [apply, tryApply] at h
  cases hy : Coercion.runAll fns x with
  | error e =>
    rw [hy] at h
    rcases h with h | h
    · rw [liftM_error, throw_bind] at h
      cases (runs_throw_iff.1 h).1
    · cases (runs_throw_iff.1 h).1
  | ok y =>
    simp only [hy, liftM_ok, pure_bind] at h
    split at h
    case isTrue hdef =>
      left
      rw [← Value.isUndefined_iff.1 hdef]
      rcases h with h | h
      · exact Except.ok.inj (runs_pure_iff.1 h).1
      · exact Except.ok.inj (runs_pure_iff.1 h).1
    case isFalse => exact .inr ⟨y, s, s', h⟩

/-- A rule is checked on what the inner type gives when it is applied. -/
theorem returns_constrained {r : Rule} (h : (decorated (.constrained r) inner m).Returns x v) :
    inner.Returns x v ∧ r.evaluate v = .ok () := by
  obtain ⟨s, s', h⟩ := h
  rw [apply, tryApply, runs_blame_ok_iff, or_self, runs_bind_iff] at h
  obtain ⟨w, s₁, hw, hcheck⟩ | ⟨e, -, he⟩ := h
  · have hcheck := (runs_liftExcept_iff.1 hcheck).1.symm
    obtain rfl := check_eq_ok hcheck
    exact ⟨⟨s, s₁, .inl hw⟩, rule_check_iff.1 hcheck⟩
  · cases he

/-! ## A further rule -/

/-- The type inside the outer constructors, rules and enumerations. -/
def chainEnd : Ty → Ty
  | decorated (.constructor _) inner _ => inner.chainEnd
  | decorated (.constrained _) inner _ => inner.chainEnd
  | decorated (.enumeration _) inner _ => inner.chainEnd
  | t => t

/-- What takes a rule around itself gives what passed the rule. -/
theorem passed_of_returns_takesRule (ht : t.takesRule = true)
    (h : (t.constrainedBy rule).Returns x v) : rule.evaluate v = .ok () := by
  rw [constrainedBy_of_takesRule rule ht] at h
  exact (returns_constrained h).2

/-- **What a type with a further rule gives has passed the rule**, or functions left it undefined.
The induction follows the chain to where the rule is taken: at its end, or by a rule on the way. -/
theorem passed_of_returns (ht : t.chainEnd.takesRule = true)
    (h : (t.constrainedBy rule).Returns x v) :
    v = .undefined ∨ rule.evaluate v = .ok () := by
  induction t generalizing x with
  | decorated d inner m ih =>
    cases d with
    | constructor fns =>
      rcases returns_constructor h with hundefined | ⟨y, hy⟩
      · exact .inl hundefined
      · exact ih ht hy
    | constrained r => exact .inr (Rule.evaluate_and_iff.1 (returns_constrained h).2).2
    | enumeration mapping => exact ih ht (returns_enumeration.1 h)
    | safe | default | maybe => cases ht
  | _ => exact .inr (passed_of_returns_takesRule ht h)

/-! ## Enumerations -/

/-- An enumeration of some values adds the rule that they are the only ones. -/
theorem enumerateMapping_eq {mapping : List (Value × Value)} (h : mapping ≠ []) :
    t.enumerateMapping mapping = .ok (decorate (.enumeration mapping)
      (t.constrainedBy (.predicate (.includedIn (.array (mapping.map (·.1))))))) :=
  if_neg fun hempty => h (List.isEmpty_iff.1 hempty)

/-- Values that an enumeration takes for each other are treated alike. -/
theorem enumeration_congr {mapping : List (Value × Value)} {y : Value}
    (h : aliased mapping x = aliased mapping y) :
    (decorated (.enumeration mapping) inner m).apply x =
        (decorated (.enumeration mapping) inner m).apply y ∧
      (decorated (.enumeration mapping) inner m).tryApply x =
        (decorated (.enumeration mapping) inner m).tryApply y ∧
      (decorated (.enumeration mapping) inner m).isValid x =
        (decorated (.enumeration mapping) inner m).isValid y := by
  simp only [apply, tryApply, isValid, h, and_self]

/-- **Enumerations are closed.**  A type whose chain of constructors, rules and enumerations does
not end in a safe type, a default, a maybe or an optional sum can be enumerated by any values that
are listed with aliases.  Applied or tried, on whatever input and against whatever supply, the
enumeration gives undefined or something equal to one of its values.  An input that is not among
them and equals an alias is treated as the first value with that alias. -/
theorem enumeration_closed (t : Ty) (ht : t.chainEnd.takesRule = true)
    (mapping : List (Value × Value)) (hmapping : mapping ≠ []) :
    ∃ u, t.enumerateMapping mapping = .ok u ∧
      (∀ x v, u.Returns x v → v = .undefined ∨ ∃ p ∈ mapping, (p.1 == v) = true) ∧
      ∀ before key other after x, mapping = before ++ (key, other) :: after →
        (¬∃ p ∈ mapping, (p.1 == x) = true) → (other == x) = true →
        (∀ p ∈ before, (p.2 == x) = false) →
        u.apply x = u.apply key ∧ u.tryApply x = u.tryApply key ∧ u.isValid x = u.isValid key := by
  refine ⟨_, enumerateMapping_eq hmapping, fun x v h => ?_, ?_⟩
  · exact (passed_of_returns ht (returns_enumeration.1 h)).imp_right includedIn_iff.1
  · intro before key other after x heq hvalue hother hfirst
    have hkey : ∃ p ∈ mapping, (p.1 == key) = true :=
      ⟨(key, other), heq ▸ List.mem_append_right _ List.mem_cons_self,
        Value.beq_eq_true_iff.2 (Value.compare_self key)⟩
    refine enumeration_congr ?_
    rw [aliased_of_alias heq hvalue hother hfirst, aliased_of_key hkey]

/-- Integers read from texts, with words for them, one word for two of them. -/
def states : List (Value × Value) :=
  [(.integer 0, .string "draft"), (.integer 1, .string "published"), (.integer 2, .string "draft")]

/-- The word for two integers is read as the first of them. -/
theorem enumeration_closed_states :
    ((strict .integer).constructor Builtin.kernelInteger.toCoercion).chainEnd.takesRule = true ∧
      states ≠ [] ∧
      ∃ u, ((strict .integer).constructor Builtin.kernelInteger.toCoercion).enumerateMapping
          states = .ok u ∧
        u.Returns (.string "draft") (.integer 0) ∧ ¬u.Returns (.string "draft") (.integer 3) ∧
        u.apply (.string "draft") = u.apply (.integer 0) := by
  obtain ⟨u, hu, hclosed, halias⟩ := enumeration_closed
    ((strict .integer).constructor Builtin.kernelInteger.toCoercion) rfl states
      (List.cons_ne_nil _ _)
  have hsame := (halias [] (.integer 0) (.string "draft")
    [(.integer 1, .string "published"), (.integer 2, .string "draft")] (.string "draft") rfl
    (by decide) (by decide) (fun p hp => absurd hp List.not_mem_nil)).1
  refine ⟨rfl, List.cons_ne_nil _ _, u, hu, ⟨⟨default, []⟩, ⟨default, []⟩, .inl ?_⟩, fun h => ?_,
    hsame⟩
  · rw [hsame]
    cases hu
    rfl
  · rcases hclosed _ _ h with h | h
    · cases h
    · revert h
      decide

end Ty

end Conform
