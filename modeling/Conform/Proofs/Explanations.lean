import Conform.Rule

/-!
# Rules explain what they refuse

A rule is a formula of predicates, and evaluating it decides that formula.  A value that is refused
comes with a tree.  It has no conjunctions: where a conjunction fails, the tree goes on with one of
its sides, and it branches only where both sides of a disjunction fail.  So the tree can be read
beside the rule, and every place of it says of one part of the rule why that part is false.

* `Rule.holds` — the truth value of the formula.
* `Rule.evaluate_eq_ok_iff` — evaluating decides the formula.
* `RuleFailure.Explains` — a tree beside a rule, with one case for each way to go on.
* `RuleFailure.Explains.part` — every tree within it explains a part of the rule.
* `Rule.evaluation_explained` — **evaluating decides the formula and explains why it is false**: the
  failure is the one tree that explains the rule.
-/

namespace Conform

/-! ## The formula -/

namespace Rule

/-- The truth value of the rule, read as a formula of its predicates. -/
def holds : Rule → Value → Bool
  | .predicate p, v => p.test v
  | .and left right, v => left.holds v && right.holds v
  | .or left right, v => left.holds v || right.holds v

/-- The rule and all rules within it. -/
def parts : Rule → List Rule
  | .predicate p => [.predicate p]
  | .and left right => .and left right :: (left.parts ++ right.parts)
  | .or left right => .or left right :: (left.parts ++ right.parts)

variable {left right r : Rule} {f : RuleFailure} {v : Value}

/-- A conjunction goes on to its right side only when its left side has passed. -/
theorem evaluate_and_ok (hleft : left.evaluate v = .ok ()) :
    (and left right).evaluate v = right.evaluate v := by
  rw [evaluate, hleft]
  rfl

theorem evaluate_and_error (hleft : left.evaluate v = .error f) :
    (and left right).evaluate v = .error f := by
  rw [evaluate, hleft]
  rfl

/-- **Evaluating decides the formula**, by induction on the rule. -/
theorem evaluate_eq_ok_iff : r.evaluate v = .ok () ↔ r.holds v = true := by
  induction r with
  | predicate p =>
    rw [evaluate, holds]
    split
    case isTrue h => exact iff_of_true rfl h
    case isFalse h => exact iff_of_false nofun h
  | and left right ihl ihr =>
    rw [holds, Bool.and_eq_true_iff, ← ihl, ← ihr]
    cases hleft : left.evaluate v with
    | ok u => rw [evaluate_and_ok hleft, and_iff_right rfl]
    | error f =>
      rw [evaluate_and_error hleft]
      exact iff_of_false nofun fun h => nomatch h.1
  | or left right ihl ihr =>
    rw [holds, Bool.or_eq_true_iff, ← ihl, ← ihr, evaluate]
    cases left.evaluate v with
    | ok u => exact iff_of_true rfl (.inl rfl)
    | error l =>
      cases right.evaluate v with
      | ok u => exact iff_of_true rfl (.inr rfl)
      | error r => exact iff_of_false nofun fun h => h.elim nofun nofun

/-- A rule that fails is false. -/
theorem holds_eq_false (h : r.evaluate v = .error f) : r.holds v = false := by
  rw [Bool.eq_false_iff, Ne, ← evaluate_eq_ok_iff, h]
  exact nofun

end Rule

/-! ## Trees beside rules -/

namespace RuleFailure

/-- The tree explains why the rule refuses the value:
* of a predicate that is false it holds the predicate and the value;
* of a conjunction it explains the left side if that is false, and otherwise the right side;
* of a disjunction, both sides of which are false, it explains both. -/
inductive Explains (v : Value) : RuleFailure → Rule → Prop
  | predicate {p} (hp : p.test v = false) : Explains v (.predicate p v) (.predicate p)
  | left {left right f} (hleft : left.holds v = false) (h : Explains v f left) :
    Explains v f (.and left right)
  | right {left right f} (hleft : left.holds v = true) (h : Explains v f right) :
    Explains v f (.and left right)
  | both {left right f g} (hleft : left.holds v = false) (hright : right.holds v = false)
    (hf : Explains v f left) (hg : Explains v g right) : Explains v (.or f g) (.or left right)

/-- The tree and all trees within it. -/
def parts : RuleFailure → List RuleFailure
  | .predicate p input => [.predicate p input]
  | .or f g => .or f g :: (f.parts ++ g.parts)

namespace Explains

variable {left right r : Rule} {f g : RuleFailure} {v : Value}

/-- Which side of a conjunction is explained. -/
theorem and_iff : Explains v f (.and left right) ↔
    if left.holds v then Explains v f right else Explains v f left := by
  constructor
  case mp =>
    intro h
    cases h with
    | left hleft h => rwa [if_neg (Bool.eq_false_iff.1 hleft)]
    | right hleft h => rwa [if_pos hleft]
  case mpr =>
    split
    case isTrue hleft => exact .right hleft
    case isFalse hleft => exact .left (Bool.eq_false_iff.2 hleft)

/-- **Every tree within it explains a part of the rule**, one that is no conjunction.  The induction
is on the explanation; a conjunction adds no tree of its own. -/
theorem part (h : Explains v f r) (hg : g ∈ f.parts) :
    ∃ u ∈ r.parts, Explains v g u ∧ ∀ a b, u ≠ .and a b := by
  induction h with
  | @predicate p hp =>
    cases List.mem_singleton.1 hg
    exact ⟨.predicate p, List.mem_singleton_self _, .predicate hp, nofun⟩
  | left _ _ ih =>
    obtain ⟨u, hu, h⟩ := ih hg
    exact ⟨u, .tail _ (List.mem_append_left _ hu), h⟩
  | right _ _ ih =>
    obtain ⟨u, hu, h⟩ := ih hg
    exact ⟨u, .tail _ (List.mem_append_right _ hu), h⟩
  | both hleft hright hf hg' ihf ihg =>
    rcases List.mem_cons.1 hg with rfl | hg
    · exact ⟨_, List.mem_cons_self, .both hleft hright hf hg', nofun⟩
    rcases List.mem_append.1 hg with hg | hg
    · obtain ⟨u, hu, h⟩ := ihf hg
      exact ⟨u, .tail _ (List.mem_append_left _ hu), h⟩
    · obtain ⟨u, hu, h⟩ := ihg hg
      exact ⟨u, .tail _ (List.mem_append_right _ hu), h⟩

/-- A leaf is a predicate of the rule that is false, with the value. -/
theorem leaf {p : Predicate} {input : Value} (h : Explains v f r)
    (hp : .predicate p input ∈ f.parts) :
    .predicate p ∈ r.parts ∧ p.test v = false ∧ input = v := by
  obtain ⟨u, hu, hexplains, hand⟩ := h.part hp
  cases hexplains with
  | predicate htest => exact ⟨hu, htest, rfl⟩
  | left | right => exact absurd rfl (hand _ _)

/-- A branching is a disjunction of the rule, both sides of which are false and explained. -/
theorem branching {l m : RuleFailure} (h : Explains v f r) (hor : .or l m ∈ f.parts) :
    ∃ left right, .or left right ∈ r.parts ∧ left.holds v = false ∧ right.holds v = false ∧
      Explains v l left ∧ Explains v m right := by
  obtain ⟨u, hu, hexplains, hand⟩ := h.part hor
  cases hexplains with
  | both hleft hright hl hm => exact ⟨_, _, hu, hleft, hright, hl, hm⟩
  | left | right => exact absurd rfl (hand _ _)

end Explains

end RuleFailure

namespace Rule

open RuleFailure

/-- A rule fails with the tree that explains it. -/
theorem explains_of_evaluate {r : Rule} {f : RuleFailure} {v : Value}
    (h : r.evaluate v = .error f) :
    Explains v f r := by
  induction r generalizing f with
  | predicate p =>
    have hp : p.test v = false := holds_eq_false h
    rw [evaluate, hp] at h
    cases h
    exact .predicate hp
  | and left right ihl ihr =>
    cases hleft : left.evaluate v with
    | ok u =>
      rw [evaluate_and_ok hleft] at h
      exact .right (evaluate_eq_ok_iff.1 hleft) (ihr h)
    | error g =>
      rw [evaluate_and_error hleft] at h
      cases h
      exact .left (holds_eq_false hleft) (ihl hleft)
  | or left right ihl ihr =>
    rw [evaluate] at h
    split at h
    case h_1 l m hleft hright =>
      cases h
      exact .both (holds_eq_false hleft) (holds_eq_false hright) (ihl hleft) (ihr hright)
    case h_2 => cases h

/-- A tree that explains the rule is what it fails with. -/
theorem evaluate_of_explains {r : Rule} {f : RuleFailure} {v : Value} (h : Explains v f r) :
    r.evaluate v = .error f := by
  induction h with
  | predicate hp => rw [evaluate, hp, if_neg Bool.false_ne_true]
  | left _ _ ih => exact evaluate_and_error ih
  | right hleft _ ih => exact (evaluate_and_ok (evaluate_eq_ok_iff.2 hleft)).trans ih
  | both _ _ _ _ ihf ihg => rw [evaluate, ihf, ihg]

/-- **Evaluating decides the formula and explains why it is false.**  A rule succeeds exactly when
it is true.  It fails exactly with the tree that explains it: where the tree goes through a
conjunction it explains the left side if that is false and the right side otherwise, its leaves are
predicates of the rule that the value does not pass, with that value, and it branches where the rule
has a disjunction with two false sides. -/
theorem evaluation_explained (r : Rule) (v : Value) :
    (r.evaluate v = .ok () ↔ r.holds v = true) ∧
      (∀ f, r.evaluate v = .error f ↔ Explains v f r) ∧
      (∀ f left right, Explains v f (.and left right) ↔
        if left.holds v then Explains v f right else Explains v f left) ∧
      ∀ f, r.evaluate v = .error f →
        (∀ p input, .predicate p input ∈ f.parts →
          .predicate p ∈ r.parts ∧ p.test v = false ∧ input = v) ∧
        ∀ l m, .or l m ∈ f.parts → ∃ left right, .or left right ∈ r.parts ∧
          left.holds v = false ∧ right.holds v = false ∧ Explains v l left ∧
          Explains v m right := by
  refine ⟨evaluate_eq_ok_iff, fun f => ⟨explains_of_evaluate, evaluate_of_explains⟩,
    fun f left right => Explains.and_iff, fun f h => ?_⟩
  have hf := explains_of_evaluate h
  exact ⟨fun p input => hf.leaf, fun l m => hf.branching⟩

end Rule

end Conform
