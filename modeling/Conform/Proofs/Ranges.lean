import Conform.Proofs.Order
import Conform.Rule.Predicate

/-!
# Ranges and their bounds

A number lies in a range when the order that also tells kinds of numbers apart puts it between the
bounds.  The predicates on one bound go by the order of the values alone.  So a number within both
bounds by value is left out of the range where it ties with a bound and its kind comes on the wrong
side of the kind of the bound: integers come before decimals, and decimals before floats.

* `Number.isLE_compare_iff` — the two orders put beside each other.
* `Predicate.gteq_iff`, `Predicate.lteq_iff` — which values the predicates on one bound accept.
* `Predicate.range_holds_iff` — **a range holds what lies within its bounds by value, and not on the
  wrong side of one by kind.**
-/

namespace Conform

/-- The order that tells kinds apart looks at the kinds only where the values tie. -/
theorem Number.isLE_compare_iff (a b : Number) :
    (a.compare b).isLE = true ↔
      a.compareValue b ≠ .gt ∧ (a.compareValue b = .eq → a.rank ≤ b.rank) := by
  unfold Number.compare
  cases a.compareValue b with
  | lt => simp
  | eq => simp [Nat.isLE_compare]
  | gt => simp

namespace Predicate

variable {n first last : Number} {v : Value}

/-- A number passes `gteq` exactly if the bound is not greater. -/
theorem gteq_iff : (gteq n).test v ↔ ∃ m, v = .number m ∧ n.compareValue m ≠ .gt := by
  cases v with
  | number m =>
    rw [test, comparesTo, ← Number.swap_compareValue n m]
    cases h : n.compareValue m <;> simp [h]
  | _ => simp [test, comparesTo]

/-- A number passes `lteq` exactly if the bound is not less. -/
theorem lteq_iff : (lteq n).test v ↔ ∃ m, v = .number m ∧ m.compareValue n ≠ .gt := by
  cases v <;> simp [test, comparesTo]

/-- A range contains numbers only, those between its bounds in the order of all values. -/
theorem contains_range_iff :
    contains (.range first last) v ↔ ∃ m, v = .number m ∧ inRange first last m := by
  cases v <;> simp [contains]

/-- **A range holds the numbers within its bounds by value**, without those that tie with the first
bound and are of an earlier kind, or tie with the last bound and are of a later kind. -/
theorem range_holds_iff (first last : Number) (v : Value) :
    ((includedIn (.range first last)).test v ↔
      ((gteq first).test v ∧ (lteq last).test v) ∧
        ∀ n, v = .number n → (first.compareValue n = .eq → first.rank ≤ n.rank) ∧
          (n.compareValue last = .eq → n.rank ≤ last.rank)) ∧
    (includes v).test (.range first last) = (includedIn (.range first last)).test v := by
  refine ⟨?_, rfl⟩
  show contains (.range first last) v ↔ _
  rw [contains_range_iff, gteq_iff, lteq_iff]
  constructor
  · rintro ⟨n, rfl, h⟩
    rw [inRange, Bool.and_eq_true, Number.isLE_compare_iff, Number.isLE_compare_iff] at h
    obtain ⟨⟨hfirst, hfirstKind⟩, hlast, hlastKind⟩ := h
    refine ⟨⟨⟨n, rfl, hfirst⟩, n, rfl, hlast⟩, ?_⟩
    rintro _ ⟨⟩
    exact ⟨hfirstKind, hlastKind⟩
  · rintro ⟨⟨⟨n, rfl, hfirst⟩, _, ⟨⟩, hlast⟩, hkinds⟩
    obtain ⟨hfirstKind, hlastKind⟩ := hkinds n rfl
    refine ⟨n, rfl, ?_⟩
    rw [inRange, Bool.and_eq_true, Number.isLE_compare_iff, Number.isLE_compare_iff]
    exact ⟨⟨hfirst, hfirstKind⟩, hlast, hlastKind⟩

/-- The integer 1 is not in the range from the decimal 1 to the integer 3, though it is within its
bounds. -/
theorem bounds_not_always_held :
    ¬∀ first last n : Number, n ≠ .float .nan → first ≠ .float .nan → last ≠ .float .nan →
      ((includedIn (.range first last)).test (.number n) ↔
        (gteq first).test (.number n) ∧ (lteq last).test (.number n)) := by
  intro h
  have hone :=
    h (.decimal (.ofInt 1)) (.integer 3) (.integer 1) Number.noConfusion Number.noConfusion
    Number.noConfusion
  revert hone
  decide

end Predicate

end Conform
