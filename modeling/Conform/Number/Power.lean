/-!
# Powers

The powers of two and of ten that numbers are scaled by.

* `twoPow`, `tenPow` — the powers, as natural numbers.
-/

namespace Conform

/-- The power of two with the given exponent. -/
def twoPow (n : Nat) : Nat :=
  Nat.pow 2 n

/-- The power of ten with the given exponent. -/
def tenPow (n : Nat) : Nat :=
  Nat.pow 10 n

theorem twoPow_succ (n : Nat) : twoPow (n + 1) = 2 * twoPow n :=
  Nat.mul_comm (Nat.pow 2 n) 2

theorem tenPow_succ (n : Nat) : tenPow (n + 1) = 10 * tenPow n :=
  Nat.mul_comm (Nat.pow 10 n) 10

theorem twoPow_pos (n : Nat) : 0 < twoPow n := by
  induction n with
  | zero => decide
  | succ n ih => rw [twoPow_succ]; omega

theorem tenPow_pos (n : Nat) : 0 < tenPow n := by
  induction n with
  | zero => decide
  | succ n ih => rw [tenPow_succ]; omega

end Conform
