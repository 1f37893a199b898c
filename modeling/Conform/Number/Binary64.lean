import Conform.Number.Power

/-!
# Binary64 numbers

Floating point numbers with 53 bits of mantissa, as exact data: nothing here is computed in
floating arithmetic, so every operation can be reasoned about through natural numbers.

* `Binary64` — not a number, a signed infinity, or ± mantissa · 2 ^ exponent in canonical form.
* `ofRatio` — the number nearest to a ratio, a tie going to the even mantissa.
* `units` — a finite number as a multiple of 2 ^ -1074, the least positive one.
* `compare?` — the order of the values; nothing is comparable with what is not a number.
* `mul`, `div`, `truncate`, `isIntegral` — arithmetic by way of the exact value.
-/

namespace Conform

/-- A mantissa and exponent in their one canonical form: 53 significant bits, or fewer at the least
exponent. -/
def IsCanonical (mantissa : Nat) (exponent : Int) : Prop :=
  mantissa < twoPow 53 ∧ -1074 ≤ exponent ∧ exponent ≤ 971 ∧
    (twoPow 52 ≤ mantissa ∨ exponent = -1074)

instance (mantissa : Nat) (exponent : Int) : Decidable (IsCanonical mantissa exponent) := by
  unfold IsCanonical
  infer_instance

/-- A binary64 number. The sign of a zero is kept. -/
inductive Binary64
  | nan
  | infinite (negative : Bool)
  | finite (negative : Bool) (mantissa : Nat) (exponent : Int)
      (canonical : IsCanonical mantissa exponent)
  deriving DecidableEq

namespace Binary64

/-- Zero with the given sign. -/
def zero (negative : Bool) : Binary64 :=
  .finite negative 0 (-1074) (by decide)

instance : Inhabited Binary64 := ⟨zero false⟩

/-- The number with this mantissa and exponent. A mantissa of 2 ^ 53, the one that rounding up can
reach, moves to the next exponent; what is still not canonical is too large. -/
def ofScaled (negative : Bool) (mantissa : Nat) (exponent : Int) : Binary64 :=
  if h : IsCanonical mantissa exponent then .finite negative mantissa exponent h
  else if h : IsCanonical (mantissa / 2) (exponent + 1) then
    .finite negative (mantissa / 2) (exponent + 1) h
  else .infinite negative

/-! ## Rounding -/

/-- The quotient of two natural numbers, rounded to the nearest, a half to the even one. -/
def roundQuotient (num den : Nat) : Nat :=
  let q := num / den
  let r := num % den
  if den < 2 * r ∨ (2 * r = den ∧ q % 2 = 1) then q + 1 else q

/-- The floor of the base-2 logarithm of a positive ratio. -/
def floorLog2 (num den : Nat) : Int :=
  let k : Int := (num.log2 : Int) - (den.log2 : Int)
  let below := if 0 ≤ k then num < den * twoPow k.toNat else num * twoPow (-k).toNat < den
  if below then k - 1 else k

/-- The ratio divided by a power of two, rounded to a natural number. -/
def scaleRatio (num den : Nat) (exponent : Int) : Nat :=
  if 0 ≤ exponent then roundQuotient num (den * twoPow exponent.toNat)
  else roundQuotient (num * twoPow (-exponent).toNat) den

/-- The number nearest to ± `num / den`, a tie going to the even mantissa. -/
def ofRatio (negative : Bool) (num den : Nat) : Binary64 :=
  if num = 0 then zero negative
  else
    let exponent := max (floorLog2 num den) (-1022) - 52
    ofScaled negative (scaleRatio num den exponent) exponent

/-- The number nearest to a natural number. -/
def ofNat (n : Nat) : Binary64 :=
  ofRatio false n 1

/-- The number nearest to an integer. -/
def ofInt (z : Int) : Binary64 :=
  ofRatio (z < 0) z.natAbs 1

/-- The number nearest to ± `n · 10 ^ exponent`. Magnitudes from 10 ^ 310 on are infinite and those
below 10 ^ -330 are zero, so no power larger than that is formed. -/
def ofDecimal (negative : Bool) (n : Nat) (exponent : Int) : Binary64 :=
  if n = 0 then zero negative
  else
    let width := (Nat.toDigits 10 n).length + exponent
    if 310 < width then .infinite negative
    else if width < -330 then zero negative
    else if 0 ≤ exponent then ofRatio negative (n * tenPow exponent.toNat) 1
    else ofRatio negative n (tenPow (-exponent).toNat)

/-! ## Value and order -/

/-- Whether the number is neither infinite nor not a number. -/
def isFinite : Binary64 → Bool
  | .finite .. => true
  | _ => false

/-- Whether the sign is negative. -/
def isNegative : Binary64 → Bool
  | .nan => false
  | .infinite negative => negative
  | .finite negative .. => negative

/-- The value of a finite number in units of 2 ^ -1074. -/
def units (negative : Bool) (mantissa : Nat) (exponent : Int) : Int :=
  let magnitude : Int := (mantissa * twoPow (exponent + 1074).toNat : Nat)
  if negative then -magnitude else magnitude

/-- The order of the values. -/
def compare? : Binary64 → Binary64 → Option Ordering
  | .nan, _ => none
  | _, .nan => none
  | .infinite a, .infinite b => some (compare b.toNat a.toNat)
  | .infinite a, .finite .. => some (if a then .lt else .gt)
  | .finite .., .infinite b => some (if b then .gt else .lt)
  | .finite a m e _, .finite b n f _ => some (compare (units a m e) (units b n f))

/-- The magnitude of a finite number as a ratio. -/
def ratio (mantissa : Nat) (exponent : Int) : Nat × Nat :=
  if 0 ≤ exponent then (mantissa * twoPow exponent.toNat, 1)
  else (mantissa, twoPow (-exponent).toNat)

/-- Whether the number is finite and has no fraction. -/
def isIntegral : Binary64 → Bool
  | .finite _ m e _ => let (num, den) := ratio m e; num % den == 0
  | _ => false

/-- The integer part of a finite number, rounded toward zero. -/
def truncate : Binary64 → Option Int
  | .finite negative m e _ =>
    let (num, den) := ratio m e
    some (if negative then -((num / den : Nat) : Int) else ((num / den : Nat) : Int))
  | _ => none

/-! ## Arithmetic -/

/-- The number with the opposite sign. -/
def neg : Binary64 → Binary64
  | .nan => .nan
  | .infinite negative => .infinite !negative
  | .finite negative m e h => .finite (!negative) m e h

/-- The rounded product of two numbers. -/
def mul : Binary64 → Binary64 → Binary64
  | .finite a m e _, .finite b n f _ =>
    let (p, q) := ratio m e
    let (r, s) := ratio n f
    ofRatio (a != b) (p * r) (q * s)
  | .infinite a, .finite b n _ _ => if n = 0 then .nan else .infinite (a != b)
  | .finite a m _ _, .infinite b => if m = 0 then .nan else .infinite (a != b)
  | .infinite a, .infinite b => .infinite (a != b)
  | _, _ => .nan

/-- The rounded quotient of two numbers. -/
def div : Binary64 → Binary64 → Binary64
  | .finite a m e _, .finite b n f _ =>
    if n = 0 then if m = 0 then .nan else .infinite (a != b)
    else
      let (p, q) := ratio m e
      let (r, s) := ratio n f
      ofRatio (a != b) (p * s) (q * r)
  | .infinite a, .finite b _ _ _ => .infinite (a != b)
  | .finite a _ _ _, .infinite b => zero (a != b)
  | _, _ => .nan

end Binary64

end Conform
