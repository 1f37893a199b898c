import Conform.Proofs.ExactOrder
import Conform.Proofs.Integers

/-!
# Dropping the fraction

The integer part of a number is its exact value rounded toward zero.  Integers and decimals of any
size have one.  Floats have one up to the magnitude 2 ^ 63 and none beyond, where they are integers
in any case.

* `towardZero_signed` — rounding toward zero is dividing the magnitudes and keeping the sign.
* `Binary64.truncate_finite` — the quotient that a float is cut off to is its value rounded toward
  zero.
* `Binary64.natAbs_towardZero_le_iff` — the bound is asked of the integer part, and is one on the
  value.
* `Number.truncated_by_value` — **which numbers have an integer part, and which one.**
* `Number.not_always_truncated` — a float beyond the bound, and the decimal of the same value.
-/

namespace Conform

/-! ## Rounding toward zero -/

@[simp] theorem towardZero_intCast (z : Int) : towardZero z = z := by
  unfold towardZero
  split
  · exact Int.floor_intCast z
  · exact Int.ceil_intCast z

/-- Rounding toward zero goes with the sign. -/
theorem towardZero_neg (q : ℚ) : towardZero (-q) = -towardZero q := by
  unfold towardZero
  rcases lt_trichotomy q 0 with hneg | rfl | hpos
  · rw [if_pos (by linarith), if_neg (not_le.2 hneg), Int.floor_neg]
  · simp
  · rw [if_neg (by linarith), if_pos hpos.le, Int.ceil_neg]

/-- Rounding toward zero does not add to the magnitude. -/
theorem abs_towardZero_le (q : ℚ) : |(towardZero q : ℚ)| ≤ |q| := by
  unfold towardZero
  split
  · next hnonneg =>
    have hfloor : (0 : ℚ) ≤ ⌊q⌋ := by exact_mod_cast Int.floor_nonneg.2 hnonneg
    rw [abs_of_nonneg hfloor, abs_of_nonneg hnonneg]
    exact Int.floor_le q
  · next hneg =>
    have hle : q ≤ 0 := (not_le.1 hneg).le
    have hceil : (⌈q⌉ : ℚ) ≤ 0 := by exact_mod_cast Int.ceil_le.2 (by simpa using hle)
    rw [abs_of_nonpos hceil, abs_of_nonpos hle]
    exact neg_le_neg (Int.le_ceil q)

/-- Magnitudes are divided, and the sign is kept. -/
theorem towardZero_signed (negative : Bool) (num den : Nat) :
    towardZero (Binary64.signed negative (num / den)) =
      if negative then -((num / den : Nat) : Int) else (num / den : Nat) := by
  have hquotient : towardZero (num / den) = (num / den : Nat) := by
    rw [towardZero, if_pos (by positivity), Rat.floor_natCast_div_natCast, Int.natCast_ediv]
  cases negative with
  | false => exact hquotient
  | true =>
    rw [Binary64.signed, if_pos rfl, if_pos rfl, towardZero_neg, hquotient]

namespace Binary64

/-! ## Floats -/

/-- The ratio of a magnitude is the magnitude. -/
theorem ratio_eq (m : Nat) (e : Int) : ((ratio m e).1 : ℚ) / (ratio m e).2 = m * 2 ^ e := by
  unfold ratio
  split
  · next he => rw [Nat.cast_mul, cast_twoPow, zpow_of_nonneg he, Nat.cast_one, div_one]
  · next he => rw [cast_twoPow, zpow_of_neg (by omega), div_eq_mul_inv]

/-- The quotient that a float is cut off to is its value rounded toward zero. -/
theorem truncate_finite (negative : Bool) {m : Nat} {e : Int} (h : IsCanonical m e) :
    truncate (.finite negative m e h) = some (towardZero (signed negative (m * 2 ^ e))) := by
  rw [← ratio_eq, towardZero_signed]
  rfl

theorem abs_signed (negative : Bool) {x : ℚ} (hx : 0 ≤ x) : |signed negative x| = x := by
  unfold signed
  split
  · rw [abs_neg, abs_of_nonneg hx]
  · exact abs_of_nonneg hx

/-- A float of at least 2 ^ 53 has no fraction: the mantissa is less, so the exponent is not
negative. -/
theorem exists_eq_intCast (negative : Bool) {m : Nat} {e : Int} (h : IsCanonical m e)
    (hlarge : (2 : ℚ) ^ 53 ≤ |signed negative (m * 2 ^ e)|) :
    ∃ z : Int, signed negative (m * 2 ^ e) = z := by
  have hexponent : 0 ≤ e := by
    by_contra hneg
    have hunit : (2 : ℚ) ^ e ≤ 1 := zpow_le_one_of_nonpos₀ one_le_two (by omega)
    have hmantissa : (m : ℚ) < 2 ^ 53 := by
      rw [← cast_twoPow]
      exact_mod_cast h.1
    have hsmall : (m : ℚ) * 2 ^ e ≤ m := mul_le_of_le_one_right (Nat.cast_nonneg m) hunit
    rw [abs_signed negative (by positivity)] at hlarge
    exact absurd hlarge (not_le.2 (hsmall.trans_lt hmantissa))
  have hwhole : (m : ℚ) * 2 ^ e = (m * 2 ^ e.toNat : Nat) := by
    rw [zpow_of_nonneg hexponent]
    push_cast
    rfl
  rw [hwhole]
  cases negative
  · exact ⟨_, (Int.cast_natCast _).symm⟩
  · exact ⟨-_, by rw [Int.cast_neg, Int.cast_natCast]; rfl⟩

/-- The bound on the integer part is one on the value. -/
theorem natAbs_towardZero_le_iff (negative : Bool) {m : Nat} {e : Int} (h : IsCanonical m e) :
    (towardZero (signed negative (m * 2 ^ e))).natAbs ≤ Number.maxTruncated ↔
      |signed negative (m * 2 ^ e)| ≤ 2 ^ 63 := by
  have hbound (z : Int) : z.natAbs ≤ Number.maxTruncated ↔ |(z : ℚ)| ≤ 2 ^ 63 := by
    rw [← cast_twoPow, ← Int.cast_abs, Int.abs_eq_natAbs, Int.cast_natCast, Nat.cast_le]
    rfl
  rw [hbound]
  refine ⟨fun hle => ?_, (abs_towardZero_le _).trans⟩
  by_contra hlarge
  have hfraction : (2 : ℚ) ^ 53 ≤ |signed negative (m * 2 ^ e)| :=
    (by norm_num : (2 : ℚ) ^ 53 ≤ 2 ^ 63).trans (not_le.1 hlarge).le
  obtain ⟨z, hz⟩ := exists_eq_intCast negative h hfraction
  rw [hz, towardZero_intCast] at hle
  exact hlarge (hz ▸ hle)

/-- Infinities, and what is not a number, denote no rational. -/
theorem value_ne_ofRat {x : Binary64} (h : x.isFinite = false) (q : ℚ) :
    x.value ≠ Extended.ofRat q := by
  cases x with
  | nan => exact (Extended.bot_lt_ofRat q).ne
  | infinite negative =>
    cases negative
    · exact (Extended.ofRat_lt_top q).ne'
    · exact (Extended.bot_lt_ofRat q).ne
  | finite => cases h

/-- What is not finite is not truncated. -/
theorem truncate_of_not_finite {x : Binary64} (h : x.isFinite = false) : x.truncate = none := by
  cases x with
  | finite => cases h
  | _ => rfl

end Binary64

namespace Number

/-! ## Numbers of any kind -/

/-- An exact number is truncated to its value, rounded toward zero. -/
theorem truncate_exact {n : Number} {v : ℚ} (h : n.Exact v) :
    n.truncate = some (.integer (towardZero v)) := by
  cases h with
  | integer z => rw [truncate, towardZero_intCast]
  | decimal d => rw [truncate, Decimal.truncate_eq]

/-- A float is truncated exactly up to 63 bits. -/
theorem truncate_finite (negative : Bool) {m : Nat} {e : Int} (h : IsCanonical m e) :
    truncate (.float (.finite negative m e h)) =
      if |Binary64.signed negative (m * 2 ^ e)| ≤ 2 ^ 63 then
        some (.integer (towardZero (Binary64.signed negative (m * 2 ^ e))))
      else none := by
  rw [truncate, Binary64.truncate_finite, Option.bind_some]
  exact if_congr (Binary64.natAbs_towardZero_le_iff negative h) rfl rfl

/-- **Which numbers have an integer part, and which one.**  A number that denotes a rational is cut
off to that rational rounded toward zero; a float only if it is not beyond 2 ^ 63.  No other number
lacks an integer part than a float that denotes no rational or one beyond that bound. -/
theorem truncated_by_value (n : Number) :
    (∀ q, n.value = Extended.ofRat q → (n.isFloat → |q| ≤ 2 ^ 63) →
      n.truncate = some (.integer (towardZero q))) ∧
    (n.truncate = none ↔ n.isFloat ∧ ∀ q, n.value = Extended.ofRat q → 2 ^ 63 < |q|) := by
  rcases n.float_or_exact with ⟨x, rfl⟩ | ⟨v, hv⟩
  · cases hx : x.isFinite with
    | false =>
      have hvalue (q : ℚ) : (float x).value ≠ Extended.ofRat q := Binary64.value_ne_ofRat hx q
      have hnone : (float x).truncate = none := by
        rw [truncate, Binary64.truncate_of_not_finite hx, Option.bind_none]
      exact ⟨fun q hq => absurd hq (hvalue q), fun _ => ⟨rfl, fun q hq => absurd hq (hvalue q)⟩,
        fun _ => hnone⟩
    | true =>
      cases x with
      | finite negative m e h =>
        have hvalue (q : ℚ) : (float (.finite negative m e h)).value = Extended.ofRat q ↔
            Binary64.signed negative (m * 2 ^ e) = q := Extended.ofRat_strictMono.injective.eq_iff
        simp only [hvalue, forall_eq', truncate_finite]
        refine ⟨fun hbound => if_pos (hbound rfl), ?_⟩
        rw [ite_eq_right_iff, ← not_le]
        exact ⟨fun h => ⟨rfl, fun hle => Option.some_ne_none _ (h hle)⟩,
          fun h hle => absurd hle h.2⟩
      | _ => cases hx
  · have hkind : n.isFloat = false := by cases hv <;> rfl
    have hvalue (q : ℚ) : n.value = Extended.ofRat q ↔ v = q := by
      rw [hv.value_eq, Extended.ofRat_strictMono.injective.eq_iff]
    simp [hvalue, hkind, truncate_exact hv]

theorem value_ofInt_twoPow64 :
    (Binary64.ofInt 18446744073709551616).value = Extended.ofRat 18446744073709551616 := by
  have hfloat : Binary64.ofInt 18446744073709551616 = .finite false (twoPow 52) 12 (by decide) := by
    decide
  rw [hfloat, Binary64.value, cast_twoPow]
  exact congrArg _ (by norm_num [Binary64.signed])

/-- The float 2 ^ 64 is an integer, and has no integer part; the decimal of the same value has
one. -/
theorem not_always_truncated :
    (float (.ofInt 18446744073709551616)).truncate = none ∧
      (decimal (.ofInt 18446744073709551616)).truncate = some (.integer 18446744073709551616) ∧
      ¬∀ (n : Number) (q : ℚ), n.value = Extended.ofRat q →
      n.truncate = some (.integer (towardZero q)) := by
  have hnone : (float (.ofInt 18446744073709551616)).truncate = none := by decide
  refine ⟨hnone, by decide, fun h => ?_⟩
  rw [h (.float (.ofInt 18446744073709551616)) _ value_ofInt_twoPow64] at hnone
  cases hnone

end Number
end Conform
