import Conform.Number.Shortest
import Mathlib.Algebra.Order.Field.Power
import Mathlib.Algebra.Order.Field.Rat
import Mathlib.Tactic.FieldSimp
import Mathlib.Tactic.Linarith
import Mathlib.Tactic.NormNum
import Mathlib.Tactic.Positivity
import Mathlib.Tactic.Ring

/-!
# What rounds to a binary64 number

A number `mantissa · 2 ^ exponent` is the rounding of everything in its cell: half a unit of the
last place to each side, a quarter below the least mantissa of a binade, the ends included when the
mantissa is even.  The arithmetic of the conversion is exact, so the cell is one of rational
numbers.

* `InCell` — the rationals in the cell of a number.
* `holds_cell_iff` — the integer test for decimals decides membership.
* `ofRatio_of_inCell`, `ofDecimal_of_inCell` — what is in the cell is rounded to the number.
-/

namespace Conform

/-! ## Powers -/

theorem cast_twoPow (k : Nat) : (twoPow k : ℚ) = 2 ^ k :=
  Nat.cast_pow 2 k

theorem cast_tenPow (k : Nat) : (tenPow k : ℚ) = 10 ^ k :=
  Nat.cast_pow 10 k

theorem zpow_of_nonneg {g : Int} (hg : 0 ≤ g) (b : ℚ) : b ^ g = b ^ g.toNat := by
  rw [← zpow_natCast, Int.toNat_of_nonneg hg]

theorem zpow_of_neg {g : Int} (hg : g < 0) (b : ℚ) : b ^ g = (b ^ (-g).toNat)⁻¹ := by
  rw [← zpow_natCast, Int.toNat_of_nonneg (by omega), zpow_neg, inv_inv]

namespace Binary64

/-! ## Rounding to a natural number -/

/-- What is half a unit or less away rounds to the natural number, a tie only to an even one. -/
theorem roundQuotient_eq {num den m : Nat} (hd : 0 < den) (hl : 2 * m * den ≤ 2 * num + den)
    (hu : 2 * num ≤ (2 * m + 1) * den)
    (tie : 2 * m * den = 2 * num + den ∨ 2 * num = (2 * m + 1) * den → m % 2 = 0) :
    roundQuotient num den = m := by
  have hdiv : den * (num / den) + num % den = num := Nat.div_add_mod num den
  have hr : num % den < den := Nat.mod_lt num hd
  unfold roundQuotient
  generalize num / den = q at hdiv ⊢
  generalize num % den = r at hdiv hr ⊢
  have hle : q ≤ m := by nlinarith
  have hge : m ≤ q + 1 := by nlinarith
  obtain rfl | rfl : m = q ∨ m = q + 1 := by omega
  · have hhalf : 2 * r ≤ den := by nlinarith
    have heven : 2 * r = den → m % 2 = 0 := fun h => tie (.inr (by nlinarith))
    simp only
    rw [if_neg (by omega)]
  · have hhalf : den ≤ 2 * r := by nlinarith
    have hodd : den = 2 * r → (q + 1) % 2 = 0 := fun h => tie (.inl (by nlinarith))
    simp only
    rw [if_pos (by omega)]

/-- The same for a ratio in units of a power of two. -/
theorem scaleRatio_eq {num den m : Nat} {e : Int} (hd : 0 < den)
    (hl : ((m : ℚ) - 1 / 2) * 2 ^ e ≤ num / den) (hu : (num / den : ℚ) ≤ (m + 1 / 2) * 2 ^ e)
    (tie : (num / den : ℚ) = (m - 1 / 2) * 2 ^ e ∨ (num / den : ℚ) = (m + 1 / 2) * 2 ^ e →
      m % 2 = 0) :
    scaleRatio num den e = m := by
  have hdq : (0 : ℚ) < den := by exact_mod_cast hd
  have key : ∀ num' den' : Nat, 0 < den' → (num' / den' : ℚ) * 2 ^ e = num / den →
      roundQuotient num' den' = m := by
    intro num' den' hd' hx
    have hdq' : (0 : ℚ) < den' := by exact_mod_cast hd'
    have hp : (0 : ℚ) < 2 ^ e := by positivity
    rw [← hx] at hl hu tie
    have hl' : (m : ℚ) - 1 / 2 ≤ num' / den' := le_of_mul_le_mul_right hl hp
    have hu' : (num' / den' : ℚ) ≤ m + 1 / 2 := le_of_mul_le_mul_right hu hp
    rw [le_div_iff₀ hdq'] at hl'
    rw [div_le_iff₀ hdq'] at hu'
    apply roundQuotient_eq hd'
    · have : (2 * m * den' : ℚ) ≤ 2 * num' + den' := by linarith
      exact_mod_cast this
    · have : (2 * num' : ℚ) ≤ (2 * m + 1) * den' := by linarith
      exact_mod_cast this
    · intro h
      apply tie
      rcases h with h | h
      · left
        have h' : (2 * m * den' : ℚ) = 2 * num' + den' := by exact_mod_cast h
        have : (num' / den' : ℚ) = m - 1 / 2 := by
          rw [div_eq_iff hdq'.ne']
          linarith
        rw [this]
      · right
        have h' : (2 * num' : ℚ) = (2 * m + 1) * den' := by exact_mod_cast h
        have : (num' / den' : ℚ) = m + 1 / 2 := by
          rw [div_eq_iff hdq'.ne']
          linarith
        rw [this]
  unfold scaleRatio
  split
  · next he =>
    apply key _ _ (Nat.mul_pos hd (twoPow_pos _))
    rw [Nat.cast_mul, cast_twoPow, zpow_of_nonneg he]
    field_simp
  · next he =>
    apply key _ _ hd
    rw [Nat.cast_mul, cast_twoPow, zpow_of_neg (by omega)]
    field_simp

/-- The logarithm is the place of the first binary digit. -/
theorem floorLog2_spec {num den : Nat} (hn : 0 < num) (hd : 0 < den) :
    (2 : ℚ) ^ floorLog2 num den ≤ num / den ∧ (num / den : ℚ) < 2 ^ (floorLog2 num den + 1) := by
  have hdq : (0 : ℚ) < den := by exact_mod_cast hd
  have hn1 : (2 : ℚ) ^ num.log2 ≤ num := by exact_mod_cast Nat.log2_self_le hn.ne'
  have hn2 : (num : ℚ) < 2 ^ (num.log2 + 1) := by exact_mod_cast Nat.lt_log2_self
  have hd1 : (2 : ℚ) ^ den.log2 ≤ den := by exact_mod_cast Nat.log2_self_le hd.ne'
  have hd2 : (den : ℚ) < 2 ^ (den.log2 + 1) := by exact_mod_cast Nat.lt_log2_self
  -- the difference `k` of the two logarithms is right or one too large
  set k : Int := (num.log2 : Int) - den.log2 with hk
  have hlow : (2 : ℚ) ^ (k - 1) ≤ num / den := by
    have hz : (2 : ℚ) ^ (k - 1) = 2 ^ num.log2 / 2 ^ (den.log2 + 1) := by
      rw [← zpow_natCast, ← zpow_natCast, ← zpow_sub₀ (by norm_num)]
      congr 1
      push_cast
      omega
    rw [hz]
    exact div_le_div₀ (by positivity) hn1 hdq hd2.le
  have hhigh : (num / den : ℚ) < 2 ^ (k + 1) := by
    have hz : (2 : ℚ) ^ (k + 1) = 2 ^ (num.log2 + 1) / 2 ^ den.log2 := by
      rw [← zpow_natCast, ← zpow_natCast, ← zpow_sub₀ (by norm_num)]
      congr 1
      push_cast
      omega
    rw [hz]
    exact div_lt_div₀ hn2 hd1 (by positivity) (by positivity)
  have hbelow : (if 0 ≤ k then num < den * twoPow k.toNat else num * twoPow (-k).toNat < den) ↔
      (num / den : ℚ) < 2 ^ k := by
    rw [div_lt_iff₀ hdq]
    split
    · next h =>
      rw [zpow_of_nonneg h, ← cast_twoPow, mul_comm, ← Nat.cast_mul, Nat.cast_lt]
    · next h =>
      rw [zpow_of_neg (by omega), ← cast_twoPow, inv_mul_eq_div,
        lt_div_iff₀ (by exact_mod_cast twoPow_pos _), ← Nat.cast_mul, Nat.cast_lt]
  unfold floorLog2
  simp only [← hk]
  by_cases h : (num / den : ℚ) < 2 ^ k
  · rw [if_pos (hbelow.2 h), Int.sub_add_cancel]
    exact ⟨hlow, h⟩
  · rw [if_neg (fun hb => h (hbelow.1 hb))]
    exact ⟨not_lt.1 h, hhigh⟩

/-- A ratio between two powers of two has its logarithm between their exponents. -/
theorem floorLog2_lt {num den : Nat} {k : Int} (hn : 0 < num) (hd : 0 < den)
    (h : (num / den : ℚ) < 2 ^ k) : floorLog2 num den < k :=
  (zpow_lt_zpow_iff_right₀ one_lt_two).1 ((floorLog2_spec hn hd).1.trans_lt h)

/-- The exponent of the leading bit is the greatest one whose power fits. -/
theorem le_floorLog2 {num den : Nat} {k : Int} (hn : 0 < num) (hd : 0 < den)
    (h : (2 : ℚ) ^ k ≤ num / den) : k ≤ floorLog2 num den :=
  Int.lt_add_one_iff.1
    ((zpow_lt_zpow_iff_right₀ one_lt_two).1 (h.trans_lt (floorLog2_spec hn hd).2))

/-! ## The cell of a number -/

/-- How far the cell reaches below the mantissa: half a unit, but a quarter at the least mantissa of
a binade, as the numbers below lie twice as close. -/
def gapBelow (mantissa : Nat) (exponent : Int) : ℚ :=
  if mantissa = twoPow 52 ∧ exponent ≠ -1074 then 1 / 4 else 1 / 2

/-- The gap below a float is at most half a unit. -/
theorem gapBelow_le (m : Nat) (e : Int) : gapBelow m e ≤ 1 / 2 := by
  unfold gapBelow
  split <;> norm_num

/-- The rationals that round to `mantissa · 2 ^ exponent`. -/
structure InCell (mantissa : Nat) (exponent : Int) (x : ℚ) : Prop where
  lower : (mantissa - gapBelow mantissa exponent) * 2 ^ exponent ≤ x
  upper : x ≤ (mantissa + 1 / 2) * 2 ^ exponent
  even : x = (mantissa - gapBelow mantissa exponent) * 2 ^ exponent ∨
    x = (mantissa + 1 / 2) * 2 ^ exponent → mantissa % 2 = 0

/-- What is canonical already is not rounded. -/
theorem ofScaled_canonical (negative : Bool) {m : Nat} {e : Int} (h : IsCanonical m e) :
    ofScaled negative m e = .finite negative m e h :=
  dif_pos h

/-- Rounding up to the next binade gives its least mantissa. -/
theorem ofScaled_carry (negative : Bool) {e : Int} (h : IsCanonical (twoPow 52) e) :
    ofScaled negative (twoPow 53) (e - 1) = .finite negative (twoPow 52) e h := by
  have hhalf : twoPow 53 / 2 = twoPow 52 := by decide
  have hexp : e - 1 + 1 = e := by omega
  have hnot : ¬ IsCanonical (twoPow 53) (e - 1) := fun hc => absurd hc.1 (Nat.lt_irrefl _)
  unfold ofScaled
  rw [dif_neg hnot]
  simp only [hhalf, hexp]
  rw [dif_pos h]

theorem zpow_add_ofNat (e : Int) (k : Nat) [k.AtLeastTwo] :
    (2 : ℚ) ^ (e + (OfNat.ofNat k : Int)) = 2 ^ (OfNat.ofNat k : Nat) * 2 ^ e := by
  rw [zpow_add₀ two_ne_zero, mul_comm]
  rfl

/-- Of the numbers of a binade only the least has anything below the binade in its cell. -/
theorem eq_of_lt_binade {m : Nat} {e : Int} {x : ℚ} (h : IsCanonical m e) (he : e ≠ -1074)
    (hl : ((m : ℚ) - 1 / 2) * 2 ^ e ≤ x) (hx : x < 2 ^ (e + 52)) : m = twoPow 52 := by
  have hp : (0 : ℚ) < 2 ^ e := by positivity
  rw [zpow_add_ofNat] at hx
  have hlt : (m : ℚ) - 1 / 2 < 2 ^ 52 := lt_of_mul_lt_mul_right (hl.trans_lt hx) hp.le
  have hle : m ≤ twoPow 52 := by
    by_contra hgt
    have : (twoPow 52 : ℚ) + 1 ≤ m := by exact_mod_cast not_le.1 hgt
    rw [cast_twoPow] at this
    linarith
  exact Nat.le_antisymm hle (h.2.2.2.resolve_right he)

/-- **What is in the cell of a number is rounded to it.** -/
theorem ofRatio_of_inCell (negative : Bool) {num den m : Nat} {e : Int} (h : IsCanonical m e)
    (hn : 0 < num) (hd : 0 < den) (hx : InCell m e (num / den)) :
    ofRatio negative num den = .finite negative m e h := by
  have hp : (0 : ℚ) < 2 ^ e := by positivity
  have h53 : (twoPow 53 : ℚ) = 2 ^ 53 := cast_twoPow 53
  have h52 : (twoPow 52 : ℚ) = 2 ^ 52 := cast_twoPow 52
  have hm : (m : ℚ) + 1 ≤ 2 ^ 53 := by
    rw [← h53]
    exact_mod_cast h.1
  have hlog : floorLog2 num den < e + 53 := by
    apply floorLog2_lt hn hd
    rw [zpow_add_ofNat]
    exact hx.upper.trans_lt (mul_lt_mul_of_pos_right (by linarith) hp)
  have hhalf : ((m : ℚ) - 1 / 2) * 2 ^ e ≤ num / den :=
    (mul_le_mul_of_nonneg_right (by linarith [gapBelow_le m e]) hp.le).trans hx.lower
  unfold ofRatio
  rw [if_neg hn.ne']
  simp only
  -- below the least mantissa of a binade the unit is half as large
  by_cases hbinade : e ≠ -1074 ∧ (num / den : ℚ) < 2 ^ (e + 52)
  · obtain ⟨he, hlt⟩ := hbinade
    obtain rfl := eq_of_lt_binade h he hhalf hlt
    have hgap : gapBelow (twoPow 52) e = 1 / 4 := if_pos ⟨rfl, he⟩
    have hlow : ((2 : ℚ) ^ 52 - 1 / 4) * 2 ^ e ≤ num / den := by
      have := hx.lower
      rwa [hgap, h52] at this
    have hexp : max (floorLog2 num den) (-1022) - 52 = e - 1 := by
      have := floorLog2_lt hn hd hlt
      have hge : e + 51 ≤ floorLog2 num den := by
        apply le_floorLog2 hn hd
        rw [zpow_add_ofNat]
        exact (mul_le_mul_of_nonneg_right (by norm_num) hp.le).trans hlow
      have := h.2.1
      omega
    have hunit : (2 : ℚ) ^ (e - 1) = 2 ^ e / 2 := zpow_sub_one₀ two_ne_zero e
    rw [zpow_add_ofNat] at hlt
    have hscale : scaleRatio num den (e - 1) = twoPow 53 := by
      apply scaleRatio_eq hd
      · rw [h53, hunit]
        linarith
      · rw [h53, hunit]
        linarith
      · intro _
        decide
    rw [hexp, hscale, ofScaled_carry]
  · have hexp : max (floorLog2 num den) (-1022) - 52 = e := by
      by_cases he : e = -1074
      · omega
      · have hge := le_floorLog2 hn hd (not_lt.1 fun hlt => hbinade ⟨he, hlt⟩)
        have := h.2.1
        omega
    have hscale : scaleRatio num den e = m := by
      apply scaleRatio_eq hd hhalf hx.upper
      rintro (heq | heq)
      · by_cases hg : m = twoPow 52 ∧ e ≠ -1074
        · rw [hg.1]
          decide
        · apply hx.even
          left
          rw [gapBelow, if_neg hg]
          exact heq
      · exact hx.even (.inr heq)
    rw [hexp, hscale, ofScaled_canonical]

/-- Magnitudes below the smallest power of ten that is converted are less than half the least
float, -/
theorem decimal_underflow : (10 : ℚ) ^ (-330 : Int) ≤ 1 / 2 * 2 ^ (-1074 : Int) := by
  have hnat : (2 ^ 1075 : Nat) ≤ 10 ^ 330 := by decide +kernel
  have hcast : (2 : ℚ) ^ 1075 ≤ 10 ^ 330 := by exact_mod_cast hnat
  have hinv : (1 / 2 * 2 ^ (-1074 : Int) : ℚ) = (2 ^ 1075)⁻¹ := by
    rw [pow_succ, mul_inv, zpow_neg, one_div, mul_comm]
    rfl
  rw [hinv, zpow_neg]
  exact inv_anti₀ (by positivity) hcast

/-- and those from the greatest one on are beyond all floats. -/
theorem decimal_overflow : (2 : ℚ) ^ 53 * 2 ^ (971 : Int) < 10 ^ (310 : Int) := by
  have hnat : (2 ^ 53 * 2 ^ 971 : Nat) < 10 ^ 310 := by decide +kernel
  exact_mod_cast hnat

/-- A cell of a positive number lies well inside the powers of ten that are converted. -/
theorem InCell.bounds {m : Nat} {e : Int} {x : ℚ} (h : IsCanonical m e) (hm : m ≠ 0)
    (hx : InCell m e x) : (10 : ℚ) ^ (-330 : Int) ≤ x ∧ x < 10 ^ (310 : Int) := by
  have hp : (0 : ℚ) < 2 ^ e := by positivity
  constructor
  · have hm1 : (1 : ℚ) ≤ m := by exact_mod_cast Nat.one_le_iff_ne_zero.2 hm
    have hmin : (2 : ℚ) ^ (-1074 : Int) ≤ 2 ^ e := zpow_le_zpow_right₀ one_le_two h.2.1
    have hgap := gapBelow_le m e
    calc (10 : ℚ) ^ (-330 : Int) ≤ 1 / 2 * 2 ^ (-1074 : Int) := decimal_underflow
      _ ≤ 1 / 2 * 2 ^ e := by linarith
      _ ≤ (m - gapBelow m e) * 2 ^ e := mul_le_mul_of_nonneg_right (by linarith) hp.le
      _ ≤ x := hx.lower
  · have hm53 : (m : ℚ) + 1 ≤ 2 ^ 53 := by
      rw [← cast_twoPow]
      exact_mod_cast h.1
    have hmax : (2 : ℚ) ^ e ≤ 2 ^ (971 : Int) := zpow_le_zpow_right₀ one_le_two h.2.2.1
    calc x ≤ (m + 1 / 2) * 2 ^ e := hx.upper
      _ ≤ 2 ^ 53 * 2 ^ e := mul_le_mul_of_nonneg_right (by linarith) hp.le
      _ ≤ 2 ^ 53 * 2 ^ (971 : Int) := mul_le_mul_of_nonneg_left hmax (by norm_num)
      _ < 10 ^ (310 : Int) := decimal_overflow

/-- The count of the digits in front of the point bounds a decimal on both sides. -/
theorem decimal_bounds {n : Nat} (hn : 0 < n) (g : Int) :
    (10 : ℚ) ^ ((Nat.toDigits 10 n).length + g - 1) ≤ n * 10 ^ g ∧
      (n * 10 ^ g : ℚ) < 10 ^ ((Nat.toDigits 10 n).length + g) := by
  have hpos := Nat.length_toDigits_pos (b := 10) (n := n)
  have hten : (0 : ℚ) < 10 ^ g := by positivity
  have hlt : (n : ℚ) < 10 ^ ((Nat.toDigits 10 n).length : Int) := by
    rw [zpow_natCast]
    exact_mod_cast (Nat.length_toDigits_le_iff (by decide) hpos).1 (Nat.le_refl _)
  have hle : (10 : ℚ) ^ ((Nat.toDigits 10 n).length - 1 : Int) ≤ n := by
    have hcast :
        ((Nat.toDigits 10 n).length - 1 : Int) = ((Nat.toDigits 10 n).length - 1 : Nat) := by
      omega
    rw [hcast, zpow_natCast]
    by_cases hone : (Nat.toDigits 10 n).length = 1
    · rw [hone]
      exact_mod_cast hn
    · have := (Nat.length_toDigits_le_iff (b := 10) (n := n) (by decide)
        (show 0 < (Nat.toDigits 10 n).length - 1 by omega)).not.1 (by omega)
      exact_mod_cast not_lt.1 this
  constructor
  · rw [show (Nat.toDigits 10 n).length + g - 1 =
      ((Nat.toDigits 10 n).length - 1 : Int) + g by omega, zpow_add₀ (by norm_num)]
    exact mul_le_mul_of_nonneg_right hle hten.le
  · rw [zpow_add₀ (by norm_num)]
    exact mul_lt_mul_of_pos_right hlt hten

/-- **A decimal in the cell of a number is read as the number.** -/
theorem ofDecimal_of_inCell (negative : Bool) {n m : Nat} {g e : Int} (h : IsCanonical m e)
    (hm : m ≠ 0) (hx : InCell m e (n * 10 ^ g)) :
    ofDecimal negative n g = .finite negative m e h := by
  obtain ⟨hlow, hhigh⟩ := hx.bounds h hm
  have hn : 0 < n := by
    rcases Nat.eq_zero_or_pos n with rfl | hn
    · have hpos : (0 : ℚ) < 10 ^ (-330 : Int) := by positivity
      rw [Nat.cast_zero, zero_mul] at hlow
      exact absurd hlow (not_le.2 hpos)
    · exact hn
  obtain ⟨hwidth, hwidth'⟩ := decimal_bounds hn g
  have hmax : ((Nat.toDigits 10 n).length + g - 1 : Int) < 310 :=
    (zpow_lt_zpow_iff_right₀ (by norm_num)).1 (hwidth.trans_lt hhigh)
  have hmin : (-330 : Int) < (Nat.toDigits 10 n).length + g :=
    (zpow_lt_zpow_iff_right₀ (by norm_num)).1 (hlow.trans_lt hwidth')
  unfold ofDecimal
  rw [if_neg hn.ne']
  simp only
  rw [if_neg (by omega), if_neg (by omega)]
  split
  · next hg =>
    apply ofRatio_of_inCell negative h (Nat.mul_pos hn (tenPow_pos _)) Nat.one_pos
    rwa [Nat.cast_mul, cast_tenPow, ← zpow_of_nonneg hg, Nat.cast_one, div_one]
  · next hg =>
    apply ofRatio_of_inCell negative h hn (tenPow_pos _)
    rwa [cast_tenPow, div_eq_mul_inv, ← zpow_of_neg (by omega)]

/-! ## The test for decimals -/

/-- A number lies in a cell exactly if it is between the bounds, which count if the cell is
closed. -/
theorem Cell.holds_iff (c : Cell) (hd : 0 < c.den) (n : Nat) (g : Int) :
    c.holds n g = true ↔
      if c.closed then (c.lower / c.den : ℚ) ≤ n * 10 ^ g ∧ (n * 10 ^ g : ℚ) ≤ c.upper / c.den
      else (c.lower / c.den : ℚ) < n * 10 ^ g ∧ (n * 10 ^ g : ℚ) < c.upper / c.den := by
  have hdq : (0 : ℚ) < c.den := by exact_mod_cast hd
  -- both sides of each comparison are scaled to natural numbers
  obtain ⟨x, scale, hscale, hx, hdef⟩ : ∃ x scale : Nat, 0 < scale ∧
      (n * 10 ^ g : ℚ) = x / (c.den * scale) ∧ c.holds n g =
        if c.closed then c.lower * scale ≤ x && x ≤ c.upper * scale
        else c.lower * scale < x && x < c.upper * scale := by
    by_cases hg : 0 ≤ g
    · refine ⟨n * tenPow g.toNat * c.den, 1, Nat.one_pos, ?_, ?_⟩
      · rw [Nat.cast_mul, Nat.cast_mul, cast_tenPow, zpow_of_nonneg hg, Nat.cast_one]
        field_simp
      · simp [Cell.holds, hg]
    · refine ⟨n * c.den, tenPow (-g).toNat, tenPow_pos _, ?_, ?_⟩
      · rw [Nat.cast_mul, cast_tenPow, zpow_of_neg (by omega)]
        field_simp
      · simp [Cell.holds, hg]
  have hsq : (0 : ℚ) < scale := by exact_mod_cast hscale
  have hle : ∀ a : Nat, (a / c.den : ℚ) ≤ x / (c.den * scale) ↔ a * scale ≤ x := by
    intro a
    rw [div_le_div_iff₀ hdq (by positivity), ← mul_assoc, mul_right_comm, mul_le_mul_iff_left₀ hdq]
    exact_mod_cast Iff.rfl
  have hge : ∀ a : Nat, (x / (c.den * scale) : ℚ) ≤ a / c.den ↔ x ≤ a * scale := by
    intro a
    rw [div_le_div_iff₀ (by positivity) hdq, ← mul_assoc, mul_right_comm, mul_le_mul_iff_left₀ hdq]
    exact_mod_cast Iff.rfl
  rw [hdef, hx]
  split
  · rw [Bool.and_eq_true, decide_eq_true_eq, decide_eq_true_eq, hle, hge]
  · rw [Bool.and_eq_true, decide_eq_true_eq, decide_eq_true_eq, ← not_le, ← not_le, ← not_le,
      ← not_le, hle, hge]

theorem cell_den_pos (m : Nat) (e : Int) : 0 < (cell m e).den := by
  unfold cell
  simp only
  split
  · decide
  · exact Nat.mul_pos (by decide) (twoPow_pos _)

/-- The ends and the middle of a cell have four times the number as numerators. -/
theorem cell_scale (m : Nat) (e : Int) : ∃ scale : Nat,
    (scale / (cell m e).den : ℚ) = 2 ^ e / 4 ∧ (cell m e).value = 4 * m * scale ∧
      (cell m e).upper = (4 * m + 2) * scale ∧
      (cell m e).lower = (4 * m - if m = twoPow 52 ∧ e ≠ -1074 then 1 else 2) * scale := by
  by_cases he : 0 ≤ e
  · refine ⟨twoPow e.toNat, ?_, ?_, ?_, ?_⟩
    · have hden : (cell m e).den = 4 := by simp [cell, he]
      rw [hden, cast_twoPow, zpow_of_nonneg he]
      rfl
    · simp [cell, he]
    · simp [cell, he]
    · simp [cell, he]
  · refine ⟨1, ?_, ?_, ?_, ?_⟩
    · have hden : (cell m e).den = 4 * twoPow (-e).toNat := by simp [cell, he]
      rw [hden, Nat.cast_mul, cast_twoPow, zpow_of_neg (by omega), Nat.cast_one]
      field_simp
      norm_num
    · simp [cell, he]
    · simp [cell, he]
    · simp [cell, he]

/-- The upper bound of a cell is half a unit above its float. -/
theorem cell_upper (m : Nat) (e : Int) :
    ((cell m e).upper / (cell m e).den : ℚ) = (m + 1 / 2) * 2 ^ e := by
  obtain ⟨scale, hscale, -, hupper, -⟩ := cell_scale m e
  rw [hupper, Nat.cast_mul, mul_div_assoc, hscale]
  push_cast
  ring

/-- The lower bound of a cell is below its float by the gap there. -/
theorem cell_lower {m : Nat} (hm : m ≠ 0) (e : Int) :
    ((cell m e).lower / (cell m e).den : ℚ) = (m - gapBelow m e) * 2 ^ e := by
  obtain ⟨scale, hscale, -, -, hlower⟩ := cell_scale m e
  rw [hlower, Nat.cast_mul, mul_div_assoc, hscale, gapBelow]
  split
  · rw [Nat.cast_sub (by omega)]
    push_cast
    ring
  · rw [Nat.cast_sub (by omega)]
    push_cast
    ring

/-- The value of a cell is its float. -/
theorem cell_value (m : Nat) (e : Int) :
    ((cell m e).value / (cell m e).den : ℚ) = m * 2 ^ e := by
  obtain ⟨scale, hscale, hvalue, -, -⟩ := cell_scale m e
  rw [hvalue, Nat.cast_mul, mul_div_assoc, hscale]
  push_cast
  ring

/-- **The test decides whether a decimal is in the cell.** -/
theorem holds_cell_iff {m : Nat} (hm : m ≠ 0) (e : Int) (n : Nat) (g : Int) :
    (cell m e).holds n g = true ↔ InCell m e (n * 10 ^ g) := by
  have hclosed : (cell m e).closed = decide (m % 2 = 0) := rfl
  rw [Cell.holds_iff _ (cell_den_pos m e), cell_lower hm, cell_upper, hclosed]
  by_cases heven : m % 2 = 0
  · simp only [heven, decide_true, if_true]
    constructor
    · rintro ⟨hl, hu⟩
      exact ⟨hl, hu, fun _ => heven⟩
    · intro hx
      exact ⟨hx.lower, hx.upper⟩
  · simp only [heven, decide_false]
    rw [if_neg Bool.false_ne_true]
    constructor
    · rintro ⟨hl, hu⟩
      refine ⟨hl.le, hu.le, ?_⟩
      rintro (h | h)
      · exact absurd h hl.ne'
      · exact absurd h hu.ne
    · intro hx
      exact ⟨lt_of_le_of_ne hx.lower fun h => heven (hx.even (.inl h.symm)),
        lt_of_le_of_ne hx.upper fun h => heven (hx.even (.inr h))⟩

end Binary64

end Conform
