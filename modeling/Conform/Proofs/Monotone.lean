import Conform.Number
import Conform.Proofs.Rounding

/-!
# Rounding keeps the order

A number that is not greater than another one is not rounded to a greater float: within a binade the
nearest multiples of the unit are in order, and between two binades lies a power of two, which is
rounded to itself.

* `Binary64.place` — where a float lies among the rationals, the infinities just beyond the finite
  ones; `Binary64.compare?_eq` — floats are compared by their places.
* `Binary64.RoundsTo` — the place to which a rational of either sign is rounded.
* `Binary64.RoundsTo.mono` — places are in the order of what was rounded.
* `Binary64.roundsTo_ofInt`, `Decimal.roundsTo_toBinary64` — integers and decimals are rounded so.
* `Decimal.compare_eq` — decimals are compared by the rationals they stand for.
-/

namespace Conform

namespace Binary64

/-! ## The nearest natural number -/

/-- The natural number nearest to a rational; of two that are equally near the even one. -/
structure Nearest (x : ℚ) (m : Nat) : Prop where
  lower : (m : ℚ) - 1 / 2 ≤ x
  upper : x ≤ m + 1 / 2
  even : x = m - 1 / 2 ∨ x = m + 1 / 2 → m % 2 = 0

/-- A natural number is nearest to itself. -/
theorem nearest_natCast (m : Nat) : Nearest m m where
  lower := by linarith
  upper := by linarith
  even := by
    rintro (h | h) <;> linarith

/-- Were the nearest numbers in the wrong order, both would be neighbours of the same half and
even. -/
theorem Nearest.mono {x y : ℚ} {m n : Nat} (hx : Nearest x m) (hy : Nearest y n) (hxy : x ≤ y) :
    m ≤ n := by
  by_contra hlt
  have hcast : (n : ℚ) + 1 ≤ m := by exact_mod_cast not_le.1 hlt
  have hlow := hx.lower
  have hhigh := hy.upper
  have hm : (m : ℚ) = n + 1 := by linarith
  have hevenm := hx.even (.inl (by linarith))
  have hevenn := hy.even (.inr (by linarith))
  have hsucc : m = n + 1 := by exact_mod_cast hm
  omega

/-- The quotient is rounded to the nearest natural number. -/
theorem nearest_roundQuotient {num den : Nat} (hd : 0 < den) :
    Nearest (num / den) (roundQuotient num den) := by
  have hdq : (0 : ℚ) < den := by exact_mod_cast hd
  have hdiv : (den * (num / den : Nat) + (num % den : Nat) : ℚ) = num := by
    exact_mod_cast Nat.div_add_mod num den
  have hr : num % den < den := Nat.mod_lt num hd
  unfold roundQuotient
  generalize num / den = q at hdiv ⊢
  generalize num % den = r at hdiv hr ⊢
  have hx : (num / den : ℚ) = q + r / den := by
    rw [← hdiv]
    field_simp
  -- the remainder compared to half the denominator
  have hlt : (r / den : ℚ) < 1 / 2 ↔ 2 * r < den := by
    rw [div_lt_div_iff₀ hdq two_pos, one_mul, mul_comm]
    exact_mod_cast Iff.rfl
  have heq : (r / den : ℚ) = 1 / 2 ↔ 2 * r = den := by
    rw [div_eq_div_iff hdq.ne' two_ne_zero, one_mul, mul_comm]
    exact_mod_cast Iff.rfl
  have hnonneg : (0 : ℚ) ≤ r / den := by positivity
  have hone : (r / den : ℚ) < 1 := (div_lt_one hdq).2 (by exact_mod_cast hr)
  rw [hx]
  generalize (r / den : ℚ) = f at hlt heq hnonneg hone ⊢
  dsimp only
  split
  · next h =>
    have hhalf : 1 / 2 ≤ f := not_lt.1 fun hf => by
      have := hlt.1 hf
      omega
    refine ⟨by push_cast; linarith, by push_cast; linarith, ?_⟩
    rintro (hf | hf)
    · push_cast at hf
      have := heq.1 (by linarith)
      omega
    · push_cast at hf
      linarith
  · next h =>
    have hhalf : f ≤ 1 / 2 := by
      rcases lt_trichotomy (2 * r) den with h2 | h2 | h2
      · exact (hlt.2 h2).le
      · exact (heq.2 h2).le
      · exact absurd (.inl h2) h
    refine ⟨by linarith, by linarith, ?_⟩
    rintro (hf | hf)
    · linarith
    · have := heq.1 (by linarith)
      omega

/-- The same for a ratio in units of a power of two. -/
theorem nearest_scaleRatio {num den : Nat} (hd : 0 < den) (e : Int) :
    Nearest (num / den / 2 ^ e) (scaleRatio num den e) := by
  unfold scaleRatio
  split
  · next he =>
    have hx : (num / den / 2 ^ e : ℚ) = num / (den * twoPow e.toNat : Nat) := by
      rw [Nat.cast_mul, cast_twoPow, zpow_of_nonneg he, div_div]
    rw [hx]
    exact nearest_roundQuotient (Nat.mul_pos hd (twoPow_pos _))
  · next he =>
    have hx : (num / den / 2 ^ e : ℚ) = (num * twoPow (-e).toNat : Nat) / den := by
      rw [Nat.cast_mul, cast_twoPow, zpow_of_neg (by omega), div_inv_eq_mul, div_mul_eq_mul_div]
    rw [hx]
    exact nearest_roundQuotient hd

/-! ## The place of a float -/

/-- A magnitude with a sign. -/
def signed (negative : Bool) (x : ℚ) : ℚ :=
  if negative then -x else x

/-- The least power of two that is no float. -/
@[irreducible]
def overflow : ℚ :=
  2 ^ (1024 : Int)

theorem overflow_pos : 0 < overflow := by
  unfold overflow
  positivity

theorem overflow_eq : (2 : ℚ) ^ 53 * 2 ^ (971 : Int) = overflow := by
  unfold overflow
  exact (zpow_add_ofNat 971 53).symm

/-- Where a float lies among the rationals.  The infinities lie where the finite floats end. -/
def place : Binary64 → ℚ
  | .nan => 0
  | .infinite negative => signed negative overflow
  | .finite negative m e _ => signed negative (m * 2 ^ e)

/-- The infinities lie beyond all finite floats. -/
theorem lt_infinite {m : Nat} {e : Int} (h : IsCanonical m e) : (m * 2 ^ e : ℚ) < overflow := by
  have hm : (m : ℚ) < 2 ^ 53 := by
    rw [← cast_twoPow]
    exact_mod_cast h.1
  calc (m * 2 ^ e : ℚ) < 2 ^ 53 * 2 ^ e := mul_lt_mul_of_pos_right hm (by positivity)
    _ ≤ 2 ^ 53 * 2 ^ (971 : Int) :=
      mul_le_mul_of_nonneg_left (zpow_le_zpow_right₀ one_le_two h.2.2.1) (by norm_num)
    _ = overflow := overflow_eq

/-- A finite float is less than the bound of overflow. -/
theorem abs_finite_lt (negative : Bool) {m : Nat} {e : Int} (h : IsCanonical m e) :
    |signed negative (m * 2 ^ e)| < overflow := by
  have hnonneg : (0 : ℚ) ≤ m * 2 ^ e := by positivity
  cases negative with
  | false => exact (abs_of_nonneg hnonneg).trans_lt (lt_infinite h)
  | true => exact (abs_neg _).trans_lt ((abs_of_nonneg hnonneg).trans_lt (lt_infinite h))

/-- A finite float counts units of `2 ^ -1074`. -/
theorem cast_units (negative : Bool) (m : Nat) {e : Int} (he : -1074 ≤ e) :
    (units negative m e : ℚ) = signed negative (m * 2 ^ e) * 2 ^ (1074 : Int) := by
  have hmagnitude : ((m * twoPow (e + 1074).toNat : Nat) : ℚ) = m * 2 ^ e * 2 ^ (1074 : Int) := by
    rw [Nat.cast_mul, cast_twoPow, ← zpow_of_nonneg (by omega), zpow_add₀ two_ne_zero, mul_assoc]
  unfold units signed
  cases negative with
  | false => exact hmagnitude
  | true => simp only [if_true, Int.cast_neg, Int.cast_natCast, hmagnitude, neg_mul]

/-- **Floats are compared by their places.** -/
theorem compare?_eq {x y : Binary64} (hx : x ≠ .nan) (hy : y ≠ .nan) :
    x.compare? y = some (cmp x.place y.place) := by
  cases x with
  | nan => exact absurd rfl hx
  | infinite a =>
    cases y with
    | nan => exact absurd rfl hy
    | infinite b =>
      have hlt : -overflow < overflow := neg_lt_self overflow_pos
      cases a <;> cases b
      · exact congrArg some (cmp_self_eq_eq overflow).symm
      · exact congrArg some ((cmp_eq_gt_iff _ _).2 hlt).symm
      · exact congrArg some ((cmp_eq_lt_iff _ _).2 hlt).symm
      · exact congrArg some (cmp_self_eq_eq (-overflow)).symm
    | finite b n f hf =>
      obtain ⟨hlow, hhigh⟩ := abs_lt.1 (abs_finite_lt b hf)
      cases a with
      | true => exact congrArg some ((cmp_eq_lt_iff _ _).2 hlow).symm
      | false => exact congrArg some ((cmp_eq_gt_iff _ _).2 hhigh).symm
  | finite a m e he =>
    cases y with
    | nan => exact absurd rfl hy
    | infinite b =>
      obtain ⟨hlow, hhigh⟩ := abs_lt.1 (abs_finite_lt a he)
      cases b with
      | true => exact congrArg some ((cmp_eq_gt_iff _ _).2 hlow).symm
      | false => exact congrArg some ((cmp_eq_lt_iff _ _).2 hhigh).symm
    | finite b n f hf =>
      refine congrArg some ?_
      have hunit : (0 : ℚ) < 2 ^ (1074 : Int) := by positivity
      rw [← cmp_mul_pos_right hunit]
      rw [place, place, ← cast_units a m he.2.1, ← cast_units b n hf.2.1,
        Int.cast_strictMono.cmp_map_eq]
      exact (cmp_eq_compare _ _).symm

/-! ## Rounding -/

/-- The binade of a magnitude: its unit of the last place is `2 ^ e`. -/
structure InBinade (x : ℚ) (e : Int) : Prop where
  least : -1074 ≤ e
  upper : x < 2 ^ (e + 53)
  lower : e = -1074 ∨ (2 : ℚ) ^ (e + 52) ≤ x

/-- The place of the float nearest to a magnitude. -/
def MagnitudeRoundsTo (x y : ℚ) : Prop :=
  ∃ (m : Nat) (e : Int), InBinade x e ∧ Nearest (x / 2 ^ e) m ∧ y = min ((m : ℚ) * 2 ^ e) overflow

/-- Greater magnitudes lie in the same binade or a higher one. -/
theorem InBinade.mono {x y : ℚ} {e f : Int} (hx : InBinade x e) (hy : InBinade y f) (hxy : x ≤ y) :
    e ≤ f := by
  by_contra hlt
  rcases hx.lower with he | he
  · exact hlt (he ▸ hy.least)
  · have hpow : (2 : ℚ) ^ (e + 52) < 2 ^ (f + 53) := (he.trans hxy).trans_lt hy.upper
    have := (zpow_lt_zpow_iff_right₀ one_lt_two).1 hpow
    omega

/-- A mantissa has at most the value where the next binade begins, -/
theorem Nearest.le_of_inBinade {x : ℚ} {m : Nat} {e : Int} (hb : InBinade x e)
    (hn : Nearest (x / 2 ^ e) m) : m ≤ 2 ^ 53 := by
  refine hn.mono (nearest_natCast (2 ^ 53)) ?_
  have hupper := hb.upper.le
  rw [zpow_add_ofNat] at hupper
  rw [div_le_iff₀ (by positivity)]
  exact_mod_cast hupper

/-- and at least the value where its own binade begins, the lowest binade aside. -/
theorem Nearest.ge_of_inBinade {x : ℚ} {m : Nat} {e : Int} (hb : InBinade x e)
    (hn : Nearest (x / 2 ^ e) m) (he : e ≠ -1074) : 2 ^ 52 ≤ m := by
  refine (nearest_natCast (2 ^ 52)).mono hn ?_
  have hlower := hb.lower.resolve_left he
  rw [zpow_add_ofNat] at hlower
  rw [le_div_iff₀ (by positivity)]
  exact_mod_cast hlower

/-- **Magnitudes are rounded in order.** -/
theorem MagnitudeRoundsTo.mono {x x' y y' : ℚ} (h : MagnitudeRoundsTo x y)
    (h' : MagnitudeRoundsTo x' y') (hxx : x ≤ x') : y ≤ y' := by
  obtain ⟨m, e, hb, hn, hy⟩ := h
  obtain ⟨m', e', hb', hn', hy'⟩ := h'
  rw [hy, hy']
  refine min_le_min_right overflow ?_
  rcases (hb.mono hb' hxx).eq_or_lt with rfl | hlt
  · have hm : (m : ℚ) ≤ m' := by
      exact_mod_cast hn.mono hn' (div_le_div_of_nonneg_right hxx (by positivity))
    exact mul_le_mul_of_nonneg_right hm (by positivity)
  · have hm : (m : ℚ) ≤ 2 ^ 53 := by exact_mod_cast hn.le_of_inBinade hb
    have hm' : (2 : ℚ) ^ 52 ≤ m' := by
      have := hb.least
      exact_mod_cast hn'.ge_of_inBinade hb' (by omega)
    calc (m * 2 ^ e : ℚ) ≤ 2 ^ 53 * 2 ^ e := mul_le_mul_of_nonneg_right hm (by positivity)
      _ = 2 ^ 52 * 2 ^ (e + 1) := by rw [zpow_add_one₀ two_ne_zero]; ring
      _ ≤ 2 ^ 52 * 2 ^ e' :=
        mul_le_mul_of_nonneg_left (zpow_le_zpow_right₀ one_le_two hlt) (by norm_num)
      _ ≤ m' * 2 ^ e' := mul_le_mul_of_nonneg_right hm' (by positivity)

/-- A magnitude is rounded to one that is not negative. -/
theorem MagnitudeRoundsTo.nonneg {x y : ℚ} (h : MagnitudeRoundsTo x y) : 0 ≤ y := by
  obtain ⟨m, e, -, -, hy⟩ := h
  rw [hy]
  exact le_min (by positivity) overflow_pos.le

theorem magnitudeRoundsTo_zero : MagnitudeRoundsTo 0 0 := by
  refine ⟨0, -1074, ⟨le_rfl, by positivity, .inl rfl⟩, ?_, ?_⟩
  · simpa using nearest_natCast 0
  · rw [Nat.cast_zero, zero_mul, min_eq_left overflow_pos.le]

/-- The place of a rounded mantissa with its exponent: one that is too large is cut off. -/
theorem place_ofScaled (negative : Bool) {m : Nat} {e : Int} (he : -1074 ≤ e) (hm : m ≤ 2 ^ 53)
    (hlow : e ≠ -1074 → 2 ^ 52 ≤ m) :
    (ofScaled negative m e).place = signed negative (min ((m : ℚ) * 2 ^ e) overflow) := by
  have h53 : twoPow 53 = 2 ^ 53 := rfl
  have h52 : twoPow 52 = 2 ^ 52 := rfl
  by_cases hc : IsCanonical m e
  · rw [ofScaled_canonical negative hc, place, min_eq_left (lt_infinite hc).le]
  · by_cases hcarry : m = 2 ^ 53 ∧ e < 971
    · obtain ⟨rfl, he971⟩ := hcarry
      have hnext : IsCanonical (twoPow 52) (e + 1) := by
        refine ⟨by decide, by omega, by omega, .inl le_rfl⟩
      have hvalue : ((2 ^ 53 : Nat) : ℚ) * 2 ^ e = twoPow 52 * 2 ^ (e + 1) := by
        rw [zpow_add_one₀ two_ne_zero, cast_twoPow]
        push_cast
        ring
      have hscaled := ofScaled_carry negative hnext
      rw [Int.add_sub_cancel, h53] at hscaled
      rw [hscaled, place, hvalue, min_eq_left (lt_infinite hnext).le]
    · -- neither the mantissa nor the exponent leaves room for a finite float
      have hlarge : overflow ≤ (m : ℚ) * 2 ^ e := by
        rw [← overflow_eq]
        unfold IsCanonical at hc
        rcases hm.eq_or_lt with rfl | hlt
        · rw [Nat.cast_pow, Nat.cast_ofNat]
          exact mul_le_mul_of_nonneg_left (zpow_le_zpow_right₀ one_le_two (by omega)) (by norm_num)
        · have hmq : (2 : ℚ) ^ 52 ≤ m := by exact_mod_cast hlow (by omega)
          calc (2 : ℚ) ^ 53 * 2 ^ (971 : Int) = 2 ^ 52 * 2 ^ (971 + 1 : Int) := by
                rw [zpow_add_one₀ two_ne_zero]
                ring
            _ ≤ 2 ^ 52 * 2 ^ e :=
              mul_le_mul_of_nonneg_left (zpow_le_zpow_right₀ one_le_two (by omega)) (by norm_num)
            _ ≤ m * 2 ^ e := mul_le_mul_of_nonneg_right hmq (by positivity)
      have hinfinite : ofScaled negative m e = .infinite negative := by
        unfold ofScaled
        rw [dif_neg hc, dif_neg]
        intro h
        unfold IsCanonical at hc h
        omega
      rw [hinfinite, place, min_eq_right hlarge]

/-- Scaling never gives a NaN. -/
theorem ofScaled_ne_nan (negative : Bool) (m : Nat) (e : Int) : ofScaled negative m e ≠ .nan := by
  unfold ofScaled
  split
  · exact Binary64.noConfusion
  · split <;> exact Binary64.noConfusion

/-- A conversion that gives the float at the place of the rounded magnitude, with the sign. -/
def Rounds (negative : Bool) (x : ℚ) (b : Binary64) : Prop :=
  b ≠ .nan ∧ ∃ y, MagnitudeRoundsTo x y ∧ b.place = signed negative y

/-- Zero is rounded to the zero of either sign. -/
theorem rounds_zero (negative : Bool) : Rounds negative 0 (zero negative) := by
  refine ⟨nofun, 0, magnitudeRoundsTo_zero, ?_⟩
  rw [zero, place, Nat.cast_zero, zero_mul]

/-- Ratios are rounded to the nearest float. -/
theorem rounds_ofRatio (negative : Bool) (num : Nat) {den : Nat} (hd : 0 < den) :
    Rounds negative (num / den) (ofRatio negative num den) := by
  rcases Nat.eq_zero_or_pos num with rfl | hn
  · rw [Nat.cast_zero, zero_div]
    exact rounds_zero negative
  · obtain ⟨hlow, hhigh⟩ := floorLog2_spec hn hd
    have hb : InBinade (num / den) (max (floorLog2 num den) (-1022) - 52) := by
      refine ⟨by omega, ?_, ?_⟩
      · exact hhigh.trans_le (zpow_le_zpow_right₀ one_le_two (by omega))
      · by_cases hleast : floorLog2 num den ≤ -1022
        · exact .inl (by omega)
        · refine .inr ((zpow_le_zpow_right₀ one_le_two ?_).trans hlow)
          omega
    have hnearest := @nearest_scaleRatio num den hd (max (floorLog2 num den) (-1022) - 52)
    have hplace := place_ofScaled negative hb.least (hnearest.le_of_inBinade hb)
      (hnearest.ge_of_inBinade hb)
    rw [ofRatio, if_neg hn.ne']
    exact ⟨ofScaled_ne_nan _ _ _, _, ⟨_, _, hb, hnearest, rfl⟩, hplace⟩

/-- The bound of overflow is rounded to itself. -/
theorem magnitudeRoundsTo_overflow : MagnitudeRoundsTo overflow overflow := by
  have hvalue : overflow = 2 ^ 52 * 2 ^ (972 : Int) := by
    rw [← overflow_eq, show (972 : Int) = 971 + 1 from rfl, zpow_add_one₀ two_ne_zero]
    ring
  have hdiv : overflow / 2 ^ (972 : Int) = (2 ^ 52 : Nat) := by
    rw [hvalue, mul_div_cancel_right₀ _ (by positivity), Nat.cast_pow, Nat.cast_ofNat]
  refine ⟨2 ^ 52, 972, ⟨by decide, ?_, .inr ?_⟩, hdiv ▸ nearest_natCast _, ?_⟩
  · rw [hvalue, zpow_add_ofNat]
    exact mul_lt_mul_of_pos_right (by norm_num) (by positivity)
  · rw [hvalue, zpow_add_ofNat]
  · rw [Nat.cast_pow, Nat.cast_ofNat, ← hvalue, min_self]

/-- Decimals are rounded to the nearest float, also those that are cut off without a closer look. -/
theorem rounds_ofDecimal (negative : Bool) (n : Nat) (g : Int) :
    Rounds negative (n * 10 ^ g) (ofDecimal negative n g) := by
  rcases Nat.eq_zero_or_pos n with rfl | hn
  · rw [Nat.cast_zero, zero_mul]
    exact rounds_zero negative
  · obtain ⟨hlow, hhigh⟩ := decimal_bounds hn g
    -- the exact ratio, whose rounding the cut-offs anticipate
    have hexact : Rounds negative (n * 10 ^ g)
        (if 0 ≤ g then ofRatio negative (n * tenPow g.toNat) 1
          else ofRatio negative n (tenPow (-g).toNat)) := by
      split
      · next hg =>
        have hx : (n * 10 ^ g : ℚ) = (n * tenPow g.toNat : Nat) / (1 : Nat) := by
          rw [Nat.cast_mul, cast_tenPow, ← zpow_of_nonneg hg, Nat.cast_one, div_one]
        rw [hx]
        exact rounds_ofRatio negative _ Nat.one_pos
      · next hg =>
        have hx : (n * 10 ^ g : ℚ) = n / (tenPow (-g).toNat : Nat) := by
          rw [cast_tenPow, div_eq_mul_inv, ← zpow_of_neg (by omega)]
        rw [hx]
        exact rounds_ofRatio negative n (tenPow_pos _)
    rw [ofDecimal, if_neg hn.ne']
    dsimp only
    split
    · next hwidth =>
      refine ⟨nofun, overflow, ?_, rfl⟩
      obtain ⟨-, y, hy, -⟩ := hexact
      have hle : overflow ≤ y := by
        refine magnitudeRoundsTo_overflow.mono hy ?_
        rw [← overflow_eq]
        refine decimal_overflow.le.trans (le_trans ?_ hlow)
        exact zpow_le_zpow_right₀ (by norm_num) (by omega)
      obtain ⟨m, e, hb, hn, hmin⟩ := hy
      have hge : y ≤ overflow := hmin ▸ min_le_right _ _
      exact ⟨m, e, hb, hn, (le_antisymm hge hle).symm.trans hmin⟩
    · split
      · next hwidth =>
        have htiny : (n * 10 ^ g : ℚ) < 1 / 2 * 2 ^ (-1074 : Int) := by
          refine (hhigh.trans_le ?_).trans_le decimal_underflow
          exact zpow_le_zpow_right₀ (by norm_num) (by omega)
        have hleast : (0 : ℚ) < 2 ^ (-1074 : Int) := by positivity
        have hb : InBinade (n * 10 ^ g) (-1074) := by
          refine ⟨le_rfl, ?_, .inl rfl⟩
          rw [zpow_add_ofNat]
          exact htiny.trans_le (mul_le_mul_of_nonneg_right (by norm_num) hleast.le)
        have hnearest : Nearest (n * 10 ^ g / 2 ^ (-1074 : Int)) 0 := by
          refine ⟨?_, ?_, fun _ => rfl⟩
          · rw [Nat.cast_zero, zero_sub]
            exact le_trans (by norm_num) (div_nonneg (by positivity) hleast.le)
          · rw [Nat.cast_zero, zero_add, div_le_iff₀ hleast]
            exact htiny.le
        refine ⟨nofun, 0, ⟨0, -1074, hb, hnearest, ?_⟩, ?_⟩
        · rw [Nat.cast_zero, zero_mul, min_eq_left overflow_pos.le]
        · rw [zero, place, Nat.cast_zero, zero_mul]
      · exact hexact

/-! ## Either sign -/

/-- The place to which a rational of either sign is rounded. -/
def RoundsTo (v p : ℚ) : Prop :=
  ∃ y, MagnitudeRoundsTo |v| y ∧ p = signed (v < 0) y

/-- **Rationals are rounded in order.** -/
theorem RoundsTo.mono {v w p q : ℚ} (hv : RoundsTo v p) (hw : RoundsTo w q) (hvw : v ≤ w) :
    p ≤ q := by
  obtain ⟨y, hy, rfl⟩ := hv
  obtain ⟨z, hz, rfl⟩ := hw
  have hy0 := hy.nonneg
  have hz0 := hz.nonneg
  unfold signed
  by_cases hv0 : v < 0 <;> by_cases hw0 : w < 0 <;>
    simp only [hv0, hw0, decide_true, decide_false, if_true, Bool.false_eq_true, if_false]
  · refine neg_le_neg (hz.mono hy ?_)
    rw [abs_of_neg hv0, abs_of_neg hw0]
    exact neg_le_neg hvw
  · linarith
  · linarith
  · refine hy.mono hz ?_
    rw [abs_of_nonneg (not_lt.1 hv0), abs_of_nonneg (not_lt.1 hw0)]
    exact hvw

end Binary64

/-! ## Exact numbers -/

/-- The rational that a decimal stands for. -/
def Decimal.value (d : Decimal) : ℚ :=
  d.unscaled / 10 ^ d.scale

/-- **Decimals are compared by their values.** -/
theorem Decimal.compare_eq (a b : Decimal) : a.compare b = cmp a.value b.value := by
  have hscale : ∀ d : Decimal, ∀ k, d.scale ≤ k →
      ((d.unscaled * tenPow (k - d.scale) : Int) : ℚ) = d.value * 10 ^ k := by
    intro d k hk
    rw [value, Int.cast_mul, Int.cast_natCast, cast_tenPow, pow_sub₀ (10 : ℚ) (by norm_num) hk]
    ring
  have hpos : (0 : ℚ) < 10 ^ max a.scale b.scale := by positivity
  rw [← cmp_mul_pos_right hpos, ← hscale a _ (le_max_left _ _), ← hscale b _ (le_max_right _ _),
    Int.cast_strictMono.cmp_map_eq]
  exact (cmp_eq_compare _ _).symm

theorem Binary64.roundsTo_ofInt (z : Int) : ofInt z ≠ .nan ∧ RoundsTo z (ofInt z).place := by
  obtain ⟨hnan, y, hy, hplace⟩ := rounds_ofRatio (z < 0) z.natAbs Nat.one_pos
  refine ⟨hnan, y, ?_, ?_⟩
  · rwa [Nat.cast_one, div_one, Nat.cast_natAbs, Int.cast_abs] at hy
  · rw [ofInt, hplace]
    simp only [Int.cast_lt_zero]

theorem Decimal.roundsTo_toBinary64 (d : Decimal) :
    d.toBinary64 ≠ .nan ∧ Binary64.RoundsTo d.value d.toBinary64.place := by
  obtain ⟨hnan, y, hy, hplace⟩ :=
    Binary64.rounds_ofDecimal (d.unscaled < 0) d.unscaled.natAbs (-d.scale)
  have hten : (0 : ℚ) < 10 ^ d.scale := by positivity
  refine ⟨hnan, y, ?_, ?_⟩
  · rwa [Nat.cast_natAbs, Int.cast_abs, zpow_neg, zpow_natCast, ← div_eq_mul_inv, ← abs_of_pos hten,
      ← abs_div] at hy
  · rw [toBinary64, hplace, value]
    simp only [div_neg_iff, Int.cast_lt_zero, hten, not_lt.2 hten.le, and_true, and_false, false_or]

end Conform
