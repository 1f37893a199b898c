import Conform.Proofs.Comparison
import Conform.Rule.Predicate

/-!
# Comparing by exact value

A number denotes a rational or, when it is an infinite float, an extreme beyond all rationals.
Integers and decimals are compared by what they denote, and so are two floats.  A float and a number
of another kind are compared after the other one is rounded, and rounding keeps the order.  So a
comparison never says less or greater where the values say otherwise; all that is lost is the
difference between a float and another number that is rounded to it.

* `Binary64.value`, `Number.value` — what a number denotes.
* `Number.Exact` — an integer or a decimal, with its value.
* `Number.Blurred` — a float and an exact number of another value that is rounded to it.
* `Number.compareValue_eq` — **numbers are compared by their values, unless one blurs the other.**
* `Number.compareValue_trans` — less than goes through, whatever is blurred.
* `Number.compared_by_value` — what follows for the comparison and for the predicates made with it.
-/

namespace Conform

/-- The values that numbers denote: the rationals, and an extreme on either side. -/
abbrev Extended := WithBot (WithTop ℚ)

/-- A rational among the values that numbers denote. -/
def Extended.ofRat (q : ℚ) : Extended :=
  ((q : WithTop ℚ) : WithBot (WithTop ℚ))

/-- The order of rational numbers is the order of their places in the extended line. -/
theorem Extended.ofRat_strictMono : StrictMono ofRat :=
  WithBot.coe_strictMono.comp WithTop.coe_strictMono

theorem Extended.bot_lt_ofRat (q : ℚ) : ⊥ < ofRat q :=
  WithBot.bot_lt_coe _

theorem Extended.ofRat_lt_top (q : ℚ) : ofRat q < ⊤ :=
  WithBot.coe_lt_coe.2 (WithTop.coe_lt_top q)

namespace Binary64

/-- The value of a float; what is not a number has none. -/
def value : Binary64 → Extended
  | .nan => ⊥
  | .infinite negative => if negative then ⊥ else ⊤
  | .finite negative m e _ => Extended.ofRat (signed negative (m * 2 ^ e))

theorem cmp_eq_cmp_of_lt {α β : Type} [LinearOrder α] [LinearOrder β] {a b : α} {c d : β}
    (h : a < b) (h' : c < d) : cmp a b = cmp c d :=
  ((cmp_eq_lt_iff a b).2 h).trans ((cmp_eq_lt_iff c d).2 h').symm

theorem cmp_eq_cmp_of_gt {α β : Type} [LinearOrder α] [LinearOrder β] {a b : α} {c d : β}
    (h : b < a) (h' : d < c) : cmp a b = cmp c d :=
  ((cmp_eq_gt_iff a b).2 h).trans ((cmp_eq_gt_iff c d).2 h').symm

/-- Floats lie in the order of their values. -/
theorem cmp_place_eq {x y : Binary64} (hx : x ≠ .nan) (hy : y ≠ .nan) :
    cmp x.place y.place = cmp x.value y.value := by
  cases x with
  | nan => exact absurd rfl hx
  | infinite a =>
    cases y with
    | nan => exact absurd rfl hy
    | infinite b =>
      have hlt : -overflow < overflow := neg_lt_self overflow_pos
      cases a <;> cases b
      · exact (cmp_self_eq_eq overflow).trans (cmp_self_eq_eq _).symm
      · exact cmp_eq_cmp_of_gt hlt bot_lt_top
      · exact cmp_eq_cmp_of_lt hlt bot_lt_top
      · exact (cmp_self_eq_eq (-overflow)).trans (cmp_self_eq_eq _).symm
    | finite b n f hf =>
      obtain ⟨hlow, hhigh⟩ := abs_lt.1 (abs_finite_lt b hf)
      cases a with
      | true => exact cmp_eq_cmp_of_lt hlow (Extended.bot_lt_ofRat _)
      | false => exact cmp_eq_cmp_of_gt hhigh (Extended.ofRat_lt_top _)
  | finite a m e he =>
    cases y with
    | nan => exact absurd rfl hy
    | infinite b =>
      obtain ⟨hlow, hhigh⟩ := abs_lt.1 (abs_finite_lt a he)
      cases b with
      | true => exact cmp_eq_cmp_of_gt hlow (Extended.bot_lt_ofRat _)
      | false => exact cmp_eq_cmp_of_lt hhigh (Extended.ofRat_lt_top _)
    | finite b n f hf => exact (Extended.ofRat_strictMono.cmp_map_eq _ _).symm

/-- A finite float is rounded to itself. -/
theorem roundsTo_finite (negative : Bool) {m : Nat} {e : Int} (h : IsCanonical m e) :
    RoundsTo (signed negative (m * 2 ^ e)) (signed negative (m * 2 ^ e)) := by
  have hunit : (0 : ℚ) < 2 ^ e := by positivity
  have hnonneg : (0 : ℚ) ≤ m * 2 ^ e := by positivity
  have hmagnitude : MagnitudeRoundsTo (m * 2 ^ e) (m * 2 ^ e) := by
    refine ⟨m, e, ⟨h.2.1, ?_, ?_⟩, ?_, (min_eq_left (lt_infinite h).le).symm⟩
    · have hm : (m : ℚ) < 2 ^ 53 := by
        rw [← cast_twoPow]
        exact_mod_cast h.1
      rw [zpow_add_ofNat]
      exact mul_lt_mul_of_pos_right hm hunit
    · refine h.2.2.2.symm.imp_right fun hm => ?_
      rw [zpow_add_ofNat, ← cast_twoPow]
      exact mul_le_mul_of_nonneg_right (by exact_mod_cast hm) hunit.le
    · rw [mul_div_cancel_right₀ _ hunit.ne']
      exact nearest_natCast m
  refine ⟨m * 2 ^ e, ?_, ?_⟩
  · cases negative
    · rwa [signed, if_neg Bool.false_ne_true, abs_of_nonneg hnonneg]
    · rwa [signed, if_pos rfl, abs_neg, abs_of_nonneg hnonneg]
  · cases negative
    · simp only [signed, Bool.false_eq_true, if_false, not_lt.2 hnonneg, decide_false]
    · rcases hnonneg.eq_or_lt with hzero | hpos
      · simp [signed, ← hzero]
      · simp [signed, hpos]

/-- Nothing is rounded beyond the place of overflow. -/
theorem RoundsTo.abs_le_overflow {v p : ℚ} (h : RoundsTo v p) : |p| ≤ overflow := by
  obtain ⟨y, hy, rfl⟩ := h
  have hle : |y| ≤ overflow := by
    rw [abs_of_nonneg hy.nonneg]
    obtain ⟨m, e, -, -, hmin⟩ := hy
    exact hmin ▸ min_le_right _ _
  unfold signed
  split
  · rwa [abs_neg]
  · exact hle

/-- A rational number is rounded to one place only. -/
theorem RoundsTo.unique {v p q : ℚ} (hp : RoundsTo v p) (hq : RoundsTo v q) : p = q :=
  le_antisymm (hp.mono hq le_rfl) (hq.mono hp le_rfl)

/-- Where rounding keeps a rational and a float apart, it keeps their order. -/
theorem RoundsTo.cmp_value {v p : ℚ} {x : Binary64} (hv : RoundsTo v p) (hx : x ≠ .nan)
    (hne : x.place ≠ p) : cmp x.place p = cmp x.value (Extended.ofRat v) := by
  obtain ⟨hlow, hhigh⟩ := abs_le.1 hv.abs_le_overflow
  cases x with
  | nan => exact absurd rfl hx
  | infinite negative =>
    cases negative with
    | true =>
      have hlt : -overflow < p := lt_of_le_of_ne hlow hne
      exact cmp_eq_cmp_of_lt hlt (Extended.bot_lt_ofRat v)
    | false =>
      have hlt : p < overflow := lt_of_le_of_ne hhigh hne.symm
      exact cmp_eq_cmp_of_gt hlt (Extended.ofRat_lt_top v)
  | finite negative m e h =>
    have hself := roundsTo_finite negative h
    rw [value, Extended.ofRat_strictMono.cmp_map_eq]
    rcases lt_or_gt_of_ne hne with hlt | hlt
    · -- were the rational not greater, neither would be what it is rounded to
      have hlt' := not_le.1 fun hle => not_le.2 hlt (hv.mono hself hle)
      exact cmp_eq_cmp_of_lt hlt hlt'
    · have hlt' := not_le.1 fun hle => not_le.2 hlt (hself.mono hv hle)
      exact cmp_eq_cmp_of_gt hlt hlt'

end Binary64

namespace Number

variable {a b c : Number} {v w : ℚ} {x : Binary64}

/-! ## What numbers denote -/

/-- The value of a number. -/
def value : Number → Extended
  | .integer z => Extended.ofRat z
  | .decimal d => Extended.ofRat d.value
  | .float x => x.value

/-- An integer or a decimal, which is never rounded by itself, with its value. -/
inductive Exact : Number → ℚ → Prop
  | integer (z : Int) : Exact (.integer z) z
  | decimal (d : Decimal) : Exact (.decimal d) d.value

/-- A number is a float, or has an exact value. -/
theorem float_or_exact (a : Number) : (∃ x, a = .float x) ∨ ∃ v, a.Exact v :=
  match a with
  | .integer z => .inr ⟨z, .integer z⟩
  | .decimal d => .inr ⟨d.value, .decimal d⟩
  | .float x => .inl ⟨x, rfl⟩

/-- The value of a number that is exact is that rational number. -/
theorem Exact.value_eq (h : a.Exact v) : a.value = Extended.ofRat v := by
  cases h <;> rfl

/-- An exact number lies where its value is rounded to. -/
theorem Exact.roundsTo (h : a.Exact v) : Binary64.RoundsTo v a.place := by
  cases h with
  | integer z => exact (Binary64.roundsTo_ofInt z).2
  | decimal d => exact d.roundsTo_toBinary64.2

theorem Exact.unique (hv : a.Exact v) (hw : a.Exact w) : v = w :=
  Extended.ofRat_strictMono.injective (hv.value_eq.symm.trans hw.value_eq)

/-! ## Comparing -/

/-- Exact numbers are compared by their values. -/
theorem Exact.compareValue (ha : a.Exact v) (hb : b.Exact w) : a.compareValue b = cmp v w := by
  cases ha with
  | integer z =>
    cases hb with
    | integer w =>
      rw [Int.cast_strictMono.cmp_map_eq]
      exact (cmp_eq_compare z w).symm
    | decimal d =>
      rw [← Decimal.value_ofInt]
      exact Decimal.compare_eq _ _
  | decimal d =>
    cases hb with
    | integer w =>
      rw [← Decimal.value_ofInt]
      exact Decimal.compare_eq _ _
    | decimal e => exact Decimal.compare_eq d e

/-- A float is compared with any number by their places. -/
theorem compareValue_float (hx : HasValue (.float x)) (hb : b.HasValue) :
    (float x).compareValue b = cmp x.place b.place := by
  have hrounded : (float x).compareValue b = (x.compare? b.toBinary64).getD .eq := by
    cases b <;> rfl
  have hcompare : x.compare? b.toBinary64 = some (cmp x.place b.place) :=
    Binary64.compare?_eq (toBinary64_ne_nan hx) (toBinary64_ne_nan hb)
  rw [hrounded, hcompare]
  rfl

/-- A float, and an integer or a decimal of another value that is rounded to it. -/
inductive Blurred : Number → Number → Prop
  | left {x : Binary64} {b : Number} {v : ℚ} : b.Exact v → Binary64.RoundsTo v x.place →
      x.value ≠ Extended.ofRat v → Blurred (.float x) b
  | right {x : Binary64} {a : Number} {v : ℚ} : a.Exact v → Binary64.RoundsTo v x.place →
      x.value ≠ Extended.ofRat v → Blurred a (.float x)

theorem Blurred.symm (h : a.Blurred b) : b.Blurred a := by
  cases h with
  | left hexact hround hne => exact .right hexact hround hne
  | right hexact hround hne => exact .left hexact hround hne

/-- A float blurs exactly with what lies at its place and has another value. -/
theorem blurred_float_iff (hb : b.Exact v) :
    (float x).Blurred b ↔ x.place = b.place ∧ x.value ≠ b.value := by
  rw [hb.value_eq]
  constructor
  · intro h
    cases h with
    | left hexact hround hne =>
      obtain rfl := hexact.unique hb
      exact ⟨hround.unique hb.roundsTo, hne⟩
    | right hexact => cases hexact
  · rintro ⟨hplace, hne⟩
    exact .left hb (hplace ▸ hb.roundsTo) hne

/-- Numbers of exact kinds do not blur each other, nor do floats. -/
theorem not_blurred_exact (ha : a.Exact v) (hb : b.Exact w) : ¬a.Blurred b := by
  rintro (_ | _)
  · cases ha
  · cases hb

/-- Two floats are never blurred. -/
theorem not_blurred_float (x y : Binary64) : ¬(float x).Blurred (.float y) := by
  rintro (⟨⟨⟩⟩ | ⟨⟨⟩⟩)

/-- The comparison of a float with a number of any kind. -/
theorem compareValue_float_eq (hx : HasValue (.float x)) (hb : b.HasValue) :
    ((float x).Blurred b → (float x).compareValue b = .eq) ∧
      (¬(float x).Blurred b → (float x).compareValue b = cmp x.value b.value) := by
  rw [compareValue_float hx hb]
  rcases b.float_or_exact with ⟨y, rfl⟩ | ⟨v, hv⟩
  · refine ⟨fun h => absurd h (not_blurred_float x y), fun _ => ?_⟩
    exact Binary64.cmp_place_eq (toBinary64_ne_nan hx) (toBinary64_ne_nan hb)
  · rw [blurred_float_iff hv]
    refine ⟨fun h => (cmp_eq_eq_iff _ _).2 h.1, fun h => ?_⟩
    by_cases hplace : x.place = b.place
    · have hvalue : x.value = b.value := not_not.1 fun hne => h ⟨hplace, hne⟩
      rw [hplace, hvalue, cmp_self_eq_eq, cmp_self_eq_eq]
    · rw [hv.value_eq]
      exact hv.roundsTo.cmp_value (toBinary64_ne_nan hx) hplace

/-- **Numbers are compared by their values, unless one blurs the other**; then they tie. -/
theorem compareValue_eq (ha : a.HasValue) (hb : b.HasValue) :
    (a.Blurred b → a.compareValue b = .eq) ∧
      (¬a.Blurred b → a.compareValue b = cmp a.value b.value) := by
  rcases a.float_or_exact with ⟨x, rfl⟩ | ⟨v, hv⟩
  · exact compareValue_float_eq ha hb
  · rcases b.float_or_exact with ⟨y, rfl⟩ | ⟨w, hw⟩
    · obtain ⟨hblurred, hclear⟩ := compareValue_float_eq hb ha
      rw [← swap_compareValue]
      refine ⟨fun h => by rw [hblurred h.symm]; rfl, fun h => ?_⟩
      rw [hclear fun h' => h h'.symm]
      exact cmp_swap _ _
    · refine ⟨fun h => absurd h (not_blurred_exact hv hw), fun _ => ?_⟩
      rw [hv.compareValue hw, hv.value_eq, hw.value_eq, Extended.ofRat_strictMono.cmp_map_eq]

/-! ### The three outcomes -/

/-- One number is less exactly if its value is and rounding does not hide that. -/
theorem compareValue_lt_iff (ha : a.HasValue) (hb : b.HasValue) :
    a.compareValue b = .lt ↔ a.value < b.value ∧ ¬a.Blurred b := by
  obtain ⟨hblurred, hclear⟩ := compareValue_eq ha hb
  by_cases h : a.Blurred b
  · rw [hblurred h]
    exact ⟨fun hne => absurd hne (by decide), fun hlt => absurd h hlt.2⟩
  · rw [hclear h, cmp_eq_lt_iff, and_iff_left h]

theorem compareValue_gt_iff (ha : a.HasValue) (hb : b.HasValue) :
    a.compareValue b = .gt ↔ b.value < a.value ∧ ¬a.Blurred b := by
  obtain ⟨hblurred, hclear⟩ := compareValue_eq ha hb
  by_cases h : a.Blurred b
  · rw [hblurred h]
    exact ⟨fun hne => absurd hne (by decide), fun hgt => absurd h hgt.2⟩
  · rw [hclear h, cmp_eq_gt_iff, and_iff_left h]

/-- Numbers tie exactly if their values are the same or rounding hides the difference. -/
theorem compareValue_eq_iff (ha : a.HasValue) (hb : b.HasValue) :
    a.compareValue b = .eq ↔ a.value = b.value ∨ a.Blurred b := by
  obtain ⟨hblurred, hclear⟩ := compareValue_eq ha hb
  by_cases h : a.Blurred b
  · rw [hblurred h, eq_self_iff_true, true_iff]
    exact .inr h
  · rw [hclear h, cmp_eq_eq_iff, or_iff_left h]

/-- What is less does not lie to the right, and to the left if either of the two is a float. -/
theorem place_of_compareValue_lt (ha : a.HasValue) (hb : b.HasValue) (h : a.compareValue b = .lt) :
    a.place ≤ b.place ∧ (a.isFloat ∨ b.isFloat → a.place < b.place) := by
  rcases a.float_or_exact with ⟨x, rfl⟩ | ⟨v, hv⟩
  · have hlt := (cmp_eq_lt_iff _ _).1 ((compareValue_float ha hb).symm.trans h)
    exact ⟨hlt.le, fun _ => hlt⟩
  · rcases b.float_or_exact with ⟨y, rfl⟩ | ⟨w, hw⟩
    · have hgt : (float y).compareValue a = .gt := by
        rw [← swap_compareValue, h]
        rfl
      have hlt := (cmp_eq_gt_iff _ _).1 ((compareValue_float hb ha).symm.trans hgt)
      exact ⟨hlt.le, fun _ => hlt⟩
    · have hvw := (cmp_eq_lt_iff _ _).1 ((hv.compareValue hw).symm.trans h)
      refine ⟨hv.roundsTo.mono hw.roundsTo hvw.le, ?_⟩
      cases hv <;> cases hw <;> rintro (⟨⟨⟩⟩ | ⟨⟨⟩⟩)

/-- What is blurred lies at one place, and one of the two is a float. -/
theorem Blurred.place_eq (h : a.Blurred b) : a.place = b.place ∧ (a.isFloat ∨ b.isFloat) := by
  cases h with
  | left hexact hround hne => exact ⟨hround.unique hexact.roundsTo, .inl rfl⟩
  | right hexact hround hne => exact ⟨hexact.roundsTo.unique hround, .inr rfl⟩

/-- **Less than goes through**: the outer two of three numbers in a row do not blur each other, as
one of them is a float and lies apart from the one in the middle. -/
theorem compareValue_trans (ha : a.HasValue) (hb : b.HasValue) (hc : c.HasValue)
    (hab : a.compareValue b = .lt) (hbc : b.compareValue c = .lt) : a.compareValue c = .lt := by
  have hvalues := ((compareValue_lt_iff ha hb).1 hab).1.trans ((compareValue_lt_iff hb hc).1 hbc).1
  refine (compareValue_lt_iff ha hc).2 ⟨hvalues, fun hblurred => ?_⟩
  obtain ⟨hplace, hfloat⟩ := hblurred.place_eq
  obtain ⟨hleft, hleft'⟩ := place_of_compareValue_lt ha hb hab
  obtain ⟨hright, hright'⟩ := place_of_compareValue_lt hb hc hbc
  rcases hfloat with hfloat | hfloat
  · exact ((hleft' (.inl hfloat)).trans_le hright).ne hplace
  · exact (hleft.trans_lt (hright' (.inr hfloat))).ne hplace

theorem Blurred.value_ne (h : a.Blurred b) : a.value ≠ b.value := by
  cases h with
  | left hexact hround hne => exact hexact.value_eq ▸ hne
  | right hexact hround hne => exact hexact.value_eq ▸ hne.symm

/-- A comparison goes by the values exactly where nothing is blurred. -/
theorem compareValue_eq_cmp_iff (ha : a.HasValue) (hb : b.HasValue) :
    a.compareValue b = cmp a.value b.value ↔ ¬a.Blurred b := by
  obtain ⟨htie, hclear⟩ := compareValue_eq ha hb
  refine ⟨fun h hblurred => hblurred.value_ne ?_, hclear⟩
  rw [← cmp_eq_eq_iff, ← h, htie hblurred]

/-! ## The predicates -/

/-- When a number passes `gt`. -/
theorem gt_iff (ha : a.HasValue) (hb : b.HasValue) :
    (Predicate.gt b).test (.number a) ↔ b.value < a.value ∧ ¬a.Blurred b := by
  rw [← compareValue_gt_iff ha hb]
  exact beq_iff_eq

/-- When a number passes `lt`. -/
theorem lt_iff (ha : a.HasValue) (hb : b.HasValue) :
    (Predicate.lt b).test (.number a) ↔ a.value < b.value ∧ ¬a.Blurred b := by
  rw [← compareValue_lt_iff ha hb]
  exact beq_iff_eq

/-- One number is not less exactly if the other is not greater or rounding hides that. -/
theorem compareValue_ne_lt_iff (ha : a.HasValue) (hb : b.HasValue) :
    a.compareValue b ≠ .lt ↔ b.value ≤ a.value ∨ a.Blurred b := by
  rw [Ne, compareValue_lt_iff ha hb, not_and_or, not_lt, not_not]

theorem compareValue_ne_gt_iff (ha : a.HasValue) (hb : b.HasValue) :
    a.compareValue b ≠ .gt ↔ a.value ≤ b.value ∨ a.Blurred b := by
  rw [Ne, compareValue_gt_iff ha hb, not_and_or, not_lt, not_not]

/-- When a number passes `gteq`. -/
theorem gteq_iff (ha : a.HasValue) (hb : b.HasValue) :
    (Predicate.gteq b).test (.number a) ↔ b.value ≤ a.value ∨ a.Blurred b := by
  rw [← compareValue_ne_lt_iff ha hb]
  exact bne_iff_ne

/-- When a number passes `lteq`. -/
theorem lteq_iff (ha : a.HasValue) (hb : b.HasValue) :
    (Predicate.lteq b).test (.number a) ↔ a.value ≤ b.value ∨ a.Blurred b := by
  rw [← compareValue_ne_gt_iff ha hb]
  exact bne_iff_ne

section Sizes

variable {v : Value} {k : Nat}

/-- The size of a value is compared as an integer. -/
theorem hasSize_eq (hk : Predicate.measure? v = some k) (n : Number) (accepts : Ordering → Bool) :
    Predicate.hasSize v n accepts = accepts ((integer k).compareValue n) := by
  rw [Predicate.hasSize, hk]
  rfl

/-- When a value passes `min_size`. -/
theorem minSize_iff (hk : Predicate.measure? v = some k) (hb : b.HasValue) :
    (Predicate.minSize b).test v ↔ b.value ≤ (integer k).value ∨ (integer k).Blurred b := by
  rw [← compareValue_ne_lt_iff (hasValue_integer k) hb, Predicate.test, hasSize_eq hk]
  exact bne_iff_ne

/-- When a value passes `max_size`. -/
theorem maxSize_iff (hk : Predicate.measure? v = some k) (hb : b.HasValue) :
    (Predicate.maxSize b).test v ↔ (integer k).value ≤ b.value ∨ (integer k).Blurred b := by
  rw [← compareValue_ne_gt_iff (hasValue_integer k) hb, Predicate.test, hasSize_eq hk]
  exact bne_iff_ne

/-- When a value passes `size` with one number. -/
theorem size_exactly_iff (hk : Predicate.measure? v = some k) (hb : b.HasValue) :
    (Predicate.size (.exactly b)).test v ↔
      (integer k).value = b.value ∨ (integer k).Blurred b := by
  rw [← compareValue_eq_iff (hasValue_integer k) hb, Predicate.test, hasSize_eq hk]
  exact beq_iff_eq

/-- A range of sizes is asked for bound by bound. -/
theorem size_between_iff :
    (Predicate.size (.between b c)).test v ↔
      (Predicate.minSize b).test v ∧ (Predicate.maxSize c).test v :=
  Bool.and_eq_true_iff

end Sizes

/-- **Comparing goes by exact values, but for floats that another number is rounded to.**  Where
nothing is blurred two numbers compare as their values do, and where one blurs the other they tie;
less than goes through in any case.  So the strict predicates accept nothing that the values do not,
the others everything that the values do, and what they accept besides is blurred. -/
theorem compared_by_value (ha : a.HasValue) (hb : b.HasValue) (hc : c.HasValue) :
    (a.compareValue b = cmp a.value b.value ↔ ¬a.Blurred b) ∧
    (a.Blurred b → a.compareValue b = .eq) ∧
    (a.compareValue b = .lt → b.compareValue c = .lt → a.compareValue c = .lt) ∧
    ((Predicate.gt b).test (.number a) ↔ b.value < a.value ∧ ¬a.Blurred b) ∧
    ((Predicate.gteq b).test (.number a) ↔ b.value ≤ a.value ∨ a.Blurred b) ∧
    ((Predicate.lt b).test (.number a) ↔ a.value < b.value ∧ ¬a.Blurred b) ∧
    ((Predicate.lteq b).test (.number a) ↔ a.value ≤ b.value ∨ a.Blurred b) ∧
    ∀ v k, Predicate.measure? v = some k →
      ((Predicate.minSize b).test v ↔ b.value ≤ (integer k).value ∨ (integer k).Blurred b) ∧
      ((Predicate.maxSize b).test v ↔ (integer k).value ≤ b.value ∨ (integer k).Blurred b) ∧
      ((Predicate.size (.exactly b)).test v ↔
        (integer k).value = b.value ∨ (integer k).Blurred b) ∧
      ((Predicate.size (.between b c)).test v ↔
        (b.value ≤ (integer k).value ∨ (integer k).Blurred b) ∧
          ((integer k).value ≤ c.value ∨ (integer k).Blurred c)) := by
  refine ⟨compareValue_eq_cmp_iff ha hb, (compareValue_eq ha hb).1, compareValue_trans ha hb hc,
    gt_iff ha hb, gteq_iff ha hb, lt_iff ha hb, lteq_iff ha hb, fun v k hk => ?_⟩
  refine ⟨minSize_iff hk hb, maxSize_iff hk hb, size_exactly_iff hk hb, ?_⟩
  rw [size_between_iff, minSize_iff hk hb, maxSize_iff hk hc]

/-! ## Where floats are too coarse -/

theorem value_ofInt_twoPow53 :
    (Binary64.ofInt 9007199254740992).value = Extended.ofRat 9007199254740992 := by
  have hfloat : Binary64.ofInt 9007199254740992 = .finite false (twoPow 52) 1 (by decide) := by
    decide
  rw [hfloat, Binary64.value, cast_twoPow]
  exact congrArg _ (by norm_num [Binary64.signed])

/-- The least positive integer that is no float, and the float that it is rounded to. -/
theorem blurred_beyond_floats :
    (integer 9007199254740993).Blurred (.float (.ofInt 9007199254740992)) := by
  have hround : Binary64.ofInt 9007199254740993 = .ofInt 9007199254740992 := by decide
  refine .right (.integer _) (hround ▸ (Binary64.roundsTo_ofInt _).2) ?_
  rw [value_ofInt_twoPow53]
  refine fun h => absurd (Extended.ofRat_strictMono.injective h) ?_
  norm_num

/-- The integer is not accepted as greater than the float.  A text of three characters is no
larger. -/
theorem compared_by_value_beyond_floats :
    (integer 9007199254740993).compareValue (.float (.ofInt 9007199254740992)) = .eq ∧
      ¬(Predicate.gt (.float (.ofInt 9007199254740992))).test
        (.number (.integer 9007199254740993)) ∧
      (Predicate.lteq (.float (.ofInt 9007199254740992))).test
        (.number (.integer 9007199254740993)) ∧
      (Predicate.maxSize (.float (.ofInt 9007199254740992))).test (.string "abc") := by
  have hblurred := blurred_beyond_floats
  obtain ⟨-, htie, -, hgt, -, -, hlteq, hsize⟩ := compared_by_value
    (hasValue_integer 9007199254740993) (hasValue_ofInt 9007199254740992) (hasValue_integer 0)
  refine ⟨htie hblurred, fun h => (hgt.1 h).2 hblurred, hlteq.2 (.inr hblurred), ?_⟩
  refine (hsize (.string "abc") 3 (by decide)).2.1.2 (.inl ?_)
  refine le_of_le_of_eq (Extended.ofRat_strictMono.monotone ?_) value_ofInt_twoPow53.symm
  norm_num

/-- The float and the integer after it tie though they differ, and neither is the integer greater
than the float nor the float greater than the integer before, while the one integer is greater than
the other. -/
theorem not_always_by_value :
    (¬∀ a b : Number, a.HasValue → b.HasValue → a.compareValue b = cmp a.value b.value) ∧
      ¬∀ a b c : Number, a.HasValue → b.HasValue → c.HasValue →
        a.compareValue b ≠ .gt → b.compareValue c ≠ .gt → a.compareValue c ≠ .gt := by
  have hint := hasValue_integer
  have hfloat := hasValue_ofInt 9007199254740992
  constructor
  · intro h
    exact (compareValue_eq_cmp_iff (hint _) hfloat).1 (h _ _ (hint _) hfloat) blurred_beyond_floats
  · intro h
    have hsame : (float (.ofInt 9007199254740992)).value = (integer 9007199254740992).value :=
      value_ofInt_twoPow53
    have htie := (compareValue_eq (hint _) hfloat).1 blurred_beyond_floats
    have htie' := (compareValue_eq_iff hfloat (hint 9007199254740992)).2 (.inl hsame)
    refine h (.integer 9007199254740993) _ (.integer 9007199254740992) (hint _) hfloat (hint _)
      ?_ ?_ (by decide)
    · rw [htie]
      decide
    · rw [htie']
      decide

end Number

end Conform
