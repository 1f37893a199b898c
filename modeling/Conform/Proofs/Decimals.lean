import Conform.Number.Decimal.Words
import Conform.Proofs.DecimalText
import Conform.Proofs.Same
import Conform.Proofs.Spelling
import Mathlib.Data.Rat.Floor

/-!
# Decimals are exact and canonical

A decimal is read as the rational that its text spells, provided the exponent fits a word and asks
for no more than `maxExponent` zeros on either side of the point.  No value has two decimals, as no
fraction ends with a zero, so the order and equality of decimals are those of their values.

* `towardZero` — a rational without its fraction.
* `Decimal.eq_of_value_eq` — a decimal is known by its value.
* `Decimal.Pieces` — a text cut into the pieces that its digits and its exponent are read from.
* `Decimal.ofText?_eq_some_iff` — **which texts are read, and as what.**
* `Decimal.ofTextInWords_eq` — the reader that counts in words never leaves a word, and reads the
  same.
* `Decimal.exact_and_canonical` — these facts together, with the text, the order and the integer
  part.
-/

namespace Conform

/-- The integer next to a rational on the way to zero. -/
def towardZero (q : ℚ) : Int :=
  if 0 ≤ q then ⌊q⌋ else ⌈q⌉

namespace Decimal

open Text

/-! ## Values -/

/-- A decimal is determined by its value. -/
theorem eq_of_value_eq {a b : Decimal} (h : a.value = b.value) : a = b :=
  eq_of_compare ((compare_eq a b).trans ((cmp_eq_eq_iff _ _).2 h))

/-- Decimals compare equal only if they are the same. -/
theorem eq_iff_compare_eq {a b : Decimal} : a = b ↔ a.compare b = .eq := by
  refine ⟨?_, eq_of_compare⟩
  rintro rfl
  exact (compare_eq a a).trans (cmp_self_eq_eq _)

/-- Zeros at the end of the fraction count nothing. -/
theorem value_normalize (unscaled : Int) (scale : Nat) (hs : scale ≤ maxExponent) :
    (normalize unscaled scale hs).value = unscaled / 10 ^ scale := by
  induction scale generalizing unscaled with
  | zero => rw [normalize, value_ofInt, pow_zero, div_one]
  | succ scale ih =>
    rw [normalize]
    split
    · next hzero =>
      have htens : (unscaled : ℚ) = (unscaled / 10 : Int) * 10 := by
        exact_mod_cast (Int.ediv_mul_cancel (Int.dvd_of_emod_eq_zero hzero)).symm
      rw [ih, htens, pow_succ, mul_div_mul_right _ _ (by norm_num)]
    · rfl

/-- A decimal is made of every number of units of an allowed power of ten, with their value. -/
theorem ofScaled?_eq_some_iff {unscaled scale : Int} {d : Decimal} :
    ofScaled? unscaled scale = some d ↔
      scale.natAbs ≤ maxExponent ∧ d.value = unscaled * 10 ^ (-scale) := by
  have hmade (hs : scale.natAbs ≤ maxExponent) :
      ∃ d', ofScaled? unscaled scale = some d' ∧ d'.value = unscaled * 10 ^ (-scale) := by
    rw [ofScaled?, dif_neg (not_lt.2 hs)]
    split
    · next hneg =>
      refine ⟨_, rfl, ?_⟩
      rw [value_ofInt, Int.cast_mul, Int.cast_natCast, cast_tenPow, zpow_of_nonneg (by omega)]
    · next hneg =>
      refine ⟨_, rfl, ?_⟩
      rw [value_normalize, zpow_neg, zpow_of_nonneg (by omega), div_eq_mul_inv]
  constructor
  · intro h
    have hs : scale.natAbs ≤ maxExponent := by
      by_contra hlt
      rw [ofScaled?, dif_pos (not_le.1 hlt)] at h
      cases h
    obtain ⟨d', hd', hvalue⟩ := hmade hs
    obtain rfl := Option.some.inj (hd'.symm.trans h)
    exact ⟨hs, hvalue⟩
  · rintro ⟨hs, hvalue⟩
    obtain ⟨d', hd', hvalue'⟩ := hmade hs
    rw [hd', eq_of_value_eq (hvalue'.trans hvalue.symm)]

/-- Truncation is toward zero. -/
theorem truncate_eq (d : Decimal) : d.truncate = towardZero d.value := by
  have hten : (0 : ℚ) < 10 ^ d.scale := by positivity
  have hvalue : d.value = d.unscaled / (tenPow d.scale : Nat) := by rw [cast_tenPow, value]
  unfold truncate towardZero
  split
  · next hnonneg =>
    rw [value, le_div_iff₀ hten, zero_mul, Int.cast_nonneg_iff] at hnonneg
    rw [hvalue, Rat.floor_intCast_div_natCast, Int.tdiv_eq_ediv_of_nonneg hnonneg]
  · next hneg =>
    rw [value, le_div_iff₀ hten, zero_mul, Int.cast_nonneg_iff, not_le] at hneg
    rw [hvalue, Rat.ceil_intCast_div_natCast, ← Int.tdiv_eq_ediv_of_nonneg (by omega), Int.neg_tdiv,
      neg_neg]

/-! ## Texts -/

theorem notMark_eq : (fun c => decide (c ≠ 'e' ∧ c ≠ 'E')) = (!isMark ·) := by
  funext c
  simp [isMark]

/-- The text before the mark of the exponent, and the exponent if it fits a word. -/
theorem splitExponent?_eq_some_iff {cs mantissa : List Char} {e : Int} :
    splitExponent? cs = some (mantissa, e) ↔ cs.takeWhile (!isMark ·) = mantissa ∧
      SpellsExponent (cs.dropWhile (!isMark ·)) e ∧ isSigned64 e = true := by
  unfold splitExponent?
  rw [notMark_eq]
  cases hcut : cs.dropWhile (!isMark ·) with
  | nil =>
    constructor
    · intro h
      obtain ⟨rfl, rfl⟩ := Prod.mk.inj (Option.some.inj h)
      exact ⟨rfl, .none, by decide⟩
    · rintro ⟨rfl, ⟨⟩, -⟩
      rfl
  | cons c rest =>
    have hc : isMark c = true := by
      have hhead := List.dropWhile_get_zero_not (!isMark ·) cs (by rw [hcut]; exact Nat.succ_pos _)
      simpa [hcut] using hhead
    constructor
    · intro h
      obtain ⟨e', he', h⟩ := Option.bind_eq_some_iff.1 h
      split at h
      · next hfits =>
        obtain ⟨rfl, rfl⟩ := Prod.mk.inj (Option.some.inj h)
        exact ⟨rfl, .mark (of_decide_eq_true hc) (ofSigned?_eq_some_iff.1 he'), hfits⟩
      · cases h
    · rintro ⟨rfl, he, hfits⟩
      cases he with
      | mark _ he =>
        dsimp only
        rw [ofSigned?_eq_some_iff.2 he, Option.bind_some, if_pos hfits]

/-- The units that a text is counted in. -/
theorem mul_zpow_units (unscaled : Int) (places : Nat) (e : Int) :
    (unscaled * 10 ^ (-((places : Int) - e)) : ℚ) = unscaled / 10 ^ places * 10 ^ e := by
  rw [neg_sub, zpow_sub₀ (by norm_num), zpow_natCast, mul_div_assoc', div_mul_eq_mul_div]

/-- An exponent within the bounds fits in a word with a sign. -/
theorem isSigned64_of_le {z : Int} (h : z.natAbs ≤ maxExponent) : isSigned64 z = true := by
  have hsize : (twoPow 63 : Int) = 9223372036854775808 := rfl
  have hmax : maxExponent = 4096 := rfl
  rw [isSigned64, Bool.and_eq_true, decide_eq_true_eq, decide_eq_true_eq]
  omega

/-- The pieces that a text is cut into: at the mark of the exponent, behind the sign, and at the
point. -/
structure Pieces (cs : List Char) where
  mantissa : List Char
  exponent : Int
  negative : Bool
  unsigned : List Char
  whole : List Char
  fraction : List Char
  cut : splitExponent? (body cs) = some (mantissa, exponent)
  sign : splitSign mantissa = (negative, unsigned)
  point : splitPoint unsigned = (whole, fraction)

namespace Pieces

variable {cs mantissa : List Char} {e : Int}

/-- Once the exponent is cut off, the rest is cut as well. -/
def ofCut (h : splitExponent? (body cs) = some (mantissa, e)) : Pieces cs :=
  ⟨mantissa, e, _, _, _, _, h, rfl, rfl⟩

variable (p : Pieces cs)

/-- What is read from the pieces. -/
def read : Option Decimal :=
  (ofDigits? (p.whole ++ p.fraction)).bind fun n =>
    let scale := (p.fraction.length : Int) - p.exponent
    if isSigned64 scale then ofScaled? (withSign p.negative n) scale else none

theorem ofText?_eq : ofText? cs = p.read := by
  rw [ofText?, ← body, p.cut, Option.bind_eq_bind, Option.bind_some]
  dsimp only
  rw [p.sign]
  dsimp only
  rw [p.point]
  rfl

/-- The exponent that is read fits in a word with a sign. -/
theorem isSigned64_exponent : isSigned64 p.exponent = true :=
  (splitExponent?_eq_some_iff.1 p.cut).2.2

/-- The digits after the point are some of the characters of the text. -/
theorem length_fraction_le : p.fraction.length ≤ cs.length := by
  have hfraction : p.fraction.length ≤ p.unsigned.length := by
    rw [← (Prod.mk.inj p.point).2]
    exact ((List.drop_sublist _ _).trans (List.dropWhile_sublist _)).length_le
  have hunsigned : p.unsigned.length ≤ p.mantissa.length := by
    obtain ⟨sign, _, _, hmantissa, _⟩ := exists_sign p.mantissa
    rw [p.sign] at hmantissa
    rw [hmantissa, List.length_append]
    exact Nat.le_add_left _ _
  have hmantissa : p.mantissa.length ≤ (body cs).length := by
    rw [← (splitExponent?_eq_some_iff.1 p.cut).1]
    exact (List.takeWhile_sublist _).length_le
  have hbody : (body cs).length ≤ cs.length := by
    have htrim : (trim cs).length ≤ cs.length := by
      rw [trim, List.length_reverse]
      refine (List.dropWhile_sublist _).length_le.trans ?_
      rw [List.length_reverse]
      exact (List.dropWhile_sublist _).length_le
    exact List.filter_sublist.length_le.trans htrim
  omega

end Pieces

/-- **Which texts are read, and as what**: those that spell a rational with an exponent that fits a
word, as that rational, when at most `maxExponent` zeros are asked for. -/
theorem ofText?_eq_some_iff {cs : List Char} {d : Decimal} :
    ofText? cs = some d ↔ ∃ places e, SpellsDecimal (body cs) d.value places e ∧
      isSigned64 e = true ∧ ((places : Int) - e).natAbs ≤ maxExponent := by
  constructor
  · intro h
    obtain ⟨⟨mantissa, e⟩, hcut, -⟩ := Option.bind_eq_some_iff.1 h
    obtain ⟨htake, hexp, hfits⟩ := splitExponent?_eq_some_iff.1 hcut
    rw [(Pieces.ofCut hcut).ofText?_eq] at h
    obtain ⟨n, hn, h⟩ := Option.bind_eq_some_iff.1 h
    dsimp only at h
    split at h
    · obtain ⟨hle, hvalue⟩ := ofScaled?_eq_some_iff.1 h
      refine ⟨_, e, spellsDecimal_iff.2
        ⟨mantissa, _, _, _, _, _, n, htake, rfl, rfl, rfl, hn, hexp, ?_, rfl⟩, hfits, hle⟩
      rw [hvalue]
      exact mul_zpow_units _ _ _
    · cases h
  · rintro ⟨_, e, hspells, hfits, hle⟩
    obtain ⟨mantissa, _, negative, unsigned, ds, fs, n, htake, rfl, hsign, hpoint, hn, hexp, hvalue,
      rfl⟩ := spellsDecimal_iff.1 hspells
    have hcut := splitExponent?_eq_some_iff.2 ⟨htake, hexp, hfits⟩
    let pieces : Pieces cs := ⟨mantissa, e, negative, unsigned, ds, fs, hcut, hsign, hpoint⟩
    rw [pieces.ofText?_eq, Pieces.read, hn, Option.bind_some, if_pos (isSigned64_of_le hle)]
    refine ofScaled?_eq_some_iff.2 ⟨hle, ?_⟩
    rw [hvalue, mul_zpow_units]

/-! ## Reading with words -/

/-- What the reader that counts in words gives for a decimal. -/
def words (d : Decimal) : Int × UInt32 :=
  (d.unscaled, UInt32.ofNat d.scale)

theorem words_of_scale {d : Decimal} {scale : UInt32} (h : scale.toNat = d.scale) :
    d.words = (d.unscaled, scale) := by
  rw [words, ← h, UInt32.ofNat_toNat]

theorem toInt64?_eq (z : Int) :
    Word.toInt64? z = if isSigned64 z then some (Int64.ofInt z) else none := by
  simp only [Word.toInt64?, isSigned64, Bool.and_eq_true, decide_eq_true_eq]

/-- The word of an integer that fits stands for that integer. -/
theorem toInt_ofInt {z : Int} (h : isSigned64 z = true) : (Int64.ofInt z).toInt = z :=
  Word.toInt64?_eq_some_iff.1 ((toInt64?_eq z).trans (if_pos h))

/-- In words, the exponent is split off as it is in integers. -/
theorem splitExponentInWords?_eq (cs : List Char) :
    splitExponentInWords? cs = (splitExponent? cs).map fun p => (p.1, Int64.ofInt p.2) := by
  unfold splitExponentInWords? splitExponent?
  cases cs.dropWhile fun c => decide (c ≠ 'e' ∧ c ≠ 'E') with
  | nil => rfl
  | cons _ rest =>
    dsimp only
    cases ofSigned? rest with
    | none => rfl
    | some e =>
      rw [Option.bind_some, Option.bind_some, toInt64?_eq]
      split <;> rfl

/-- Normalizing depends on the number of digits only by its value. -/
theorem normalize_congr (unscaled : Int) {m n : Nat} (hm : m ≤ maxExponent) (h : m = n) :
    normalize unscaled m hm = normalize unscaled n (h ▸ hm) := by
  subst h
  rfl

/-- The count of the zeros that are dropped never goes below zero. -/
theorem dropZeros_eq (unscaled : Int) (scale : UInt32) (hs : scale.toNat ≤ maxExponent) :
    dropZeros unscaled scale = .ok (normalize unscaled scale.toNat hs).words := by
  fun_induction dropZeros unscaled scale with
  | case1 unscaled scale hzero rest hrest ih =>
    have hsucc := Word.toNat_of_pred hrest
    rw [ih (by omega), normalize_congr unscaled hs hsucc.symm, normalize, dif_pos hzero.2]
  | case2 unscaled scale hzero o hrest =>
    unfold Word.pred at hrest
    split at hrest
    · next hnone =>
      rw [hnone] at hzero
      exact absurd hzero.1 (by decide)
    · cases hrest
  | case3 unscaled scale hzero =>
    by_cases hn : scale.toNat = 0
    · rw [normalize_congr unscaled hs hn, normalize, words_of_scale hn, ofInt]
    · have hlast : ¬unscaled % 10 = 0 := fun h =>
        hzero ⟨UInt32.lt_iff_toNat_lt.2 (Nat.pos_of_ne_zero hn), h⟩
      obtain ⟨n, hsucc⟩ := Nat.exists_eq_succ_of_ne_zero hn
      rw [normalize_congr unscaled hs hsucc, normalize, dif_neg hlast, words_of_scale hsucc]

/-- In words, a decimal is scaled as it is in integers. -/
theorem scaleInWords_eq (unscaled : Int) {scale : Int64} (h : scale ≠ Int64.minValue) :
    scaleInWords unscaled scale = .ok ((ofScaled? unscaled scale.toInt).map words) := by
  have hmax : maxExponent = 4096 := rfl
  have hsign : scale < 0 ↔ scale.toInt < 0 := Int64.lt_iff_toInt_lt
  obtain ⟨size, hsize, hmagnitude⟩ := Word.exists_abs h
  have hbound : Int64.ofNat maxExponent < size ↔ maxExponent < scale.toInt.natAbs := by
    rw [Int64.lt_iff_toInt_lt, hmagnitude]
    exact Int.ofNat_lt
  rw [scaleInWords, hsize, ofScaled?]
  show (if _ then _ else _) = _
  by_cases hle : maxExponent < scale.toInt.natAbs
  · rw [if_pos (hbound.2 hle), dif_pos hle]
    rfl
  · obtain ⟨k, hk, hcount⟩ :=
      Word.exists_narrow_magnitude (x := scale) (by show _ < 4294967296; omega)
    rw [if_neg (hbound.not.2 hle), dif_neg hle, hk]
    by_cases hneg : scale.toInt < 0
    · have hnat : k.toNat = (-scale.toInt).toNat := by omega
      rw [if_pos (hsign.2 hneg), if_pos hneg]
      show (dropZeros (unscaled * tenPow k.toNat) 0 >>= _) = _
      rw [hnat, dropZeros_eq _ _ (Nat.zero_le _)]
      rfl
    · have hnat : k.toNat = scale.toInt.toNat := by omega
      rw [if_neg (hsign.not.2 hneg), if_neg hneg]
      show (dropZeros unscaled k >>= _) = _
      rw [dropZeros_eq _ _ (by omega), normalize_congr unscaled _ hnat]
      rfl

/-- A fraction has no negative length, so that the scale is never the least word. -/
theorem ne_minValue_of_sub? {length e scale : Int64} (hlength : 0 ≤ length.toInt)
    (h : Word.sub? length e = some scale) : scale ≠ Int64.minValue := by
  have hscale : scale.toInt = length.toInt - e.toInt := Word.toInt64?_eq_some_iff.1 h
  have he := e.toInt_lt
  rintro rfl
  rw [show Int64.minValue.toInt = -9223372036854775808 from rfl] at hscale
  omega

namespace Pieces

variable {cs : List Char} (p : Pieces cs)

theorem ofTextInWords_eq :
    ofTextInWords cs = ofPartsInWords p.negative p.whole p.fraction (Int64.ofInt p.exponent) := by
  rw [ofTextInWords, ← body, splitExponentInWords?_eq, p.cut, Option.map_some]
  dsimp only
  rw [p.sign]
  dsimp only
  rw [p.point]

/-- Words read what is read without them, if the digits after the point can be counted. -/
theorem ofPartsInWords_eq (hlength : p.fraction.length < twoPow 63) :
    ofPartsInWords p.negative p.whole p.fraction (Int64.ofInt p.exponent) =
      .ok (p.read.map words) := by
  have hcounted : isSigned64 p.fraction.length = true := by
    rw [isSigned64, Bool.and_eq_true, decide_eq_true_eq, decide_eq_true_eq]
    omega
  have hlen : (Int64.ofInt p.fraction.length).toInt = p.fraction.length := toInt_ofInt hcounted
  have hsub : Word.sub? (Int64.ofInt p.fraction.length) (Int64.ofInt p.exponent) =
      Word.toInt64? (p.fraction.length - p.exponent) := by
    rw [Word.sub?, hlen, toInt_ofInt p.isSigned64_exponent]
  rw [ofPartsInWords, toInt64?_eq, if_pos hcounted, Option.bind_some, hsub, read]
  cases ofDigits? (p.whole ++ p.fraction) with
  | none => rfl
  | some n =>
    rw [Option.bind_some]
    by_cases hfits : isSigned64 (p.fraction.length - p.exponent) = true
    · have hscale := (toInt64?_eq _).trans (if_pos hfits)
      have hne :=
        ne_minValue_of_sub? ((Int.natCast_nonneg _).trans_eq hlen.symm) (hsub.trans hscale)
      rw [if_pos hfits, hscale]
      refine (scaleInWords_eq _ hne).trans ?_
      rw [toInt_ofInt hfits]
    · rw [if_neg hfits, toInt64?_eq, if_neg hfits]
      rfl

/-- Digits that cannot be counted are refused. -/
theorem ofPartsInWords_long (hlength : ¬p.fraction.length < twoPow 63) :
    ofPartsInWords p.negative p.whole p.fraction (Int64.ofInt p.exponent) = .ok none := by
  have hlong : Word.toInt64? p.fraction.length = none :=
    if_neg fun h => hlength (Int.ofNat_lt.1 h.2)
  rw [ofPartsInWords, hlong]
  cases ofDigits? (p.whole ++ p.fraction) <;> rfl

end Pieces

/-- **No operation of the reader leaves its word**, whatever the text and its exponent; and a text
whose length fits a word is read as it is without words. -/
theorem ofTextInWords_eq (cs : List Char) :
    ∃ r, ofTextInWords cs = .ok r ∧ (cs.length < twoPow 63 → r = (ofText? cs).map words) := by
  cases hcut : splitExponent? (body cs) with
  | none =>
    refine ⟨none, ?_, fun _ => ?_⟩
    · rw [ofTextInWords, ← body, splitExponentInWords?_eq, hcut]
      rfl
    · rw [ofText?, ← body, hcut]
      rfl
  | some cut =>
    let p := Pieces.ofCut hcut
    rw [p.ofTextInWords_eq, p.ofText?_eq]
    by_cases hlength : p.fraction.length < twoPow 63
    · exact ⟨_, p.ofPartsInWords_eq hlength, fun _ => rfl⟩
    · exact ⟨_, p.ofPartsInWords_long hlength,
        fun h => absurd (p.length_fraction_le.trans_lt h) hlength⟩

/-! ## Decimals as rationals -/

/-- **Decimals are exact and canonical.**  A text is read as the rational that it spells, and it
spells no other; the reader that is run never leaves a word on the way.  A decimal is read back from
its text, decimals compare as their values and are equal when they compare so, and the integer part
is the value without its fraction. -/
theorem exact_and_canonical (cs : List Char) (a b : Decimal) :
    (ofText? cs = some a ↔ ∃ places e, SpellsDecimal (body cs) a.value places e ∧
      isSigned64 e = true ∧ ((places : Int) - e).natAbs ≤ maxExponent) ∧
    (∀ {q r places places' e f}, SpellsDecimal (body cs) q places e →
      SpellsDecimal (body cs) r places' f → q = r) ∧
    (∃ r, ofTextInWords cs = .ok r ∧ (cs.length < twoPow 63 → r = (ofText? cs).map words)) ∧
    ofText? a.text = some a ∧
    a.compare b = cmp a.value b.value ∧
    (a = b ↔ a.compare b = .eq) ∧
    a.truncate = towardZero a.value :=
  ⟨ofText?_eq_some_iff, SpellsDecimal.unique, ofTextInWords_eq cs, ofText?_text a, compare_eq a b,
    eq_iff_compare_eq, truncate_eq a⟩

/-- A text with a sign, digits on both sides of the point and an exponent, read with words. -/
theorem read_in_words : ofTextInWords "-1.50e2".toList = .ok (some (-150, 0)) := by
  obtain ⟨r, hr, hsame⟩ := (exact_and_canonical "-1.50e2".toList (ofInt 0) (ofInt 0)).2.2.1
  rw [hr, hsame (by decide)]
  rfl

end Decimal
end Conform
