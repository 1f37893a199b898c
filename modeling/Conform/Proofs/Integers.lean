import Conform.Number.Integer
import Conform.Proofs.Decimals
import Mathlib.Algebra.Ring.Int.Parity

/-!
# Integers have one representation

The same integer comes from words of several sizes, with and without a sign, from texts and from
decimals, and each of these looks for the way to keep it by checks of its own.  They all end with
the same one, so that integers are equal when they are kept equally.

* `Integer.canonical` — the one way to keep an integer.
* `Integer.Made` — what an integer is made from, with the value of that.
* `Integer.Made.eq_canonical` — **every source gives the one representation.**
* `Integer.readInteger?_eq`, `Integer.truncate_decimal`, `Integer.truncate_float` — as numbers,
  integers are read and cut off the same.
* `Integer.toNumber_answers` — a kept integer answers as the number that it is.
* `Integer.one_representation` — these facts together, for every integer and every source.
-/

namespace Conform
namespace Integer

open Text

/-! ## The one representation -/

/-- The way to keep an integer: an unsigned word from 0 up, a signed word below 0, all its digits
where neither is wide enough. -/
def canonical (z : Int) : Integer :=
  if 0 ≤ z ∧ z < twoPow 64 then .unsigned (UInt64.ofNat z.toNat)
  else if -(twoPow 63 : Int) ≤ z ∧ z < 0 then .signed (Int64.ofInt z)
  else .big z

/-- An integer that is not negative is kept in an unsigned word, if it fits. -/
theorem canonical_of_nonneg {z : Int} (h : 0 ≤ z) :
    canonical z = ((Word.toUInt64? z).map .unsigned).getD (.big z) := by
  unfold canonical Word.toUInt64?
  split
  · rfl
  · rw [if_neg (by omega)]
    rfl

/-- A negative integer is kept in a signed word, if it fits. -/
theorem canonical_of_neg {z : Int} (h : z < 0) :
    canonical z = ((Word.toInt64? z).map .signed).getD (.big z) := by
  have hhigh : z < twoPow 63 := h.trans (Int.natCast_pos.2 (twoPow_pos 63))
  unfold canonical Word.toInt64?
  rw [if_neg (by omega)]
  by_cases hlow : -(twoPow 63 : Int) ≤ z
  · rw [if_pos ⟨hlow, h⟩, if_pos ⟨hlow, hhigh⟩]
    rfl
  · rw [if_neg (by omega), if_neg (by omega)]
    rfl

/-- The integer of an unsigned word is kept in that word. -/
theorem canonical_unsigned (n : UInt64) : canonical n.toNat = .unsigned n := by
  rw [canonical_of_nonneg (Int.natCast_nonneg _), Word.toUInt64?_eq_some_iff.2 rfl]
  rfl

@[simp] theorem value_canonical (z : Int) : (canonical z).value = z := by
  by_cases h : 0 ≤ z
  · rw [canonical_of_nonneg h]
    cases hword : Word.toUInt64? z with
    | none => rfl
    | some n => exact Word.toUInt64?_eq_some_iff.1 hword
  · rw [canonical_of_neg (not_le.1 h)]
    cases hword : Word.toInt64? z with
    | none => rfl
    | some n => exact Word.toInt64?_eq_some_iff.1 hword

/-! ## The sources -/

/-- Making an integer gives the representation that it has to have. -/
theorem ofInt_eq (z : Int) : ofInt z = canonical z := by
  unfold ofInt
  split
  · next h =>
    subst h
    exact (canonical_unsigned 0).symm
  · split
    · next h => exact (canonical_of_neg h).symm
    · next h => exact (canonical_of_nonneg (not_lt.1 h)).symm

theorem ofInt128_eq (x : BitVec 128) : ofInt128 x = canonical x.toInt := by
  unfold ofInt128
  generalize x.toInt = z
  by_cases h : 0 ≤ z
  · rw [if_pos h, canonical_of_nonneg h]
    cases hword : Word.toUInt64? z with
    | some n => rfl
    | none =>
      -- what does not fit the unsigned word does not fit the signed one either
      have hsigned : Word.toInt64? z = none := by
        have hsize : (twoPow 63 : Int) ≤ twoPow 64 := by decide
        rw [Word.toUInt64?_eq_none_iff] at hword
        rw [Word.toInt64?_eq_none_iff]
        omega
      rw [hsigned]
      rfl
  · rw [if_neg h, canonical_of_neg (not_le.1 h)]
    rfl

theorem ofUInt128_eq (x : BitVec 128) : ofUInt128 x = canonical x.toNat := by
  have h : 0 ≤ (x.toNat : Int) := Int.natCast_nonneg _
  unfold ofUInt128
  rw [ofInt_eq, canonical_of_nonneg h]
  cases Word.toUInt64? x.toNat with
  | none => rfl
  | some n => rfl

/-- A word that is widened keeps its value. -/
theorem ofInt128_signExtend {w : Nat} (hw : w ≤ 128) (x : BitVec w) :
    ofInt128 (x.signExtend 128) = canonical x.toInt := by
  rw [ofInt128_eq, BitVec.toInt_signExtend_of_le hw]

/-- What an integer is made from, and the value of that. -/
inductive Made : Integer → Int → Prop
  | ofInt (z : Int) : Made (ofInt z) z
  | ofInt128 (x : BitVec 128) : Made (ofInt128 x) x.toInt
  | ofUInt128 (x : BitVec 128) : Made (ofUInt128 x) x.toNat
  | ofInt64 (n : Int64) : Made (ofInt64 n) n.toInt
  | ofInt32 (n : Int32) : Made (ofInt32 n) n.toInt
  | ofUInt64 (n : UInt64) : Made (ofUInt64 n) n.toNat
  | ofUInt32 (n : UInt32) : Made (ofUInt32 n) n.toNat
  | ofUSize (n : USize) : Made (ofUSize n) n.toNat
  | ofDecimal (d : Decimal) : Made (ofDecimal d) (towardZero d.value)
  | ofBinary64 {x : Binary64} {a : Integer} {z : Int} :
      ofBinary64? x = some a → x.truncate = some z →
      Made a z
  | read {cs : List Char} {a : Integer} {z : Int} : read? cs = some a → SpellsInteger (body cs) z →
      Made a z

/-- Reading a text gives the integer that its body spells. -/
theorem read?_eq (cs : List Char) : read? cs = (ofSigned? (body cs)).map ofInt := rfl

/-- Every text that spells an integer is read. -/
theorem read?_of_spells {cs : List Char} {z : Int} (h : SpellsInteger (body cs) z) :
    read? cs = some (canonical z) := by
  rw [read?_eq, ofSigned?_eq_some_iff.2 h, Option.map_some, ofInt_eq]

/-- **Every source gives the one representation.** -/
theorem Made.eq_canonical {a : Integer} {z : Int} (h : Made a z) : a = canonical z := by
  cases h with
  | ofInt z => exact ofInt_eq z
  | ofInt128 x => exact ofInt128_eq x
  | ofUInt128 x => exact ofUInt128_eq x
  | ofInt64 n => exact ofInt128_signExtend (by decide) n.toBitVec
  | ofInt32 n => exact ofInt128_signExtend (by decide) n.toBitVec
  | ofUInt64 n => exact (canonical_unsigned n).symm
  | ofUInt32 n =>
    rw [← UInt32.toNat_toUInt64, canonical_unsigned]
    rfl
  | ofUSize n =>
    rw [← USize.toNat_toUInt64, canonical_unsigned]
    rfl
  | ofDecimal d => rw [Integer.ofDecimal, ofInt_eq, Decimal.truncate_eq]
  | @ofBinary64 x _ _ ha hz =>
    rw [ofBinary64?, hz, Option.bind_some] at ha
    split at ha
    · next hsmall =>
      have hmax : Number.maxTruncated = 9223372036854775808 := rfl
      rw [← Option.some.inj ha, ofInt128_eq, BitVec.toInt_ofInt_eq_self (by decide)
        (by omega) (by omega)]
    · cases ha
  | read ha hz => exact Option.some.inj (ha.symm.trans (read?_of_spells hz))

/-! ## What is asked of it -/

/-- A signed word that is not negative is kept in the change to an unsigned one. -/
theorem toNat_toUInt64 {n : Int64} (h : 0 ≤ n.toInt) : (n.toUInt64.toNat : Int) = n.toInt := by
  rw [Int64.toNat_toUInt64_of_le (Int64.le_iff_toInt_le.2 h)]
  exact Int.toNat_of_nonneg h

/-- An unsigned word of up to 63 bits is kept in the change to a signed one. -/
theorem toInt_toInt64 {n : UInt64} (h : n.toNat < 2 ^ 63) : n.toInt64.toInt = n.toNat := by
  calc n.toInt64.toInt
      = (UInt64.ofNat n.toNat).toInt64.toInt := by rw [UInt64.ofNat_toNat]
    _ = (Int64.ofNat n.toNat).toInt := by rw [UInt64.toInt64_ofNat']
    _ = n.toNat := Int64.toInt_ofNat_of_lt h

/-- An integer fits in an unsigned word exactly if the word has its value. -/
theorem toUInt64?_eq_some_iff {a : Integer} {n : UInt64} :
    a.toUInt64? = some n ↔ (n.toNat : Int) = a.value := by
  cases a with
  | unsigned m => rw [toUInt64?, Option.some_inj, value, Int.ofNat_inj, UInt64.toNat_inj, eq_comm]
  | signed m =>
    rw [toUInt64?, Option.ite_none_right_eq_some, Option.some_inj, value, Int64.le_iff_toInt_le]
    constructor
    · rintro ⟨h, rfl⟩
      exact toNat_toUInt64 h
    · intro hn
      have h : 0 ≤ m.toInt := hn ▸ Int.natCast_nonneg _
      exact ⟨h, UInt64.toNat_inj.1 (Int.ofNat_inj.1 ((toNat_toUInt64 h).trans hn.symm))⟩
  | big z => exact Word.toUInt64?_eq_some_iff

theorem toInt64?_eq_some_iff {a : Integer} {n : Int64} :
    a.toInt64? = some n ↔ n.toInt = a.value := by
  cases a with
  | unsigned m =>
    have hmax : m ≤ Int64.maxValue.toUInt64 ↔ m.toNat < 2 ^ 63 := by
      rw [UInt64.le_iff_toNat_le]
      exact Nat.lt_succ_iff.symm
    rw [toInt64?, Option.ite_none_right_eq_some, Option.some_inj, value, hmax]
    constructor
    · rintro ⟨h, rfl⟩
      exact toInt_toInt64 h
    · intro hn
      have h : m.toNat < 2 ^ 63 := Int.ofNat_lt.1 (hn ▸ n.toInt_lt)
      exact ⟨h, Int64.toInt_inj.1 ((toInt_toInt64 h).trans hn.symm)⟩
  | signed m => rw [toInt64?, Option.some_inj, value, Int64.toInt_inj, eq_comm]
  | big z => exact Word.toInt64?_eq_some_iff

/-- What is left after halving toward zero tells whether an integer is odd. -/
theorem tmod_two_ne_zero_iff {z : Int} : z.tmod 2 ≠ 0 ↔ Odd z := by
  rw [ne_eq, ← Int.dvd_iff_tmod_eq_zero, ← even_iff_two_dvd, Int.not_even_iff_odd]

/-- Oddness is that of the value, whatever the representation. -/
theorem isOdd_iff {a : Integer} : a.isOdd = true ↔ Odd a.value := by
  cases a with
  | unsigned n =>
    rw [isOdd, value, beq_iff_eq, ← UInt64.toNat_inj, UInt64.toNat_mod, Int.odd_coe_nat,
      Nat.odd_iff]
    rfl
  | signed n =>
    rw [isOdd, value, bne_iff_ne, ne_eq, ← Int64.toInt_inj, Int64.toInt_mod]
    exact tmod_two_ne_zero_iff
  | big z =>
    rw [isOdd, value, bne_iff_ne]
    exact tmod_two_ne_zero_iff

theorem isEven_iff {a : Integer} : a.isEven = true ↔ Even a.value := by
  rw [isEven, Bool.not_eq_true', ← Bool.not_eq_true, isOdd_iff, Int.not_odd_iff_even]

/-- The text is that of the value. -/
theorem text_eq (a : Integer) : a.text = Text.signed a.value := by
  cases a with
  | unsigned n => rw [text, value, Text.signed, if_neg (by omega), Int.natAbs_natCast]
  | signed n => rfl
  | big z => rfl

/-- An integer is read back from its text. -/
theorem read?_text (a : Integer) : read? a.text = some (canonical a.value) := by
  obtain ⟨z, hz, h⟩ := Option.map_eq_some_iff.1 (Number.readInteger?_signed a.value)
  obtain rfl := Number.integer.inj h
  rw [text_eq, read?_eq, body, hz, Option.map_some, ofInt_eq]

/-- A text is read as an integer exactly if its body spells it. -/
theorem read?_eq_some_iff {cs : List Char} {z : Int} :
    read? cs = some (canonical z) ↔ SpellsInteger (body cs) z := by
  refine ⟨fun h => ?_, read?_of_spells⟩
  rw [read?_eq] at h
  obtain ⟨y, hy, hyz⟩ := Option.map_eq_some_iff.1 h
  have hvalue := congrArg value hyz
  rw [ofInt_eq, value_canonical, value_canonical] at hvalue
  rw [← hvalue]
  exact ofSigned?_eq_some_iff.1 hy

/-! ## The same integers as numbers -/

/-- Reading by machine words agrees with reading a number. -/
theorem readInteger?_eq (cs : List Char) : Number.readInteger? cs = (read? cs).map toNumber := by
  rw [Number.readInteger?, ← body, read?_eq]
  cases ofSigned? (body cs) with
  | none => rfl
  | some z =>
    rw [Option.map_some, Option.map_some, Option.map_some, toNumber, ofInt_eq, value_canonical]

/-- Truncating a decimal by machine words agrees with truncating it as a number. -/
theorem truncate_decimal (d : Decimal) :
    Number.truncate (.decimal d) = some (ofDecimal d).toNumber := by
  rw [Number.truncate, ofDecimal, toNumber, ofInt_eq, value_canonical]

theorem truncate_float (x : Binary64) :
    Number.truncate (.float x) = (ofBinary64? x).map toNumber := by
  cases hz : x.truncate with
  | none =>
    rw [Number.truncate, ofBinary64?, hz, Option.bind_none, Option.bind_none, Option.map_none]
  | some z =>
    have hmade {a : Integer} (h : ofBinary64? x = some a) : a.toNumber = .integer z := by
      rw [toNumber, (Made.ofBinary64 h hz).eq_canonical, value_canonical]
    rw [ofBinary64?, hz, Option.bind_some] at hmade ⊢
    rw [Number.truncate, hz, Option.bind_some]
    split
    · next hsmall => rw [Option.map_some, hmade (if_pos hsmall)]
    · rfl

/-- Narrowing to an unsigned word depends on the value only. -/
theorem toUInt64?_eq (a : Integer) : a.toUInt64? = Word.toUInt64? a.value :=
  Option.ext fun n => by rw [toUInt64?_eq_some_iff, Word.toUInt64?_eq_some_iff]

theorem toInt64?_eq (a : Integer) : a.toInt64? = Word.toInt64? a.value :=
  Option.ext fun n => by rw [toInt64?_eq_some_iff, Word.toInt64?_eq_some_iff]

/-- The number of an integer has the same unsigned word. -/
theorem toUnsigned64?_toNumber (a : Integer) :
    a.toNumber.toUnsigned64? = a.toUInt64?.map UInt64.toNat := by
  rw [toUInt64?_eq, toNumber]
  cases hword : Word.toUInt64? a.value with
  | none =>
    rw [Number.toUnsigned64?, if_neg (Word.toUInt64?_eq_none_iff.1 hword)]
    rfl
  | some n =>
    have hn := Word.toUInt64?_eq_some_iff.1 hword
    have hlt : (n.toNat : Int) < twoPow 64 := Int.ofNat_lt.2 n.toNat_lt
    rw [Number.toUnsigned64?, if_pos ⟨by omega, by omega⟩, ← hn, Int.toNat_natCast]
    rfl

theorem toSigned64?_toNumber (a : Integer) :
    a.toNumber.toSigned64? = a.toInt64?.map Int64.toInt := by
  rw [toInt64?_eq, Decimal.toInt64?_eq, toNumber, Number.toSigned64?]
  split
  · next hfits => rw [Option.map_some, Decimal.toInt_ofInt hfits]
  · rfl

theorem isOdd_toNumber (a : Integer) : a.toNumber.isOdd = a.isOdd := by
  rw [Bool.eq_iff_iff, isOdd_iff, Int.odd_iff, ← Int.emod_two_ne_zero]
  exact bne_iff_ne

/-- **What is asked of an integer is what is asked of the number that it is.** -/
theorem toNumber_answers (a b : Integer) :
    a.toNumber.compareValue b.toNumber = a.compareValue b ∧
    a.toNumber.toUnsigned64? = a.toUInt64?.map UInt64.toNat ∧
    a.toNumber.toSigned64? = a.toInt64?.map Int64.toInt ∧
    a.toNumber.isOdd = a.isOdd ∧ a.toNumber.isEven = a.isEven ∧
    a.toNumber.text = a.text :=
  ⟨rfl, toUnsigned64?_toNumber a, toSigned64?_toNumber a, isOdd_toNumber a,
    congrArg (!·) (isOdd_toNumber a), (text_eq a).symm⟩

/-! ## One representation -/

/-- **Integers have one representation.**  Whatever an integer is made from, it is kept in the same
way; the texts that spell it are read so, its own among them; integers compare as integers; they are
in a word of 64 bits exactly when they fit one; and odd and even are what they are of integers of
any sign and size. -/
theorem one_representation {a : Integer} {z : Int} (h : Made a z) :
    a = canonical z ∧ a.value = z ∧
    (∀ cs, read? cs = some a ↔ SpellsInteger (body cs) z) ∧
    read? a.text = some a ∧
    (∀ {b y}, Made b y → a.compareValue b = Ord.compare z y) ∧
    (∀ n, a.toUInt64? = some n ↔ (n.toNat : Int) = z) ∧
    (∀ n, a.toInt64? = some n ↔ n.toInt = z) ∧
    (a.isOdd = true ↔ Odd z) ∧ (a.isEven = true ↔ Even z) := by
  have hvalue : a.value = z := by rw [h.eq_canonical, value_canonical]
  subst hvalue
  refine ⟨h.eq_canonical, rfl, fun cs => ?_, ?_, fun {b y} hb => ?_, fun n => toUInt64?_eq_some_iff,
    fun n => toInt64?_eq_some_iff, isOdd_iff, isEven_iff⟩
  · rw [← read?_eq_some_iff, ← h.eq_canonical]
  · rw [read?_text, ← h.eq_canonical]
  · rw [compareValue, hb.eq_canonical, value_canonical]

/-- The least integer in a word of 64 bits, and the first that needs more. -/
theorem made_at_the_bounds :
    ofInt64 Int64.minValue = .signed Int64.minValue ∧ ofUInt128 (twoPow 64) = .big (twoPow 64) ∧
      (ofInt64 Int64.minValue).compareValue (ofUInt128 (twoPow 64)) = .lt := by
  have hleast := one_representation (.ofInt64 Int64.minValue)
  have hmore := one_representation (.ofUInt128 (twoPow 64))
  refine ⟨hleast.1.trans ?_, hmore.1.trans ?_, (hleast.2.2.2.2.1 (.ofUInt128 (twoPow 64))).trans ?_⟩
  · decide
  · decide
  · decide

end Integer
end Conform
