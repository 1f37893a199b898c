import Conform.Number.Power

/-!
# Words

Integers in words of 64 and 32 bits.  A conversion says whether an integer fits its word.  The
operations that are used without asking say when their result does not fit.

* `Word.toUInt64?`, `Word.toInt64?` — an integer as a word, if it fits one.
* `Word.sub?` — the difference of two words, if it fits one.
* `Overflow`, `Word.abs`, `Word.narrow`, `Word.pred` — operations that may leave their word.
-/

namespace Conform

/-- The result of an operation does not fit its word. -/
inductive Overflow
  | outOfRange
  deriving DecidableEq, Repr

namespace Word

/-! ## Conversions -/

/-- The integer as an unsigned word. -/
def toUInt64? (z : Int) : Option UInt64 :=
  if 0 ≤ z ∧ z < twoPow 64 then some (UInt64.ofNat z.toNat) else none

/-- The integer as a signed word. -/
def toInt64? (z : Int) : Option Int64 :=
  if -(twoPow 63 : Int) ≤ z ∧ z < twoPow 63 then some (Int64.ofInt z) else none

/-- The word is found exactly if it stands for the integer. -/
theorem toUInt64?_eq_some_iff {z : Int} {n : UInt64} :
    toUInt64? z = some n ↔ (n.toNat : Int) = z := by
  have hsize : (twoPow 64 : Int) = 18446744073709551616 := rfl
  have hlt := n.toNat_lt
  unfold toUInt64?
  constructor
  · intro h
    split at h
    · next hz =>
      rw [← Option.some.inj h, UInt64.toNat_ofNat_of_lt' (by show _ < 18446744073709551616; omega)]
      omega
    · cases h
  · rintro rfl
    rw [if_pos (by omega), Int.toNat_natCast, UInt64.ofNat_toNat]

theorem toInt64?_eq_some_iff {z : Int} {n : Int64} : toInt64? z = some n ↔ n.toInt = z := by
  have hsize : (twoPow 63 : Int) = 9223372036854775808 := rfl
  have hlow := n.le_toInt
  have hhigh := n.toInt_lt
  unfold toInt64?
  constructor
  · intro h
    split at h
    · rw [← Option.some.inj h]
      exact Int64.toInt_ofInt_of_le (by omega) (by omega)
    · cases h
  · rintro rfl
    rw [if_pos (by omega), Int64.ofInt_toInt]

/-- There is no word exactly for integers outside the range. -/
theorem toUInt64?_eq_none_iff {z : Int} : toUInt64? z = none ↔ ¬(0 ≤ z ∧ z < twoPow 64) := by
  simp [toUInt64?]

theorem toInt64?_eq_none_iff {z : Int} :
    toInt64? z = none ↔ ¬(-(twoPow 63 : Int) ≤ z ∧ z < twoPow 63) := by
  simp [toInt64?]

/-! ## Arithmetic -/

/-- The difference of two words. -/
def sub? (x y : Int64) : Option Int64 :=
  toInt64? (x.toInt - y.toInt)

/-- The magnitude of a word as a word of the same kind.  That of the least word does not fit. -/
def abs (x : Int64) : Except Overflow Int64 :=
  if x = Int64.minValue then .error .outOfRange else .ok (Int64.ofInt x.toInt.natAbs)

/-- The magnitude of a word as an unsigned word, which it always fits. -/
def magnitude (x : Int64) : UInt64 :=
  UInt64.ofNat x.toInt.natAbs

/-- The lower half of a word, where the upper half has nothing. -/
def narrow (x : UInt64) : Except Overflow UInt32 :=
  if x.toNat < twoPow 32 then .ok x.toUInt32 else .error .outOfRange

/-- The word before. -/
def pred (x : UInt32) : Except Overflow UInt32 :=
  if x = 0 then .error .outOfRange else .ok (x - 1)

/-- A word that has a predecessor is one more than that. -/
theorem toNat_of_pred {x y : UInt32} (h : pred x = .ok y) : y.toNat + 1 = x.toNat := by
  unfold pred at h
  split at h
  · cases h
  · next hx =>
    have hpos : 0 < x.toNat := Nat.pos_of_ne_zero fun h0 => hx (UInt32.toNat_inj.1 h0)
    have hle : 1 ≤ x := UInt32.le_iff_toNat_le.2 hpos
    rw [← Except.ok.inj h, UInt32.toNat_sub_of_le _ _ hle]
    exact Nat.sub_add_cancel hpos

/-- Only the least word has no magnitude of its kind. -/
theorem exists_abs {x : Int64} (h : x ≠ Int64.minValue) :
    ∃ y, abs x = .ok y ∧ y.toInt = x.toInt.natAbs := by
  have hlow := x.le_toInt
  have hhigh := x.toInt_lt
  have hmin : x.toInt ≠ -9223372036854775808 := fun hmin => h (Int64.toInt_inj.1 hmin)
  exact ⟨_, if_neg h, Int64.toInt_ofInt_of_le (by omega) (by omega)⟩

/-- A magnitude that fits in half a word is narrowed to itself. -/
theorem exists_narrow_magnitude {x : Int64} (h : x.toInt.natAbs < twoPow 32) :
    ∃ y, narrow (magnitude x) = .ok y ∧ y.toNat = x.toInt.natAbs := by
  have hsize : twoPow 32 = 4294967296 := rfl
  have hword : (magnitude x).toNat = x.toInt.natAbs :=
    UInt64.toNat_ofNat_of_lt' (by show _ < 18446744073709551616; omega)
  refine ⟨_, if_pos (hword ▸ h), ?_⟩
  rw [UInt64.toNat_toUInt32, hword]
  exact Nat.mod_eq_of_lt h

end Word

end Conform
