import Conform.Proofs.Positions

/-!
# Values that are the same

Equality lets a zero be a zero whatever its sign, and a moment a moment whatever clock shows it.
Among values free of NaN nothing else is lost: two values that it takes for one have the same form
throughout, and every comparison comes out the same for both.  So sorting, inserting and looking up
treat them alike.

* `Number.Same`, `Value.Same` — equal, and free of NaN on both sides.
* `Number.Same.eq_or_zeros` — numbers that are the same are one number, or two zeros.
* `Value.same_array_iff` and its kin — what the same means for each kind.
* `Value.SameForm` — the forms that two such values have.
* `Value.Same.compare` — **values that are the same are compared alike**.
* `Table.Alike` — entries with the same keys and related values, kept by building, inserting and
  looking up.
-/

namespace Conform

/-! ## Numbers -/

/-- Equal decimals are one decimal. -/
theorem Decimal.eq_of_compare {a b : Decimal} (h : a.compare b = .eq) : a = b := by
  rw [Decimal.compare, Std.compare_eq_iff_eq] at h
  have haligned {a b : Decimal} (hle : a.scale ≤ b.scale)
      (h : a.unscaled * tenPow (b.scale - a.scale) = b.unscaled) : a = b := by
    obtain ⟨u, s, hu, hs⟩ := a
    obtain ⟨v, t, hv, ht⟩ := b
    obtain ⟨k, rfl⟩ := Nat.exists_eq_add_of_le hle
    simp only [Nat.add_sub_cancel_left] at h
    cases k with
    | zero =>
      obtain rfl : u = v := by simpa [tenPow] using h
      rfl
    | succ k =>
      -- a further digit of the fraction would be a zero
      refine absurd hv (not_or.2 ⟨by omega, not_not.2 ?_⟩)
      rw [← h, tenPow_succ, Nat.cast_mul, mul_left_comm]
      exact Int.mul_emod_right _ _
  rcases Nat.le_total a.scale b.scale with hle | hle
  · refine haligned hle ?_
    simpa [Nat.max_eq_right hle, tenPow] using h
  · refine (haligned hle ?_).symm
    simpa [Nat.max_eq_left hle, tenPow] using h.symm

namespace Binary64

theorem units_zero (negative : Bool) (e : Int) : units negative 0 e = 0 := by
  cases negative <;> simp [units]

/-- A number with a greater exponent has a greater magnitude. -/
theorem magnitude_lt {m n : Nat} {e f : Int} (he : IsCanonical m e) (hf : IsCanonical n f)
    (h : e < f) : m * twoPow (e + 1074).toNat < n * twoPow (f + 1074).toNat := by
  have hn : twoPow 52 ≤ n := hf.2.2.2.resolve_right fun hleast => by have := he.2.1; omega
  have hpow : twoPow ((e + 1074).toNat + 1) ≤ twoPow (f + 1074).toNat :=
    Nat.pow_le_pow_right two_pos (by have := he.2.1; omega)
  calc m * twoPow (e + 1074).toNat
      < twoPow 53 * twoPow (e + 1074).toNat := Nat.mul_lt_mul_of_pos_right he.1 (twoPow_pos _)
    _ = twoPow 52 * twoPow ((e + 1074).toNat + 1) := by
      rw [show twoPow 53 = 2 * twoPow 52 from twoPow_succ 52, twoPow_succ (e + 1074).toNat,
        mul_left_comm, mul_assoc]
    _ ≤ n * twoPow (f + 1074).toNat := Nat.mul_le_mul hn hpow

/-- A canonical float is determined by its magnitude. -/
theorem eq_of_magnitude_eq {m n : Nat} {e f : Int} (he : IsCanonical m e) (hf : IsCanonical n f)
    (h : m * twoPow (e + 1074).toNat = n * twoPow (f + 1074).toNat) : m = n ∧ e = f := by
  rcases lt_trichotomy e f with hlt | rfl | hlt
  · exact absurd h (magnitude_lt he hf hlt).ne
  · exact ⟨Nat.eq_of_mul_eq_mul_right (twoPow_pos _) h, rfl⟩
  · exact absurd h (magnitude_lt hf he hlt).ne'

/-- Finite numbers of one value are one number, or two zeros. -/
theorem eq_or_zeros_of_units {a b : Bool} {m n : Nat} {e f : Int} {he : IsCanonical m e}
    {hf : IsCanonical n f} (h : units a m e = units b n f) :
    Binary64.finite a m e he = .finite b n f hf ∨
      Binary64.finite a m e he = .zero a ∧ Binary64.finite b n f hf = .zero b := by
  have habs : m * twoPow (e + 1074).toNat = n * twoPow (f + 1074).toNat := by
    cases a <;> cases b <;> simp only [units, if_true, Bool.false_eq_true, if_false] at h <;> omega
  obtain ⟨rfl, rfl⟩ := eq_of_magnitude_eq he hf habs
  rcases Nat.eq_zero_or_pos m with rfl | hpos
  · have hleast : e = -1074 := he.2.2.2.resolve_left (Nat.not_le.2 (twoPow_pos 52))
    subst hleast
    exact .inr ⟨rfl, rfl⟩
  · have hmagnitude : 0 < m * twoPow (e + 1074).toNat := Nat.mul_pos hpos (twoPow_pos _)
    refine .inl ?_
    cases a <;> cases b <;> simp only [units, if_true, Bool.false_eq_true, if_false] at h <;>
      first | rfl | omega

/-- Finite and infinite numbers that tie are one number, or two zeros. -/
theorem eq_or_zeros_of_compare? {x y : Binary64} (h : x.compare? y = some .eq) :
    x = y ∨ ∃ b c, x = .zero b ∧ y = .zero c := by
  cases x with
  | nan => cases h
  | infinite a =>
    cases y with
    | nan => cases h
    | infinite b =>
      refine .inl ?_
      cases a <;> cases b <;> first | rfl | cases h
    | finite b n f hf => cases a <;> cases h
  | finite a m e he =>
    cases y with
    | nan => cases h
    | infinite b => cases b <;> cases h
    | finite b n f hf =>
      refine (eq_or_zeros_of_units (Std.compare_eq_iff_eq.1 (Option.some.inj h))).imp_right ?_
      exact fun hzeros => ⟨a, b, hzeros⟩

/-- The sign of a zero makes no difference to comparing it. -/
theorem compare?_zero (b c : Bool) (x : Binary64) : (zero b).compare? x = (zero c).compare? x := by
  cases x with
  | finite => simp only [zero, compare?, units_zero]
  | _ => rfl

end Binary64

namespace Number

/-- Two numbers that are equal, neither of them NaN. -/
structure Same (m n : Number) : Prop where
  left : m.HasValue
  right : n.HasValue
  equal : (m == n) = true

/-- **Numbers that are the same are one number, or two zeros.** -/
theorem Same.eq_or_zeros {m n : Number} (h : m.Same n) :
    m = n ∨ ∃ b c, m = .float (.zero b) ∧ n = .float (.zero c) := by
  have hrank := rank_eq_of_beq h.equal
  obtain ⟨htie, -⟩ := Ordering.then_eq_eq.1 (beq_iff_eq.1 h.equal)
  cases m with
  | integer z =>
    cases n <;> cases hrank
    exact .inl (congrArg _ (Std.compare_eq_iff_eq.1 htie))
  | decimal d =>
    cases n <;> cases hrank
    exact .inl (congrArg _ (Decimal.eq_of_compare htie))
  | float x =>
    cases n <;> cases hrank
    next y =>
    have hx : x ≠ .nan := fun hnan => h.left (congrArg _ hnan)
    have hy : y ≠ .nan := fun hnan => h.right (congrArg _ hnan)
    have heq : x.compare? y = some .eq := by
      have hsome := Binary64.compare?_eq hx hy
      rw [hsome]
      have hval : (x.compare? y).getD .eq = .eq := htie
      rw [hsome] at hval
      exact congrArg some hval
    rcases Binary64.eq_or_zeros_of_compare? heq with rfl | ⟨b, c, rfl, rfl⟩
    · exact .inl rfl
    · exact .inr ⟨b, c, rfl, rfl⟩

/-- What does not tell two zeros apart does not tell apart numbers that are the same. -/
theorem Same.congr {α : Type} {f : Number → α}
    (hf : ∀ b c, f (.float (.zero b)) = f (.float (.zero c))) {m n : Number} (h : m.Same n) :
    f m = f n := by
  rcases h.eq_or_zeros with rfl | ⟨b, c, rfl, rfl⟩
  · rfl
  · exact hf b c

theorem hasValue_zero (b : Bool) : HasValue (.float (.zero b)) :=
  fun h => Binary64.noConfusion (float.inj h)

theorem compareValue_zero (b c : Bool) (n : Number) :
    compareValue (.float (.zero b)) n = compareValue (.float (.zero c)) n := by
  have hfloat : ((Binary64.zero b).compare? n.toBinary64).getD .eq =
      ((Binary64.zero c).compare? n.toBinary64).getD .eq := by rw [Binary64.compare?_zero b c]
  cases n <;> exact hfloat

/-- Numbers that are the same have the same place among the values of all numbers. -/
theorem Same.compareValue {m n m' n' : Number} (hm : m.Same m') (hn : n.Same n') :
    m.compareValue n = m'.compareValue n' := by
  rw [hm.congr (f := fun k => k.compareValue n) fun b c => compareValue_zero b c n]
  rw [← swap_compareValue n, ← swap_compareValue n']
  exact congrArg _ (hn.congr (f := fun k => k.compareValue m') fun b c => compareValue_zero b c m')

/-- Same numbers compare alike. -/
theorem Same.compare {m n m' n' : Number} (hm : m.Same m') (hn : n.Same n') :
    m.compare n = m'.compare n' := by
  rw [Number.compare, hm.compareValue hn, rank_eq_of_beq hm.equal, rank_eq_of_beq hn.equal,
    Number.compare]

end Number

namespace Value

/-! ## Values -/

/-- Two values free of NaN that equality takes for one: they differ at most in the signs of zeros
and in the clocks that moments are read from. -/
structure Same (v w : Value) : Prop where
  left : v.NoNaN
  right : w.NoNaN
  equal : v.equals w = true

/-- A value without NaN is the same as itself. -/
theorem same_self {v : Value} (h : v.NoNaN) : v.Same v :=
  ⟨h, h, (compare_eq_iff v v).1 v.compare_self⟩

/-- Values without NaN that are equal are the same. -/
theorem same_of_beq {v w : Value} (hv : v.NoNaN) (hw : w.NoNaN) (h : (v == w) = true) : v.Same w :=
  ⟨hv, hw, (beq_eq_equals v w).symm.trans h⟩

namespace Same

variable {v w v' w' : Value}

theorem rank_eq (h : v.Same w) : v.rank = w.rank :=
  rank_eq_of_equals h.equal

/-- Same values tie. -/
theorem tie (h : v.Same w) : v.compare w = .eq :=
  (compare_eq_iff v w).2 h.equal

theorem symm (h : v.Same w) : w.Same v := by
  refine ⟨h.right, h.left, (compare_eq_iff w v).1 ?_⟩
  rw [← swap_compare, h.tie]
  rfl

theorem trans {u : Value} (h : u.Same v) (h' : v.Same w) : u.Same w :=
  ⟨h.left, h'.right, (compare_eq_iff u w).1 (compare_trans_eq h.left h.right h'.right h.tie h'.tie)⟩

/-- **Values that are the same are compared alike.** -/
theorem compare (hv : v.Same v') (hw : w.Same w') : v.compare w = v'.compare w' := by
  cases h : v.compare w with
  | lt => exact (compare_lt_congr hv.left hw.left hv.right hw.right hv.tie hw.tie h).symm
  | eq =>
    have hmiddle := compare_trans_eq hv.right hv.left hw.left hv.symm.tie h
    exact (compare_trans_eq hv.right hw.left hw.right hmiddle hw.tie).symm
  | gt =>
    have hlt : w.compare v = .lt := by
      rw [← swap_compare, h]
      rfl
    rw [← swap_compare,
      compare_lt_congr hw.left hv.left hw.right hv.right hw.tie hv.tie hlt]
    rfl

theorem beq_true (h : v.Same w) : (v == w) = true :=
  (beq_eq_equals v w).trans h.equal

/-- Same values are equal to the same ones. -/
theorem beq (hv : v.Same v') (hw : w.Same w') : (v == w) = (v' == w') :=
  congrArg (· == .eq) (hv.compare hw)

theorem isLess (hv : v.Same v') (hw : w.Same w') : v.isLess w = v'.isLess w' :=
  congrArg (· == .lt) (hv.compare hw)

end Same

/-! ### Kind by kind -/

/-- Numbers are the same as values exactly if they are so as numbers. -/
theorem same_number_iff {m n : Number} : Same (.number m) (.number n) ↔ m.Same n :=
  ⟨fun h => ⟨h.left, h.right, h.equal⟩, fun h => ⟨h.left, h.right, h.equal⟩⟩

/-- Ranges are the same exactly if their bounds are. -/
theorem same_range_iff {a b c d : Number} :
    Same (.range a c) (.range b d) ↔ a.Same b ∧ c.Same d := by
  constructor
  · intro h
    obtain ⟨hab, hcd⟩ := Bool.and_eq_true_iff.1 h.equal
    exact ⟨⟨h.left.1, h.right.1, hab⟩, ⟨h.left.2, h.right.2, hcd⟩⟩
  · rintro ⟨hab, hcd⟩
    exact ⟨⟨hab.left, hcd.left⟩, ⟨hab.right, hcd.right⟩,
      Bool.and_eq_true_iff.2 ⟨hab.equal, hcd.equal⟩⟩

/-- Lists are the same item by item exactly if they are equal and free of NaN. -/
theorem forall₂_same_iff {xs ys : List Value} : List.Forall₂ Same xs ys ↔
    EverywhereIn NumbersHaveValue xs ∧ EverywhereIn NumbersHaveValue ys ∧
      equalItems xs ys = true := by
  constructor
  · intro h
    induction h with
    | nil => exact ⟨trivial, trivial, rfl⟩
    | cons hxy _ ih =>
      obtain ⟨hxs, hys, heq⟩ := ih
      exact ⟨⟨hxy.left, hxs⟩, ⟨hxy.right, hys⟩, Bool.and_eq_true_iff.2 ⟨hxy.equal, heq⟩⟩
  · rintro ⟨hxs, hys, heq⟩
    induction forall₂_of_equalItems heq with
    | nil => exact .nil
    | cons hxy _ ih =>
      exact .cons ⟨hxs.1, hys.1, hxy⟩ (ih hxs.2 hys.2 (Bool.and_eq_true_iff.1 heq).2)

/-- Arrays are the same exactly if their items are, one by one. -/
theorem same_array_iff {xs ys : List Value} :
    Same (.array xs) (.array ys) ↔ List.Forall₂ Same xs ys :=
  forall₂_same_iff.trans ⟨fun ⟨hx, hy, h⟩ => ⟨⟨trivial, hx⟩, ⟨trivial, hy⟩, h⟩,
    fun h => ⟨h.left.2, h.right.2, h.equal⟩⟩ |>.symm

/-- Sets are the same exactly if their items are, one by one. -/
theorem same_set_iff {xs ys : List Value} :
    Same (.set xs) (.set ys) ↔ List.Forall₂ Same xs ys :=
  forall₂_same_iff.trans ⟨fun ⟨hx, hy, h⟩ => ⟨⟨trivial, hx⟩, ⟨trivial, hy⟩, h⟩,
    fun h => ⟨h.left.2, h.right.2, h.equal⟩⟩ |>.symm

end Value

/-! ## Tables -/

namespace Table

open Value (Same)

variable {α : Type}

/-- Entries in the same places have keys that are the same, and values that are related. -/
def Alike (R : α → α → Prop) : List (Value × α) → List (Value × α) → Prop :=
  List.Forall₂ fun e f => e.1.Same f.1 ∧ R e.2 f.2

section Building

variable {S : α → α → Prop}

/-- Placing alike items into alike lists gives alike lists. -/
theorem forall₂_placeDescending {less : α → α → Bool}
    (hless : ∀ ⦃a b c d⦄, S a b → S c d → less a c = less b d) {a b : α} (h : S a b)
    {as bs : List α} (hs : List.Forall₂ S as bs) :
    List.Forall₂ S (placeDescending less a as) (placeDescending less b bs) := by
  induction hs with
  | nil => exact .cons h .nil
  | cons hcd htail ih =>
    rw [placeDescending, placeDescending, hless h hcd]
    split
    · exact .cons hcd ih
    · exact .cons h (.cons hcd htail)

theorem forall₂_sort {less : α → α → Bool}
    (hless : ∀ ⦃a b c d⦄, S a b → S c d → less a c = less b d) {as bs : List α}
    (hs : List.Forall₂ S as bs) : List.Forall₂ S (sort less as) (sort less bs) := by
  refine List.forall₂_reverse_iff.2 (List.rel_foldl ?_ .nil hs)
  exact fun _ _ hsorted _ _ hab => forall₂_placeDescending hless hab hsorted

/-- Of alike lists, the items that are kept are alike. -/
theorem forall₂_keepLast {same : α → α → Bool}
    (hsame : ∀ ⦃a b c d⦄, S a b → S c d → same a c = same b d) {as bs : List α}
    (hs : List.Forall₂ S as bs) : List.Forall₂ S (keepLast same as) (keepLast same bs) := by
  induction hs with
  | nil => exact .nil
  | cons hab htail ih =>
    cases htail with
    | nil => exact .cons hab .nil
    | cons hcd htail =>
      rw [keepLast, keepLast, hsame hab hcd]
      split
      · exact ih
      · exact .cons hab ih

end Building

section Entries

variable {R : α → α → Prop} {es fs : List (Value × α)} {k l : Value}

/-- Tables that are alike have the same keys. -/
theorem Alike.keys (h : Alike R es fs) : List.Forall₂ Same (es.map (·.1)) (fs.map (·.1)) :=
  List.forall₂_map_left_iff.2 (List.forall₂_map_right_iff.2 (h.imp fun _ _ hef => hef.1))

theorem alike_ofEntries (h : Alike R es fs) : Alike R (ofEntries es) (ofEntries fs) :=
  forall₂_keepLast (fun _ _ _ _ hab hcd => hab.1.beq hcd.1)
    (forall₂_sort (fun _ _ _ _ hab hcd => hab.1.isLess hcd.1) h)

/-- Tables that are alike stay so when alike entries are put in. -/
theorem alike_insert (hk : k.Same l) {v w : α} (hv : R v w) (h : Alike R es fs) :
    Alike R (insert k v es) (insert l w fs) := by
  induction h with
  | nil => exact .cons ⟨hk, hv⟩ .nil
  | cons hef htail ih =>
    rw [insert, insert, hk.compare hef.1]
    split
    · exact .cons ⟨hk, hv⟩ (.cons hef htail)
    · exact .cons ⟨hef.1, hv⟩ htail
    · exact .cons hef ih

/-- Same keys lead to values that are alike. -/
theorem alike_get? (hk : k.Same l) (h : Alike R es fs) : Option.Rel R (get? k es) (get? l fs) := by
  induction h with
  | nil => exact .none
  | cons hef _ ih =>
    rw [get?, get?, hk.compare hef.1]
    split
    · exact .none
    · exact .some hef.2
    · exact ih

end Entries

/-- Same values are both found, or neither is. -/
theorem isSome_find?_congr {v w : Value} (hv : v.Same w) {xs ys : List Value}
    (h : List.Forall₂ Same xs ys) : (find? v xs).isSome = (find? w ys).isSome := by
  induction h with
  | nil => rfl
  | cons hxy _ ih =>
    rw [find?, find?, hv.compare hxy]
    split
    · rfl
    · rfl
    · exact ih

end Table

namespace Value

/-- Tables are alike, values included, exactly if they are equal and free of NaN. -/
theorem alike_same_iff {es fs : List (Value × Value)} : Table.Alike Same es fs ↔
    EverywhereAmong NumbersHaveValue es ∧ EverywhereAmong NumbersHaveValue fs ∧
      equalEntries es fs = true := by
  constructor
  · intro h
    induction h with
    | nil => exact ⟨trivial, trivial, rfl⟩
    | cons hef _ ih =>
      obtain ⟨hes, hfs, heq⟩ := ih
      refine ⟨⟨hef.1.left, hef.2.left, hes⟩, ⟨hef.1.right, hef.2.right, hfs⟩, ?_⟩
      exact Bool.and_eq_true_iff.2 ⟨Bool.and_eq_true_iff.2 ⟨hef.1.equal, hef.2.equal⟩, heq⟩
  · rintro ⟨hes, hfs, heq⟩
    induction forall₂_of_equalEntries heq with
    | nil => exact .nil
    | cons hef _ ih =>
      refine .cons ⟨⟨hes.1, hfs.1, hef.1⟩, ⟨hes.2.1, hfs.2.1, hef.2⟩⟩ ?_
      exact ih hes.2.2 hfs.2.2 (Bool.and_eq_true_iff.1 heq).2

theorem alike_left {es fs : List (Value × Value)} (h : Table.Alike Same es fs) :
    Table.Alike Same es es := by
  induction h with
  | nil => exact .nil
  | cons hef _ ih => exact .cons ⟨same_self hef.1.left, same_self hef.2.left⟩ ih

theorem alike_symm {es fs : List (Value × Value)} (h : Table.Alike Same es fs) :
    Table.Alike Same fs es :=
  (h.imp fun _ _ hef => ⟨hef.1.symm, hef.2.symm⟩ : List.Forall₂ _ es fs).flip

/-- Hashes are the same exactly if their tables are alike. -/
theorem same_hash_iff {es fs : List (Value × Value)} :
    Same (.hash es) (.hash fs) ↔ Table.Alike Same es fs :=
  alike_same_iff.trans ⟨fun ⟨hx, hy, h⟩ => ⟨⟨trivial, hx⟩, ⟨trivial, hy⟩, h⟩,
    fun h => ⟨h.left.2, h.right.2, h.equal⟩⟩ |>.symm

/-! ## Forms -/

/-- The forms that two values have that are the same: of most kinds they are one value. -/
inductive SameForm : Value → Value → Prop
  | nil : SameForm .nil .nil
  | bool (b : Bool) : SameForm (.bool b) (.bool b)
  | number {m n : Number} (h : m.Same n) : SameForm (.number m) (.number n)
  | symbol (name : String) : SameForm (.symbol name) (.symbol name)
  | string (text : String) : SameForm (.string text) (.string text)
  | date (d : Date) : SameForm (.date d) (.date d)
  | dateTime {t u : DateTime} (h : t.utc = u.utc) : SameForm (.dateTime t) (.dateTime u)
  | time (t : Timestamp) : SameForm (.time t) (.time t)
  | range {a b c d : Number} (hfirst : a.Same b) (hlast : c.Same d) :
    SameForm (.range a c) (.range b d)
  | marker (p : Primitive) : SameForm (.marker p) (.marker p)
  | array {xs ys : List Value} (h : List.Forall₂ Same xs ys) : SameForm (.array xs) (.array ys)
  | set {xs ys : List Value} (h : List.Forall₂ Same xs ys) : SameForm (.set xs) (.set ys)
  | hash {es fs : List (Value × Value)} (h : Table.Alike Same es fs) :
    SameForm (.hash es) (.hash fs)
  | undefined : SameForm .undefined .undefined

/-- **Values that are the same have the same form.** -/
theorem Same.form {v w : Value} (h : v.Same w) : SameForm v w := by
  cases v with
  | nil => cases w <;> cases h.rank_eq; exact .nil
  | bool b => cases w <;> cases h.rank_eq; cases beq_iff_eq.1 h.equal; exact .bool b
  | number m => cases w <;> cases h.rank_eq; exact .number (same_number_iff.1 h)
  | symbol s => cases w <;> cases h.rank_eq; cases beq_iff_eq.1 h.equal; exact .symbol s
  | string s => cases w <;> cases h.rank_eq; cases beq_iff_eq.1 h.equal; exact .string s
  | date d => cases w <;> cases h.rank_eq; cases beq_iff_eq.1 h.equal; exact .date d
  | dateTime t => cases w <;> cases h.rank_eq; exact .dateTime (beq_iff_eq.1 h.equal)
  | time t => cases w <;> cases h.rank_eq; cases beq_iff_eq.1 h.equal; exact .time t
  | range a c =>
    cases w <;> cases h.rank_eq
    obtain ⟨hfirst, hlast⟩ := same_range_iff.1 h
    exact .range hfirst hlast
  | marker p => cases w <;> cases h.rank_eq; cases beq_iff_eq.1 h.equal; exact .marker p
  | array xs => cases w <;> cases h.rank_eq; exact .array (same_array_iff.1 h)
  | set xs => cases w <;> cases h.rank_eq; exact .set (same_set_iff.1 h)
  | hash es => cases w <;> cases h.rank_eq; exact .hash (same_hash_iff.1 h)
  | undefined => cases w <;> cases h.rank_eq; exact .undefined

end Value

end Conform
