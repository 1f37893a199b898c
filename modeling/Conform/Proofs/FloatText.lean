import Conform.Proofs.Digits
import Conform.Proofs.Rounding

/-!
# Binary64 numbers are read back from their texts

Seventeen digits are enough to reach into every cell: the grid of decimals with that many digits is
finer than the cells are wide.  So the search for the shortest digits ends with a decimal in the
cell, and wherever its text has the point or the exponent, reading gives that decimal.

* `inCell_shortest` — the shortest digits are a decimal in the cell.
* `spells_placePoint`, `spells_exponential` — what the two notations spell.
* `ofText?_text` — the round trip, for every number and every format.
-/

namespace Conform.Binary64

open Text

/-! ## The search for the shortest digits -/

/-- The first of the two grid points tried is the one nearest to the value. -/
theorem nearestOn_eq (c : Cell) (hd : 0 < c.den) (g : Int) : ∃ first second : Nat,
    |(first * 10 ^ g : ℚ) - c.value / c.den| ≤ 10 ^ g / 2 ∧
      c.nearestOn g = if c.holds first g then some first
        else if c.holds second g then some second else none := by
  have hdq : (0 : ℚ) < c.den := by exact_mod_cast hd
  have hg : (0 : ℚ) < 10 ^ g := by positivity
  -- the value in units of the grid is `num / den`
  obtain ⟨num, den, hden, hx, hfloor⟩ : ∃ num den : Nat, 0 < den ∧
      (c.value / c.den : ℚ) = num / den * 10 ^ g ∧
      c.floorOn g = (num / den, decide (den < 2 * (num % den))) := by
    by_cases h : 0 ≤ g
    · refine ⟨c.value, c.den * tenPow g.toNat, Nat.mul_pos hd (tenPow_pos _), ?_, ?_⟩
      · rw [Nat.cast_mul, cast_tenPow, zpow_of_nonneg h]
        field_simp
      · simp [Cell.floorOn, h]
    · refine ⟨c.value * tenPow (-g).toNat, c.den, hd, ?_, ?_⟩
      · rw [Nat.cast_mul, cast_tenPow, zpow_of_neg (by omega)]
        field_simp
      · simp [Cell.floorOn, h]
  have hdenq : (0 : ℚ) < den := by exact_mod_cast hden
  have hnum : (num : ℚ) = den * (num / den : Nat) + (num % den : Nat) := by
    exact_mod_cast (Nat.div_add_mod num den).symm
  have hratio : (num / den : ℚ) = (num / den : Nat) + (num % den : Nat) / den := by
    rw [hnum, add_div, mul_div_cancel_left₀ _ hdenq.ne']
  have hclose : ∀ first : Nat, |(first : ℚ) - num / den| ≤ 1 / 2 →
      |(first * 10 ^ g : ℚ) - c.value / c.den| ≤ 10 ^ g / 2 := by
    intro first h
    rw [hx, ← sub_mul, abs_mul, abs_of_pos hg]
    linarith [mul_le_mul_of_nonneg_right h hg.le]
  have hr : ((num % den : Nat) / den : ℚ) < 1 := by
    rw [div_lt_one hdenq]
    exact_mod_cast Nat.mod_lt num hden
  have hr0 : (0 : ℚ) ≤ (num % den : Nat) / den := by positivity
  by_cases hup : den < 2 * (num % den)
  · refine ⟨num / den + 1, num / den, hclose _ ?_, ?_⟩
    · have hhalf : (1 / 2 : ℚ) < (num % den : Nat) / den := by
        rw [lt_div_iff₀ hdenq]
        have : (den : ℚ) < 2 * (num % den : Nat) := by exact_mod_cast hup
        linarith
      rw [hratio, abs_le, Nat.cast_add, Nat.cast_one]
      constructor <;> linarith
    · simp [Cell.nearestOn, hfloor, hup]
  · refine ⟨num / den, num / den + 1, hclose _ ?_, ?_⟩
    · have hhalf : ((num % den : Nat) / den : ℚ) ≤ 1 / 2 := by
        rw [div_le_iff₀ hdenq]
        have : (2 * (num % den : Nat) : ℚ) ≤ den := by exact_mod_cast not_lt.1 hup
        linarith
      rw [hratio, abs_le]
      constructor <;> linarith
    · simp [Cell.nearestOn, hfloor, hup]

/-- Whatever is found on a grid is in the cell. -/
theorem inCell_of_nearestOn {m : Nat} (hm : m ≠ 0) {e g : Int} {n : Nat}
    (h : (cell m e).nearestOn g = some n) : InCell m e (n * 10 ^ g) := by
  obtain ⟨first, second, -, heq⟩ := nearestOn_eq (cell m e) (cell_den_pos m e) g
  rw [heq] at h
  split at h
  · next hfirst =>
    obtain rfl := Option.some.inj h
    exact (holds_cell_iff hm e first g).1 hfirst
  · split at h
    · next hsecond =>
      obtain rfl := Option.some.inj h
      exact (holds_cell_iff hm e second g).1 hsecond
    · cases h

/-- A grid finer than the cell has a point in it. -/
theorem nearestOn_of_fine {m : Nat} (hm : m ≠ 0) {e g : Int}
    (h : (10 : ℚ) ^ g / 2 < gapBelow m e * 2 ^ e) : ((cell m e).nearestOn g).isSome := by
  obtain ⟨first, second, hclose, heq⟩ := nearestOn_eq (cell m e) (cell_den_pos m e) g
  rw [cell_value, abs_le] at hclose
  have hgap : gapBelow m e * 2 ^ e ≤ 1 / 2 * 2 ^ e :=
    mul_le_mul_of_nonneg_right (gapBelow_le m e) (by positivity)
  have hin : InCell m e (first * 10 ^ g) := by
    refine ⟨?_, ?_, ?_⟩
    · rw [sub_mul]
      linarith
    · rw [add_mul]
      linarith
    · rintro (heq | heq)
      · rw [sub_mul] at heq
        linarith
      · rw [add_mul] at heq
        linarith
  rw [heq, if_pos ((holds_cell_iff hm e first g).2 hin)]
  rfl

/-- The first digit of a value is where its decimal point is counted from. -/
theorem le_of_pointPosition {m : Nat} {e : Int} (h : IsCanonical m e) (hm : m ≠ 0) :
    (10 : ℚ) ^ ((cell m e).pointPosition - 1) ≤ m * 2 ^ e := by
  have hdq : (0 : ℚ) < (cell m e).den := by exact_mod_cast cell_den_pos m e
  have hself : InCell m e (m * 2 ^ e) := by
    have hp : (0 : ℚ) < 2 ^ e := by positivity
    have hgap : 0 < gapBelow m e := by
      unfold gapBelow
      split <;> norm_num
    refine ⟨?_, ?_, ?_⟩
    · exact mul_le_mul_of_nonneg_right (by linarith) hp.le
    · exact mul_le_mul_of_nonneg_right (by linarith) hp.le
    · rintro (heq | heq)
      · have := mul_right_cancel₀ hp.ne' heq
        linarith
      · have := mul_right_cancel₀ hp.ne' heq
        linarith
  have hvalue := cell_value m e
  obtain ⟨t, ht⟩ : ∃ t, t = (cell m e).value * tenPow 350 / (cell m e).den := ⟨_, rfl⟩
  have hpoint : (cell m e).pointPosition = (Nat.toDigits 10 t).length + (-350) := by
    rw [ht]
    rfl
  have hcast : (t : ℚ) * 10 ^ (-350 : Int) ≤ m * 2 ^ e := by
    have hle : t * (cell m e).den ≤ (cell m e).value * tenPow 350 := by
      rw [ht]
      exact Nat.div_mul_le_self _ _
    have hle : (t * (cell m e).den : ℚ) ≤ (cell m e).value * 10 ^ 350 := by
      rw [← cast_tenPow]
      exact_mod_cast hle
    rw [← le_div_iff₀ hdq, mul_div_right_comm, hvalue] at hle
    rw [zpow_of_neg (by decide), ← div_eq_mul_inv, div_le_iff₀ (by positivity)]
    exact hle
  have hpos : 0 < t := by
    rw [ht]
    apply Nat.div_pos _ (cell_den_pos m e)
    have hone : (1 : ℚ) ≤ (cell m e).value * tenPow 350 / (cell m e).den := by
      rw [mul_div_right_comm, hvalue, cast_tenPow]
      calc (1 : ℚ) ≤ 10 ^ (-330 : Int) * 10 ^ (350 : Int) := by
            rw [← zpow_add₀ (by norm_num)]
            norm_num
        _ ≤ m * 2 ^ e * 10 ^ 350 :=
            mul_le_mul_of_nonneg_right (hself.bounds h hm).1 (by positivity)
    rw [le_div_iff₀ hdq, one_mul, ← Nat.cast_mul] at hone
    exact_mod_cast hone
  rw [hpoint]
  exact (decimal_bounds hpos (-350)).1.trans hcast

/-- Seventeen digits reach into the cell. -/
theorem fine_of_canonical {m : Nat} {e : Int} (h : IsCanonical m e) (hm : m ≠ 0) :
    (10 : ℚ) ^ ((cell m e).pointPosition - 17) / 2 < gapBelow m e * 2 ^ e := by
  have hp : (0 : ℚ) < 2 ^ e := by positivity
  have hten : (10 : ℚ) ^ ((cell m e).pointPosition - 17) * 10 ^ 16 ≤ m * 2 ^ e := by
    have := le_of_pointPosition h hm
    rw [show (cell m e).pointPosition - 1 = ((cell m e).pointPosition - 17) + (16 : Nat) by omega,
      zpow_add₀ (by norm_num), zpow_natCast] at this
    exact this
  have h52 : (twoPow 52 : ℚ) = 2 ^ 52 := cast_twoPow 52
  have hm53 : (m : ℚ) + 1 ≤ 2 ^ 53 := by
    rw [← cast_twoPow]
    exact_mod_cast h.1
  unfold gapBelow
  split
  · next hg =>
    obtain ⟨rfl, -⟩ := hg
    rw [h52] at hten
    linarith
  · have : (m : ℚ) * 2 ^ e ≤ 2 ^ 53 * 2 ^ e := mul_le_mul_of_nonneg_right (by linarith) hp.le
    linarith

/-- Taking zeros off the end leaves the value as it is. -/
theorem stripZeros_value (s : Scientific) (fuel : Nat) :
    ((s.stripZeros fuel).digits * 10 ^ (s.stripZeros fuel).exponent : ℚ) =
      s.digits * 10 ^ s.exponent := by
  induction fuel generalizing s with
  | zero => rfl
  | succ fuel ih =>
    unfold Scientific.stripZeros
    split
    · next h =>
      have hd : (s.digits : ℚ) = (s.digits / 10 : Nat) * 10 := by
        have : s.digits = s.digits / 10 * 10 := by omega
        exact_mod_cast this
      rw [ih, hd, zpow_add_one₀ (by norm_num)]
      ring
    · rfl

/-- The search finds a decimal in the cell. -/
theorem findSome?_shortest {m : Nat} {e : Int} (h : IsCanonical m e) (hm : m ≠ 0)
    {f : Nat → Option Scientific}
    (hf : ∀ k : Nat, f k = ((cell m e).nearestOn ((cell m e).pointPosition - ((k : Int) + 1))).map
      fun n => ⟨n, (cell m e).pointPosition - ((k : Int) + 1)⟩) :
    ∃ s, (List.range 17).findSome? f = some s ∧ InCell m e (s.digits * 10 ^ s.exponent) := by
  have hsome : ((List.range 17).findSome? f).isSome := by
    rw [List.findSome?_isSome_iff]
    refine ⟨16, List.mem_range.2 (by decide), ?_⟩
    rw [hf, Option.isSome_map]
    exact nearestOn_of_fine hm (fine_of_canonical h hm)
  obtain ⟨s, hs⟩ := Option.isSome_iff_exists.1 hsome
  obtain ⟨k, -, hk⟩ := List.exists_of_findSome?_eq_some hs
  rw [hf] at hk
  obtain ⟨n, hn, rfl⟩ := Option.map_eq_some_iff.1 hk
  exact ⟨_, hs, inCell_of_nearestOn hm hn⟩

/-- **The shortest digits of a number are a decimal in its cell.** -/
theorem inCell_shortest {m : Nat} {e : Int} (h : IsCanonical m e) (hm : m ≠ 0) :
    InCell m e ((shortest m e).digits * 10 ^ (shortest m e).exponent) := by
  obtain ⟨s, hs, hin⟩ := findSome?_shortest h hm fun k => rfl
  unfold shortest
  simp only [hs]
  rw [stripZeros_value]
  exact hin

/-! ## The notations -/

/-- The text is read as a decimal of the value `x`. -/
def Spells (cs : List Char) (x : ℚ) : Prop :=
  ∃ (n : Nat) (g : Int), (n * 10 ^ g : ℚ) = x ∧
    ∀ negative, readMagnitude? negative cs = some (ofDecimal negative n g)

/-- Digits with a point among them, and what follows them as an exponent. -/
theorem spells_point {whole fraction tail : List Char} {e : Int} {x : ℚ} (hw : Digital whole)
    (hne : whole ≠ []) (hf : Digital fraction) (ht : Stops tail) (he : readExponent? tail = some e)
    (hx : (Nat.ofDigitChars 10 (whole ++ fraction) 0 * 10 ^ (e - fraction.length) : ℚ) = x) :
    Spells (whole ++ '.' :: (fraction ++ tail)) x := by
  refine ⟨_, _, hx, fun negative => ?_⟩
  have hstop : Stops ('.' :: (fraction ++ tail)) := stops_cons (by decide)
  unfold readMagnitude?
  simp only [takeWhile_digital hw hstop, dropWhile_digital hw hstop, takeWhile_digital hf ht,
    dropWhile_digital hf ht, he, Option.map_some]
  rw [if_neg (by simp [hne])]

/-- Digits without a point, with an exponent. -/
theorem spells_exponent {whole rest : List Char} {e : Int} {x : ℚ} (hw : Digital whole)
    (hne : whole ≠ []) (he : readExponent? ('e' :: rest) = some e)
    (hx : (Nat.ofDigitChars 10 whole 0 * 10 ^ e : ℚ) = x) : Spells (whole ++ 'e' :: rest) x := by
  refine ⟨_, _, hx, fun negative => ?_⟩
  have hstop : Stops ('e' :: rest) := stops_cons (by decide)
  unfold readMagnitude?
  simp only [takeWhile_digital hw hstop, dropWhile_digital hw hstop]
  rw [if_neg (by simp [hne])]
  show (readExponent? ('e' :: rest)).map _ = _
  rw [he]
  simp

/-- Zeros in front do not change the number that is read. -/
theorem ofDigitChars_zeros (k : Nat) (ds : List Char) :
    Nat.ofDigitChars 10 (List.replicate k '0' ++ ds) 0 = Nat.ofDigitChars 10 ds 0 := by
  rw [Nat.ofDigitChars_append, Nat.ofDigitChars_replicate_zero, Nat.mul_zero]

/-- Positional notation spells the digits with the point in its place. -/
theorem spells_placePoint (n : Nat) (g : Int) :
    Spells (placePoint false (digits n) ((digits n).length + g)) (n * 10 ^ g) := by
  have hd := digital_digits n
  have hread : Nat.ofDigitChars 10 (digits n) 0 = n := Nat.ofDigitChars_ten_toDigits
  have hlen : 0 < (digits n).length := List.length_pos_iff.2 (digits_ne_nil n)
  have htail : readExponent? [] = some 0 := rfl
  unfold placePoint
  split
  -- the point stands before all digits
  · next hpoint =>
    have h :
        Spells (['0'] ++ '.' :: ((List.replicate (-((digits n).length + g)).toNat '0' ++ digits n)
          ++ [])) (n * 10 ^ g) := by
      apply spells_point (digital_replicate 1) (by simp) ((digital_replicate _).append hd) stops_nil
        htail
      have hexp :
          0 - ((List.replicate (-((digits n).length + g)).toNat '0' ++ digits n).length : Int) =
            g := by
        rw [List.length_append, List.length_replicate]
        omega
      rw [hexp, ofDigitChars_zeros, ofDigitChars_zeros, hread]
    rwa [List.append_nil] at h
  · next hpoint =>
    split
    -- it stands after all digits
    · next hle =>
      have h :
          Spells ((digits n ++ List.replicate (((digits n).length + g).toNat - (digits n).length)
            '0') ++ '.' :: (['0'] ++ [])) (n * 10 ^ g) := by
        apply spells_point (hd.append (digital_replicate _)) (by simp [digits_ne_nil])
          (digital_replicate 1) stops_nil htail
        have hg : ((digits n).length + g).toNat - (digits n).length = g.toNat := by omega
        rw [Nat.ofDigitChars_append, Nat.ofDigitChars_append, hread, hg,
          Nat.ofDigitChars_replicate_zero, Nat.ofDigitChars_replicate_zero, List.length_replicate,
          zpow_of_nonneg (show 0 ≤ g by omega), zpow_of_neg (by decide)]
        push_cast
        ring
      exact h
    -- it stands between them
    · next hlt =>
      have h : Spells ((digits n).take ((digits n).length + g).toNat ++ '.' ::
          ((digits n).drop ((digits n).length + g).toNat ++ [])) (n * 10 ^ g) := by
        apply spells_point (fun c hc => hd c (List.mem_of_mem_take hc)) _
          (fun c hc => hd c (List.mem_of_mem_drop hc)) stops_nil htail
        · rw [List.take_append_drop, hread, List.length_drop]
          congr 2
          omega
        · intro hnil
          have := congrArg List.length hnil
          rw [List.length_take, List.length_nil] at this
          omega
      rwa [List.append_nil] at h

/-- An exponent is read from its text. -/
theorem readExponent?_signed (format : TextFormat) (z : Int) :
    readExponent? ('e' :: ((if format.plusSign ∧ 0 ≤ z then ['+'] else []) ++ signed z)) =
      some z := by
  show ofSigned? _ = some z
  split
  · next h =>
    have hz : withSign false z.natAbs = z := by
      simp only [withSign, Bool.false_eq_true, if_false]
      omega
    have hsigned : signed z = digits z.natAbs := if_neg (by omega)
    show (ofDigits? (signed z)).map (withSign false) = some z
    rw [hsigned, ofDigits?_digits, Option.map_some, hz]
  · exact ofSigned?_signed z

/-- Scientific notation spells the digits with the point after the first. -/
theorem spells_exponential (format : TextFormat) (n : Nat) (g : Int) :
    Spells (exponential format (digits n) ((digits n).length + g)) (n * 10 ^ g) := by
  have hread : Nat.ofDigitChars 10 (digits n) 0 = n := Nat.ofDigitChars_ten_toDigits
  have hexp := readExponent?_signed format ((digits n).length + g - 1)
  obtain ⟨d, ds, hds, hd, hmore⟩ := (digital_digits n).exists_cons (digits_ne_nil n)
  have hone : Digital [d] := by
    intro c hc
    rwa [List.mem_singleton.1 hc]
  rw [hds] at hread hexp ⊢
  unfold exponential
  cases ds with
  | nil =>
    apply spells_exponent hone (by simp) hexp
    rw [hread]
    congr 2
    simp
  | cons f rest =>
    have h := spells_point (x := n * 10 ^ g) hone (by simp) hmore (stops_cons (by decide)) hexp (by
      rw [List.singleton_append, hread]
      congr 2
      simp only [List.length_cons]
      omega)
    exact h

/-! ## The round trip -/

theorem toLower_of_isDigit {c : Char} (h : isDigit c = true) : c.toLower = c := by
  obtain ⟨-, hhigh⟩ := toNat_of_isDigit h
  unfold Char.toLower
  rw [dif_neg]
  rintro ⟨hup, -⟩
  have : 65 ≤ c.toNat := UInt32.le_iff_toNat_le.1 hup
  omega

/-- A text that starts with a digit is read as a magnitude. -/
theorem ofText?_withMinus (negative : Bool) {c : Char} (hc : isDigit c = true) (cs : List Char) :
    ofText? (withMinus negative (c :: cs)) = readMagnitude? negative (c :: cs) := by
  have hsign : splitSign (withMinus negative (c :: cs)) = (negative, c :: cs) := by
    cases negative with
    | true => rfl
    | false => exact splitSign_digit hc cs
  have hi : c.toLower ≠ 'i' := by
    rw [toLower_of_isDigit hc]
    exact ne_of_isDigit hc (by decide)
  have hn : c.toLower ≠ 'n' := by
    rw [toLower_of_isDigit hc]
    exact ne_of_isDigit hc (by decide)
  unfold ofText?
  simp only [hsign]
  rw [if_neg (by simp [hi]), if_neg (by simp [hn])]

/-- Without an exponent, the text of a magnitude starts with a digit. -/
theorem head_placePoint (n : Nat) (point : Int) :
    ∃ c cs, placePoint false (digits n) point = c :: cs ∧ isDigit c = true := by
  obtain ⟨d, ds, hds, hd, -⟩ := (digital_digits n).exists_cons (digits_ne_nil n)
  unfold placePoint
  rw [hds]
  split
  · exact ⟨_, _, rfl, by decide⟩
  · split
    · exact ⟨_, _, rfl, hd⟩
    · next hpoint _ =>
      obtain ⟨k, hk⟩ : ∃ k, point.toNat = k + 1 := ⟨point.toNat - 1, by omega⟩
      rw [hk]
      exact ⟨_, _, rfl, hd⟩

theorem head_exponential (format : TextFormat) (n : Nat) (point : Int) :
    ∃ c cs, exponential format (digits n) point = c :: cs ∧ isDigit c = true := by
  obtain ⟨d, ds, hds, hd, -⟩ := (digital_digits n).exists_cons (digits_ne_nil n)
  unfold exponential
  rw [hds]
  cases ds with
  | nil => exact ⟨_, _, rfl, hd⟩
  | cons f rest => exact ⟨_, _, rfl, hd⟩

/-- What spells a decimal in the cell of a number is read as the number. -/
theorem ofText?_of_spells (negative : Bool) {m : Nat} {e : Int} (h : IsCanonical m e) (hm : m ≠ 0)
    {cs : List Char} {x : ℚ} (hx : InCell m e x) (hs : Spells cs x)
    (hhead : ∃ c rest, cs = c :: rest ∧ isDigit c = true) :
    ofText? (withMinus negative cs) = some (.finite negative m e h) := by
  obtain ⟨n, g, rfl, hread⟩ := hs
  obtain ⟨c, rest, rfl, hc⟩ := hhead
  rw [ofText?_withMinus negative hc, hread, ofDecimal_of_inCell negative h hm hx]

/-- **A binary64 number is read back from its text**, in whatever format it was written. -/
theorem ofText?_text (format : TextFormat) (x : Binary64) : ofText? (x.text format) = some x := by
  cases x with
  | nan => rfl
  | infinite negative => cases negative <;> rfl
  | finite negative m e h =>
    unfold text
    by_cases hm : m = 0
    · subst hm
      obtain rfl : e = -1074 := h.2.2.2.resolve_left (by decide)
      cases negative <;> rfl
    · have hx := inCell_shortest h hm
      simp only
      rw [if_neg hm]
      split
      · exact ofText?_of_spells negative h hm hx (spells_placePoint _ _) (head_placePoint _ _)
      · exact ofText?_of_spells negative h hm hx (spells_exponential format _ _)
          (head_exponential format _ _)

end Conform.Binary64
