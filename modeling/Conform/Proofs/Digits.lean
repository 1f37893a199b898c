import Conform.Number
import Conform.Text.Blank

/-!
# Rows of digits

What readers of numbers and dates need to know about the texts that writers make: a row of digits is
split off as far as it goes, padding with zeros keeps the number, and nothing in such a text is
blank.

* `Text.Digital`, `Text.Stops` — rows of digits, and what may follow one.
* `Text.ofDigitChars_padLeft`, `Text.ofSigned?_signed` — reading padded and signed numbers back.
* `Text.trim_eq_self`, `Text.filter_underscore` — texts that the cuts leave alone.
-/

namespace Conform.Text

/-- Every character is a digit. -/
def Digital (cs : List Char) : Prop :=
  ∀ c ∈ cs, isDigit c = true

/-- The text does not go on with a digit. -/
def Stops (cs : List Char) : Prop :=
  ∀ c ∈ cs.head?, isDigit c = false

theorem stops_nil : Stops [] := nofun

theorem stops_cons {c : Char} {cs : List Char} (h : isDigit c = false) : Stops (c :: cs) := by
  rintro d ⟨⟩
  exact h

/-- What is cut off a text that stops still stops. -/
theorem Stops.take {cs : List Char} (h : Stops cs) (k : Nat) : Stops (cs.take k) := by
  cases k with
  | zero => exact stops_nil
  | succ k =>
    cases cs with
    | nil => exact stops_nil
    | cons c cs => exact stops_cons (h c rfl)

theorem Digital.append {ds es : List Char} (hd : Digital ds) (he : Digital es) :
    Digital (ds ++ es) := by
  intro c hc
  rcases List.mem_append.1 hc with h | h
  · exact hd c h
  · exact he c h

/-! ## Splitting rows off -/

/-- Digits are taken up to what is none. -/
theorem takeWhile_digital {ds rest : List Char} (hd : Digital ds) (hr : Stops rest) :
    (ds ++ rest).takeWhile isDigit = ds := by
  induction ds with
  | nil =>
    cases rest with
    | nil => rfl
    | cons c rest => exact List.takeWhile_cons_of_neg (by simp [hr c rfl])
  | cons d ds ih =>
    rw [List.cons_append, List.takeWhile_cons_of_pos (hd d List.mem_cons_self),
      ih fun c hc => hd c (List.mem_cons_of_mem _ hc)]

/-- What is left after the digits is what is none. -/
theorem dropWhile_digital {ds rest : List Char} (hd : Digital ds) (hr : Stops rest) :
    (ds ++ rest).dropWhile isDigit = rest := by
  induction ds with
  | nil =>
    cases rest with
    | nil => rfl
    | cons c rest => exact List.dropWhile_cons_of_neg (by simp [hr c rfl])
  | cons d ds ih =>
    rw [List.cons_append, List.dropWhile_cons_of_pos (hd d List.mem_cons_self)]
    exact ih fun c hc => hd c (List.mem_cons_of_mem _ hc)

/-! ## Digits and padding -/

theorem digital_digits (n : Nat) : Digital (digits n) :=
  fun _ hc => Nat.isDigit_of_mem_toDigits (by decide) (by decide) hc

/-- Every number has a digit. -/
theorem digits_ne_nil (n : Nat) : digits n ≠ [] :=
  Nat.toDigits_ne_nil

/-- Only zero starts with a zero. -/
theorem eq_zero_of_head?_digits {n : Nat} (h : (digits n).head? = some '0') : n = 0 := by
  induction n using Nat.strongRecOn with
  | ind n ih =>
    rw [digits, Nat.toDigits_eq_if (by decide)] at h
    split at h
    · exact Nat.digitChar_eq_zero.1 (Option.some.inj h)
    · next hn =>
      rw [List.head?_append, Option.or_of_isSome (List.isSome_head?.2 Nat.toDigits_ne_nil)] at h
      have := ih (n / 10) (by omega) h
      omega

theorem digital_replicate (k : Nat) : Digital (List.replicate k '0') := by
  intro c hc
  rw [List.eq_of_mem_replicate hc]
  decide

theorem digital_padLeft (width : Nat) {cs : List Char} (h : Digital cs) :
    Digital (padLeft width cs) :=
  (digital_replicate _).append h

/-- Padding adds what is missing and cuts nothing. -/
theorem length_padLeft (width : Nat) (cs : List Char) :
    (padLeft width cs).length = max width cs.length := by
  rw [padLeft, List.length_append, List.length_replicate]
  omega

/-- Zeros in front make no difference. -/
theorem ofDigitChars_padLeft (width n : Nat) :
    Nat.ofDigitChars 10 (padLeft width (digits n)) 0 = n := by
  rw [padLeft, Nat.ofDigitChars_append, Nat.ofDigitChars_replicate_zero, Nat.mul_zero]
  exact Nat.ofDigitChars_ten_toDigits

/-- A number below a power of ten has no more digits than the power has zeros. -/
theorem length_digits_le {n k : Nat} (hk : 0 < k) (h : n < tenPow k) : (digits n).length ≤ k :=
  (Nat.length_toDigits_le_iff (by decide) hk).2 h

/-- Digits are read as the number that they spell. -/
theorem ofDigits?_digital {cs : List Char} (hd : Digital cs) (hne : cs ≠ []) :
    ofDigits? cs = some (Nat.ofDigitChars 10 cs 0) :=
  if_pos ⟨hne, List.all_eq_true.2 hd⟩

/-! ## Characters that are no digits -/

theorem ne_of_isDigit {c d : Char} (hc : isDigit c = true) (hd : isDigit d = false) : c ≠ d := by
  rintro rfl
  rw [hc] at hd
  cases hd

/-- The digits are ten characters in a row. -/
theorem toNat_of_isDigit {c : Char} (h : isDigit c = true) : 48 ≤ c.toNat ∧ c.toNat ≤ 57 := by
  simp only [isDigit, Char.isDigit, Bool.and_eq_true, decide_eq_true_eq] at h
  exact ⟨UInt32.le_iff_toNat_le.1 h.1, UInt32.le_iff_toNat_le.1 h.2⟩

theorem isBlank_of_isDigit {c : Char} (h : isDigit c = true) : isBlank c = false := by
  obtain ⟨hlow, hhigh⟩ := toNat_of_isDigit h
  simp only [isBlank, Bool.or_eq_false_iff, Bool.and_eq_false_iff, decide_eq_false_iff_not,
    beq_eq_false_iff_ne]
  omega

/-- A sign in front of digits is split off, and digits alone have none. -/
theorem splitSign_minus (cs : List Char) : splitSign ('-' :: cs) = (true, cs) := rfl

theorem splitSign_digit {c : Char} (hc : isDigit c = true) (cs : List Char) :
    splitSign (c :: cs) = (false, c :: cs) := by
  unfold splitSign
  split
  · next h =>
    obtain ⟨rfl, -⟩ := List.cons.inj h
    cases hc
  · next h =>
    obtain ⟨rfl, -⟩ := List.cons.inj h
    cases hc
  · rfl

/-- Digits are a first one and more of them. -/
theorem Digital.exists_cons {ds : List Char} (hd : Digital ds) (hne : ds ≠ []) :
    ∃ c cs, ds = c :: cs ∧ isDigit c = true ∧ Digital cs := by
  obtain ⟨c, cs, rfl⟩ := List.exists_cons_of_ne_nil hne
  exact ⟨c, cs, rfl, hd c List.mem_cons_self, fun d h => hd d (List.mem_cons_of_mem c h)⟩

/-- Digits in front have no sign to split off. -/
theorem splitSign_digital {cs : List Char} (hd : Digital cs) (hne : cs ≠ []) (rest : List Char) :
    splitSign (cs ++ rest) = (false, cs ++ rest) := by
  obtain ⟨c, cs, rfl, hc, -⟩ := hd.exists_cons hne
  exact splitSign_digit hc _

/-- An integer is its magnitude with its sign. -/
theorem withSign_natAbs (z : Int) : withSign (decide (z < 0)) z.natAbs = z := by
  unfold withSign
  split
  · next h =>
    have := of_decide_eq_true h
    omega
  · next h =>
    have : ¬ z < 0 := fun hz => h (decide_eq_true hz)
    omega

/-- **An integer is read back from its text.** -/
theorem ofSigned?_signed (z : Int) : ofSigned? (signed z) = some z := by
  unfold signed
  split
  · next h =>
    have hz : withSign true z.natAbs = z := by
      simp only [withSign, if_true]
      omega
    rw [ofSigned?, splitSign_minus]
    simp only [ofDigits?_digits, Option.map_some, hz]
  · next h =>
    have hz : withSign false z.natAbs = z := by
      simp only [withSign, Bool.false_eq_true, if_false]
      omega
    have hsign := splitSign_digital (digital_digits z.natAbs) (digits_ne_nil _) []
    rw [List.append_nil] at hsign
    rw [ofSigned?, hsign]
    simp only [ofDigits?_digits, Option.map_some, hz]

/-! ## Cuts -/

theorem trimStart_cons {c : Char} {cs : List Char} (h : isBlank c = false) :
    trimStart (c :: cs) = c :: cs :=
  List.dropWhile_cons_of_neg (by simp [h])

/-- Where nothing is blank, nothing is trimmed. -/
theorem trimStart_eq_self {cs : List Char} (h : ∀ c ∈ cs, isBlank c = false) :
    trimStart cs = cs := by
  cases cs with
  | nil => rfl
  | cons c cs => exact trimStart_cons (h c List.mem_cons_self)

/-- A text without blanks is not cut. -/
theorem trim_eq_self {cs : List Char} (h : ∀ c ∈ cs, isBlank c = false) : trim cs = cs := by
  rw [trim, trimStart_eq_self h,
    trimStart_eq_self fun c hc => h c (List.mem_reverse.1 hc), List.reverse_reverse]

theorem filter_underscore {cs : List Char} (h : ∀ c ∈ cs, c ≠ '_') : cs.filter (· ≠ '_') = cs :=
  List.filter_eq_self.2 fun c hc => decide_eq_true (h c hc)

/-- The characters of a signed number: digits, and perhaps a minus. -/
theorem mem_signed {z : Int} {c : Char} (h : c ∈ signed z) : c = '-' ∨ isDigit c = true := by
  unfold signed at h
  split at h
  · rcases List.mem_cons.1 h with h | h
    · exact .inl h
    · exact .inr (digital_digits _ c h)
  · exact .inr (digital_digits _ c h)

end Conform.Text
