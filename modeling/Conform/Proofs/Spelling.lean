import Conform.Proofs.Digits
import Mathlib.Algebra.Order.Field.Rat
import Mathlib.Data.List.TakeWhile
import Mathlib.Tactic.FieldSimp
import Mathlib.Tactic.Ring

/-!
# What the texts of numbers spell

The grammar of integers and decimals, as relations between a text and its value, apart from the
readers.  The value of digits is given by their places: before the point each digit counts ten times
what the next one counts, after it each counts a tenth of what the one before it counts.

* `Text.wholeValue`, `Text.fractionValue` — the values of digits before and after the point.
* `Text.SpellsInteger`, `Text.SpellsDecimal` — texts with their values.
* `Text.ofSigned?_eq_some_iff` — the reader of integers accepts what spells one, with its value.
* `Text.spellsDecimal_iff` — the value of a decimal text from the pieces that it is cut into.
* `Text.SpellsDecimal.unique` — no text spells two values.
-/

namespace Conform.Text

/-- A text without blanks around it and without underscores. -/
def body (cs : List Char) : List Char :=
  (trim cs).filter (· ≠ '_')

/-! ## Digits -/

/-- What a digit counts in its place. -/
def digitValue (c : Char) : Nat :=
  c.toNat - '0'.toNat

/-- The value of digits before the point. -/
def wholeValue : List Char → Nat
  | [] => 0
  | c :: cs => digitValue c * 10 ^ cs.length + wholeValue cs

/-- The value of digits after the point. -/
def fractionValue : List Char → ℚ
  | [] => 0
  | c :: cs => (digitValue c + fractionValue cs) / 10

/-- Digits are read as the number that they stand for. -/
theorem ofDigitChars_eq_wholeValue (cs : List Char) : Nat.ofDigitChars 10 cs 0 = wholeValue cs := by
  induction cs with
  | nil => rfl
  | cons c cs ih =>
    rw [Nat.ofDigitChars_cons, Nat.ofDigitChars_eq_ofDigitChars_zero, ih, wholeValue, digitValue,
      Nat.mul_zero, Nat.zero_add, Nat.mul_comm]

/-- In two runs of digits, the first one counts by the length of the second. -/
theorem wholeValue_append (ds fs : List Char) :
    wholeValue (ds ++ fs) = wholeValue ds * 10 ^ fs.length + wholeValue fs := by
  induction ds with
  | nil => rw [List.nil_append, wholeValue, Nat.zero_mul, Nat.zero_add]
  | cons d ds ih =>
    rw [List.cons_append, wholeValue, wholeValue, ih, List.length_append, pow_add]
    ring

/-- Digits after the point are counted in units of the last of them. -/
theorem fractionValue_eq (fs : List Char) : fractionValue fs = wholeValue fs / 10 ^ fs.length := by
  induction fs with
  | nil => simp [fractionValue, wholeValue]
  | cons c fs ih =>
    rw [fractionValue, ih, wholeValue, List.length_cons, pow_succ]
    push_cast
    field_simp

/-- Digits on both sides of the point are one row of digits, counted in units of the last of
them. -/
theorem wholeValue_add_fractionValue (ds fs : List Char) :
    wholeValue ds + fractionValue fs = wholeValue (ds ++ fs) / 10 ^ fs.length := by
  rw [fractionValue_eq, wholeValue_append]
  push_cast
  field_simp

/-- A natural number is read exactly from digits, of which there has to be one. -/
theorem ofDigits?_eq_some_iff {cs : List Char} {n : Nat} :
    ofDigits? cs = some n ↔ Digital cs ∧ cs ≠ [] ∧ n = wholeValue cs := by
  constructor
  · intro h
    unfold ofDigits? at h
    split at h
    · next hcs =>
      refine ⟨List.all_eq_true.1 hcs.2, hcs.1, ?_⟩
      rw [← ofDigitChars_eq_wholeValue]
      exact (Option.some.inj h).symm
    · cases h
  · rintro ⟨hd, hne, rfl⟩
    rw [ofDigits?_digital hd hne, ofDigitChars_eq_wholeValue]

/-! ## Integers -/

/-- The sign in front of a number, or none, and what it multiplies by. -/
inductive SpellsSign : List Char → Int → Prop
  | none : SpellsSign [] 1
  | plus : SpellsSign ['+'] 1
  | minus : SpellsSign ['-'] (-1)

/-- A sign or none, then at least one digit. -/
inductive SpellsInteger : List Char → Int → Prop
  | mk {sign ds : List Char} {s : Int} : SpellsSign sign s → Digital ds → ds ≠ [] →
      SpellsInteger (sign ++ ds) (s * wholeValue ds)

/-- The text that starts with neither sign. -/
def Unsigned (cs : List Char) : Prop :=
  ∀ c ∈ cs.head?, c ≠ '-' ∧ c ≠ '+'

theorem Digital.unsigned {cs : List Char} (h : Digital cs) : Unsigned cs := by
  cases cs with
  | nil => exact nofun
  | cons c cs =>
    rintro _ ⟨⟩
    have hc := h c List.mem_cons_self
    exact ⟨ne_of_isDigit hc (by decide), ne_of_isDigit hc (by decide)⟩

/-- Splitting the sign off gives the rest that a sign stands in front of. -/
theorem splitSign_append {sign cs : List Char} {s : Int} (hs : SpellsSign sign s)
    (hcs : Unsigned cs) :
    splitSign (sign ++ cs) = (decide (s = -1), cs) := by
  cases hs with
  | plus => rfl
  | minus => rfl
  | none =>
    rw [List.nil_append]
    unfold splitSign
    split
    · exact absurd rfl (hcs '-' rfl).1
    · exact absurd rfl (hcs '+' rfl).2
    · rfl

/-- What the sign is split off from is a sign in front of the rest. -/
theorem exists_sign (cs : List Char) :
    ∃ sign s, SpellsSign sign s ∧ cs = sign ++ (splitSign cs).2 ∧
      (splitSign cs).1 = decide (s = -1) := by
  unfold splitSign
  split
  · exact ⟨['-'], -1, .minus, rfl, rfl⟩
  · exact ⟨['+'], 1, .plus, rfl, rfl⟩
  · exact ⟨[], 1, .none, rfl, rfl⟩

theorem SpellsSign.withSign_eq {sign : List Char} {s : Int} (hs : SpellsSign sign s) (n : Nat) :
    withSign (decide (s = -1)) n = s * n := by
  cases hs <;> simp [withSign]

/-- An integer is read by its sign and its digits. -/
theorem ofSigned?_eq (cs : List Char) :
    ofSigned? cs = (ofDigits? (splitSign cs).2).map (withSign (splitSign cs).1) := rfl

/-- **The reader of integers accepts the texts that spell one**, with the value that they spell. -/
theorem ofSigned?_eq_some_iff {cs : List Char} {z : Int} :
    ofSigned? cs = some z ↔ SpellsInteger cs z := by
  constructor
  · intro h
    obtain ⟨sign, s, hs, hcs, hneg⟩ := exists_sign cs
    rw [ofSigned?_eq] at h
    obtain ⟨n, hn, rfl⟩ := Option.map_eq_some_iff.1 h
    obtain ⟨hd, hne, rfl⟩ := ofDigits?_eq_some_iff.1 hn
    rw [hneg, hs.withSign_eq, hcs, splitSign_append hs hd.unsigned]
    exact .mk hs hd hne
  · rintro ⟨hs, hd, hne⟩
    rw [ofSigned?_eq, splitSign_append hs hd.unsigned, ofDigits?_eq_some_iff.2 ⟨hd, hne, rfl⟩,
      Option.map_some, hs.withSign_eq]

/-- A text spells one integer only. -/
theorem SpellsInteger.unique {cs : List Char} {y z : Int} (hy : SpellsInteger cs y)
    (hz : SpellsInteger cs z) : y = z :=
  Option.some.inj ((ofSigned?_eq_some_iff.2 hy).symm.trans (ofSigned?_eq_some_iff.2 hz))

/-! ## Decimals -/

/-- Digits with at most one point among them, at least one digit, with their value and the count of
the digits after the point. -/
inductive SpellsMagnitude : List Char → ℚ → Nat → Prop
  | whole {ds : List Char} : Digital ds → ds ≠ [] → SpellsMagnitude ds (wholeValue ds) 0
  | point {ds fs : List Char} : Digital ds → Digital fs → ds ++ fs ≠ [] →
      SpellsMagnitude (ds ++ '.' :: fs) (wholeValue ds + fractionValue fs) fs.length

/-- The power of ten after a magnitude, or none. -/
inductive SpellsExponent : List Char → Int → Prop
  | none : SpellsExponent [] 0
  | mark {c : Char} {cs : List Char} {e : Int} : c = 'e' ∨ c = 'E' → SpellsInteger cs e →
      SpellsExponent (c :: cs) e

/-- A sign or none, a magnitude, and an exponent or none; with the value, the count of the digits
after the point and the exponent. -/
inductive SpellsDecimal : List Char → ℚ → Nat → Int → Prop
  | mk {sign magnitude tail : List Char} {s e : Int} {q : ℚ} {places : Nat} : SpellsSign sign s →
      SpellsMagnitude magnitude q places → SpellsExponent tail e →
      SpellsDecimal (sign ++ magnitude ++ tail) (s * q * 10 ^ e) places e

theorem SpellsExponent.unique {cs : List Char} {e f : Int} (he : SpellsExponent cs e)
    (hf : SpellsExponent cs f) : e = f := by
  cases he with
  | none => cases hf; rfl
  | mark _ he => cases hf with | mark _ hf => exact he.unique hf

/-! ### Where a decimal text is cut -/

theorem SpellsSign.mem {sign : List Char} {s : Int} (h : SpellsSign sign s) {c : Char}
    (hc : c ∈ sign) :
    c = '-' ∨ c = '+' := by
  cases h with
  | none => cases hc
  | plus => exact .inr (List.mem_singleton.1 hc)
  | minus => exact .inl (List.mem_singleton.1 hc)

/-- A magnitude consists of digits and of a point. -/
theorem SpellsMagnitude.mem {cs : List Char} {q : ℚ} {places : Nat}
    (h : SpellsMagnitude cs q places) {c : Char} (hc : c ∈ cs) : isDigit c = true ∨ c = '.' := by
  cases h with
  | whole hd _ => exact .inl (hd c hc)
  | point hd hf _ =>
    rcases List.mem_append.1 hc with hc | hc
    · exact .inl (hd c hc)
    · rcases List.mem_cons.1 hc with hc | hc
      · exact .inr hc
      · exact .inl (hf c hc)

theorem SpellsMagnitude.unsigned {cs : List Char} {q : ℚ} {places : Nat}
    (h : SpellsMagnitude cs q places) : Unsigned cs := by
  intro c hc
  rcases h.mem (List.mem_of_mem_head? hc) with hdigit | rfl
  · exact ⟨ne_of_isDigit hdigit (by decide), ne_of_isDigit hdigit (by decide)⟩
  · decide

/-- The mark of an exponent is the first letter that is one. -/
def isMark (c : Char) : Bool :=
  c = 'e' ∨ c = 'E'

/-- A text is cut at the mark of its exponent. -/
theorem SpellsExponent.cut {m tail : List Char} {e : Int} (hm : ∀ c ∈ m, (!isMark c) = true)
    (h : SpellsExponent tail e) :
    (m ++ tail).takeWhile (!isMark ·) = m ∧ (m ++ tail).dropWhile (!isMark ·) = tail := by
  rw [List.takeWhile_append_of_pos hm, List.dropWhile_append_of_pos hm]
  cases h with
  | none => simp
  | @mark c _ _ hc _ =>
    have hmark : isMark c = true := decide_eq_true hc
    simp [hmark]

/-- A text has a point where it is cut, or nothing behind the cut. -/
theorem splitPoint_spec (cs : List Char) :
    (Decimal.splitPoint cs = (cs, [])) ∨
      cs = (Decimal.splitPoint cs).1 ++ '.' :: (Decimal.splitPoint cs).2 := by
  induction cs with
  | nil => exact .inl rfl
  | cons c cs ih =>
    by_cases hc : c = '.'
    · subst hc
      exact .inr (by simp [Decimal.splitPoint])
    · have hcons : Decimal.splitPoint (c :: cs) =
          (c :: (Decimal.splitPoint cs).1, (Decimal.splitPoint cs).2) := by
        simp [Decimal.splitPoint, hc]
      rw [hcons]
      exact ih.imp (fun h => by rw [h]) fun h => congrArg (c :: ·) h

/-- A magnitude is cut at its point. -/
theorem spellsMagnitude_iff {cs : List Char} {q : ℚ} {places : Nat} :
    SpellsMagnitude cs q places ↔ ∃ ds fs n, Decimal.splitPoint cs = (ds, fs) ∧
      ofDigits? (ds ++ fs) = some n ∧ q = n / 10 ^ fs.length ∧ places = fs.length := by
  have hnot {ds : List Char} (hd : Digital ds) : ∀ c ∈ ds, decide (c ≠ '.') = true := fun c hc =>
    decide_eq_true (ne_of_isDigit (hd c hc) (by decide))
  constructor
  · intro h
    cases h with
    | whole hd hne =>
      refine ⟨cs, [], wholeValue cs, ?_, ?_, by simp, rfl⟩
      · rw [Decimal.splitPoint, List.takeWhile_eq_self_iff.2 (hnot hd),
          List.dropWhile_eq_nil_iff.2 (hnot hd)]
        rfl
      · rw [List.append_nil]
        exact ofDigits?_eq_some_iff.2 ⟨hd, hne, rfl⟩
    | @point ds fs hd hf hne =>
      refine ⟨ds, fs, wholeValue (ds ++ fs), ?_, ofDigits?_eq_some_iff.2 ⟨hd.append hf, hne, rfl⟩,
        wholeValue_add_fractionValue ds fs, rfl⟩
      rw [Decimal.splitPoint, List.takeWhile_append_of_pos (hnot hd),
        List.dropWhile_append_of_pos (hnot hd)]
      simp
  · rintro ⟨ds, fs, n, hcut, hn, rfl, rfl⟩
    obtain ⟨hdigital, hne, rfl⟩ := ofDigits?_eq_some_iff.1 hn
    rcases splitPoint_spec cs with h | h
    · obtain ⟨rfl, rfl⟩ := Prod.mk.inj (hcut.symm.trans h)
      rw [List.append_nil] at hdigital hne ⊢
      simpa using SpellsMagnitude.whole hdigital hne
    · rw [hcut] at h
      subst h
      have hd : Digital ds := fun c hc => hdigital c (List.mem_append_left fs hc)
      have hf : Digital fs := fun c hc => hdigital c (List.mem_append_right ds hc)
      rw [← wholeValue_add_fractionValue]
      exact .point hd hf hne

/-- **What a decimal text spells, from the pieces that it is cut into**: at the mark of the
exponent, behind the sign and at the point. -/
theorem spellsDecimal_iff {cs : List Char} {q : ℚ} {places : Nat} {e : Int} :
    SpellsDecimal cs q places e ↔ ∃ mantissa tail negative unsigned ds fs n,
      cs.takeWhile (!isMark ·) = mantissa ∧ cs.dropWhile (!isMark ·) = tail ∧
      splitSign mantissa = (negative, unsigned) ∧ Decimal.splitPoint unsigned = (ds, fs) ∧
      ofDigits? (ds ++ fs) = some n ∧ SpellsExponent tail e ∧
      q = withSign negative n / 10 ^ fs.length * 10 ^ e ∧ places = fs.length := by
  constructor
  · rintro ⟨hs, hm, he⟩
    next sign magnitude tail s m =>
    have hplain : ∀ c ∈ sign ++ magnitude, (!isMark c) = true := by
      intro c hc
      rcases List.mem_append.1 hc with hc | hc
      · rcases hs.mem hc with rfl | rfl <;> decide
      · rcases hm.mem hc with hdigit | rfl
        · have hne : c ≠ 'e' ∧ c ≠ 'E' :=
            ⟨ne_of_isDigit hdigit (by decide), ne_of_isDigit hdigit (by decide)⟩
          simpa [isMark] using hne
        · decide
    obtain ⟨htake, hdrop⟩ := he.cut hplain
    obtain ⟨ds, fs, n, hpoint, hn, rfl, rfl⟩ := spellsMagnitude_iff.1 hm
    refine ⟨_, _, _, _, ds, fs, n, htake, hdrop, splitSign_append hs hm.unsigned, hpoint, hn, he,
      ?_, rfl⟩
    rw [hs.withSign_eq]
    push_cast
    ring
  · rintro ⟨_, _, negative, unsigned, ds, fs, n, rfl, rfl, hsign, hpoint, hn, he, rfl, rfl⟩
    have hm := spellsMagnitude_iff.2 ⟨ds, fs, n, hpoint, hn, rfl, rfl⟩
    obtain ⟨sign, s, hs, hmantissa, hneg⟩ := exists_sign (cs.takeWhile (!isMark ·))
    rw [hsign] at hmantissa hneg
    have hcs : cs = sign ++ unsigned ++ cs.dropWhile (!isMark ·) := by
      rw [← hmantissa, List.takeWhile_append_dropWhile]
    have hvalue : (withSign negative n / 10 ^ fs.length * 10 ^ e : ℚ) =
        s * (n / 10 ^ fs.length) * 10 ^ e := by
      dsimp only at hneg
      rw [hneg, hs.withSign_eq]
      push_cast
      ring
    rw [hvalue]
    nth_rewrite 1 [hcs]
    exact .mk hs hm he

/-- No text spells two values. -/
theorem SpellsDecimal.unique {cs : List Char} {q r : ℚ} {places places' : Nat} {e f : Int}
    (hq : SpellsDecimal cs q places e) (hr : SpellsDecimal cs r places' f) : q = r := by
  obtain ⟨_, _, negative, unsigned, ds, fs, n, rfl, rfl, hsign, hpoint, hn, he, rfl, rfl⟩ :=
    spellsDecimal_iff.1 hq
  obtain ⟨_, _, _, _, _, _, _, rfl, rfl, hsign', hpoint', hn', hf, rfl, rfl⟩ :=
    spellsDecimal_iff.1 hr
  obtain ⟨rfl, rfl⟩ := Prod.mk.inj (hsign.symm.trans hsign')
  obtain ⟨rfl, rfl⟩ := Prod.mk.inj (hpoint.symm.trans hpoint')
  obtain rfl := Option.some.inj (hn.symm.trans hn')
  rw [he.unique hf]

end Conform.Text
