import Conform.Proofs.Digits
import Mathlib.Data.List.TakeWhile

/-!
# Integers and decimals are read back from their texts

The text of a decimal has all its digits, with a point before the last `scale` of them, so that
reading it gives the digits and the scale again.  Of an integral decimal the text has a zero after
the point, which reading drops.

* `Number.readInteger?_signed` — integers of any size.
* `Decimal.ofText?_text` — decimals.
-/

namespace Conform

open Text

/-- **An integer is read back from its text.** -/
theorem Number.readInteger?_signed (z : Int) : readInteger? (signed z) = some (.integer z) := by
  have plain : ∀ c ∈ signed z, isBlank c = false ∧ c ≠ '_' := by
    intro c hc
    rcases mem_signed hc with rfl | h
    · decide
    · exact ⟨isBlank_of_isDigit h, ne_of_isDigit h (by decide)⟩
  rw [readInteger?, trim_eq_self fun c hc => (plain c hc).1,
    filter_underscore fun c hc => (plain c hc).2, ofSigned?_signed]
  rfl

namespace Decimal

/-- The digits of a decimal before and after the point. -/
def parts (d : Decimal) : List Char × List Char :=
  let ds := digits d.unscaled.natAbs
  if d.scale = 0 then (ds, ['0'])
  else
    let padded := padLeft (d.scale + 1) ds
    (padded.take (padded.length - d.scale), padded.drop (padded.length - d.scale))

/-- The text of a decimal is a sign, its digits before the point and those after it. -/
theorem text_eq (d : Decimal) :
    d.text = (if d.unscaled < 0 then ['-'] else []) ++ (d.parts.1 ++ '.' :: d.parts.2) := by
  by_cases hs : d.scale = 0
  · simp [text, parts, hs]
  · simp [text, parts, hs]

theorem digital_parts (d : Decimal) : Digital d.parts.1 ∧ Digital d.parts.2 := by
  unfold parts
  split
  · exact ⟨digital_digits _, digital_replicate 1⟩
  · have h := digital_padLeft (d.scale + 1) (digital_digits d.unscaled.natAbs)
    exact ⟨fun c hc => h c (List.mem_of_mem_take hc), fun c hc => h c (List.mem_of_mem_drop hc)⟩

/-- There is a digit in front of the point. -/
theorem whole_ne_nil (d : Decimal) : d.parts.1 ≠ [] := by
  unfold parts
  split
  · exact digits_ne_nil _
  · intro h
    have hl := congrArg List.length h
    simp only [List.length_take, length_padLeft, List.length_nil] at hl
    omega

/-- The digits spell the unscaled number, with a zero more for an integral decimal, and as many of
them stand after the point. -/
theorem ofDigits?_parts (d : Decimal) :
    (d.scale = 0 → ofDigits? (d.parts.1 ++ d.parts.2) = some (d.unscaled.natAbs * 10) ∧
      d.parts.2.length = 1) ∧
    (d.scale ≠ 0 → ofDigits? (d.parts.1 ++ d.parts.2) = some d.unscaled.natAbs ∧
      d.parts.2.length = d.scale) := by
  have hread : ofDigits? (d.parts.1 ++ d.parts.2) =
      some (Nat.ofDigitChars 10 (d.parts.1 ++ d.parts.2) 0) :=
    ofDigits?_digital (d.digital_parts.1.append d.digital_parts.2)
      (List.append_ne_nil_of_left_ne_nil d.whole_ne_nil _)
  constructor
  · intro hs
    have hp : d.parts = (digits d.unscaled.natAbs, ['0']) := by simp [parts, hs]
    rw [hread, hp, Nat.ofDigitChars_append]
    refine ⟨congrArg some ?_, rfl⟩
    rw [digits, Nat.ofDigitChars_ten_toDigits, Nat.ofDigitChars_cons, Nat.ofDigitChars_nil]
    show 10 * d.unscaled.natAbs + 0 = _
    omega
  · intro hs
    have hp : d.parts.1 ++ d.parts.2 = padLeft (d.scale + 1) (digits d.unscaled.natAbs) := by
      simp [parts, hs]
    have hl : d.parts.2.length = d.scale := by
      have := length_padLeft (d.scale + 1) (digits d.unscaled.natAbs)
      simp only [parts, hs, if_false, List.length_drop]
      omega
    rw [hread, hp, ofDigitChars_padLeft]
    exact ⟨rfl, hl⟩

/-- The last digit of a canonical decimal is kept, and one zero is dropped from an integral one. -/
theorem normalize_canonical (d : Decimal) (hs : d.scale ≠ 0) :
    normalize d.unscaled d.scale d.scale_le = d := by
  obtain ⟨u, s, hc, hle⟩ := d
  cases s with
  | zero => exact absurd rfl hs
  | succ s =>
    have hu : u % 10 ≠ 0 := hc.resolve_left hs
    simp only [normalize]
    rw [dif_neg hu]

/-- The zero behind the point of an integral decimal is taken off again. -/
theorem normalize_integral (d : Decimal) (hs : d.scale = 0) :
    normalize (d.unscaled * 10) 1 (by decide) = d := by
  obtain ⟨u, s, hc, hle⟩ := d
  obtain rfl : s = 0 := hs
  simp only [normalize]
  rw [dif_pos (by omega)]
  have hu : u * 10 / 10 = u := by omega
  rw [hu]
  rfl

/-- The characters of a decimal text: digits, a point and perhaps a minus. -/
theorem mem_text {d : Decimal} {c : Char} (h : c ∈ d.text) :
    c = '-' ∨ c = '.' ∨ isDigit c = true := by
  rw [text_eq] at h
  simp only [List.mem_append, List.mem_cons] at h
  rcases h with h | h | h | h
  · split at h
    · exact .inl (List.mem_singleton.1 h)
    · cases h
  · exact .inr (.inr (d.digital_parts.1 c h))
  · exact .inr (.inl h)
  · exact .inr (.inr (d.digital_parts.2 c h))

/-- The text is split where it was joined. -/
theorem splitPoint_parts (d : Decimal) : splitPoint (d.parts.1 ++ '.' :: d.parts.2) = d.parts := by
  have hw : ∀ c ∈ d.parts.1, decide (c ≠ '.') = true := fun c hc =>
    decide_eq_true (ne_of_isDigit (d.digital_parts.1 c hc) (by decide))
  rw [splitPoint, List.takeWhile_append_of_pos hw, List.dropWhile_append_of_pos hw]
  simp

/-- What a text without an exponent spells, put together from its parts. -/
theorem ofText?_of_parts {cs unsigned : List Char} {negative : Bool} {p : List Char × List Char}
    {n : Nat} (hbody : (trim cs).filter (· ≠ '_') = cs) (hexp : splitExponent? cs = some (cs, 0))
    (hsign : splitSign cs = (negative, unsigned)) (hpoint : splitPoint unsigned = p)
    (hn : ofDigits? (p.1 ++ p.2) = some n) :
    ofText? cs =
      if isSigned64 p.2.length then ofScaled? (withSign negative n) p.2.length else none := by
  obtain ⟨whole, fraction⟩ := p
  rw [ofText?, hbody, hexp, Option.bind_eq_bind, Option.bind_some]
  dsimp only
  rw [hsign]
  dsimp only
  rw [hpoint]
  dsimp only
  rw [hn, Option.bind_eq_bind, Option.bind_some, Int.sub_zero]

theorem withSign_mul (negative : Bool) (n k : Nat) :
    withSign negative (n * k) = withSign negative n * k := by
  cases negative
  · exact Int.natCast_mul n k
  · show -((n * k : Nat) : Int) = -(n : Int) * k
    rw [Int.natCast_mul, Int.neg_mul]

/-- **A decimal is read back from its text.** -/
theorem ofText?_text (d : Decimal) : ofText? d.text = some d := by
  have hmax : maxExponent = 4096 := rfl
  have hd := d.scale_le
  have plain : ∀ c ∈ d.text, isBlank c = false ∧ c ≠ '_' ∧ c ≠ 'e' ∧ c ≠ 'E' := by
    intro c hc
    rcases mem_text hc with rfl | rfl | h
    · decide
    · decide
    · exact ⟨isBlank_of_isDigit h, ne_of_isDigit h (by decide), ne_of_isDigit h (by decide),
        ne_of_isDigit h (by decide)⟩
  have hbody : (trim d.text).filter (· ≠ '_') = d.text := by
    rw [trim_eq_self fun c hc => (plain c hc).1, filter_underscore fun c hc => (plain c hc).2.1]
  have hexp : splitExponent? d.text = some (d.text, 0) := by
    have hall : ∀ c ∈ d.text, decide (c ≠ 'e' ∧ c ≠ 'E') = true := fun c hc =>
      decide_eq_true (plain c hc).2.2
    have ht : d.text.takeWhile (fun c => decide (c ≠ 'e' ∧ c ≠ 'E')) = d.text :=
      List.takeWhile_eq_self_iff.2 hall
    have hdrop : d.text.dropWhile (fun c => decide (c ≠ 'e' ∧ c ≠ 'E')) = [] :=
      List.dropWhile_eq_nil_iff.2 hall
    rw [splitExponent?, ht, hdrop]
  have hsign : splitSign d.text = (decide (d.unscaled < 0), d.parts.1 ++ '.' :: d.parts.2) := by
    rw [text_eq]
    split
    · next h => simp [splitSign_minus, h]
    · next h => simp [h, splitSign_digital d.digital_parts.1 d.whole_ne_nil]
  by_cases hs : d.scale = 0
  · obtain ⟨hn, hl⟩ := d.ofDigits?_parts.1 hs
    rw [ofText?_of_parts hbody hexp hsign d.splitPoint_parts hn, hl]
    have hz : withSign (decide (d.unscaled < 0)) (d.unscaled.natAbs * 10) = d.unscaled * 10 := by
      rw [withSign_mul, withSign_natAbs]
      rfl
    rw [hz]
    exact congrArg some (d.normalize_integral hs)
  · obtain ⟨hn, hl⟩ := d.ofDigits?_parts.2 hs
    rw [ofText?_of_parts hbody hexp hsign d.splitPoint_parts hn, hl, withSign_natAbs]
    have hrange : isSigned64 d.scale = true := by
      rw [isSigned64, Bool.and_eq_true, decide_eq_true_eq, decide_eq_true_eq]
      have : (twoPow 63 : Int) = 9223372036854775808 := rfl
      omega
    rw [if_pos hrange, ofScaled?, dif_neg (by omega), if_neg (by omega)]
    exact congrArg some (d.normalize_canonical hs)

end Decimal

end Conform
