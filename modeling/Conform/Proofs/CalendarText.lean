import Conform.Calendar.Reader
import Conform.Proofs.Digits

/-!
# Dates and moments are read back from their texts

The strict reader takes just what the writer puts down, field by field: each lemma says what one
reader makes of one field and leaves of the text.  A date of any year can be read back; a moment
only from a year of four digits, as the strict style has no sign, and only if the text tells its
clock: it has minutes for the offset, and second 60 for the one leap second that a reader knows.

* `Timestamp.HasPlainYear`, `DateTime.HasPlainClock` — a year and a clock that the strict style can
  tell.
* `Date.ofText?_text` — dates.
* `DateTime.ofRfc3339?_text`, `Timestamp.ofRfc3339?_textUtc` — moments with an offset and in UTC.
-/

namespace Conform

open Text

/-! ## What the strict style can tell -/

/-- The strict style has four digits for the year and no sign. -/
def Timestamp.HasPlainYear (t : Timestamp) : Prop :=
  0 ≤ t.date.year ∧ t.date.year ≤ 9999

instance (t : Timestamp) : Decidable t.HasPlainYear := by
  unfold Timestamp.HasPlainYear
  infer_instance

/-- A leap second, if it is one, follows second 59 of its minute. -/
def Timestamp.HasPlainClock (t : Timestamp) : Prop :=
  t.nano < nanosPerSecond ∨ t.second % 60 = 59

instance (t : Timestamp) : Decidable t.HasPlainClock := by
  unfold Timestamp.HasPlainClock
  infer_instance

/-- The same of the local clock, which is set some whole minutes ahead of UTC or behind. -/
def DateTime.HasPlainClock (t : DateTime) : Prop :=
  t.wall.HasPlainClock ∧ t.offset % 60 = 0

instance (t : DateTime) : Decidable t.HasPlainClock := by
  unfold DateTime.HasPlainClock
  infer_instance

namespace Calendar

/-! ## Fields -/

/-- A reading step that succeeds is followed by the rest of the reading. -/
theorem bind_of_eq {α β : Type} {o : Option α} {a : α} (h : o = some a) (f : α → Option β) :
    (o >>= f) = f a := by
  rw [h]
  rfl

/-- A row of digits is read to its end, or as far as the reader goes. -/
theorem readNumber_digital {least most : Nat} {ds rest : List Char} (hd : Digital ds)
    (hl : least ≤ ds.length) (hm : ds.length = most ∨ ds.length ≤ most ∧ Stops rest) :
    readNumber least most (ds ++ rest) = some (Nat.ofDigitChars 10 ds 0, rest) := by
  have htake : ((ds ++ rest).take most).takeWhile isDigit = ds := by
    rcases hm with rfl | ⟨hle, hs⟩
    · rw [List.take_left, ← List.append_nil ds]
      simpa using takeWhile_digital hd stops_nil
    · rw [List.take_append, List.take_of_length_le hle]
      exact takeWhile_digital hd (hs.take _)
  rw [readNumber]
  simp only [htake]
  rw [if_neg (by omega), List.drop_left]

theorem readChar_cons (c : Char) (rest : List Char) : readChar c (c :: rest) = some rest :=
  if_pos rfl

theorem readSeparator_cons (rest : List Char) : readSeparator ('T' :: rest) = some rest :=
  rfl

/-- A number in two digits consists of digits. -/
theorem digital_twoDigits (n : Nat) : Digital (Date.twoDigits n) :=
  digital_padLeft 2 (digital_digits n)

theorem length_twoDigits {n : Nat} (h : n < 100) : (Date.twoDigits n).length = 2 := by
  have := length_digits_le (n := n) (k := 2) (by decide) h
  rw [Date.twoDigits, length_padLeft]
  omega

/-- Two digits are read as the number they were made of. -/
theorem readNumber_twoDigits {n : Nat} (h : n < 100) (least : Nat) (hl : least ≤ 2)
    (rest : List Char) :
    readNumber least 2 (Date.twoDigits n ++ rest) = some (n, rest) := by
  rw [readNumber_digital (digital_twoDigits n) (by rw [length_twoDigits h]; exact hl)
    (.inl (length_twoDigits h)), Date.twoDigits, ofDigitChars_padLeft]

/-- A number in two digits is read back, whatever follows. -/
theorem readField_twoDigits {n : Nat} (h : n < 100) (rest : List Char) :
    readField (Date.twoDigits n ++ rest) = some (n, rest) := by
  have hne : Date.twoDigits n ≠ [] := by
    have := length_twoDigits h
    exact List.ne_nil_of_length_pos (by omega)
  obtain ⟨c, cs, hds, hc, -⟩ := (digital_twoDigits n).exists_cons hne
  have htrim : trimStart (Date.twoDigits n ++ rest) = Date.twoDigits n ++ rest := by
    rw [hds]
    exact trimStart_cons (isBlank_of_isDigit hc)
  rw [readField, htrim, readNumber_twoDigits h 1 (by decide)]

/-! ## Dates -/

/-- A text that starts with a digit has no sign in front of its year. -/
theorem readYear_digit {c : Char} (hc : isDigit c = true) (cs : List Char) :
    readYear (c :: cs) = (readNumber 1 4 (c :: cs)).map fun (n, rest) => ((n : Int), rest) := by
  rw [readYear, trimStart_cons (isBlank_of_isDigit hc)]
  split
  · next h =>
    obtain ⟨rfl, -⟩ := List.cons.inj h
    cases hc
  · next h =>
    obtain ⟨rfl, -⟩ := List.cons.inj h
    cases hc
  · rfl

/-- A year of up to four digits is written with four. -/
theorem length_yearDigits (year : Int) (h : 0 ≤ year ∧ year ≤ 9999) :
    (padLeft 4 (digits year.natAbs)).length = 4 := by
  have hlt : year.natAbs < tenPow 4 := show year.natAbs < 10000 by omega
  have := length_digits_le (by decide) hlt
  rw [length_padLeft]
  omega

/-- A year is read up to the hyphen behind it, whatever its sign and length. -/
theorem readYear_yearText (year : Int) (rest : List Char) :
    readYear (Date.yearText year ++ '-' :: rest) = some (year, '-' :: rest) := by
  have hd : Digital (padLeft 4 (digits year.natAbs)) := digital_padLeft 4 (digital_digits _)
  have hl : 4 ≤ (padLeft 4 (digits year.natAbs)).length := by
    rw [length_padLeft]
    omega
  have hstop : Stops ('-' :: rest) := stops_cons (by decide)
  -- after a sign any number of digits is taken
  have signed : readNumber 1 (padLeft 4 (digits year.natAbs) ++ '-' :: rest).length
      (padLeft 4 (digits year.natAbs) ++ '-' :: rest) = some (year.natAbs, '-' :: rest) := by
    rw [readNumber_digital hd (by omega) (.inr ⟨by simp, hstop⟩), ofDigitChars_padLeft]
  unfold Date.yearText
  simp only
  split
  · next h =>
    have hy : -(year.natAbs : Int) = year := by omega
    rw [readYear, List.cons_append, trimStart_cons (by decide)]
    simp only [signed, Option.map_some, hy]
  · split
    · next h =>
      have hy : (year.natAbs : Int) = year := by omega
      rw [readYear, List.cons_append, trimStart_cons (by decide)]
      simp only [signed, Option.map_some, hy]
    · next h h' =>
      have hy : (year.natAbs : Int) = year := by omega
      have four := length_yearDigits year (by omega)
      have hread : readNumber 1 4 (padLeft 4 (digits year.natAbs) ++ '-' :: rest) =
          some (year.natAbs, '-' :: rest) := by
        rw [readNumber_digital hd (by omega) (.inl four), ofDigitChars_padLeft]
      obtain ⟨c, cs, hds, hc, -⟩ := hd.exists_cons (List.ne_nil_of_length_pos (by omega))
      rw [hds, List.cons_append] at hread ⊢
      rw [readYear_digit hc, hread]
      simp only [Option.map_some, hy]

/-- A date is made again of its year, month and day. -/
theorem of?_date (d : Date) : Date.of? d.year d.month d.day = some d := by
  rw [Date.of?, dif_pos d.valid]

theorem month_lt (d : Date) : d.month < 100 := by
  have := d.valid.2.2.2.1
  omega

theorem day_lt (d : Date) : d.day < 100 := by
  have hd := d.valid.2.2.2.2.2
  have hm : daysInMonth d.year d.month ≤ 31 := by
    unfold daysInMonth
    split
    · split <;> omega
    · split <;> omega
  omega

/-- The text of a date is read back, whatever follows. -/
theorem readDate_text (d : Date) (rest : List Char) :
    readDate (d.text ++ rest) = some (d, rest) := by
  rw [Date.text, readDate]
  simp only [List.append_assoc, List.cons_append, readYear_yearText, Option.bind_eq_bind,
    Option.bind_some, readChar_cons, readField_twoDigits (month_lt d),
    readField_twoDigits (day_lt d), of?_date]
  rfl

/-! ## Clocks -/

/-- A reading is built from fields that make up its second and its nanoseconds. -/
theorem of?_eq_some {t : Timestamp} (hclock : t.HasPlainClock) {hour minute second nano : Nat}
    (htotal : (hour * 60 + minute) * 60 + min second 59 = t.second)
    (hnano : (if second = 60 then nano + nanosPerSecond else nano) = t.nano)
    (hfields : hour < 24 ∧ minute < 60 ∧ second ≤ 60) :
    Timestamp.of? t.date hour minute second nano = some t := by
  obtain ⟨date, total, nanos, hs, hn⟩ := t
  simp only [Timestamp.HasPlainClock] at htotal hnano hclock ⊢
  subst htotal hnano
  rw [Timestamp.of?, dif_pos ⟨hfields.1, hfields.2.1, hfields.2.2, hs, hn, hclock⟩]

/-- A reading is put together again from its hour, minute and second; second 60 stands for the leap
second, whose nanoseconds are counted from its start. -/
theorem of?_timestamp (t : Timestamp) (hclock : t.HasPlainClock) :
    Timestamp.of? t.date (t.second / 3600) (t.second / 60 % 60)
      (if t.nano < nanosPerSecond then t.second % 60 else t.second % 60 + 1)
      (t.nano % nanosPerSecond) = some t := by
  have hs := t.second_lt
  have hn := t.nano_lt
  split
  · next h =>
    refine of?_eq_some hclock (by omega) ?_ (by omega)
    rw [if_neg (by omega), Nat.mod_eq_of_lt h]
  · next h =>
    have hlast : t.second % 60 = 59 := hclock.resolve_left h
    refine of?_eq_some hclock (by omega) ?_ (by omega)
    rw [if_pos (by omega), Nat.mod_eq_sub_mod (by omega), Nat.mod_eq_of_lt (by omega)]
    omega

/-- A fraction of some digits counts units of the last of them. -/
theorem readFraction_digits {m k : Nat} (hk : 0 < k ∧ k ≤ 9) (hm : m < tenPow k) {c : Char}
    (hc : isDigit c = false) (rest : List Char) :
    readFraction ('.' :: (padLeft k (digits m) ++ c :: rest)) =
      some (m * tenPow (9 - k), c :: rest) := by
  have hl : (padLeft k (digits m)).length = k := by
    have := length_digits_le hk.1 hm
    rw [length_padLeft]
    omega
  have hread : readNumber 1 9 (padLeft k (digits m) ++ c :: rest) = some (m, c :: rest) := by
    rw [readNumber_digital (digital_padLeft k (digital_digits m)) (by omega)
      (.inr ⟨by omega, stops_cons hc⟩), ofDigitChars_padLeft]
  have hcount : (padLeft k (digits m) ++ c :: rest).length - (c :: rest).length = k := by
    rw [List.length_append, hl, Nat.add_sub_cancel]
  rw [readFraction]
  simp only [hread, hcount, Option.bind_eq_bind, Option.bind_some, Option.pure_def]
  rw [List.dropWhile_cons_of_neg (by simp [hc])]

/-- The fraction is read with all its digits, and nothing is read where there is none. -/
theorem readFraction_fractionText {nano : Nat} (h : nano < nanosPerSecond) {c : Char}
    (hc : isDigit c = false) (hp : c ≠ '.') (rest : List Char) :
    readFraction (Timestamp.fractionText nano ++ c :: rest) = some (nano, c :: rest) := by
  have hlt : nano < 1000000000 := h
  unfold Timestamp.fractionText
  split
  · next h0 =>
    subst h0
    rw [List.nil_append]
    unfold readFraction
    split
    · next hd => exact absurd (List.cons.inj hd).1 hp
    · rfl
  · split
    · next h6 =>
      have hm : nano / 1000000 < tenPow 3 := show nano / 1000000 < 1000 by omega
      have hn : nano / 1000000 * 1000000 = nano := by omega
      rw [List.cons_append, readFraction_digits (by decide) hm hc]
      exact congrArg (fun n => some (n, c :: rest)) hn
    · split
      · next h3 =>
        have hm : nano / 1000 < tenPow 6 := show nano / 1000 < 1000000 by omega
        have hn : nano / 1000 * 1000 = nano := by omega
        rw [List.cons_append, readFraction_digits (by decide) hm hc]
        exact congrArg (fun n => some (n, c :: rest)) hn
      · have hm : nano < tenPow 9 := hlt
        rw [List.cons_append, readFraction_digits (by decide) hm hc]
        exact congrArg (fun n => some (n, c :: rest)) (Nat.mul_one nano)

/-- An offset of `n` minutes is read from its sign, hours and minutes. -/
theorem readOffset_fields {c : Char} {negative : Bool}
    (hc : ∀ rest, readSign (c :: rest) = some (negative, rest)) {n : Nat} (hn : n < 24 * 60) :
    readOffset (readChar ':')
      (c :: (Date.twoDigits (n / 60) ++ ':' :: Date.twoDigits (n % 60))) =
      some (withSign negative (n * 60), []) := by
  have hhours := readNumber_twoDigits (n := n / 60) (by omega) 2 (by decide)
    (':' :: Date.twoDigits (n % 60))
  have hminutes := readNumber_twoDigits (n := n % 60) (by omega) 2 (by decide) []
  rw [List.append_nil] at hminutes
  have hsum : n / 60 * 60 + n % 60 = n := by omega
  rw [readOffset, hc]
  simp only [hhours, readChar_cons, hminutes, hsum, Option.bind_eq_bind, Option.bind_some]
  rw [if_pos (by omega)]
  rfl

/-- An offset of whole minutes is written as it is. -/
theorem readStrictOffset_offsetText {offset : Int} (h : offset.natAbs < 86400)
    (hminutes : offset % 60 = 0) :
    readStrictOffset (DateTime.offsetText offset) = some (offset, []) := by
  have hz := withSign_natAbs offset
  have hwhole : (offset.natAbs + 30) / 60 * 60 = offset.natAbs := by omega
  have hlt : (offset.natAbs + 30) / 60 < 24 * 60 := by omega
  rw [DateTime.offsetText, List.cons_append]
  split
  · next hneg =>
    rw [decide_eq_true hneg] at hz
    exact (readOffset_fields (fun _ => rfl) hlt).trans (by rw [hwhole, hz])
  · next hneg =>
    rw [decide_eq_false hneg] at hz
    exact (readOffset_fields (fun _ => rfl) hlt).trans (by rw [hwhole, hz])

end Calendar

open Calendar

/-- **A date is read back from its text.** -/
theorem Date.ofText?_text (d : Date) : ofText? d.text = some d := by
  have h := readDate_text d []
  rw [List.append_nil] at h
  rw [ofText?, h]
  rfl

/-- The text of a reading and an offset is read as just that. -/
theorem readRfc3339_text (t : Timestamp) (offset : Int) (hy : t.HasPlainYear)
    (hclock : t.HasPlainClock) (ho : offset.natAbs < 86400) (hminutes : offset % 60 = 0) :
    readRfc3339 (t.text ++ DateTime.offsetText offset) =
      (DateTime.of? t offset).map fun moment => (moment, []) := by
  obtain ⟨hfirst, hlast⟩ := hy
  have hyear : Date.yearText t.date.year = padLeft 4 (digits t.date.year.natAbs) := by
    simp only [Date.yearText]
    rw [if_neg (by omega), if_neg (by omega)]
  have hread : ∀ rest, readNumber 4 4 (padLeft 4 (digits t.date.year.natAbs) ++ rest) =
      some (t.date.year.natAbs, rest) := by
    intro rest
    have four := length_yearDigits t.date.year ⟨hfirst, hlast⟩
    rw [readNumber_digital (digital_padLeft 4 (digital_digits _)) (by omega) (.inl four),
      ofDigitChars_padLeft]
  have hyabs : (t.date.year.natAbs : Int) = t.date.year := by omega
  have hs := t.second_lt
  have hsecond : (if t.nano < nanosPerSecond then t.second % 60 else t.second % 60 + 1) < 100 := by
    split <;> omega
  have hnano : t.nano % nanosPerSecond < nanosPerSecond := Nat.mod_lt _ (by decide)
  obtain ⟨c, rest, hoff, hc, hp⟩ : ∃ c rest, DateTime.offsetText offset = c :: rest ∧
      isDigit c = false ∧ c ≠ '.' := by
    rw [DateTime.offsetText, List.cons_append]
    split
    · exact ⟨_, _, rfl, by decide, by decide⟩
    · exact ⟨_, _, rfl, by decide, by decide⟩
  have hfrac := readFraction_fractionText hnano hc hp rest
  have hoffset := readStrictOffset_offsetText ho hminutes
  rw [hoff] at hoffset ⊢
  rw [Timestamp.text, Date.text, hyear, readRfc3339]
  simp only [List.append_assoc, List.cons_append]
  -- the fields in the order in which they are read
  refine (bind_of_eq (hread _) _).trans ?_
  refine (bind_of_eq (readChar_cons '-' _) _).trans ?_
  refine (bind_of_eq (readNumber_twoDigits (month_lt t.date) 2 (by decide) _) _).trans ?_
  refine (bind_of_eq (readChar_cons '-' _) _).trans ?_
  refine (bind_of_eq (readNumber_twoDigits (day_lt t.date) 2 (by decide) _) _).trans ?_
  refine (bind_of_eq (readSeparator_cons _) _).trans ?_
  refine (bind_of_eq (readNumber_twoDigits (by omega) 2 (by decide) _) _).trans ?_
  refine (bind_of_eq (readChar_cons ':' _) _).trans ?_
  refine (bind_of_eq (readNumber_twoDigits (by omega) 2 (by decide) _) _).trans ?_
  refine (bind_of_eq (readChar_cons ':' _) _).trans ?_
  refine (bind_of_eq (readNumber_twoDigits hsecond 2 (by decide) _) _).trans ?_
  refine (bind_of_eq hfrac _).trans ?_
  refine (bind_of_eq hoffset _).trans ?_
  rw [hyabs]
  refine (bind_of_eq (of?_date t.date) _).trans ?_
  refine (bind_of_eq (of?_timestamp t hclock) _).trans ?_
  cases DateTime.of? t offset with
  | none => rfl
  | some moment => rfl

/-- **A moment is read back from its text**, if its year has four digits and the text tells its
clock. -/
theorem DateTime.ofRfc3339?_text (t : DateTime) (hy : t.wall.HasPlainYear)
    (hclock : t.HasPlainClock) :
    ofRfc3339? t.text = some t := by
  have hof : of? t.wall t.offset = some t := by
    rw [of?, dif_pos ⟨t.offset_lt, t.hasUtc⟩]
  rw [ofRfc3339?, text, readRfc3339_text t.wall t.offset hy hclock.1 t.offset_lt hclock.2, hof]
  rfl

/-- A clock that is ahead by nothing shows the same. -/
theorem Timestamp.shift?_zero (t : Timestamp) : t.shift? 0 = some t := by
  obtain ⟨date, second, nano, hs, hn⟩ := t
  have hday : ((second : Int) + 0) / 86400 = 0 := by omega
  have hsec : (((second : Int) + 0) % 86400).toNat = second := by omega
  simp only [shift?, hday, hsec]
  rfl

/-- A UTC reading is read back as the moment without an offset. -/
theorem Timestamp.ofRfc3339?_textUtc (t : Timestamp) (hy : t.HasPlainYear)
    (hclock : t.HasPlainClock) :
    (DateTime.ofRfc3339? t.textUtc).map DateTime.utc = some t := by
  have hsome : (t.shift? (-0)).isSome := by rw [Int.neg_zero, t.shift?_zero]; rfl
  have hof : DateTime.of? t 0 = some ⟨t, 0, by decide, hsome⟩ := dif_pos ⟨by decide, hsome⟩
  rw [DateTime.ofRfc3339?, textUtc, readRfc3339_text t 0 hy hclock (by decide) (by decide), hof]
  refine congrArg some (Option.some.inj ?_)
  rw [DateTime.utc, Option.some_get]
  exact t.shift?_zero

end Conform
