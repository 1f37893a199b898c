import Conform.Coercion.Builtin
import Conform.Proofs.Positions
import Conform.Proofs.Spelling

/-!
# Dates and moments that were read from text

A moment is written in the strict style, which has four digits for the year and no sign.  Some texts
are read as a moment that this style cannot write: a lenient one may have a year of any length, and
a strict one close to the ends of the calendar of four digits can lie in another year for a UTC
clock.  The clock is always told, as no text has seconds in its offset, or a leap second but second
60.

* `Calendar.hasPlainYear_of_readRfc3339` — the strict reader gives local years of four digits only.
* `DateTime.hasPlainClock_of_ofText?` — no reader gives a clock that the strict style cannot tell.
* `DateTime.ofRfc3339?_text_iff`, `Timestamp.ofRfc3339?_textUtc_iff` — what the strict style can
  tell.
* `Calendar.readRfc3339_signed` — it refuses what is written of any other year, as that starts with
  a sign.
* `Value.ReadFrom` — the dates and moments that a literal or a built-in function reads from a text.
* `Value.written_again` — **such a value is read back from its literal exactly if its year has four
  digits**, where dates count as having them.
* `Value.not_always_written_again` — a time in the year before year 0, and a moment in the year
  10000.
-/

namespace Conform

open Text

/-- A row of digits is below the power of ten with as many zeros. -/
theorem Text.wholeValue_lt {ds : List Char} (hd : Digital ds) : wholeValue ds < 10 ^ ds.length := by
  induction ds with
  | nil => decide
  | cons d ds ih =>
    have hdigit : digitValue d ≤ 9 := by
      have := (toNat_of_isDigit (hd d List.mem_cons_self)).2
      show d.toNat - 48 ≤ 9
      omega
    have htail := ih fun c hc => hd c (List.mem_cons_of_mem _ hc)
    calc wholeValue (d :: ds)
        = digitValue d * 10 ^ ds.length + wholeValue ds := rfl
      _ < 9 * 10 ^ ds.length + 10 ^ ds.length :=
          Nat.add_lt_add_of_le_of_lt (Nat.mul_le_mul_right _ hdigit) htail
      _ = 10 ^ (d :: ds).length := by rw [List.length_cons, pow_succ]; ring

/-! ## What a reading is made of -/

theorem Date.year_of_of? {year : Int} {month day : Nat} {d : Date}
    (h : of? year month day = some d) :
    d.year = year := by
  obtain ⟨_, h⟩ := Option.dite_none_right_eq_some.1 h
  cases h
  rfl

/-- A reading has the date that it was made of. -/
theorem Timestamp.date_of_of? {date : Date} {hour minute second nano : Nat} {t : Timestamp}
    (h : of? date hour minute second nano = some t) : t.date = date := by
  obtain ⟨_, h⟩ := Option.dite_none_right_eq_some.1 h
  cases h
  rfl

/-- A moment has the reading of the clock that it was made of. -/
theorem DateTime.wall_of_of? {wall : Timestamp} {offset : Int} {t : DateTime}
    (h : of? wall offset = some t) : t.wall = wall := by
  obtain ⟨_, h⟩ := Option.dite_none_right_eq_some.1 h
  cases h
  rfl

/-- A leap second is only ever built from second 60. -/
theorem Timestamp.hasPlainClock_of_of? {date : Date} {hour minute second nano : Nat} {t : Timestamp}
    (h : of? date hour minute second nano = some t) : t.HasPlainClock := by
  obtain ⟨hfields, h⟩ := Option.dite_none_right_eq_some.1 h
  cases h
  exact hfields.2.2.2.2.2

/-- A moment of a plain reading and of whole minutes is plain. -/
theorem DateTime.hasPlainClock_of_of? {wall : Timestamp} {offset : Int} {t : DateTime}
    (h : of? wall offset = some t) (hwall : wall.HasPlainClock) (hminutes : offset % 60 = 0) :
    t.HasPlainClock := by
  obtain ⟨_, h⟩ := Option.dite_none_right_eq_some.1 h
  cases h
  exact ⟨hwall, hminutes⟩

/-- A clock that is some whole minutes ahead shows the same second of its minute. -/
theorem Timestamp.hasPlainClock_shift? {t u : Timestamp} {seconds : Int}
    (h : t.shift? seconds = some u) (ht : t.HasPlainClock) (hminutes : seconds % 60 = 0) :
    u.HasPlainClock := by
  obtain ⟨_, -, rfl⟩ := Option.map_eq_some_iff.1 h
  refine ht.imp_right fun hlast => ?_
  show ((t.second + seconds) % 86400).toNat % 60 = 59
  omega

theorem DateTime.hasPlainClock_utc {t : DateTime} (ht : t.HasPlainClock) : t.utc.HasPlainClock := by
  have hutc : t.wall.shift? (-t.offset) = some t.utc := (Option.some_get t.hasUtc).symm
  have hminutes := ht.2
  exact Timestamp.hasPlainClock_shift? hutc ht.1 (by omega)

namespace Calendar

/-! ## The strict reader and the year -/

/-- What is read in so many digits is less than that power of ten. -/
theorem readNumber_lt {least most n : Nat} {cs rest : List Char}
    (h : readNumber least most cs = some (n, rest)) : n < 10 ^ most := by
  simp only [readNumber] at h
  split at h
  · cases h
  · cases h
    have hd : Digital ((cs.take most).takeWhile isDigit) := fun c hc => List.mem_takeWhile_imp hc
    have hl : ((cs.take most).takeWhile isDigit).length ≤ most :=
      (List.takeWhile_sublist _).length_le.trans (List.length_take_le ..)
    rw [ofDigitChars_eq_wholeValue]
    exact (wholeValue_lt hd).trans_le (Nat.pow_le_pow_right (by decide) hl)

/-- No number is read where there is no digit. -/
theorem readNumber_of_stops {least : Nat} (hl : 0 < least) (most : Nat) {cs : List Char}
    (hs : Stops cs) :
    readNumber least most cs = none := by
  have hempty : Digital [] := nofun
  have hnone : (cs.take most).takeWhile isDigit = [] := takeWhile_digital hempty (hs.take most)
  simp only [readNumber, hnone]
  exact if_pos hl

/-- What the strict style tells has a local year of four digits. -/
theorem hasPlainYear_of_readRfc3339 {cs rest : List Char} {t : DateTime}
    (h : readRfc3339 cs = some (t, rest)) : t.wall.HasPlainYear := by
  obtain ⟨⟨year, _⟩, hyear, h⟩ := Option.bind_eq_some_iff.1 h
  -- the other fields, from the hyphen behind the year to the offset, leave it alone
  iterate 12 obtain ⟨_, -, h⟩ := Option.bind_eq_some_iff.1 h
  obtain ⟨date, hdate, h⟩ := Option.bind_eq_some_iff.1 h
  obtain ⟨wall, hwall, h⟩ := Option.bind_eq_some_iff.1 h
  obtain ⟨_, ht, h⟩ := Option.bind_eq_some_iff.1 h
  cases h
  have hlt := readNumber_lt hyear
  rw [Timestamp.HasPlainYear, DateTime.wall_of_of? ht, Timestamp.date_of_of? hwall,
    Date.year_of_of? hdate]
  omega

/-! ## Readers and the clock -/

/-- An offset is read in whole minutes. -/
theorem readOffset_mod {separator : List Char → Option (List Char)} {cs rest : List Char}
    {offset : Int} (h : readOffset separator cs = some (offset, rest)) : offset % 60 = 0 := by
  obtain ⟨⟨negative, _⟩, -, h⟩ := Option.bind_eq_some_iff.1 h
  obtain ⟨⟨hours, _⟩, -, h⟩ := Option.bind_eq_some_iff.1 h
  obtain ⟨_, -, h⟩ := Option.bind_eq_some_iff.1 h
  obtain ⟨⟨minutes, _⟩, -, h⟩ := Option.bind_eq_some_iff.1 h
  obtain ⟨-, h⟩ := Option.ite_none_right_eq_some.1 h
  cases h
  cases negative with
  | false => show (((hours * 60 + minutes) * 60 : Nat) : Int) % 60 = 0; omega
  | true => show -(((hours * 60 + minutes) * 60 : Nat) : Int) % 60 = 0; omega

/-- An offset that is read is one of whole minutes. -/
theorem readStrictOffset_mod {cs rest : List Char} {offset : Int}
    (h : readStrictOffset cs = some (offset, rest)) : offset % 60 = 0 := by
  unfold readStrictOffset at h
  split at h
  · cases h; rfl
  · cases h; rfl
  · exact readOffset_mod h

/-- A moment read in the strict form is plain. -/
theorem hasPlainClock_of_readRfc3339 {cs rest : List Char} {t : DateTime}
    (h : readRfc3339 cs = some (t, rest)) : t.HasPlainClock := by
  -- the fields before the offset leave it alone
  iterate 12 obtain ⟨_, -, h⟩ := Option.bind_eq_some_iff.1 h
  obtain ⟨⟨offset, _⟩, hoffset, h⟩ := Option.bind_eq_some_iff.1 h
  obtain ⟨_, -, h⟩ := Option.bind_eq_some_iff.1 h
  obtain ⟨wall, hwall, h⟩ := Option.bind_eq_some_iff.1 h
  obtain ⟨_, ht, h⟩ := Option.bind_eq_some_iff.1 h
  cases h
  exact DateTime.hasPlainClock_of_of? ht (Timestamp.hasPlainClock_of_of? hwall)
    (readStrictOffset_mod hoffset)

theorem hasPlainClock_of_readClock {date : Date} {cs rest : List Char} {t : Timestamp}
    (h : readClock date cs = some (t, rest)) : t.HasPlainClock := by
  iterate 5 obtain ⟨_, -, h⟩ := Option.bind_eq_some_iff.1 h
  obtain ⟨_, ht, h⟩ := Option.bind_eq_some_iff.1 h
  cases h
  exact Timestamp.hasPlainClock_of_of? ht

theorem hasPlainClock_of_readWithOffset {cs rest : List Char} {t : DateTime}
    (h : readWithOffset cs = some (t, rest)) : t.HasPlainClock := by
  obtain ⟨_, -, h⟩ := Option.bind_eq_some_iff.1 h
  obtain ⟨_, hwall, h⟩ := Option.bind_eq_some_iff.1 h
  obtain ⟨⟨offset, _⟩, hoffset, h⟩ := Option.bind_eq_some_iff.1 h
  obtain ⟨_, ht, h⟩ := Option.bind_eq_some_iff.1 h
  cases h
  exact DateTime.hasPlainClock_of_of? ht (hasPlainClock_of_readClock hwall) (readOffset_mod hoffset)

theorem hasPlainClock_of_readWithoutOffset {separator : List Char → Option (List Char)}
    {cs rest : List Char} {t : DateTime} (h : readWithoutOffset separator cs = some (t, rest)) :
    t.HasPlainClock := by
  obtain ⟨_, -, h⟩ := Option.bind_eq_some_iff.1 h
  obtain ⟨_, -, h⟩ := Option.bind_eq_some_iff.1 h
  obtain ⟨_, hwall, h⟩ := Option.bind_eq_some_iff.1 h
  obtain ⟨_, ht, h⟩ := Option.bind_eq_some_iff.1 h
  cases h
  exact DateTime.hasPlainClock_of_of? ht (hasPlainClock_of_readClock hwall) rfl

theorem exists_of_complete {α : Type} {o : Option (α × List Char)} {a : α}
    (h : complete o = some a) :
    o = some (a, []) := by
  unfold complete at h
  split at h
  · cases h; rfl
  · cases h

/-! ## The strict reader and signs -/

/-- The strict style has no sign. -/
theorem readRfc3339_of_stops {cs : List Char} (hs : Stops cs) : readRfc3339 cs = none := by
  rw [readRfc3339, readNumber_of_stops (by decide) 4 hs]
  rfl

/-- The text of another year than one of four digits starts with a sign. -/
theorem stops_text {t : Timestamp} (hy : ¬t.HasPlainYear) (rest : List Char) :
    Stops (t.text ++ rest) := by
  have hyear : t.date.year < 0 ∨ 9999 < t.date.year := by
    unfold Timestamp.HasPlainYear at hy
    omega
  simp only [Timestamp.text, Date.text, Date.yearText, List.append_assoc]
  split
  · exact stops_cons (by decide)
  · next hneg =>
    rw [if_pos (hyear.resolve_left hneg)]
    exact stops_cons (by decide)

/-- A reading with a sign before its year is refused. -/
theorem readRfc3339_signed {t : Timestamp} (hy : ¬t.HasPlainYear) (rest : List Char) :
    readRfc3339 (t.text ++ rest) = none :=
  readRfc3339_of_stops (stops_text hy rest)

end Calendar

open Calendar

/-- The year of a moment read in the strict form has four digits. -/
theorem DateTime.hasPlainYear_of_ofRfc3339? {cs : List Char} {t : DateTime}
    (h : ofRfc3339? cs = some t) :
    t.wall.HasPlainYear :=
  hasPlainYear_of_readRfc3339 (exists_of_complete h)

theorem DateTime.hasPlainClock_of_ofRfc3339? {cs : List Char} {t : DateTime}
    (h : ofRfc3339? cs = some t) :
    t.HasPlainClock :=
  hasPlainClock_of_readRfc3339 (exists_of_complete h)

/-- **No text tells more of a clock** than the strict style does. -/
theorem DateTime.hasPlainClock_of_ofText? {cs : List Char} {t : DateTime}
    (h : ofText? cs = some t) :
    t.HasPlainClock := by
  rw [ofText?] at h
  simp only [Option.orElse_eq_orElse, Option.orElse_eq_or, Option.or_eq_some_iff] at h
  rcases h with h | ⟨-, h | ⟨-, h | ⟨-, h⟩⟩⟩
  · exact hasPlainClock_of_readRfc3339 (exists_of_complete h)
  · exact hasPlainClock_of_readWithOffset (exists_of_complete h)
  · exact hasPlainClock_of_readWithoutOffset (exists_of_complete h)
  · exact hasPlainClock_of_readWithoutOffset (exists_of_complete h)

/-! ## What the strict style tells -/

/-- **The text of a moment tells it exactly** if it has a year of four digits, an offset of whole
minutes and no leap second but second 60. -/
theorem DateTime.ofRfc3339?_text_iff (t : DateTime) :
    ofRfc3339? t.text = some t ↔ t.wall.HasPlainYear ∧ t.HasPlainClock :=
  ⟨fun h => ⟨hasPlainYear_of_ofRfc3339? h, hasPlainClock_of_ofRfc3339? h⟩,
    fun h => ofRfc3339?_text t h.1 h.2⟩

/-- So does the text of a UTC reading. -/
theorem Timestamp.ofRfc3339?_textUtc_iff (t : Timestamp) :
    (DateTime.ofRfc3339? t.textUtc).map DateTime.utc = some t ↔
      t.HasPlainYear ∧ t.HasPlainClock := by
  refine ⟨fun h => ?_, fun h => ofRfc3339?_textUtc t h.1 h.2⟩
  obtain ⟨moment, hread, rfl⟩ := Option.map_eq_some_iff.1 h
  refine ⟨?_, DateTime.hasPlainClock_utc (DateTime.hasPlainClock_of_ofRfc3339? hread)⟩
  by_contra hy
  rw [DateTime.ofRfc3339?, textUtc, readRfc3339_signed hy] at hread
  cases hread

/-- An offset of 1172 seconds is written as 20 minutes, one of 86385 seconds as the whole day that
no clock is ahead. -/
example : DateTime.offsetText 1172 = "+00:20".toList ∧
    DateTime.offsetText 86385 = "+24:00".toList := by
  decide

/-- A literal that has a value was read. -/
theorem Literal.exists_of_orFault {α : Type} {fault : Fault} {o : Option α} {f : α → Value}
    {v : Value} (h : (orFault fault o).map f = .ok v) : ∃ a, o = some a ∧ f a = v := by
  cases o with
  | none => cases h
  | some a => exact ⟨a, rfl, Except.ok.inj h⟩

namespace Value

/-! ## Values without a strict text -/

/-- A moment whose year has a sign is not read back. -/
theorem toValue_dateTime_signed {t : DateTime} (hy : ¬t.wall.HasPlainYear) :
    (dateTime t).toLiteral.toValue = .error (.invalidDateTime (String.ofList t.text)) := by
  rw [toLiteral, Literal.toValue, String.toList_ofList, DateTime.ofRfc3339?, DateTime.text,
    readRfc3339_signed hy]
  rfl

theorem toValue_time_signed {t : Timestamp} (hy : ¬t.HasPlainYear) :
    (time t).toLiteral.toValue = .error (.invalidTime (String.ofList t.textUtc)) := by
  rw [toLiteral, Literal.toValue, String.toList_ofList, DateTime.ofRfc3339?, Timestamp.textUtc,
    readRfc3339_signed hy]
  rfl

/-- A moment whose year has not four digits is refused when its literal is read. -/
theorem toValue_of_not_yearIsPlain {v : Value} (hy : ¬v.YearIsPlain) :
    ∃ text, v.toLiteral.toValue = .error (.invalidDateTime text) ∨
      v.toLiteral.toValue = .error (.invalidTime text) := by
  cases v with
  | dateTime t => exact ⟨_, .inl (toValue_dateTime_signed hy)⟩
  | time t => exact ⟨_, .inr (toValue_time_signed hy)⟩
  | _ => exact absurd trivial hy

/-! ## Values read from text -/

/-- The primitives whose instances are points in time. -/
def temporal : List Primitive :=
  [.date, .dateTime, .time]

/-- The value is a date or a moment that the text tells, as the text of a literal or as the input of
a built-in function. -/
inductive ReadFrom (s : String) (v : Value) : Prop
  | literal {l : Literal} : l ∈ [.date s, .dateTime s, .time s] → l.toValue = .ok v → ReadFrom s v
  | converted {b : Builtin} : b.target ∈ temporal → b.run (.string s) = .ok v → b.target.admits v →
      ReadFrom s v

variable {s : String} {v : Value}

/-- What is read from a text is a moment of one of the temporal kinds. -/
theorem ReadFrom.exists_admits (h : v.ReadFrom s) : ∃ p ∈ temporal, p.admits v := by
  cases h with
  | literal hl hv =>
    simp only [List.mem_cons, List.not_mem_nil, or_false] at hl
    rcases hl with rfl | rfl | rfl <;> rw [Literal.toValue] at hv
    · obtain ⟨d, -, rfl⟩ := Literal.exists_of_orFault hv
      exact ⟨.date, by decide, rfl⟩
    · obtain ⟨t, -, rfl⟩ := Literal.exists_of_orFault hv
      exact ⟨.dateTime, by decide, rfl⟩
    · obtain ⟨t, -, rfl⟩ := Literal.exists_of_orFault hv
      exact ⟨.time, by decide, rfl⟩
  | converted hb _ hv => exact ⟨_, hb, hv⟩

section Clocks

open Conversion

/-- A function gives plain clocks on a text if its reader does. -/
theorem clockIsPlain_readOr {read? : List Char → Option Value}
    (hr : ∀ cs v, read? cs = some v → v.ClockIsPlain) (s : String) :
    (readOr read? (.string s)).ClockIsPlain := by
  cases h : read? s.toList with
  | none => simp [readOr, h, ClockIsPlain]
  | some v => simpa [readOr, h] using hr _ _ h

theorem clockIsPlain_dateOr (s : String) : (dateOr (.string s)).ClockIsPlain :=
  clockIsPlain_readOr (fun _ _ h => by obtain ⟨d, -, rfl⟩ := Option.map_eq_some_iff.1 h; trivial) s

theorem clockIsPlain_dateTimeOr (s : String) : (dateTimeOr (.string s)).ClockIsPlain := by
  refine clockIsPlain_readOr (fun cs v h => ?_) s
  obtain ⟨t, ht, rfl⟩ := Option.map_eq_some_iff.1 h
  exact DateTime.hasPlainClock_of_ofText? ht

theorem clockIsPlain_timeOr (s : String) : (timeOr (.string s)).ClockIsPlain := by
  refine clockIsPlain_readOr (fun cs v h => ?_) s
  obtain ⟨t, ht, rfl⟩ := Option.map_eq_some_iff.1 h
  exact DateTime.hasPlainClock_utc (DateTime.hasPlainClock_of_ofText? ht)

/-- Taking blank texts for nil makes no clock. -/
theorem clockIsPlain_blankIsNil {f : Value → Value} (hf : (f (.string s)).ClockIsPlain) :
    (blankIsNil f (.string s)).ClockIsPlain := by
  unfold blankIsNil
  split
  · trivial
  · exact hf

/-- What the built-in functions make of a text has a plain clock, if it has one. -/
theorem clockIsPlain_of_run {b : Builtin} (hb : b.target ∈ temporal)
    (h : b.run (.string s) = .ok v) :
    v.ClockIsPlain := by
  cases b with
  | paramsDate => exact Except.ok.inj h ▸ clockIsPlain_blankIsNil (clockIsPlain_dateOr s)
  | paramsDateTime => exact Except.ok.inj h ▸ clockIsPlain_blankIsNil (clockIsPlain_dateTimeOr s)
  | paramsTime => exact Except.ok.inj h ▸ clockIsPlain_blankIsNil (clockIsPlain_timeOr s)
  | jsonDate => exact Except.ok.inj h ▸ clockIsPlain_dateOr s
  | jsonDateTime => exact Except.ok.inj h ▸ clockIsPlain_dateTimeOr s
  | jsonTime => exact Except.ok.inj h ▸ clockIsPlain_timeOr s
  | _ => exact absurd hb (by decide)

end Clocks

/-- A clock that was read can be written. -/
theorem ReadFrom.clockIsPlain (h : v.ReadFrom s) : v.ClockIsPlain := by
  cases h with
  | literal hl hv =>
    simp only [List.mem_cons, List.not_mem_nil, or_false] at hl
    rcases hl with rfl | rfl | rfl <;> rw [Literal.toValue] at hv
    · obtain ⟨d, -, rfl⟩ := Literal.exists_of_orFault hv
      trivial
    · obtain ⟨t, ht, rfl⟩ := Literal.exists_of_orFault hv
      exact DateTime.hasPlainClock_of_ofRfc3339? ht
    · obtain ⟨t, ht, rfl⟩ := Literal.exists_of_orFault hv
      exact DateTime.hasPlainClock_utc (DateTime.hasPlainClock_of_ofRfc3339? ht)
  | converted hb hv _ => exact clockIsPlain_of_run hb hv

/-- A date or moment that was read, with a year of four digits, is the value of its literal. -/
theorem ReadFrom.toValue_toLiteral (h : v.ReadFrom s) (hy : v.YearIsPlain) :
    v.toLiteral.toValue = .ok v := by
  obtain ⟨p, hp, hadmits⟩ := h.exists_admits
  have hclock := h.clockIsPlain
  simp only [temporal, List.mem_cons, List.not_mem_nil, or_false] at hp
  rcases hp with rfl | rfl | rfl <;> cases v <;> cases hadmits
  all_goals exact Literal.toValue_toLiteral _ ⟨hy, hclock⟩

/-- **A date or moment that was read from a text can be written and read again** exactly if it is a
date or has a year of four digits, which is the local year of a moment with an offset and the UTC
year of a time.  It then comes back as it was; otherwise what is written is refused.  The literal of
a moment with an offset has no other years, so what it tells always comes back. -/
theorem written_again (h : v.ReadFrom s) :
    ((∃ w, v.toLiteral.toValue = .ok w ∧ (w == v) = true) ↔ v.YearIsPlain) ∧
    (v.YearIsPlain → v.toLiteral.toValue = .ok v) ∧
    (¬v.YearIsPlain → ∃ text, v.toLiteral.toValue = .error (.invalidDateTime text) ∨
      v.toLiteral.toValue = .error (.invalidTime text)) ∧
    ((Literal.dateTime s).toValue = .ok v → v.YearIsPlain) := by
  have hback : v.YearIsPlain → v.toLiteral.toValue = .ok v := h.toValue_toLiteral
  refine ⟨⟨?_, fun hy => ⟨v, hback hy, beq_eq_true_iff.2 (compare_self v)⟩⟩, hback,
    toValue_of_not_yearIsPlain, fun hv => ?_⟩
  · rintro ⟨w, hw, -⟩
    by_contra hy
    obtain ⟨text, herror | herror⟩ := toValue_of_not_yearIsPlain hy
    · cases hw.symm.trans herror
    · cases hw.symm.trans herror
  · rw [Literal.toValue] at hv
    obtain ⟨t, hread, rfl⟩ := Literal.exists_of_orFault hv
    exact DateTime.hasPlainYear_of_ofRfc3339? hread

/-- The leap second at the end of 2016, on a clock behind UTC by an hour and a half. -/
def leapSecond : DateTime :=
  ⟨⟨⟨2016, 12, 31, by decide⟩, 81059, nanosPerSecond, by decide, by decide⟩,
    -5400, by decide, by decide⟩

theorem written_again_leapSecond :
    (dateTime leapSecond).ReadFrom " 2016-12-31 22:30:60 -0130 " ∧
      ∃ w, (dateTime leapSecond).toLiteral.toValue = .ok w ∧ (w == dateTime leapSecond) = true := by
  have hread : (dateTime leapSecond).ReadFrom " 2016-12-31 22:30:60 -0130 " :=
    .converted (b := .paramsDateTime) (by decide) rfl rfl
  have hyear : leapSecond.wall.HasPlainYear := by decide
  exact ⟨hread, (written_again hread).1.2 hyear⟩

theorem zero_lt_two_seconds : 0 < 2 * nanosPerSecond := by
  decide

/-- A quarter of an hour before year 0. -/
def beforeYearZero : Timestamp :=
  ⟨⟨-1, 12, 31, by decide⟩, 85500, 0, by decide, zero_lt_two_seconds⟩

/-- Noon on the first day of year 10000, in UTC. -/
def noonInYear10000 : DateTime :=
  ⟨⟨⟨10000, 1, 1, by decide⟩, 43200, 0, by decide, zero_lt_two_seconds⟩, 0, by decide, by decide⟩

theorem not_always_written_again :
    ((time beforeYearZero).ReadFrom "0000-01-01T00:00:00+00:15" ∧
      (time beforeYearZero).toLiteral.toValue =
        .error (.invalidTime "-0001-12-31T23:45:00+00:00")) ∧
    (dateTime noonInYear10000).ReadFrom "+10000-01-01 12:00:00 +0000" ∧
      (dateTime noonInYear10000).toLiteral.toValue =
        .error (.invalidDateTime "+10000-01-01T12:00:00+00:00") := by
  have hzero : ¬beforeYearZero.HasPlainYear := by decide
  have hmany : ¬noonInYear10000.wall.HasPlainYear := by decide
  have hread : (Literal.time "0000-01-01T00:00:00+00:15").toValue = .ok (time beforeYearZero) := rfl
  refine ⟨⟨.literal ?_ hread, toValue_time_signed hzero⟩,
    .converted (b := .paramsDateTime) (by decide) rfl rfl, toValue_dateTime_signed hmany⟩
  exact List.mem_cons_of_mem _ (List.mem_cons_of_mem _ List.mem_cons_self)

end Value
end Conform
