import Conform.Text.Digits

/-!
# Calendar dates

Days of the proleptic Gregorian calendar, with year zero.

* `Date` — a day that exists, in one of the years `Date.firstYear` to `Date.lastYear`.
* `Date.of?` — the day with the given year, month and day, if there is one.
* `Date.next?`, `Date.previous?` — the neighbouring days.
* `Date.text` — the text `year-month-day`.
-/

namespace Conform

/-- Whether the year has a 29th of February. -/
def isLeapYear (year : Int) : Bool :=
  year % 4 == 0 && (year % 100 != 0 || year % 400 == 0)

/-- The length of a month. -/
def daysInMonth (year : Int) (month : Nat) : Nat :=
  if month = 2 then if isLeapYear year then 29 else 28
  else if month = 4 ∨ month = 6 ∨ month = 9 ∨ month = 11 then 30
  else 31

namespace Date

/-- The first year that has dates. -/
def firstYear : Int := -262143

/-- The last year that has dates. -/
def lastYear : Int := 262142

/-- The triples that name a day. -/
def Exists (year : Int) (month day : Nat) : Prop :=
  firstYear ≤ year ∧ year ≤ lastYear ∧ 1 ≤ month ∧ month ≤ 12 ∧ 1 ≤ day ∧
    day ≤ daysInMonth year month

instance (year : Int) (month day : Nat) : Decidable (Exists year month day) := by
  unfold Exists
  infer_instance

end Date

/-- A day of the calendar. -/
structure Date where
  year : Int
  month : Nat
  day : Nat
  valid : Date.Exists year month day
  deriving DecidableEq

namespace Date

/-- The day with this year, month and day of the month, if it exists. -/
def of? (year : Int) (month day : Nat) : Option Date :=
  if h : Exists year month day then some ⟨year, month, day, h⟩ else none

instance : Inhabited Date := ⟨⟨1970, 1, 1, by decide⟩⟩

/-- Days are ordered by year, then month, then day. -/
def compare (a b : Date) : Ordering :=
  (Ord.compare a.year b.year).then ((Ord.compare a.month b.month).then (Ord.compare a.day b.day))

/-- The following day, unless it lies past the last year. -/
def next? (d : Date) : Option Date :=
  if d.day < daysInMonth d.year d.month then of? d.year d.month (d.day + 1)
  else if d.month < 12 then of? d.year (d.month + 1) 1
  else of? (d.year + 1) 1 1

/-- The preceding day, unless it lies before the first year. -/
def previous? (d : Date) : Option Date :=
  if 1 < d.day then of? d.year d.month (d.day - 1)
  else if 1 < d.month then of? d.year (d.month - 1) (daysInMonth d.year (d.month - 1))
  else of? (d.year - 1) 12 31

/-- The day after moving by -1, 0 or 1 days; a longer move counts as one day. -/
def shift? (d : Date) (days : Int) : Option Date :=
  if days < 0 then d.previous? else if 0 < days then d.next? else some d

/-! ## Text -/

/-- Two digits. -/
def twoDigits (n : Nat) : List Char :=
  Text.padLeft 2 (Text.digits n)

/-- Four digits at least; years outside 0 to 9999 carry their sign. -/
def yearText (year : Int) : List Char :=
  let ds := Text.padLeft 4 (Text.digits year.natAbs)
  if year < 0 then '-' :: ds else if 9999 < year then '+' :: ds else ds

/-- The text `year-month-day`. -/
def text (d : Date) : List Char :=
  yearText d.year ++ '-' :: twoDigits d.month ++ '-' :: twoDigits d.day

end Date

end Conform
