import Conform.Calendar.Date

/-!
# Points in time

A reading of calendar and clock, and a reading together with the offset of its clock from UTC.  An
offset may be any number of seconds below a day, and any second may be followed by a leap second.
The text of a moment does not tell all of that: it rounds the offset to minutes, and it writes the
leap second after second 30 as second 31.

* `Timestamp` — a date, a second of the day and nanoseconds, which go on counting in a leap second.
* `Timestamp.shift?` — the reading of a clock set some seconds later.
* `DateTime` — a local reading and the seconds by which it is ahead of UTC.
* `DateTime.utc` — the reading of a UTC clock at that moment, which decides the order.
* `DateTime.text`, `Timestamp.textUtc` — the text of RFC 3339.

Both readings of a moment lie in the calendar, so a moment within a day of its ends may have none.
-/

namespace Conform

/-- The nanoseconds of a second. A second may last twice as long, the added one being a leap
second. -/
def nanosPerSecond : Nat := 1000000000

/-- The reading of a calendar and a clock, without saying where the clock stands. -/
structure Timestamp where
  date : Date
  second : Nat
  nano : Nat
  second_lt : second < 86400
  nano_lt : nano < 2 * nanosPerSecond
  deriving DecidableEq

namespace Timestamp

/-- The reading `date hour:minute:second` and nanoseconds, second 60 being a leap second. -/
def of? (date : Date) (hour minute second nano : Nat) : Option Timestamp :=
  let total := (hour * 60 + minute) * 60 + min second 59
  let nano := if second = 60 then nano + nanosPerSecond else nano
  if h : hour < 24 ∧ minute < 60 ∧ second ≤ 60 ∧ total < 86400 ∧ nano < 2 * nanosPerSecond ∧
      (nano < nanosPerSecond ∨ total % 60 = 59) then
    some ⟨date, total, nano, h.2.2.2.1, h.2.2.2.2.1⟩
  else none

instance : Inhabited Timestamp :=
  ⟨⟨default, 0, 0, by decide, by decide⟩⟩

/-- Readings are ordered by date, then second, then nanosecond. -/
def compare (a b : Timestamp) : Ordering :=
  (a.date.compare b.date).then
    ((Ord.compare a.second b.second).then (Ord.compare a.nano b.nano))

/-- The reading of a clock that is ahead by some seconds, less than a day either way. There is none
when its date lies outside the calendar. -/
def shift? (t : Timestamp) (seconds : Int) : Option Timestamp :=
  let total : Int := t.second + seconds
  let second := (total % 86400).toNat
  (t.date.shift? (total / 86400)).map fun date =>
    { date, second, nano := t.nano
      second_lt := by
        have h₁ := Int.emod_nonneg total (show (86400 : Int) ≠ 0 by decide)
        have h₂ := Int.emod_lt_of_pos total (show (0 : Int) < 86400 by decide)
        show (total % 86400).toNat < 86400
        omega
      nano_lt := t.nano_lt }

/-! ## Text -/

/-- The fraction of a second: nothing, or three, six or nine digits, as many as are needed. -/
def fractionText (nano : Nat) : List Char :=
  if nano = 0 then []
  else if nano % 1000000 = 0 then '.' :: Text.padLeft 3 (Text.digits (nano / 1000000))
  else if nano % 1000 = 0 then '.' :: Text.padLeft 6 (Text.digits (nano / 1000))
  else '.' :: Text.padLeft 9 (Text.digits nano)

/-- The text `dateThour:minute:second`, with a fraction where there is one. A leap second has the
number after that of its second. -/
def text (t : Timestamp) : List Char :=
  let second := if t.nano < nanosPerSecond then t.second % 60 else t.second % 60 + 1
  t.date.text ++ 'T' :: Date.twoDigits (t.second / 3600) ++ ':' ::
    Date.twoDigits (t.second / 60 % 60) ++ ':' :: Date.twoDigits second ++
    fractionText (t.nano % nanosPerSecond)

end Timestamp

/-- A moment, read from a clock that is `offset` seconds ahead of UTC. A UTC clock can show it
too. -/
structure DateTime where
  wall : Timestamp
  offset : Int
  offset_lt : offset.natAbs < 86400
  hasUtc : (wall.shift? (-offset)).isSome
  deriving DecidableEq

namespace DateTime

/-- The moment at which a clock `offset` seconds ahead of UTC shows the reading. -/
def of? (wall : Timestamp) (offset : Int) : Option DateTime :=
  if h : offset.natAbs < 86400 ∧ (wall.shift? (-offset)).isSome then
    some ⟨wall, offset, h.1, h.2⟩
  else none

/-- What a UTC clock shows at that moment. -/
def utc (t : DateTime) : Timestamp :=
  (t.wall.shift? (-t.offset)).get t.hasUtc

/-- Moments are ordered by what a UTC clock shows. -/
def compare (a b : DateTime) : Ordering :=
  a.utc.compare b.utc

/-- The offset as sign, hours and minutes, of which half a one counts as a whole one. -/
def offsetText (offset : Int) : List Char :=
  let minutes := (offset.natAbs + 30) / 60
  (if offset < 0 then '-' else '+') :: Date.twoDigits (minutes / 60) ++ ':' ::
    Date.twoDigits (minutes % 60)

/-- The reading followed by the offset. -/
def text (t : DateTime) : List Char :=
  t.wall.text ++ offsetText t.offset

end DateTime

/-- The text of a UTC reading, the zero offset included. -/
def Timestamp.textUtc (t : Timestamp) : List Char :=
  t.text ++ DateTime.offsetText 0

end Conform
