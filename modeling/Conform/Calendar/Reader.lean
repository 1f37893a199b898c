import Conform.Number.Power
import Conform.Calendar.DateTime
import Conform.Text.Blank

/-!
# Reading dates and times

Two styles of text. The strict one is RFC 3339: full fields, nothing left out. The lenient one has
fields of one or two digits with blanks allowed before each, a year with a sign and any number of
digits, and an optional offset.

* `Date.ofText?` — a lenient date.
* `DateTime.ofRfc3339?` — a strict moment.
* `DateTime.ofText?` — a moment in the strict style, or in the lenient one with or without an
  offset.

A reading function takes the text still to be read and gives a value with the rest of the text.
-/

namespace Conform.Calendar

/-- Splits off up to `most` leading digits, at least `least` of them, and gives their number. -/
def readNumber (least most : Nat) (cs : List Char) : Option (Nat × List Char) :=
  let ds := (cs.take most).takeWhile Text.isDigit
  if ds.length < least then none
  else some (Nat.ofDigitChars 10 ds 0, cs.drop ds.length)

/-- Splits off one given character. -/
def readChar (c : Char) : List Char → Option (List Char)
  | [] => none
  | d :: rest => if c = d then some rest else none

/-- One or two digits after any blanks. -/
def readField (cs : List Char) : Option (Nat × List Char) :=
  readNumber 1 2 (Text.trimStart cs)

/-- A year after any blanks: up to four digits, or a sign and any number of digits. -/
def readYear (cs : List Char) : Option (Int × List Char) :=
  match Text.trimStart cs with
  | '-' :: rest => (readNumber 1 rest.length rest).map fun (n, rest) => (-(n : Int), rest)
  | '+' :: rest => (readNumber 1 rest.length rest).map fun (n, rest) => ((n : Int), rest)
  | cs => (readNumber 1 4 cs).map fun (n, rest) => ((n : Int), rest)

/-- A lenient date. -/
def readDate (cs : List Char) : Option (Date × List Char) := do
  let (year, cs) ← readYear cs
  let (month, cs) ← readField (← readChar '-' cs)
  let (day, cs) ← readField (← readChar '-' cs)
  let date ← Date.of? year month day
  pure (date, cs)

/-- A lenient clock reading on the given date. -/
def readClock (date : Date) (cs : List Char) : Option (Timestamp × List Char) := do
  let (hour, cs) ← readField cs
  let (minute, cs) ← readField (← readChar ':' cs)
  let (second, cs) ← readField (← readChar ':' cs)
  let t ← Timestamp.of? date hour minute second 0
  pure (t, cs)

/-- A sign: plus, hyphen or the minus sign. Gives whether it is negative. -/
def readSign : List Char → Option (Bool × List Char)
  | '+' :: rest => some (false, rest)
  | '-' :: rest => some (true, rest)
  | '\u2212' :: rest => some (true, rest)
  | _ => none

/-- An offset in seconds: a sign, two digits of hours, what `separator` takes, and two digits of
minutes below 60. -/
def readOffset (separator : List Char → Option (List Char)) (cs : List Char) :
    Option (Int × List Char) := do
  let (negative, cs) ← readSign cs
  let (hours, cs) ← readNumber 2 2 cs
  let (minutes, cs) ← readNumber 2 2 (← separator cs)
  if minutes < 60 then pure (Text.withSign negative ((hours * 60 + minutes) * 60), cs) else none

/-- Skips colons and blanks. -/
def skipSeparators (cs : List Char) : Option (List Char) :=
  some (cs.dropWhile fun c => c = ':' || Text.isBlank c)

/-- A fraction of a second in nanoseconds: nothing, or a point and digits, of which nine count. -/
def readFraction : List Char → Option (Nat × List Char)
  | '.' :: cs => do
    let (n, rest) ← readNumber 1 9 cs
    let read := cs.length - rest.length
    pure (n * tenPow (9 - read), rest.dropWhile Text.isDigit)
  | cs => some (0, cs)

/-- The offset of a strict text: `Z`, or hours and minutes with a colon between. -/
def readStrictOffset : List Char → Option (Int × List Char)
  | 'Z' :: rest => some (0, rest)
  | 'z' :: rest => some (0, rest)
  | cs => readOffset (readChar ':') cs

/-- The letter or blank between date and time. -/
def readSeparator : List Char → Option (List Char)
  | [] => none
  | c :: rest => if c = 'T' ∨ c = 't' ∨ c = ' ' then some rest else none

/-- A strict text. -/
def readRfc3339 (cs : List Char) : Option (DateTime × List Char) := do
  let (year, cs) ← readNumber 4 4 cs
  let (month, cs) ← readNumber 2 2 (← readChar '-' cs)
  let (day, cs) ← readNumber 2 2 (← readChar '-' cs)
  let (hour, cs) ← readNumber 2 2 (← readSeparator cs)
  let (minute, cs) ← readNumber 2 2 (← readChar ':' cs)
  let (second, cs) ← readNumber 2 2 (← readChar ':' cs)
  let (nano, cs) ← readFraction cs
  let (offset, cs) ← readStrictOffset cs
  let date ← Date.of? year month day
  let wall ← Timestamp.of? date hour minute second nano
  let t ← DateTime.of? wall offset
  pure (t, cs)

/-- The value read, if nothing of the text is left. -/
def complete {α : Type} : Option (α × List Char) → Option α
  | some (a, []) => some a
  | _ => none

/-- A lenient date and clock reading, then blanks or none, and an offset. -/
def readWithOffset (cs : List Char) : Option (DateTime × List Char) := do
  let (date, cs) ← readDate cs
  let (wall, cs) ← readClock date (Text.trimStart cs)
  let (offset, cs) ← readOffset skipSeparators (Text.trimStart cs)
  let t ← DateTime.of? wall offset
  pure (t, cs)

/-- A lenient date and clock reading in UTC, with what `separator` takes between them. -/
def readWithoutOffset (separator : List Char → Option (List Char)) (cs : List Char) :
    Option (DateTime × List Char) := do
  let (date, cs) ← readDate cs
  let (wall, cs) ← readClock date (← separator cs)
  let t ← DateTime.of? wall 0
  pure (t, cs)

end Conform.Calendar

namespace Conform

open Calendar

/-- Reads a lenient date. -/
def Date.ofText? (cs : List Char) : Option Date :=
  complete (readDate cs)

/-- Reads a strict moment. -/
def DateTime.ofRfc3339? (cs : List Char) : Option DateTime :=
  complete (readRfc3339 cs)

/-- Reads a moment: strictly, or leniently with an offset, or leniently in UTC with `T` or blanks
between date and clock. -/
def DateTime.ofText? (cs : List Char) : Option DateTime :=
  complete (readRfc3339 cs) <|> complete (readWithOffset cs) <|>
    complete (readWithoutOffset (readChar 'T') cs) <|>
    complete (readWithoutOffset (fun cs => some (Text.trimStart cs)) cs)

end Conform
