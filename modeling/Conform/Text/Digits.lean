/-!
# Decimal digits

Natural numbers and integers as ASCII digits, in both directions.

* `isDigit` — the ten ASCII digits; other decimal digits of Unicode are not read.
* `digits`, `ofDigits?` — a natural number as its shortest digits, and back from any digits.
* `signed` — an integer with `-` in front of a negative one.
* `ofSigned?` — an optional sign, then digits.
* `padLeft` — zeros put in front up to a width.
-/

namespace Conform.Text

/-- The ten ASCII digits. -/
def isDigit (c : Char) : Bool :=
  c.isDigit

/-- The digits of a natural number, without leading zeros. -/
def digits (n : Nat) : List Char :=
  Nat.toDigits 10 n

/-- The number that a non-empty row of digits spells. -/
def ofDigits? (cs : List Char) : Option Nat :=
  if cs ≠ [] ∧ cs.all isDigit then some (Nat.ofDigitChars 10 cs 0) else none

/-- Reading what was written gives the number back. -/
theorem ofDigits?_digits (n : Nat) : ofDigits? (digits n) = some n := by
  have h : ∀ c ∈ Nat.toDigits 10 n, isDigit c = true := fun c hc =>
    Nat.isDigit_of_mem_toDigits (by decide) (by decide) hc
  simp only [ofDigits?, digits, ne_eq, Nat.toDigits_ne_nil, not_false_eq_true, true_and,
    List.all_eq_true]
  rw [if_pos h, Nat.ofDigitChars_toDigits (by decide) (by decide)]

/-- An integer as digits, with `-` in front of a negative one. -/
def signed (z : Int) : List Char :=
  if z < 0 then '-' :: digits z.natAbs else digits z.natAbs

/-- A text without its sign, and whether the sign was `-`. One sign at most is taken. -/
def splitSign : List Char → Bool × List Char
  | '-' :: rest => (true, rest)
  | '+' :: rest => (false, rest)
  | cs => (false, cs)

/-- The integer with the given sign and magnitude. -/
def withSign (negative : Bool) (n : Nat) : Int :=
  if negative then -(n : Int) else n

/-- The integer that an optional sign and digits spell. -/
def ofSigned? (cs : List Char) : Option Int :=
  let (negative, rest) := splitSign cs
  (ofDigits? rest).map (withSign negative)

/-- The text with zeros in front, at least `width` characters wide. -/
def padLeft (width : Nat) (cs : List Char) : List Char :=
  List.replicate (width - cs.length) '0' ++ cs

end Conform.Text
