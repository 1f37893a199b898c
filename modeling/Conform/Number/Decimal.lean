import Conform.Number.Shortest
import Conform.Text.Blank

/-!
# Exact decimals

Numbers `unscaled / 10 ^ scale`, without rounding and without a bound on their digits.

* `Decimal` — the one representation of each value: a fraction never ends with a zero.
* `Decimal.ofText?` — reading decimals, the exponent within `maxExponent`.
* `Decimal.text` — writing them, with at least one digit after the point.
* `Decimal.compare`, `Decimal.truncate` — the order of the values, and the integer part.
* `Decimal.ofBinary64?`, `Decimal.toBinary64` — to and from binary64 by way of the text.
-/

namespace Conform

/-- The largest power of ten, either way, that a decimal text may ask for. -/
def Decimal.maxExponent : Nat := 4096

/-- The number `unscaled / 10 ^ scale`. The last digit of a fraction is not zero, so equal values
are equal decimals, and no fraction has more digits than a text may ask for. -/
structure Decimal where
  unscaled : Int
  scale : Nat
  canonical : scale = 0 ∨ unscaled % 10 ≠ 0
  scale_le : scale ≤ Decimal.maxExponent
  deriving DecidableEq

namespace Decimal

/-- The decimal of an integer. -/
def ofInt (z : Int) : Decimal :=
  ⟨z, 0, .inl rfl, Nat.zero_le _⟩

instance : Inhabited Decimal := ⟨ofInt 0⟩

/-- The decimal `unscaled / 10 ^ scale`, with zeros at the end of the fraction dropped. -/
def normalize (unscaled : Int) : (scale : Nat) → scale ≤ maxExponent → Decimal
  | 0, _ => ofInt unscaled
  | scale + 1, hs =>
    if h : unscaled % 10 = 0 then normalize (unscaled / 10) scale (Nat.le_of_succ_le hs)
    else ⟨unscaled, scale + 1, .inr h, hs⟩

/-- The decimal `unscaled · 10 ^ -scale`, if the power of ten is allowed. -/
def ofScaled? (unscaled : Int) (scale : Int) : Option Decimal :=
  if h : maxExponent < scale.natAbs then none
  else if scale < 0 then some (ofInt (unscaled * tenPow (-scale).toNat))
  else some (normalize unscaled scale.toNat (by omega))

/-! ## Text -/

/-- Whether an integer fits 64 signed bits. -/
def isSigned64 (z : Int) : Bool :=
  -(twoPow 63 : Int) ≤ z && z < twoPow 63

/-- The text before the first `e`, and the exponent after it; an exponent fits 64 bits. -/
def splitExponent? (cs : List Char) : Option (List Char × Int) :=
  let mantissa := cs.takeWhile fun c => c ≠ 'e' ∧ c ≠ 'E'
  match cs.dropWhile fun c => c ≠ 'e' ∧ c ≠ 'E' with
  | [] => some (mantissa, 0)
  | _ :: rest =>
    (Text.ofSigned? rest).bind fun e => if isSigned64 e then some (mantissa, e) else none

/-- The text before and after the first point. -/
def splitPoint (cs : List Char) : List Char × List Char :=
  (cs.takeWhile (· ≠ '.'), (cs.dropWhile (· ≠ '.')).drop 1)

/-- Reads `[+-]digits[.digits][e[+-]digits]`, one side of the point possibly empty. Blanks around
the text and `_` anywhere in it are ignored. -/
def ofText? (cs : List Char) : Option Decimal := do
  let (mantissa, exponent) ← splitExponent? ((Text.trim cs).filter (· ≠ '_'))
  let (negative, unsigned) := Text.splitSign mantissa
  let (whole, fraction) := splitPoint unsigned
  let n ← Text.ofDigits? (whole ++ fraction)
  let scale := (fraction.length : Int) - exponent
  if isSigned64 scale then ofScaled? (Text.withSign negative n) scale else none

/-- The text of a decimal: all its digits, a point, and at least one digit after it. -/
def text (d : Decimal) : List Char :=
  let sign := if d.unscaled < 0 then ['-'] else []
  let ds := Text.digits d.unscaled.natAbs
  if d.scale = 0 then sign ++ ds ++ ['.', '0']
  else
    let padded := Text.padLeft (d.scale + 1) ds
    sign ++ padded.take (padded.length - d.scale) ++ '.' :: padded.drop (padded.length - d.scale)

/-! ## Value -/

/-- Whether the decimal is an integer. -/
def isIntegral (d : Decimal) : Bool :=
  d.scale == 0

/-- The integer part, rounded toward zero. -/
def truncate (d : Decimal) : Int :=
  d.unscaled.tdiv (tenPow d.scale)

/-- The order of the values. -/
def compare (a b : Decimal) : Ordering :=
  let scale := max a.scale b.scale
  Ord.compare (a.unscaled * tenPow (scale - a.scale)) (b.unscaled * tenPow (scale - b.scale))

/-- The decimal that the shortest text of a finite number spells. -/
def ofBinary64? (x : Binary64) : Option Decimal :=
  if x.isFinite then ofText? x.positional else none

/-- The binary64 number nearest to the decimal. -/
def toBinary64 (d : Decimal) : Binary64 :=
  Binary64.ofDecimal (d.unscaled < 0) d.unscaled.natAbs (-d.scale)

end Decimal

end Conform
