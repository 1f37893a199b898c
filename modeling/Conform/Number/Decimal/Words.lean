import Conform.Number.Decimal
import Conform.Number.Word

/-!
# Reading decimals with words

The reader of decimals as it is run: digits are counted in words, and the power of ten is taken from
a word of 32 bits.  What is read is the pair of the unscaled number, which may be of any size, and
the scale.

* `Decimal.dropZeros` — zeros at the end of a fraction, dropped one by one.
* `Decimal.scaleInWords` — the decimal `unscaled · 10 ^ -scale`, if the power of ten is allowed.
* `Decimal.ofTextInWords` — the whole reader; an operation that leaves its word stops it.
-/

namespace Conform.Decimal

/-- Drops the zeros at the end of a fraction of `scale` digits. -/
def dropZeros (unscaled : Int) (scale : UInt32) : Except Overflow (Int × UInt32) :=
  if 0 < scale ∧ unscaled % 10 = 0 then
    match h : Word.pred scale with
    | .ok rest => dropZeros (unscaled / 10) rest
    | .error o => .error o
  else .ok (unscaled, scale)
termination_by scale.toNat
decreasing_by
  have := Word.toNat_of_pred h
  omega

/-- The decimal `unscaled · 10 ^ -scale`, if the power of ten is allowed. -/
def scaleInWords (unscaled : Int) (scale : Int64) : Except Overflow (Option (Int × UInt32)) := do
  let size ← Word.abs scale
  if Int64.ofNat maxExponent < size then return none
  if scale < 0 then
    let k ← Word.narrow (Word.magnitude scale)
    return some (← dropZeros (unscaled * tenPow k.toNat) 0)
  else
    let k ← Word.narrow (Word.magnitude scale)
    return some (← dropZeros unscaled k)

/-- The text before the first `e`, and the exponent after it as a word. -/
def splitExponentInWords? (cs : List Char) : Option (List Char × Int64) :=
  let mantissa := cs.takeWhile fun c => c ≠ 'e' ∧ c ≠ 'E'
  match cs.dropWhile fun c => c ≠ 'e' ∧ c ≠ 'E' with
  | [] => some (mantissa, 0)
  | _ :: rest => ((Text.ofSigned? rest).bind Word.toInt64?).map fun e => (mantissa, e)

/-- The decimal of the digits before and after the point, with an exponent. -/
def ofPartsInWords (negative : Bool) (whole fraction : List Char) (exponent : Int64) :
    Except Overflow (Option (Int × UInt32)) :=
  match Text.ofDigits? (whole ++ fraction),
      (Word.toInt64? fraction.length).bind (Word.sub? · exponent) with
  | some n, some scale => scaleInWords (Text.withSign negative n) scale
  | _, _ => .ok none

/-- Reads a decimal text. -/
def ofTextInWords (cs : List Char) : Except Overflow (Option (Int × UInt32)) :=
  match splitExponentInWords? ((Text.trim cs).filter (· ≠ '_')) with
  | none => .ok none
  | some (mantissa, exponent) =>
    let (negative, unsigned) := Text.splitSign mantissa
    let (whole, fraction) := splitPoint unsigned
    ofPartsInWords negative whole fraction exponent

end Conform.Decimal
