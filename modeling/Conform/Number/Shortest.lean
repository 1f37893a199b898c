import Conform.Number.Binary64
import Conform.Text.Digits

/-!
# Shortest decimal text of a binary64 number

The fewest significant digits that still round to the number, and of those the nearest to it,
found in exact arithmetic; then the texts made of them.

* `shortest` — the digits and the decimal exponent.
* `TextFormat` — where positional notation ends, and how an exponent is written.
* `Binary64.text` — the text in such a format.
* `Binary64.positional` — the text without an exponent, whatever the magnitude.
* `Binary64.ofText?` — reading any of these texts, correctly rounded.
-/

namespace Conform

/-- A positive number in decimal: `digits` read as a natural number, times `10 ^ exponent`. -/
structure Scientific where
  digits : Nat
  exponent : Int
  deriving DecidableEq, Repr

namespace Scientific

/-- The count of digits in front of the decimal point; zero or less when the fraction starts with
zeros. -/
def pointPosition (s : Scientific) : Int :=
  (Text.digits s.digits).length + s.exponent

/-- The same number without trailing zeros, at most `fuel` of them. -/
def stripZeros (s : Scientific) : (fuel : Nat) → Scientific
  | 0 => s
  | fuel + 1 =>
    if s.digits % 10 = 0 ∧ s.digits ≠ 0 then
      stripZeros ⟨s.digits / 10, s.exponent + 1⟩ fuel
    else s

end Scientific

namespace Binary64

/-- The open or closed interval of the reals that round to a positive number, and the number itself,
all three as multiples of `1 / den`. -/
structure Cell where
  lower : Nat
  value : Nat
  upper : Nat
  den : Nat
  closed : Bool

/-- The reals that round to `mantissa · 2 ^ exponent`: half a unit to each side, a quarter below the
least mantissa of a binade. A tie goes to the even mantissa, so the ends belong to it. -/
def cell (mantissa : Nat) (exponent : Int) : Cell :=
  let below := if mantissa = twoPow 52 ∧ exponent ≠ -1074 then 1 else 2
  let scale := if 0 ≤ exponent then twoPow exponent.toNat else 1
  let den := if 0 ≤ exponent then 4 else 4 * twoPow (-exponent).toNat
  ⟨(4 * mantissa - below) * scale, 4 * mantissa * scale, (4 * mantissa + 2) * scale, den,
    mantissa % 2 = 0⟩

/-- Whether the cell holds `n · 10 ^ exponent`. -/
def Cell.holds (c : Cell) (n : Nat) (exponent : Int) : Bool :=
  let x := if 0 ≤ exponent then n * tenPow exponent.toNat * c.den else n * c.den
  let scale := if 0 ≤ exponent then 1 else tenPow (-exponent).toNat
  if c.closed then c.lower * scale ≤ x && x ≤ c.upper * scale
  else c.lower * scale < x && x < c.upper * scale

/-- The neighbours of the cell's value on the grid of multiples of `10 ^ exponent`: the one at or
below it, and whether the one above is nearer. -/
def Cell.floorOn (c : Cell) (exponent : Int) : Nat × Bool :=
  let num := if 0 ≤ exponent then c.value else c.value * tenPow (-exponent).toNat
  let den := if 0 ≤ exponent then c.den * tenPow exponent.toNat else c.den
  (num / den, den < 2 * (num % den))

/-- The grid point of the cell nearest to its value, if the cell has one. -/
def Cell.nearestOn (c : Cell) (exponent : Int) : Option Nat :=
  let (low, upperIsNearer) := c.floorOn exponent
  let (first, second) := if upperIsNearer then (low + 1, low) else (low, low + 1)
  if c.holds first exponent then some first
  else if c.holds second exponent then some second
  else none

/-- The count of digits that the cell's value has in front of the decimal point, negative for
leading zeros of the fraction. Every value is above `10 ^ -350`. -/
def Cell.pointPosition (c : Cell) : Int :=
  (Text.digits (c.value * tenPow 350 / c.den)).length - 350

/-- The shortest decimal that rounds to the positive number `mantissa · 2 ^ exponent`. Seventeen
digits are always enough. -/
def shortest (mantissa : Nat) (exponent : Int) : Scientific :=
  let c := cell mantissa exponent
  let point := c.pointPosition
  let found := (List.range 17).findSome? fun (k : Nat) =>
    let grid := point - ((k : Int) + 1)
    (c.nearestOn grid).map fun n => (⟨n, grid⟩ : Scientific)
  (found.getD ⟨0, 0⟩).stripZeros 17

/-! ## Writing -/

/-- Digits with the decimal point after `point` of them, zeros filling up on either side; at least
one digit stands before the point, and after it unless `bare`. -/
def placePoint (bare : Bool) (ds : List Char) (point : Int) : List Char :=
  if point ≤ 0 then '0' :: '.' :: (List.replicate (-point).toNat '0' ++ ds)
  else if ds.length ≤ point.toNat then
    ds ++ List.replicate (point.toNat - ds.length) '0' ++ (if bare then [] else ['.', '0'])
  else ds.take point.toNat ++ '.' :: ds.drop point.toNat

/-- How a finite number is written: positional for the exponents between the two bounds, with an
exponent elsewhere. An exponent `e` means that the first digit counts units of `10 ^ e`. -/
structure TextFormat where
  leastPositional : Int
  mostPositional : Int
  plusSign : Bool

/-- Digits in scientific notation, the point after the first of them. -/
def exponential (format : TextFormat) (ds : List Char) (point : Int) : List Char :=
  let e := point - 1
  let mantissa := match ds with
    | d :: f :: rest => d :: '.' :: f :: rest
    | ds => ds
  mantissa ++ 'e' :: ((if format.plusSign ∧ 0 ≤ e then ['+'] else []) ++ Text.signed e)

/-- The sign, then the magnitude. -/
def withMinus (negative : Bool) (cs : List Char) : List Char :=
  if negative then '-' :: cs else cs

/-- The text of a number in the given format. -/
def text (format : TextFormat) : Binary64 → List Char
  | .nan => "NaN".toList
  | .infinite negative => withMinus negative "inf".toList
  | .finite negative m e _ =>
    withMinus negative <|
      if m = 0 then ['0', '.', '0']
      else
        let s := shortest m e
        let ds := Text.digits s.digits
        let point := s.pointPosition
        if format.leastPositional ≤ point - 1 ∧ point - 1 ≤ format.mostPositional then
          placePoint false ds point
        else exponential format ds point

/-- The format of literals: an exponent below `10 ^ -4` and from `10 ^ 16` on. -/
def literalFormat : TextFormat := ⟨-4, 15, false⟩

/-- The format of documents: an exponent below `10 ^ -5` and from `10 ^ 16` on, always signed. -/
def documentFormat : TextFormat := ⟨-5, 15, true⟩

/-- The shortest digits without an exponent, and without a fraction where there is none. -/
def positional : Binary64 → List Char
  | .nan => "NaN".toList
  | .infinite negative => withMinus negative "inf".toList
  | .finite negative m e _ =>
    withMinus negative <|
      if m = 0 then ['0']
      else
        let s := shortest m e
        placePoint true (Text.digits s.digits) s.pointPosition

/-- The exact integer part followed by `.0`: the text of a number without a fraction. -/
def exactInteger : Binary64 → List Char
  | .finite negative m e _ =>
    let (num, den) := ratio m e
    withMinus negative (Text.digits (num / den) ++ ['.', '0'])
  | x => positional x

/-! ## Reading -/

/-- The exponent part of a number text: nothing, or `e` and an integer. -/
def readExponent? : List Char → Option Int
  | [] => some 0
  | c :: rest => if c = 'e' ∨ c = 'E' then Text.ofSigned? rest else none

/-- The magnitude of a number text: digits with at most one point among them, at least one digit,
then perhaps an exponent. -/
def readMagnitude? (negative : Bool) (cs : List Char) : Option Binary64 :=
  let whole := cs.takeWhile Text.isDigit
  let rest := cs.dropWhile Text.isDigit
  let (fraction, rest) := match rest with
    | '.' :: more => (more.takeWhile Text.isDigit, more.dropWhile Text.isDigit)
    | _ => ([], rest)
  if whole.isEmpty && fraction.isEmpty then none
  else (readExponent? rest).map fun e =>
    ofDecimal negative (Nat.ofDigitChars 10 (whole ++ fraction) 0) (e - fraction.length)

/-- Reads a number text: a sign or none, then `inf`, `infinity` or `nan` in any case, or a
magnitude. The result is correctly rounded. -/
def ofText? (cs : List Char) : Option Binary64 :=
  let (negative, rest) := Text.splitSign cs
  let word := rest.map Char.toLower
  if word = "inf".toList ∨ word = "infinity".toList then some (.infinite negative)
  else if word = "nan".toList then some .nan
  else readMagnitude? negative rest

end Binary64

end Conform
