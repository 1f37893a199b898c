import Conform.Number.Decimal

/-!
# Numbers

The three kinds of number, their order and the conversions between them.

* `Number` — an integer of any size, an exact decimal, or a binary64 number.
* `Number.compareValue` — the order of the values, the kind ignored.
* `Number.compare` — the order that also tells the kinds apart.
* `Number.truncate`, `Number.toFloat`, `Number.toDecimal?` — conversions.
* `Number.readInteger?`, `Number.readFloat?`, `Number.readDecimal?`, `Number.read?` — the texts.
-/

namespace Conform

/-- A number of one of the three kinds. -/
inductive Number
  | integer (z : Int)
  | decimal (d : Decimal)
  | float (x : Binary64)
  deriving DecidableEq, Inhabited

namespace Number

/-! ## Kinds -/

/-- Whether the number is an integer by kind; `1.0` is not. -/
def isInteger : Number → Bool
  | .integer _ => true
  | _ => false

/-- Whether the number is a decimal by kind. -/
def isDecimal : Number → Bool
  | .decimal _ => true
  | _ => false

/-- Whether the number is a binary64 number by kind. -/
def isFloat : Number → Bool
  | .float _ => true
  | _ => false

/-- Whether the number is an odd integer. -/
def isOdd : Number → Bool
  | .integer z => z % 2 != 0
  | _ => false

/-- Whether the number is an even integer. -/
def isEven (n : Number) : Bool :=
  n.isInteger && !n.isOdd

/-! ## Conversions -/

/-- The binary64 number nearest to the value. -/
def toBinary64 : Number → Binary64
  | .integer z => Binary64.ofInt z
  | .decimal d => d.toBinary64
  | .float x => x

/-- The number converted to the kind float. -/
def toFloat (n : Number) : Number :=
  .float n.toBinary64

/-- The value as a decimal, for the two exact kinds. -/
def asDecimal? : Number → Option Decimal
  | .integer z => some (Decimal.ofInt z)
  | .decimal d => some d
  | .float _ => none

/-- The number converted to the kind decimal; infinities and what is not a number have none. -/
def toDecimal? : Number → Option Number
  | .float x => (Decimal.ofBinary64? x).map .decimal
  | n => n.asDecimal?.map .decimal

/-- The largest magnitude at which a float is still truncated. -/
def maxTruncated : Nat := twoPow 63

/-- The integer part, rounded toward zero. A float has one up to the magnitude `maxTruncated`. -/
def truncate : Number → Option Number
  | .integer z => some (.integer z)
  | .decimal d => some (.integer d.truncate)
  | .float x => x.truncate.bind fun z =>
      if z.natAbs ≤ maxTruncated then some (.integer z) else none

/-- The integer, if it fits 64 unsigned bits. -/
def toUnsigned64? : Number → Option Nat
  | .integer z => if 0 ≤ z ∧ z < twoPow 64 then some z.toNat else none
  | _ => none

/-- The integer, if it fits 64 signed bits. -/
def toSigned64? : Number → Option Int
  | .integer z => if Decimal.isSigned64 z then some z else none
  | _ => none

/-- The largest magnitude up to which every integer is a binary64 number. -/
def maxExactInteger : Nat := twoPow 53

/-- The value as a finite binary64 number, if the conversion of its kind is exact. -/
def toExactBinary64? : Number → Option Binary64
  | .integer z => if z.natAbs ≤ maxExactInteger then some (Binary64.ofInt z) else none
  | .decimal _ => none
  | .float x => if x.isFinite then some x else none

/-! ## Order -/

/-- The order of the values. As soon as one side is a float both are rounded to floats, and what is
not a number ties with everything. -/
def compareValue : Number → Number → Ordering
  | .integer a, .integer b => Ord.compare a b
  | .integer a, .decimal b => (Decimal.ofInt a).compare b
  | .decimal a, .integer b => a.compare (Decimal.ofInt b)
  | .decimal a, .decimal b => a.compare b
  | a, b => (a.toBinary64.compare? b.toBinary64).getD .eq

/-- The place of the kind among equal values: integers, then decimals, then floats. -/
def rank : Number → Nat
  | .integer _ => 0
  | .decimal _ => 1
  | .float _ => 2

/-- The order of the values, equal values by kind. -/
def compare (a b : Number) : Ordering :=
  (a.compareValue b).then (Ord.compare a.rank b.rank)

instance : Ord Number := ⟨compare⟩

instance : BEq Number := ⟨fun a b => a.compare b == .eq⟩

/-! ## Text -/

/-- Reads an integer: a sign or none, then digits. Blanks around the text and `_` anywhere in it are
ignored. -/
def readInteger? (cs : List Char) : Option Number :=
  (Text.ofSigned? ((Text.trim cs).filter (· ≠ '_'))).map .integer

/-- The characters that the text of a float may hold. -/
def isFloatChar (c : Char) : Bool :=
  Text.isDigit c || c = '.' || c = '-' || c = '+' || c = 'e' || c = 'E'

/-- Reads a float. Blanks around the text and `_` anywhere in it are ignored; words are refused. -/
def readFloat? (cs : List Char) : Option Number :=
  let body := (Text.trim cs).filter (· ≠ '_')
  if body ≠ [] ∧ body.all isFloatChar then (Binary64.ofText? body).map .float else none

/-- Reads a decimal. -/
def readDecimal? (cs : List Char) : Option Number :=
  (Decimal.ofText? cs).map .decimal

/-- Reads an integer, or else a float. -/
def read? (cs : List Char) : Option Number :=
  readInteger? cs <|> readFloat? cs

/-- The text of a number: plain digits for an integer, a point for the other kinds and never an
exponent. A float without a fraction is written with all its digits. -/
def text : Number → List Char
  | .integer z => Text.signed z
  | .decimal d => d.text
  | .float x => if x.isIntegral then x.exactInteger else x.positional

end Number

end Conform
