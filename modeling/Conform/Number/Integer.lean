import Conform.Number
import Conform.Number.Word

/-!
# Integers in words

Integers as they are kept: in a word where one is wide enough, and with all their digits elsewhere.
A negative integer is kept in a signed word, any other in an unsigned one.

* `Integer` — the three ways to keep an integer, and `Integer.value`.
* `Integer.ofInt`, `Integer.ofInt128`, `Integer.ofUInt128` — how the way is chosen.
* `Integer.ofUInt64`, `Integer.ofInt64` and so on, `Integer.ofDecimal`, `Integer.ofBinary64?`,
  `Integer.read?` — where integers come from.
* `Integer.compareValue`, `Integer.toUInt64?`, `Integer.toInt64?`, `Integer.isOdd`, `Integer.text` —
  what is asked of them.
-/

namespace Conform

/-- An integer in an unsigned word, in a signed word, or of any size. -/
inductive Integer
  | unsigned (n : UInt64)
  | signed (n : Int64)
  | big (z : Int)
  deriving DecidableEq

namespace Integer

/-- The integer that is kept. -/
def value : Integer → Int
  | .unsigned n => n.toNat
  | .signed n => n.toInt
  | .big z => z

/-- The integer as a number. -/
def toNumber (a : Integer) : Number :=
  .integer a.value

/-! ## Where integers come from -/

/-- An integer of any size. -/
def ofInt (z : Int) : Integer :=
  if z = 0 then .unsigned 0
  else if z < 0 then ((Word.toInt64? z).map .signed).getD (.big z)
  else ((Word.toUInt64? z).map .unsigned).getD (.big z)

/-- A signed word of 128 bits. -/
def ofInt128 (x : BitVec 128) : Integer :=
  let unsigned? : Option Integer :=
    if 0 ≤ x.toInt then (Word.toUInt64? x.toInt).map .unsigned else none
  let signed? : Option Integer := (Word.toInt64? x.toInt).map .signed
  (unsigned? <|> signed?).getD (.big x.toInt)

/-- An unsigned word of 128 bits. -/
def ofUInt128 (x : BitVec 128) : Integer :=
  ((Word.toUInt64? x.toNat).map .unsigned).getD (ofInt x.toNat)

def ofUInt64 (n : UInt64) : Integer :=
  .unsigned n

def ofUInt32 (n : UInt32) : Integer :=
  .unsigned n.toUInt64

def ofUSize (n : USize) : Integer :=
  .unsigned n.toUInt64

def ofInt64 (n : Int64) : Integer :=
  ofInt128 (n.toBitVec.signExtend 128)

def ofInt32 (n : Int32) : Integer :=
  ofInt128 (n.toBitVec.signExtend 128)

/-- The integer part of a decimal. -/
def ofDecimal (d : Decimal) : Integer :=
  ofInt d.truncate

/-- The integer part of a float, up to the magnitude `Number.maxTruncated`. -/
def ofBinary64? (x : Binary64) : Option Integer :=
  x.truncate.bind fun z =>
    if z.natAbs ≤ Number.maxTruncated then some (ofInt128 (BitVec.ofInt 128 z)) else none

/-- Reads an integer: a sign or none, then digits.  Blanks around the text and `_` anywhere in it
are ignored. -/
def read? (cs : List Char) : Option Integer :=
  (Text.ofSigned? ((Text.trim cs).filter (· ≠ '_'))).map ofInt

/-! ## What is asked of them -/

/-- The order of the values. -/
def compareValue (a b : Integer) : Ordering :=
  Ord.compare a.value b.value

/-- The integer as an unsigned word, if it fits one. -/
def toUInt64? : Integer → Option UInt64
  | .unsigned n => some n
  | .signed n => if 0 ≤ n then some n.toUInt64 else none
  | .big z => Word.toUInt64? z

/-- The integer as a signed word, if it fits one. -/
def toInt64? : Integer → Option Int64
  | .unsigned n => if n ≤ Int64.maxValue.toUInt64 then some n.toInt64 else none
  | .signed n => some n
  | .big z => Word.toInt64? z

/-- Whether the integer is odd.  The remainder has the sign of the integer. -/
def isOdd : Integer → Bool
  | .unsigned n => n % 2 == 1
  | .signed n => n % 2 != 0
  | .big z => z.tmod 2 != 0

def isEven (a : Integer) : Bool :=
  !a.isOdd

/-- The digits of the integer. -/
def text : Integer → List Char
  | .unsigned n => Text.digits n.toNat
  | .signed n => Text.signed n.toInt
  | .big z => Text.signed z

end Integer

end Conform
