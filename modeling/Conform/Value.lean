import Conform.Calendar.DateTime
import Conform.Number
import Conform.Primitive

/-!
# Values

The dynamic values that types coerce and check.

* `Value` — the values; sets and hashes list their elements and entries in ascending order.
* `Value.className` — the class name used in messages.
* `Value.size?` — the number of characters, elements or entries.
* `Value.isAbsent` and its kin — the tests on shape that types and coercions need.
* `Primitive.admits` — whether a value is an instance of a primitive.
-/

namespace Conform

/-- A value. Symbols and strings are distinct, `nil` and `undefined` too. A range is closed, and a
marker is a primitive used as a value. -/
inductive Value
  | nil
  | bool (b : Bool)
  | number (n : Number)
  | symbol (name : String)
  | string (text : String)
  | date (d : Date)
  | dateTime (t : DateTime)
  | time (t : Timestamp)
  | range (first last : Number)
  | marker (p : Primitive)
  | array (items : List Value)
  | set (items : List Value)
  | hash (entries : List (Value × Value))
  | undefined
  deriving Inhabited

namespace Value

/-- An integer as a value. -/
def integer (z : Int) : Value :=
  .number (.integer z)

/-! ## Shape -/

/-- Whether the value is `nil`. -/
def isNil : Value → Bool
  | .nil => true
  | _ => false

/-- Whether the value is undefined. -/
def isUndefined : Value → Bool
  | .undefined => true
  | _ => false

/-- Whether the value is `nil` or undefined. -/
def isAbsent : Value → Bool
  | .nil => true
  | .undefined => true
  | _ => false

/-- Whether the value is the hash without entries. -/
def isEmptyHash : Value → Bool
  | .hash [] => true
  | _ => false

/-- Whether the value is the empty string. -/
def isEmptyString : Value → Bool
  | .string s => s.isEmpty
  | _ => false

/-- The number of characters of a text, and of elements or entries of a collection. -/
def size? : Value → Option Nat
  | .symbol s => some s.length
  | .string s => some s.length
  | .array items => some items.length
  | .set items => some items.length
  | .hash entries => some entries.length
  | _ => none

/-- The class name, as messages give it. -/
def className : Value → String
  | .nil => Primitive.nil.name
  | .bool true => Primitive.yes.name
  | .bool false => Primitive.no.name
  | .number (.integer _) => Primitive.integer.name
  | .number (.decimal _) => Primitive.decimal.name
  | .number (.float _) => Primitive.float.name
  | .symbol _ => Primitive.symbol.name
  | .string _ => Primitive.string.name
  | .date _ => Primitive.date.name
  | .dateTime _ => Primitive.dateTime.name
  | .time _ => Primitive.time.name
  | .range .. => Primitive.range.name
  | .marker _ => Primitive.marker.name
  | .array _ => Primitive.array.name
  | .set _ => Primitive.set.name
  | .hash _ => Primitive.hash.name
  | .undefined => "Undefined"

/-- The primitive with the class name of the value, or `any` where there is none. -/
def primitive (v : Value) : Primitive :=
  (Primitive.ofName? v.className).getD .any

end Value

/-- Whether the value is an instance of the primitive. -/
def Primitive.admits : Primitive → Value → Bool
  | .any, _ => true
  | .nil, .nil => true
  | .symbol, .symbol _ => true
  | .marker, .marker _ => true
  | .yes, .bool b => b
  | .no, .bool b => !b
  | .integer, .number n => n.isInteger
  | .float, .number n => n.isFloat
  | .decimal, .number n => n.isDecimal
  | .string, .string _ => true
  | .date, .date _ => true
  | .dateTime, .dateTime _ => true
  | .time, .time _ => true
  | .range, .range .. => true
  | .array, .array _ => true
  | .hash, .hash _ => true
  | .set, .set _ => true
  | _, _ => false

end Conform
