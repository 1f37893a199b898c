import Conform.Calendar.Reader
import Conform.CoercionError
import Conform.Value.Table

/-!
# Conversions

The two styles of conversion that coercion functions offer.

* Strict conversions (`toText`, `toInteger`, `toFloat`, `toDecimal`, `toItems`, `toHash`,
  `toSymbol`) refuse what they cannot convert.
* Lenient conversions (`integerOr`, `floatOr`, `decimalOr`, `dateOr`, `dateTimeOr`, `timeOr` and the
  others) give such input back unchanged. With `blankIsNil` an empty string becomes `nil` instead.
-/

namespace Conform.Conversion

/-- The result, or else the fault of the input. -/
def orFault (input : Value) (fault : ConversionFault) : Option Value → Except CoercionError Value
  | some v => .ok v
  | none => .error (.coercion input fault)

/-- The refusal of an input of the wrong kind. -/
def refuse (input : Value) (target : Primitive) : Except CoercionError Value :=
  .error (.coercion input (.impossible target))

/-! ## Strict conversions -/

/-- A string: of a name its text, of `nil` nothing, of other values what messages show. -/
def toText (input : Value) : Except CoercionError Value :=
  match input with
  | .string s => .ok (.string s)
  | .symbol s => .ok (.string s)
  | .nil => .ok (.string "")
  | .undefined => refuse input .string
  | v => .ok (.string v.display)

/-- An integer: of a number its integer part, of a text the integer that it spells. -/
def toInteger (input : Value) : Except CoercionError Value :=
  match input with
  | .number n => orFault input .notFinite (n.truncate.map .number)
  | .string s => orFault input (.unreadable .integer) ((Number.readInteger? s.toList).map .number)
  | _ => refuse input .integer

/-- A float: of a number the nearest one, of a text the one that it spells. -/
def toFloat (input : Value) : Except CoercionError Value :=
  match input with
  | .number n => .ok (.number n.toFloat)
  | .string s => orFault input (.unreadable .float) ((Number.readFloat? s.toList).map .number)
  | _ => refuse input .float

/-- A decimal with the value of a number, or the one that a text spells. -/
def toDecimal (input : Value) : Except CoercionError Value :=
  match input with
  | .number n => orFault input (.unreadable .decimal) (n.toDecimal?.map .number)
  | .string s => orFault input (.unreadable .decimal) ((Number.readDecimal? s.toList).map .number)
  | _ => refuse input .decimal

/-- An array: of the elements of a set, of the entries of a hash as pairs, of nothing for `nil`, and
of the one item for other values. -/
def toItems (input : Value) : Except CoercionError Value :=
  match input with
  | .array items => .ok (.array items)
  | .set items => .ok (.array items)
  | .nil => .ok (.array [])
  | .hash entries => .ok (.array (entries.map fun e => .array [e.1, e.2]))
  | .undefined => refuse input .array
  | v => .ok (.array [v])

/-- The entry that a pair stands for. -/
def entry? : Value → Option (Value × Value)
  | .array [k, v] => some (k, v)
  | _ => none

/-- A hash: of the pairs of an array, later ones replacing the value of an equal key, and the empty
one for `nil`. -/
def toHash (input : Value) : Except CoercionError Value :=
  match input with
  | .hash entries => .ok (.hash entries)
  | .nil => .ok (.hash [])
  | .array items =>
    match items.mapM entry? with
    | some entries =>
      .ok (.hash (entries.foldl (fun table e => Table.insert e.1 e.2 table) []))
    | none => refuse input .hash
  | _ => refuse input .hash

/-- A symbol with the text of a string. -/
def toSymbol (input : Value) : Except CoercionError Value :=
  match input with
  | .symbol s => .ok (.symbol s)
  | .string s => .ok (.symbol s)
  | _ => .error (.coercion input .notAName)

/-! ## Lenient conversions -/

/-- The conversion with `nil` for the empty string. -/
def blankIsNil (convert : Value → Value) (input : Value) : Value :=
  if input.isEmptyString then .nil else convert input

/-- The value that a text spells, or the input. -/
def readOr (read? : List Char → Option Value) (input : Value) : Value :=
  match input with
  | .string s => (read? s.toList).getD input
  | _ => input

/-- The number that a number converts to or a text spells, or the input. -/
def numberOr (convert? : Number → Option Number) (read? : List Char → Option Number)
    (input : Value) : Value :=
  match input with
  | .number n => ((convert? n).map .number).getD input
  | .string s => ((read? s.toList).map .number).getD input
  | _ => input

/-- The integer part of a number or the integer of a text. -/
def integerOr : Value → Value :=
  numberOr Number.truncate Number.readInteger?

/-- The nearest float to a number or the float of a text. -/
def floatOr : Value → Value :=
  numberOr (fun n => some n.toFloat) Number.readFloat?

/-- The decimal of a number or a text. -/
def decimalOr : Value → Value :=
  numberOr Number.toDecimal? Number.readDecimal?

/-- The date of a text. -/
def dateOr : Value → Value :=
  readOr fun cs => (Date.ofText? (Text.trim cs)).map .date

/-- The moment of a text, with its offset. -/
def dateTimeOr : Value → Value :=
  readOr fun cs => (DateTime.ofText? (Text.trim cs)).map .dateTime

/-- The moment of a text, in UTC. -/
def timeOr : Value → Value :=
  readOr fun cs => (DateTime.ofText? (Text.trim cs)).map fun t => .time t.utc

/-- The words for `true`. -/
def trueWords : List String :=
  ["1", "on", "On", "ON", "t", "true", "True", "TRUE", "T", "y", "yes", "Yes", "YES", "Y"]

/-- The words for `false`. -/
def falseWords : List String :=
  ["0", "off", "Off", "OFF", "f", "false", "False", "FALSE", "F", "n", "no", "No", "NO", "N"]

/-- The truth value for one of its words. -/
def wordOr (words : List String) (b : Bool) (input : Value) : Value :=
  match input with
  | .string s => if words.contains s then .bool b else input
  | _ => input

/-- The empty array for the empty string. -/
def itemsOr (input : Value) : Value :=
  if input.isEmptyString then .array [] else input

/-- The empty hash for the empty string and `nil`. -/
def hashOr (input : Value) : Value :=
  if input.isEmptyString || input.isNil then .hash [] else input

/-- `nil` for every absent value. -/
def absentIsNil (input : Value) : Value :=
  if input.isAbsent then .nil else input

end Conform.Conversion
