import Conform.Coercion
import Conform.Coercion.Conversion

/-!
# Built-in coercion functions

The functions that every registry of functions knows, with their names.

* `Builtin` — a function of one of the three families `kernel`, `params` and `json`.
* `Builtin.name`, `Builtin.run` — how documents name it, and what it does.
* `Coercion.builtins`, `Coercion.builtin?` — all of them as coercion functions.
-/

namespace Conform

/-- A built-in coercion function: a family and what inputs are turned into. -/
inductive Builtin
  | kernelString
  | kernelInteger
  | kernelFloat
  | kernelDecimal
  | kernelArray
  | kernelHash
  | kernelSymbol
  | paramsNil
  | paramsTrue
  | paramsFalse
  | paramsInteger
  | paramsFloat
  | paramsDecimal
  | paramsDate
  | paramsDateTime
  | paramsTime
  | paramsArray
  | paramsHash
  | jsonNil
  | jsonDate
  | jsonDateTime
  | jsonTime
  | jsonDecimal
  deriving DecidableEq, Repr

namespace Builtin

/-- Every built-in function. -/
def all : List Builtin :=
  [.kernelString, .kernelInteger, .kernelFloat, .kernelDecimal, .kernelArray, .kernelHash,
    .kernelSymbol, .paramsNil, .paramsTrue, .paramsFalse, .paramsInteger, .paramsFloat,
    .paramsDecimal, .paramsDate, .paramsDateTime, .paramsTime, .paramsArray, .paramsHash, .jsonNil,
    .jsonDate, .jsonDateTime, .jsonTime, .jsonDecimal]

/-- The name: the family, a point and the target. -/
def name : Builtin → String
  | .kernelString => "kernel.string"
  | .kernelInteger => "kernel.integer"
  | .kernelFloat => "kernel.float"
  | .kernelDecimal => "kernel.decimal"
  | .kernelArray => "kernel.array"
  | .kernelHash => "kernel.hash"
  | .kernelSymbol => "kernel.symbol"
  | .paramsNil => "params.nil"
  | .paramsTrue => "params.true"
  | .paramsFalse => "params.false"
  | .paramsInteger => "params.integer"
  | .paramsFloat => "params.float"
  | .paramsDecimal => "params.decimal"
  | .paramsDate => "params.date"
  | .paramsDateTime => "params.date_time"
  | .paramsTime => "params.time"
  | .paramsArray => "params.array"
  | .paramsHash => "params.hash"
  | .jsonNil => "json.nil"
  | .jsonDate => "json.date"
  | .jsonDateTime => "json.date_time"
  | .jsonTime => "json.time"
  | .jsonDecimal => "json.decimal"

/-- The primitive whose instances the function aims at. -/
def target : Builtin → Primitive
  | .kernelString => .string
  | .kernelInteger => .integer
  | .kernelFloat => .float
  | .kernelDecimal => .decimal
  | .kernelArray => .array
  | .kernelHash => .hash
  | .kernelSymbol => .symbol
  | .paramsNil => .nil
  | .paramsTrue => .yes
  | .paramsFalse => .no
  | .paramsInteger => .integer
  | .paramsFloat => .float
  | .paramsDecimal => .decimal
  | .paramsDate => .date
  | .paramsDateTime => .dateTime
  | .paramsTime => .time
  | .paramsArray => .array
  | .paramsHash => .hash
  | .jsonNil => .nil
  | .jsonDate => .date
  | .jsonDateTime => .dateTime
  | .jsonTime => .time
  | .jsonDecimal => .decimal

open Conversion in
/-- What the function does. Those of the family `kernel` are strict; the others never refuse. -/
def run : Builtin → Value → Except CoercionError Value
  | .kernelString, v => toText v
  | .kernelInteger, v => toInteger v
  | .kernelFloat, v => toFloat v
  | .kernelDecimal, v => toDecimal v
  | .kernelArray, v => toItems v
  | .kernelHash, v => toHash v
  | .kernelSymbol, v => toSymbol v
  | .paramsNil, v => .ok (blankIsNil id v)
  | .paramsTrue, v => .ok (wordOr trueWords true v)
  | .paramsFalse, v => .ok (wordOr falseWords false v)
  | .paramsInteger, v => .ok (blankIsNil integerOr v)
  | .paramsFloat, v => .ok (blankIsNil floatOr v)
  | .paramsDecimal, v => .ok (blankIsNil decimalOr v)
  | .paramsDate, v => .ok (blankIsNil dateOr v)
  | .paramsDateTime, v => .ok (blankIsNil dateTimeOr v)
  | .paramsTime, v => .ok (blankIsNil timeOr v)
  | .paramsArray, v => .ok (itemsOr v)
  | .paramsHash, v => .ok (hashOr v)
  | .jsonNil, v => .ok (absentIsNil v)
  | .jsonDate, v => .ok (dateOr v)
  | .jsonDateTime, v => .ok (dateTimeOr v)
  | .jsonTime, v => .ok (timeOr v)
  | .jsonDecimal, v => .ok (decimalOr v)

/-- The built-in function as a coercion function. -/
def toCoercion (b : Builtin) : Coercion :=
  ⟨"fn_" ++ b.name, some b.name, b.run⟩

theorem mem_all (b : Builtin) : b ∈ all := by
  cases b <;> decide

end Builtin

namespace Coercion

/-- The built-in functions. -/
def builtins : List Coercion :=
  Builtin.all.map Builtin.toCoercion

/-- The built-in function with the given name. -/
def builtin? (name : String) : Option Coercion :=
  (Builtin.all.find? fun b => b.name == name).map Builtin.toCoercion

/-- A built-in function is found under its own name. -/
theorem builtin?_name (b : Builtin) : builtin? b.name = some b.toCoercion := by
  cases b <;> rfl

end Coercion

end Conform
