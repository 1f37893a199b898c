/-!
# Primitives

The seventeen markers for the shape of a value, with their two names.

* `Primitive` — the markers; `any` stands for every value.
* `Primitive.all` — all of them, in their order.
* `Primitive.name`, `Primitive.identifier` — the class name used in messages and documents, and the
  base name under which the type of a primitive is registered.
* `Primitive.ofName?` — the primitive with a class name.
-/

namespace Conform

/-- A shape of values. -/
inductive Primitive
  | any
  | nil
  | symbol
  | marker
  | yes
  | no
  | integer
  | float
  | decimal
  | string
  | date
  | dateTime
  | time
  | range
  | array
  | hash
  | set
  deriving DecidableEq, Repr, Inhabited

namespace Primitive

/-- Every primitive, in order. -/
def all : List Primitive :=
  [.any, .nil, .symbol, .marker, .yes, .no, .integer, .float, .decimal, .string, .date, .dateTime,
    .time, .range, .array, .hash, .set]

/-- The class name. -/
def name : Primitive → String
  | .any => "Object"
  | .nil => "NilClass"
  | .symbol => "Symbol"
  | .marker => "Class"
  | .yes => "TrueClass"
  | .no => "FalseClass"
  | .integer => "Integer"
  | .float => "Float"
  | .decimal => "BigDecimal"
  | .string => "String"
  | .date => "Date"
  | .dateTime => "DateTime"
  | .time => "Time"
  | .range => "Range"
  | .array => "Array"
  | .hash => "Hash"
  | .set => "Set"

/-- The base name of the registered type. -/
def identifier : Primitive → String
  | .any => "any"
  | .nil => "nil"
  | .symbol => "symbol"
  | .marker => "class"
  | .yes => "true"
  | .no => "false"
  | .integer => "integer"
  | .float => "float"
  | .decimal => "decimal"
  | .string => "string"
  | .date => "date"
  | .dateTime => "date_time"
  | .time => "time"
  | .range => "range"
  | .array => "array"
  | .hash => "hash"
  | .set => "set"

/-- The name of the marker itself, as a faulty literal is reported. -/
def label : Primitive → String
  | .any => "Any"
  | .nil => "Nil"
  | .yes => "True"
  | .no => "False"
  | .decimal => "Decimal"
  | p => p.name

/-- The place among all primitives. -/
def index : Primitive → Nat
  | .any => 0
  | .nil => 1
  | .symbol => 2
  | .marker => 3
  | .yes => 4
  | .no => 5
  | .integer => 6
  | .float => 7
  | .decimal => 8
  | .string => 9
  | .date => 10
  | .dateTime => 11
  | .time => 12
  | .range => 13
  | .array => 14
  | .hash => 15
  | .set => 16

/-- The primitive with the given class name. -/
def ofName? (s : String) : Option Primitive :=
  all.find? fun p => p.name == s

theorem ofName?_name (p : Primitive) : ofName? p.name = some p := by
  cases p <;> rfl

end Primitive

end Conform
