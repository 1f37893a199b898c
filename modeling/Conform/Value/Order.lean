import Conform.Value

/-!
# The order on values

Values of different kinds are ordered by kind; within a kind by content, collections element by
element and a proper beginning before the whole.

* `Value.rank` — the place of the kind.
* `Value.compare` — the order; for sets and hashes it runs over the ascending elements and entries.
* `==` — two values are equal when neither comes before the other.
* `Value.equals` — equality piece by piece, without the order.
-/

namespace Conform.Value

/-- The place of the kind of a value among the kinds. -/
def rank : Value → Nat
  | .nil => 0
  | .bool _ => 1
  | .number _ => 2
  | .symbol _ => 3
  | .string _ => 4
  | .date _ => 5
  | .dateTime _ => 6
  | .time _ => 7
  | .range .. => 8
  | .marker _ => 9
  | .array _ => 10
  | .set _ => 11
  | .hash _ => 12
  | .undefined => 13

mutual

/-- The order on values. -/
def compare : Value → Value → Ordering
  | .bool a, .bool b => Ord.compare a.toNat b.toNat
  | .number a, .number b => a.compare b
  | .symbol a, .symbol b => Ord.compare a b
  | .string a, .string b => Ord.compare a b
  | .date a, .date b => a.compare b
  | .dateTime a, .dateTime b => a.compare b
  | .time a, .time b => a.compare b
  | .range a c, .range b d => (a.compare b).then (c.compare d)
  | .marker a, .marker b => Ord.compare a.index b.index
  | .array a, .array b => compareItems a b
  | .set a, .set b => compareItems a b
  | .hash a, .hash b => compareEntries a b
  | a, b => Ord.compare a.rank b.rank

/-- The order on lists of values: the first difference decides. -/
def compareItems : List Value → List Value → Ordering
  | [], [] => .eq
  | [], _ :: _ => .lt
  | _ :: _, [] => .gt
  | a :: as, b :: bs => (compare a b).then (compareItems as bs)

/-- The order on lists of entries: keys before values, the first difference decides. -/
def compareEntries : List (Value × Value) → List (Value × Value) → Ordering
  | [], [] => .eq
  | [], _ :: _ => .lt
  | _ :: _, [] => .gt
  | (k, v) :: as, (l, w) :: bs => (compare k l).then ((compare v w).then (compareEntries as bs))

end

instance : Ord Value := ⟨compare⟩

instance : BEq Value := ⟨fun a b => a.compare b == .eq⟩

/-- Whether the first value comes before the second. -/
def isLess (a b : Value) : Bool :=
  a.compare b == .lt

/-! ## Equality piece by piece -/

mutual

/-- Whether two values are of one kind and equal in all their pieces. Numbers are equal by value and
kind, and moments when a UTC clock shows the same. -/
def equals : Value → Value → Bool
  | .nil, .nil => true
  | .bool a, .bool b => a == b
  | .number a, .number b => a == b
  | .symbol a, .symbol b => a == b
  | .string a, .string b => a == b
  | .date a, .date b => a == b
  | .dateTime a, .dateTime b => a.utc == b.utc
  | .time a, .time b => a == b
  | .range a c, .range b d => a == b && c == d
  | .marker a, .marker b => a == b
  | .array a, .array b => equalItems a b
  | .set a, .set b => equalItems a b
  | .hash a, .hash b => equalEntries a b
  | .undefined, .undefined => true
  | _, _ => false

/-- Whether two lists hold equal values, one by one. -/
def equalItems : List Value → List Value → Bool
  | [], [] => true
  | a :: as, b :: bs => equals a b && equalItems as bs
  | _, _ => false

/-- Whether two lists hold equal entries, one by one. -/
def equalEntries : List (Value × Value) → List (Value × Value) → Bool
  | [], [] => true
  | (k, v) :: as, (l, w) :: bs => equals k l && equals v w && equalEntries as bs
  | _, _ => false

end

end Conform.Value
