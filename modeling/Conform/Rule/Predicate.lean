import Conform.Pattern
import Conform.Value.Display
import Conform.Value.Table

/-!
# Predicates

The tests that rules are made of. A predicate is a name with at most one operand, and every name
takes operands of certain shapes only.

* `PredicateName` — the names; `PredicateName.ofText?` also takes one without its question mark.
* `Predicate` — a test with its operand, so that no ill-shaped predicate exists.
* `Predicate.ofOperands`, `Predicate.ofOption` — a predicate from loose operands, or from the value
  of an option; `RuleFault` says why there is none.
* `Predicate.test` — whether a value passes.
-/

namespace Conform

/-- The name of a predicate. -/
inductive PredicateName
  | type
  | eql
  | is
  | size
  | minSize
  | maxSize
  | gt
  | gteq
  | lt
  | lteq
  | includedIn
  | excludedFrom
  | includes
  | excludes
  | format
  | filled
  | empty
  | nil
  | true
  | false
  | odd
  | even
  deriving DecidableEq, Repr

namespace PredicateName

/-- Every name. -/
def all : List PredicateName :=
  [.type, .eql, .is, .size, .minSize, .maxSize, .gt, .gteq, .lt, .lteq, .includedIn, .excludedFrom,
    .includes, .excludes, .format, .filled, .empty, .nil, .true, .false, .odd, .even]

/-- The word of a name, without its question mark. -/
def word : PredicateName → String
  | .type => "type"
  | .eql => "eql"
  | .is => "is"
  | .size => "size"
  | .minSize => "min_size"
  | .maxSize => "max_size"
  | .gt => "gt"
  | .gteq => "gteq"
  | .lt => "lt"
  | .lteq => "lteq"
  | .includedIn => "included_in"
  | .excludedFrom => "excluded_from"
  | .includes => "includes"
  | .excludes => "excludes"
  | .format => "format"
  | .filled => "filled"
  | .empty => "empty"
  | .nil => "nil"
  | .true => "true"
  | .false => "false"
  | .odd => "odd"
  | .even => "even"

/-- The name as it is written. -/
def text (n : PredicateName) : String :=
  n.word ++ "?"

/-- The text without the question mark at its end, if it has one. -/
def bareWord (s : String) : String :=
  match s.toList.reverse with
  | '?' :: rest => String.ofList rest.reverse
  | _ => s

/-- The name that a text gives, with or without its question mark. -/
def ofText? (s : String) : Option PredicateName :=
  all.find? fun n => n.word == bareWord s

/-- How many operands a predicate of this name takes. -/
def arity : PredicateName → Nat
  | .filled => 0
  | .empty => 0
  | .nil => 0
  | .true => 0
  | .false => 0
  | .odd => 0
  | .even => 0
  | _ => 1

end PredicateName

/-! ## Operands -/

/-- What a predicate is given besides the value that it tests. -/
inductive Operand
  | value (v : Value)
  | pattern (p : Pattern)

namespace Operand

/-- The text of an operand. -/
def display : Operand → String
  | .value v => v.display
  | .pattern p => p.display

/-- Operands are equal when their values are, or their patterns. -/
def equals : Operand → Operand → Bool
  | .value v, .value w => v == w
  | .pattern p, .pattern q => p == q
  | _, _ => false

instance : BEq Operand := ⟨equals⟩

end Operand

/-- Why there is no predicate or rule. -/
inductive RuleFault
  | unknownPredicate (name : String)
  | unexpectedOperand (name : PredicateName) (operand : Value)
  | operandCount (name : PredicateName) (count : Nat)
  | invalidOperand (name : PredicateName)
  | invalidPattern (source : String)
  | noOptions

/-- The text of a fault. -/
def RuleFault.message : RuleFault → String
  | .unknownPredicate name => "unknown predicate " ++ Text.quote name
  | .unexpectedOperand name v => name.text ++ " takes no operand, got " ++ v.display
  | .operandCount name count =>
    name.text ++ " expects " ++ String.ofList (Text.digits name.arity) ++ " operand(s), got " ++
      String.ofList (Text.digits count)
  | .invalidOperand name => "invalid operand for " ++ name.text
  | .invalidPattern source => "invalid format pattern " ++ Text.quote source
  | .noOptions => "constraint options must not be empty"

/-! ## Predicates -/

/-- A size that is asked for: one number, or a range of them. -/
inductive SizeBound
  | exactly (n : Number)
  | between (first last : Number)

/-- A collection that a value is looked for in. -/
inductive Collection
  | array (items : List Value)
  | set (items : List Value)
  | range (first last : Number)

/-- A test with its operand. -/
inductive Predicate
  | type (p : Primitive)
  | eql (v : Value)
  | is (v : Value)
  | size (bound : SizeBound)
  | minSize (n : Number)
  | maxSize (n : Number)
  | gt (n : Number)
  | gteq (n : Number)
  | lt (n : Number)
  | lteq (n : Number)
  | includedIn (c : Collection)
  | excludedFrom (c : Collection)
  | includes (v : Value)
  | excludes (v : Value)
  | format (p : Pattern)
  | filled
  | empty
  | nil
  | true
  | false
  | odd
  | even

/-- The size as a value. -/
def SizeBound.toValue : SizeBound → Value
  | .exactly n => .number n
  | .between a b => .range a b

/-- The collection as a value. -/
def Collection.toValue : Collection → Value
  | .array items => .array items
  | .set items => .set items
  | .range a b => .range a b

namespace Predicate

/-- The name of a predicate. -/
def name : Predicate → PredicateName
  | .type _ => .type
  | .eql _ => .eql
  | .is _ => .is
  | .size _ => .size
  | .minSize _ => .minSize
  | .maxSize _ => .maxSize
  | .gt _ => .gt
  | .gteq _ => .gteq
  | .lt _ => .lt
  | .lteq _ => .lteq
  | .includedIn _ => .includedIn
  | .excludedFrom _ => .excludedFrom
  | .includes _ => .includes
  | .excludes _ => .excludes
  | .format _ => .format
  | .filled => .filled
  | .empty => .empty
  | .nil => .nil
  | .true => .true
  | .false => .false
  | .odd => .odd
  | .even => .even

/-- The operands of a predicate: one, or none. -/
def operands : Predicate → List Operand
  | .type p => [.value (.marker p)]
  | .eql v => [.value v]
  | .is v => [.value v]
  | .size bound => [.value bound.toValue]
  | .minSize n => [.value (.number n)]
  | .maxSize n => [.value (.number n)]
  | .gt n => [.value (.number n)]
  | .gteq n => [.value (.number n)]
  | .lt n => [.value (.number n)]
  | .lteq n => [.value (.number n)]
  | .includedIn c => [.value c.toValue]
  | .excludedFrom c => [.value c.toValue]
  | .includes v => [.value v]
  | .excludes v => [.value v]
  | .format p => [.pattern p]
  | _ => []

/-- Predicates are equal when their names and operands are. -/
def equals (p q : Predicate) : Bool :=
  p.name == q.name && p.operands == q.operands

instance : BEq Predicate := ⟨equals⟩

/-! ## Building -/

/-- The collection that a value is. -/
def collection? : Value → Option Collection
  | .array items => some (.array items)
  | .set items => some (.set items)
  | .range a b => some (.range a b)
  | _ => none

/-- The predicate of a name and a value, if the value has a shape that the name takes. -/
def ofValue? : PredicateName → Value → Option Predicate
  | .type, .marker p => some (.type p)
  | .eql, v => some (.eql v)
  | .is, v => some (.is v)
  | .size, .number n => some (.size (.exactly n))
  | .size, .range a b => some (.size (.between a b))
  | .minSize, .number n => some (.minSize n)
  | .maxSize, .number n => some (.maxSize n)
  | .gt, .number n => some (.gt n)
  | .gteq, .number n => some (.gteq n)
  | .lt, .number n => some (.lt n)
  | .lteq, .number n => some (.lteq n)
  | .includedIn, v => (collection? v).map .includedIn
  | .excludedFrom, v => (collection? v).map .excludedFrom
  | .includes, v => some (.includes v)
  | .excludes, v => some (.excludes v)
  | _, _ => none

/-- The predicate of a name that takes no operand. -/
def ofName? : PredicateName → Option Predicate
  | .filled => some .filled
  | .empty => some .empty
  | .nil => some .nil
  | .true => some .true
  | .false => some .false
  | .odd => some .odd
  | .even => some .even
  | _ => none

/-- The predicate of a name and operands of fitting shape. -/
def assemble? : PredicateName → List Operand → Option Predicate
  | name, [] => ofName? name
  | .format, [.pattern p] => some (.format p)
  | name, [.value v] => ofValue? name v
  | _, _ => none

/-- The predicate of a name and operands. Their number is looked at before their shape. -/
def ofOperands (name : PredicateName) (operands : List Operand) : Except RuleFault Predicate :=
  if operands.length ≠ name.arity then .error (.operandCount name operands.length)
  else match assemble? name operands with
    | some p => .ok p
    | none => .error (.invalidOperand name)

/-- A predicate is built again from its name and operands. -/
theorem ofOperands_operands (p : Predicate) : ofOperands p.name p.operands = .ok p := by
  cases p with
  | size b => cases b <;> rfl
  | includedIn c => cases c <;> rfl
  | excludedFrom c => cases c <;> rfl
  | _ => rfl

/-- The operands that the value of an option stands for. A name without operands takes `true`, and a
format the source of its pattern. -/
def operandsOfOption (name : PredicateName) (option : Value) : Except RuleFault (List Operand) :=
  if name.arity = 0 then
    match option with
    | .bool .true => .ok []
    | v => .error (.unexpectedOperand name v)
  else
    match name, option with
    | .format, .string source =>
      match Pattern.ofSource? source with
      | some p => .ok [.pattern p]
      | none => .error (.invalidPattern source)
    | _, v => .ok [.value v]

/-- The predicate of an option. -/
def ofOption (word : String) (option : Value) : Except RuleFault Predicate :=
  match PredicateName.ofText? word with
  | none => .error (.unknownPredicate word)
  | some name => (operandsOfOption name option).bind (ofOperands name)

/-! ## Testing -/

/-- The size that constraints go by; symbols have none. -/
def measure? : Value → Option Nat
  | .symbol _ => none
  | v => v.size?

/-- Whether the size of a value exists and compares to a number in one of the given ways. -/
def hasSize (v : Value) (n : Number) (accepts : Ordering → Bool) : Bool :=
  (measure? v).any fun size => accepts ((Number.integer size).compareValue n)

/-- Whether a value is a number and compares to the given one in one of the given ways. -/
def comparesTo (v : Value) (n : Number) (accepts : Ordering → Bool) : Bool :=
  match v with
  | .number m => accepts (m.compareValue n)
  | _ => Bool.false

/-- Whether one text is part of another. -/
def isPartOf (part : List Char) : List Char → Bool
  | [] => part.isEmpty
  | c :: cs => part.isPrefixOf (c :: cs) || isPartOf part cs

/-- Whether a number lies in a range, by the order that also tells kinds of numbers apart. -/
def inRange (first last n : Number) : Bool :=
  (first.compare n).isLE && (n.compare last).isLE

/-- Whether a value holds another: as item, element, key, number of a range or part of a text. -/
def contains : Value → Value → Bool
  | .array items, v => items.any (· == v)
  | .set items, v => (Table.find? v items).isSome
  | .hash entries, v => (Table.get? v entries).isSome
  | .range a b, .number n => inRange a b n
  | .string whole, .string part => isPartOf part.toList whole.toList
  | _, _ => Bool.false

/-- Whether a value is absent or has nothing in it. -/
def isBare (v : Value) : Bool :=
  v.isAbsent || v.size? == some 0

/-- Whether a value passes. -/
def test : Predicate → Value → Bool
  | .type p, v => p.admits v
  | .eql expected, v => expected == v
  | .is expected, v => expected == v
  | .size (.exactly n), v => hasSize v n (· == .eq)
  | .size (.between a b), v => hasSize v a (· != .lt) && hasSize v b (· != .gt)
  | .minSize n, v => hasSize v n (· != .lt)
  | .maxSize n, v => hasSize v n (· != .gt)
  | .gt n, v => comparesTo v n (· == .gt)
  | .gteq n, v => comparesTo v n (· != .lt)
  | .lt n, v => comparesTo v n (· == .lt)
  | .lteq n, v => comparesTo v n (· != .gt)
  | .includedIn c, v => contains c.toValue v
  | .excludedFrom c, v => !contains c.toValue v
  | .includes element, v => contains v element
  | .excludes element, v => !contains v element
  | .format p, .string s => p.isMatch s
  | .format _, _ => Bool.false
  | .filled, v => !isBare v
  | .empty, v => isBare v
  | .nil, v => v.isNil
  | .true, .bool b => b
  | .true, _ => Bool.false
  | .false, .bool b => !b
  | .false, _ => Bool.false
  | .odd, .number n => n.isOdd
  | .odd, _ => Bool.false
  | .even, .number n => n.isEven
  | .even, _ => Bool.false

/-- The call of a predicate on a value: the operands, then the value. -/
def display (p : Predicate) (v : Value) : String :=
  p.name.text ++ "(" ++ Value.commaJoin (p.operands.map Operand.display ++ [v.display]) ++ ")"

end Predicate

end Conform
