import Conform.Rule.Predicate

/-!
# Rules

Predicates joined by conjunction and disjunction, and the explanation of a rejection.

* `Rule`, `Rule.ofOptions` — rules, and the conjunction that a list of options describes.
* `Rule.evaluate` — the check of a value; a conjunction stops at its first side that fails.
* `RuleFailure` — what rejected the value: one predicate, or both sides of a disjunction.
-/

namespace Conform

/-- A condition on values. -/
inductive Rule
  | predicate (p : Predicate)
  | and (left right : Rule)
  | or (left right : Rule)

/-- Why a value is rejected. -/
inductive RuleFailure
  | predicate (p : Predicate) (input : Value)
  | or (left right : RuleFailure)

/-- The text of a rejection. -/
def RuleFailure.text : RuleFailure → String
  | .predicate p input => p.display input
  | .or left right => left.text ++ " OR " ++ right.text

namespace Rule

/-- The rule that asks for instances of a primitive. -/
def typeOf (p : Primitive) : Rule :=
  .predicate (.type p)

/-- Checks a value. -/
def evaluate : Rule → Value → Except RuleFailure Unit
  | .predicate p, v => if p.test v then .ok () else .error (.predicate p v)
  | .and left right, v => (left.evaluate v).bind fun _ => right.evaluate v
  | .or left right, v =>
    match left.evaluate v, right.evaluate v with
    | .error l, .error r => .error (.or l r)
    | _, _ => .ok ()

/-- Rules are equal when they have the same form and equal predicates. -/
def equals : Rule → Rule → Bool
  | .predicate p, .predicate q => p == q
  | .and a b, .and c d => a.equals c && b.equals d
  | .or a b, .or c d => a.equals c && b.equals d
  | _, _ => false

instance : BEq Rule := ⟨equals⟩

/-- The conjunction of predicates, joined from left to right. -/
def conjunction (p : Predicate) (rest : List Predicate) : Rule :=
  rest.foldl (fun r q => .and r (.predicate q)) (.predicate p)

/-- The rule of some options, each the name of a predicate and its operand. The first faulty option
is reported. -/
def ofOptions (options : List (String × Value)) : Except RuleFault Rule := do
  match ← options.mapM fun o => Predicate.ofOption o.1 o.2 with
  | [] => throw .noOptions
  | p :: rest => pure (conjunction p rest)

end Rule

end Conform
