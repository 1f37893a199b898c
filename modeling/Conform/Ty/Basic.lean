import Conform.Coercion
import Conform.Generator
import Conform.Named
import Conform.Schema

/-!
# Types

Descriptions of what values are accepted and how they are coerced.

* `Ty` — a primitive, a decorated type, a sum, a hash schema, an array or a map. Every type carries
  metadata that has no influence on values.
* `Decorator` — what surrounds an inner type: functions before it, a rule after it, and so on.
* `Ty.name`, `Ty.primitive?`, `Ty.isOptional`, `Ty.rule?` and others — what can be read off a type.
* `Ty.withMetadata`, `Ty.pristine`, `Ty.withoutMetadata` — the same type with other metadata.
-/

namespace Conform

/-- Named annotations of a type. -/
abbrev Metadata := List (String × Value)

/-- What stands in for an absent value: a fixed value, or what a generator produces. -/
inductive Default
  | fixed (v : Value)
  | drawn (g : Generator)

/-- The value of a default. -/
def Default.evaluate : Default → StateM Supply Value
  | .fixed v => pure v
  | .drawn g => g.draw

/-- Defaults are equal when their values are, or when their generator is the same. -/
def Default.equals : Default → Default → Bool
  | .fixed v, .fixed w => v == w
  | .drawn f, .drawn g => f == g
  | _, _ => false

instance : BEq Default := ⟨Default.equals⟩

/-- What surrounds an inner type:
* `constructor` — functions run on the input before it;
* `constrained` — a rule checks the coerced value;
* `enumeration` — an input equal to the second part of a pair is replaced by the first part;
* `safe` — an input that fails is given back;
* `default` — a value stands in for an absent one;
* `maybe` — an absent input becomes `nil`. -/
inductive Decorator
  | constructor (fns : List Coercion)
  | constrained (rule : Rule)
  | enumeration (mapping : List (Value × Value))
  | safe
  | default (d : Default)
  | maybe

/-- A type. -/
inductive Ty
  | definition (p : Primitive) (notes : Metadata)
  | decorated (d : Decorator) (inner : Ty) (notes : Metadata)
  | sum (left right : Ty) (notes : Metadata)
  | schema (policy : Policy) (transform : KeyTransform) (members : List (Value × Ty))
      (notes : Metadata)
  | array (item : Ty) (notes : Metadata)
  | map (key value : Ty) (notes : Metadata)

namespace Ty

/-! ## Readings -/

/-- The metadata of the type itself. -/
def metadata : Ty → Metadata
  | .definition _ m => m
  | .decorated _ _ m => m
  | .sum _ _ m => m
  | .schema _ _ _ m => m
  | .array _ m => m
  | .map _ _ m => m

/-- The name that messages give. -/
def name : Ty → String
  | .definition .any _ => "Any"
  | .definition p _ => p.name
  | .decorated .maybe inner _ => "Maybe<" ++ inner.name ++ ">"
  | .decorated _ inner _ => inner.name
  | .sum left right _ => left.name ++ " | " ++ right.name
  | .schema .. => Primitive.hash.name
  | .array .. => Primitive.array.name
  | .map .. => "Map"

/-- The one primitive that the type is about; a sum has none. -/
def primitive? : Ty → Option Primitive
  | .definition p _ => some p
  | .decorated _ inner _ => inner.primitive?
  | .sum .. => none
  | .schema .. => some .hash
  | .array .. => some .array
  | .map .. => some .hash

/-- Whether the type is a sum whose leftmost alternative is about `nil`. -/
def isOptional : Ty → Bool
  | .sum left _ _ =>
    match left with
    | .sum .. => left.isOptional
    | _ => left.primitive? == some .nil
  | _ => false

/-- Whether a rule is part of the type, items, members and entries aside. -/
def isConstrained : Ty → Bool
  | .decorated (.constrained _) _ _ => true
  | .decorated _ inner _ => inner.isConstrained
  | .sum left right _ => left.isConstrained || right.isConstrained
  | _ => false

/-- The default of the type itself. -/
def default? : Ty → Option Default
  | .decorated (.default d) _ _ => some d
  | _ => none

/-- Whether the type turns absent inputs into `nil` itself. -/
def isMaybe : Ty → Bool
  | .decorated .maybe _ _ => true
  | _ => false

/-- The rule that the type checks; the rules of a sum are alternatives. -/
def rule? : Ty → Option Rule
  | .decorated (.constrained rule) _ _ => some rule
  | .decorated _ inner _ => inner.rule?
  | .sum left right _ => do
    let l ← left.rule?
    let r ← right.rule?
    pure (.or l r)
  | _ => none

/-- The type of the items of an array. -/
def item? : Ty → Option Ty
  | .array item _ => some item
  | _ => none

/-- The type inside a decorator. -/
def inner? : Ty → Option Ty
  | .decorated _ inner _ => some inner
  | _ => none

/-- The values of an enumeration, as they were listed. -/
def values : Ty → List Value
  | .decorated (.enumeration mapping) _ _ => mapping.map (·.1)
  | _ => []

/-! ## Metadata -/

/-- The type with other metadata of its own. -/
def setMetadata (m : Metadata) : Ty → Ty
  | .definition p _ => .definition p m
  | .decorated d inner _ => .decorated d inner m
  | .sum left right _ => .sum left right m
  | .schema policy transform members _ => .schema policy transform members m
  | .array item _ => .array item m
  | .map key value _ => .map key value m

/-- The type with more metadata. An entry replaces an earlier one of the same name. -/
def withMetadata (t : Ty) (entries : Metadata) : Ty :=
  t.setMetadata (entries.foldl (fun m e => Named.place e.1 e.2 m) t.metadata)

/-- The type without metadata of its own; its parts keep theirs. -/
def pristine (t : Ty) : Ty :=
  t.setMetadata []

mutual

/-- The type without metadata anywhere. -/
def withoutMetadata : Ty → Ty
  | .definition p _ => .definition p []
  | .decorated d inner _ => .decorated d inner.withoutMetadata []
  | .sum left right _ => .sum left.withoutMetadata right.withoutMetadata []
  | .schema policy transform members _ =>
    .schema policy transform (membersWithoutMetadata members) []
  | .array item _ => .array item.withoutMetadata []
  | .map key value _ => .map key.withoutMetadata value.withoutMetadata []

/-- Members whose types have no metadata anywhere. -/
def membersWithoutMetadata : List (Value × Ty) → List (Value × Ty)
  | [] => []
  | (name, t) :: rest => (name, t.withoutMetadata) :: membersWithoutMetadata rest

end

end Ty

end Conform
