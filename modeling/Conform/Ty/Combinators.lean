import Conform.Ty.Evaluation

/-!
# Building types

Every type is built from primitives by these functions. A function that asks for a type of a certain
form refuses others with a `Misuse`.

* `Ty.strict`, `Ty.orElse`, `Ty.optional`, `Ty.maybe`, `Ty.safe`, `Ty.constructor`,
  `Ty.constrainedBy`, `Ty.withDefault`, `Ty.enumerate` — decorated types and sums.
* `Ty.arrayOf`, `Ty.schemaWith`, `Ty.withKeyTransform`, `Ty.mapOf`, `Ty.withKey`, `Ty.withValue` —
  another core inside the same decorators.
* `Ty.instanceOf`, `Ty.only`, `Ty.constant` and their kin — common shapes in one step.
* `Ty.accept` — a value as the result of a type.
-/

namespace Conform

namespace Ty

/-- The refusal of a misuse. -/
def refuse {α : Type} (m : Misuse) : Except CoercionError α :=
  .error (.misuse m)

/-! ## Decorators and sums -/

/-- A primitive without metadata. -/
def ofPrimitive (p : Primitive) : Ty :=
  .definition p []

/-- The type of every value. -/
def any : Ty :=
  ofPrimitive .any

/-- The type without metadata that a decorator makes of an inner type. -/
def decorate (d : Decorator) (inner : Ty) : Ty :=
  .decorated d inner []

/-- Runs one more function on the input, after those that the type runs already. -/
def constructor (f : Coercion) : Ty → Ty
  | .decorated (.constructor fns) inner m => .decorated (.constructor (fns ++ [f])) inner m
  | t => decorate (.constructor [f]) t

/-- Adds a rule to the one that the type has, inside its other decorators and on the right of an
optional sum. -/
def constrainedBy (rule : Rule) : Ty → Ty
  | .decorated (.constrained r) inner m => .decorated (.constrained (.and r rule)) inner m
  | .decorated d inner m => .decorated d (inner.constrainedBy rule) m
  | .sum left right m =>
    if (Ty.sum left right m).isOptional then .sum left (right.constrainedBy rule) m
    else decorate (.constrained rule) (.sum left right m)
  | t => decorate (.constrained rule) t

/-- Adds the rule that some options describe. -/
def constrained (t : Ty) (options : List (String × Value)) : Except CoercionError Ty :=
  match Rule.ofOptions options with
  | .ok rule => .ok (t.constrainedBy rule)
  | .error fault => refuse (.rule fault)

/-- A primitive whose instances are checked also where a type is applied. -/
def strict (p : Primitive) : Ty :=
  (ofPrimitive p).constrainedBy (Rule.typeOf p)

/-- The sum of two types, tried in that order. -/
def orElse (left right : Ty) : Ty :=
  .sum left right []

/-- The type, or `nil`. -/
def optional (t : Ty) : Ty :=
  (strict .nil).orElse t

/-- The type with `nil` for absent inputs. -/
def maybe : Ty → Ty
  | .decorated .maybe inner m => .decorated .maybe inner m
  | t => decorate .maybe t

/-- The type that gives an input back which it refuses. -/
def safe : Ty → Ty
  | .decorated .safe inner m => .decorated .safe inner m
  | t => decorate .safe t

/-- The type with a fixed default. Only a type about `nil` has the default `nil`; any other default
must be accepted by the type. -/
def withDefault (t : Ty) (v : Value) : Eval CoercionError Ty :=
  if v.isNil then
    if t.isOptional || t.primitive? == some .nil then pure (decorate (.default (.fixed v)) t)
    else throw (.misuse (.nilDefault t.name))
  else do
    let _ ← (t.tryApply v).recover fun f => throw (.invalidDefault v t.name f.error)
    pure (decorate (.default (.fixed v)) t)

/-- The type with a default that a generator produces whenever it is needed. -/
def withGenerator (t : Ty) (g : Generator) : Ty :=
  decorate (.default (.drawn g)) t

/-- The type restricted to the first parts of some pairs; the second parts are their aliases. -/
def enumerateMapping (t : Ty) (mapping : List (Value × Value)) : Except CoercionError Ty :=
  if mapping.isEmpty then refuse .noEnumValues
  else
    let rule := Rule.predicate (.includedIn (.array (mapping.map (·.1))))
    .ok (decorate (.enumeration mapping) (t.constrainedBy rule))

/-- The type restricted to some values. -/
def enumerate (t : Ty) (values : List Value) : Except CoercionError Ty :=
  t.enumerateMapping (values.map fun v => (v, v))

end Ty

/-! ## The core of a type -/

/-- Whether the core of a type lies inside the decorator rather than being the decorated type. -/
def Decorator.surroundsCore : Decorator → Bool
  | .constructor _ => true
  | .constrained _ => true
  | .safe => true
  | .default _ => true
  | .enumeration _ => false
  | .maybe => false

namespace Ty

/-- Replaces the core of a type and keeps what surrounds it. -/
def replaceCore (f : Ty → Except CoercionError Ty) : Ty → Except CoercionError Ty
  | .decorated d inner m =>
    if d.surroundsCore then (inner.replaceCore f).map fun core => .decorated d core m
    else f (.decorated d inner m)
  | t => f t

/-- Arrays of one type. -/
def arrayOf (t item : Ty) : Except CoercionError Ty :=
  t.replaceCore fun core =>
    match core with
    | .definition .array m => .ok (.array item m)
    | .array _ m => .ok (.array item m)
    | core => refuse (.notAnArray core.name)

/-- Hashes with the given members, under the key transform of the policy. -/
def schemaWith (t : Ty) (policy : Policy) (members : List (Value × Ty)) :
    Except CoercionError Ty :=
  t.replaceCore fun core =>
    match core with
    | .definition .hash m => .ok (.schema policy policy.keyTransform members m)
    | .schema _ _ _ m => .ok (.schema policy policy.keyTransform members m)
    | core => refuse (.notAHash core.name)

/-- The schema with another key transform. -/
def withKeyTransform (t : Ty) (transform : KeyTransform) : Except CoercionError Ty :=
  t.replaceCore fun core =>
    match core with
    | .schema policy _ members m => .ok (.schema policy transform members m)
    | core => refuse (.notASchema core.name)

/-- Hashes with keys of one type and values of another. -/
def mapOf (t key value : Ty) : Except CoercionError Ty :=
  t.replaceCore fun core =>
    match core with
    | .definition .hash m => .ok (.map key value m)
    | .map _ _ m => .ok (.map key value m)
    | core => refuse (.notAHash core.name)

/-- The map with another type of keys. -/
def withKey (t key : Ty) : Except CoercionError Ty :=
  t.replaceCore fun core =>
    match core with
    | .map _ value m => .ok (.map key value m)
    | core => refuse (.notAMap core.name)

/-- The map with another type of values. -/
def withValue (t value : Ty) : Except CoercionError Ty :=
  t.replaceCore fun core =>
    match core with
    | .map key _ m => .ok (.map key value m)
    | core => refuse (.notAMap core.name)

/-! ## Common shapes -/

/-- The instances of a primitive. -/
def instanceOf (p : Primitive) : Ty :=
  strict p

/-- The values equal to the given one. -/
def only (v : Value) : Ty :=
  (ofPrimitive v.primitive).constrainedBy (.predicate (.eql v))

/-- The values identical to the given one. -/
def constant (v : Value) : Ty :=
  (ofPrimitive v.primitive).constrainedBy (.predicate (.is v))

/-- Arrays whose items have the given type. -/
def arrays (item : Ty) : Ty :=
  .array item []

/-- Hashes with the given members, under the plain policy. -/
def hashes (members : List (Value × Ty)) : Ty :=
  .schema .schema Policy.schema.keyTransform members []

/-- Maps from one type to another. -/
def maps (key value : Ty) : Ty :=
  .map key value []

/-- A primitive built from its input by a function. -/
def constructed (p : Primitive) (f : Coercion) : Ty :=
  (ofPrimitive p).constructor f

/-! ## Results -/

/-- A value as the result of a type, if the type accepts it. -/
def accept (t : Ty) (v : Value) : Eval CoercionError Value := do
  if ← t.isValid v then pure v else throw (.misuse (.invalidSuccess v t.name))

end Ty

end Conform
