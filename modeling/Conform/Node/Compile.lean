import Conform.Node.Basic
import Conform.Registry.Functions
import Conform.Registry.Lookup

/-!
# Compiling nodes

A type is put together from a node. Primitives and the coercing types of families come from a
registry of types, functions from a registry of functions.

* `CompileError` — why a node has no type.
* `Environment` — both registries.
* `Node.compile` — the type of a node.
-/

namespace Conform

/-- Why a node has no type. -/
inductive CompileError
  | unknownFunction (reference : String)
  | registry (error : RegistryError)
  | coercion (error : CoercionError)

/-- The text of an error. -/
def CompileError.message : CompileError → String
  | .unknownFunction reference => "unknown function reference " ++ reference
  | .registry error => error.message
  | .coercion error => error.message

/-- The registries that nodes are compiled against. -/
structure Environment where
  types : TypeRegistry
  functions : Functions

namespace CompileError

/-- A rule fault as error. -/
def ofRuleFault (fault : RuleFault) : CompileError :=
  .coercion (.misuse (.rule fault))

end CompileError

/-- The operand of a node. -/
def ArgNode.compile : ArgNode → Except RuleFault Operand
  | .type p => .ok (.value (.marker p))
  | .pattern source =>
    match Pattern.ofSource? source with
    | some p => .ok (.pattern p)
    | none => .error (.invalidPattern source)
  | .value v => .ok (.value v)

/-- The rule of a node. -/
def RuleNode.compile : RuleNode → Except RuleFault Rule
  | .predicate word args =>
    match PredicateName.ofText? word with
    | none => .error (.unknownPredicate word)
    | some name => do
      let operands ← args.mapM ArgNode.compile
      let p ← Predicate.ofOperands name operands
      pure (.predicate p)
  | .and left right => do
    let l ← left.compile
    let r ← right.compile
    pure (.and l r)
  | .or left right => do
    let l ← left.compile
    let r ← right.compile
    pure (.or l r)

namespace Environment

/-- The function with a reference. -/
def coercion (env : Environment) (reference : String) : Except CompileError Coercion :=
  match env.functions.coercions.get? reference with
  | some f => .ok f
  | none => .error (.unknownFunction reference)

/-- The generator with a reference. -/
def generator (env : Environment) (reference : String) : Except CompileError Generator :=
  match env.functions.generators.get? reference with
  | some g => .ok g
  | none => .error (.unknownFunction reference)

/-- The registered type of an identifier. -/
def type (env : Environment) (identifier : String) : Except CompileError Ty :=
  (env.types.resolve identifier).mapError .registry

/-- The registered type of a primitive, if it is a definition of that primitive, and a plain
definition otherwise. -/
def definition (env : Environment) (p : Primitive) : Ty :=
  match env.types.resolve p.identifier with
  | .ok (.definition q m) => if q = p then .definition q m else .definition p []
  | _ => .definition p []

/-- The default of a node. -/
def fallback (env : Environment) : NodeDefault → Except CompileError Default
  | .value v => .ok (.fixed v)
  | .generator reference => (env.generator reference).map .drawn

end Environment

/-- The name under which the hashes of a family are registered. -/
def Family.hashIdentifier : Family → String
  | .params => "params.hash"
  | .json => "json.hash"

/-- The name under which the arrays of a family are registered. -/
def Family.arrayIdentifier : Family → String
  | .params => "params.array"
  | .json => "json.array"

/-- Tells an error in building a type. -/
def Ty.orCoercion {α : Type} (e : Except CoercionError α) : Except CompileError α :=
  e.mapError .coercion

namespace Node

mutual

/-- The type of a node. -/
def compile (env : Environment) : Node → Except CompileError Ty
  | .definition p m => .ok ((env.definition p).withMetadata m)
  | .decorated (.constructor fns) inner m => do
    let inner ← inner.compile env
    let fns ← fns.mapM env.coercion
    pure (.decorated (.constructor fns) inner m)
  | .decorated (.constrained rule) inner m => do
    let inner ← inner.compile env
    let rule ← rule.compile.mapError CompileError.ofRuleFault
    pure (.decorated (.constrained rule) inner m)
  | .decorated (.enumeration mapping) inner m => do
    let inner ← inner.compile env
    pure (.decorated (.enumeration mapping) inner m)
  | .decorated .safe inner m => do
    let inner ← inner.compile env
    pure (.decorated .safe inner m)
  | .decorated (.default d) inner m => do
    let d ← env.fallback d
    let inner ← inner.compile env
    pure (.decorated (.default d) inner m)
  | .decorated .maybe inner m => do
    let inner ← inner.compile env
    pure (.decorated .maybe inner m)
  | .sum left right m => do
    let left ← left.compile env
    let right ← right.compile env
    pure (.sum left right m)
  | .schema none policy transform members m => do
    let members ← compileMembers env members
    pure (.schema policy transform members m)
  | .schema (some family) policy transform members m => do
    let members ← compileMembers env members
    let t ← env.type family.hashIdentifier
    let t ← Ty.orCoercion (t.schemaWith policy members)
    let t ← Ty.orCoercion (t.withKeyTransform transform)
    pure (t.withMetadata m)
  | .array none item m => do
    let item ← item.compile env
    pure (.array item m)
  | .array (some family) item m => do
    let t ← env.type family.arrayIdentifier
    let item ← item.compile env
    let t ← Ty.orCoercion (t.arrayOf item)
    pure (t.withMetadata m)
  | .map key value m => do
    let key ← key.compile env
    let value ← value.compile env
    pure (.map key value m)

/-- The members of a schema with their types. -/
def compileMembers (env : Environment) :
    List (Value × Node) → Except CompileError (List (Value × Ty))
  | [] => .ok []
  | (name, node) :: rest => do
    let t ← node.compile env
    let ts ← compileMembers env rest
    pure ((name, t) :: ts)

end

-- the equations are derived here, once for all proofs that open these functions
attribute [grind =] compile compileMembers

end Node

end Conform
