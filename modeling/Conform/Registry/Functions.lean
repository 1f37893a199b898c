import Conform.Coercion.Builtin
import Conform.Generator
import Conform.Registry

/-!
# Registries of functions

Documents refer to functions by name or address, and a registry tells which function is meant.

* `Functions` — the coercion functions and the generators that documents may refer to.
* `Functions.standard` — the built-in ones.
* `Functions.addCoercion`, `Functions.addGenerator` — one function more, and the reference it got:
  its own, or its address if another function holds that name.
-/

namespace Conform

/-- Stores a function under its reference, or under its address if the reference belongs to another
function. -/
def Registry.claim {α : Type} [BEq α] (r : Registry α) (reference address : String) (f : α) :
    String × Registry α :=
  match r.get? reference with
  | none => (reference, r.put reference f)
  | some g => if g == f then (reference, r) else (address, r.put address f)

/-- The functions that documents may refer to. -/
structure Functions where
  coercions : Registry Coercion
  generators : Registry Generator

namespace Functions

/-- The built-in functions under their names. -/
def standard : Functions where
  coercions := Registry.ofList "COERCIONS" (Coercion.builtins.map fun f => (f.reference, f))
  generators := Registry.ofList "GENERATORS" (Generator.builtins.map fun g => (g.reference, g))

/-- Adds a coercion function. -/
def addCoercion (f : Coercion) : StateM Functions String := fun fs =>
  let (reference, coercions) := fs.coercions.claim f.reference f.address f
  (reference, { fs with coercions })

/-- Adds a generator. -/
def addGenerator (g : Generator) : StateM Functions String := fun fs =>
  let (reference, generators) := fs.generators.claim g.reference g.address g
  (reference, { fs with generators })

end Functions

end Conform
