import Conform.CoercionError

/-!
# Coercion functions

Functions that turn the input of a type into what the type works on, or refuse it. A function is
told apart from others by its address, not by what it computes.

* `Coercion` — a function with its address and perhaps a name.
* `Coercion.reference` — how documents refer to it.
* `Coercion.andThen` — one function after another; an undefined value ends the chain.
-/

namespace Conform

/-- A function from values to values that may refuse its input. -/
structure Coercion where
  address : String
  name : Option String
  run : Value → Except CoercionError Value

namespace Coercion

/-- The name of the function, or its address where it has none. -/
def reference (f : Coercion) : String :=
  f.name.getD f.address

/-- Functions are the same when their addresses are. -/
instance : BEq Coercion := ⟨fun f g => f.address == g.address⟩

/-- Runs functions in order, until one refuses its input or gives `undefined`. -/
def runAll : List Coercion → Value → Except CoercionError Value
  | [], v => .ok v
  | f :: rest, v => do
    let w ← f.run v
    if w.isUndefined then pure w else runAll rest w

/-- The function, without a name, that runs `f` and then `g` unless `f` gives `undefined`. -/
def andThen (f g : Coercion) (address : String) : Coercion where
  address := address
  name := none
  run v := do
    let w ← f.run v
    if w.isUndefined then pure w else g.run w

end Coercion

end Conform
