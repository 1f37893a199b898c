import Conform.Proofs.Names
import Conform.Registry.Standard

/-!
# Registered types

A registered name stands for the type under it, whatever its parts would mean.

* `TypeRegistry.get?_standard` — a standard type is found in the list of them.
* `TypeRegistry.HoldsStandard` — registries in which the standard types are as they were.
* `TypeRegistry.lookup_registered`, `TypeRegistry.resolve_registered` — both ways to find a type
  stop at a registered name.
-/

namespace Conform.TypeRegistry

/-- A standard type is found by going through the list of them from its end. -/
theorem get?_standard (name : String) :
    standard.get? name = Named.find? name standardTypes.reverse :=
  Named.find?_ofList name standardTypes

/-- A search for a stored identifier gives what is stored and stores nothing. -/
theorem lookup_registered {r : TypeRegistry} {identifier : String} {t : Ty}
    (h : r.get? identifier = some t) : lookup identifier r = (.ok t, r) := by
  rw [lookup]
  split
  · next u hu =>
    cases h.symm.trans hu
    rfl
  · next hn => cases h.symm.trans hn

/-- A registry gives what is stored for an identifier. -/
theorem resolve_registered {r : TypeRegistry} {identifier : String} {t : Ty}
    (h : r.get? identifier = some t) : r.resolve identifier = .ok t := by
  rw [resolve]
  split
  · next u hu =>
    cases h.symm.trans hu
    rfl
  · next hn => cases h.symm.trans hn

/-- Every standard type is registered as it is. -/
def HoldsStandard (r : TypeRegistry) : Prop :=
  ∀ name t, standard.get? name = some t → r.get? name = some t

/-- The standard registry holds the standard types. -/
theorem holdsStandard_standard : HoldsStandard standard := fun _ _ => id

/-- A standard type is what its name stands for. -/
theorem HoldsStandard.resolve {r : TypeRegistry} (hr : r.HoldsStandard) {name : String} {t : Ty}
    (h : Named.find? name standardTypes.reverse = some t) : r.resolve name = .ok t :=
  resolve_registered (hr name t (by rw [get?_standard, h]))

/-- Every primitive is registered under its identifier. -/
theorem find?_primitive (p : Primitive) :
    Named.find? p.identifier standardTypes.reverse = some (Ty.ofPrimitive p) := by
  cases p <;> rfl

end Conform.TypeRegistry
