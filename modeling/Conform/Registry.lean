import Conform.CoercionError
import Conform.Identifier
import Conform.Named

/-!
# Registries

Named stores of types and functions.

* `RegistryError` — why nothing is stored or found.
* `Registry` — a store with a name of its own; its entries are in the order of their names.
* `Registry.register`, `Registry.getOrInsert`, `Registry.retain` — the ways to change it.
-/

namespace Conform

/-- Why the parts of an identifier cannot be combined. -/
inductive CombinationFault
  | refused (error : CoercionError)
  | noPrimitive (name : String)

/-- The text of a fault. -/
def CombinationFault.message : CombinationFault → String
  | .refused error => error.message
  | .noPrimitive name => name ++ " has no single primitive"

/-- Why nothing is stored or found. -/
inductive RegistryError
  | invalidName (name registry : String)
  | unknownType (name : String)
  | invalidIdentifier (identifier : String) (fault : IdentifierFault)
  | combination (identifier : String) (fault : CombinationFault)

/-- The text of an error. -/
def RegistryError.message : RegistryError → String
  | .invalidName name registry =>
    registry ++ " registration failed: The name '" ++ name ++
      "' is invalid (empty or whitespace-only names are not allowed)."
  | .unknownType name => "Nothing registered with the key '" ++ name ++ "'"
  | .invalidIdentifier identifier fault =>
    "Invalid type identifier '" ++ identifier ++ "': " ++ fault.message
  | .combination identifier fault => "Cannot build '" ++ identifier ++ "': " ++ fault.message

/-- Refuses a name without visible characters. -/
def validateName (name registry : String) : Except RegistryError Unit :=
  if (Text.trim name.toList).isEmpty then .error (.invalidName name registry) else .ok ()

/-- A store of things by name. -/
structure Registry (α : Type) where
  name : String
  entries : List (String × α)

namespace Registry

variable {α : Type}

/-- A store with nothing in it. -/
def empty (name : String) : Registry α :=
  ⟨name, []⟩

/-- The thing with the given name. -/
def get? (r : Registry α) (name : String) : Option α :=
  Named.find? name r.entries

/-- Whether a thing has the given name. -/
def contains (r : Registry α) (name : String) : Bool :=
  (r.get? name).isSome

/-- The names in ascending order. -/
def names (r : Registry α) : List String :=
  r.entries.map (·.1)

/-- The number of things. -/
def size (r : Registry α) : Nat :=
  r.entries.length

/-- The store with a thing under a name, whatever was there. -/
def put (r : Registry α) (name : String) (a : α) : Registry α :=
  { r with entries := Named.place name a r.entries }

/-- The store with a thing under a name that must be valid. -/
def register (r : Registry α) (name : String) (a : α) : Except RegistryError (Registry α) :=
  (validateName name r.name).map fun _ => r.put name a

/-- What is under a name, after the given thing has been put there if nothing was. -/
def getOrInsert (r : Registry α) (name : String) (a : α) : α × Registry α :=
  match r.get? name with
  | some b => (b, r)
  | none => (a, r.put name a)

/-- The store with those names only that satisfy a condition. -/
def retain (r : Registry α) (keep : String → Bool) : Registry α :=
  { r with entries := r.entries.filter fun e => keep e.1 }

/-- The store of some things, later ones replacing earlier ones of the same name. -/
def ofList (name : String) (entries : List (String × α)) : Registry α :=
  ⟨name, Named.ofList entries⟩

@[simp] theorem get?_put (r : Registry α) (name other : String) (a : α) :
    (r.put name a).get? other = if name = other then some a else r.get? other :=
  Named.find?_place name other a r.entries

end Registry

end Conform
