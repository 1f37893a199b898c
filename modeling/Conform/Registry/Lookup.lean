import Conform.Registry
import Conform.Ty.Combinators

/-!
# Looking up types

A type is found under its registered name, or else put together from the parts of its identifier.

* `TypeRegistry.resolve` — the type of an identifier, read off the registry.
* `TypeRegistry.lookup` — the same, and every type put together on the way is stored under its
  identifier.
-/

namespace Conform

/-- A registry of types. -/
abbrev TypeRegistry := Registry Ty

namespace TypeRegistry

/-- A registry without types. -/
def empty : TypeRegistry :=
  Registry.empty "TYPES"

/-- The type that a qualifier makes of a base. Only three of the qualifiers build types; names with
the others exist when they are registered. -/
def qualify (identifier : String) (q : Qualifier) (base : Ty) : Except RegistryError Ty :=
  match q with
  | .strict =>
    match base.primitive? with
    | some p => .ok (base.constrainedBy (Rule.typeOf p))
    | none => .error (.combination identifier (.noPrimitive base.name))
  | .optional => .ok base.optional
  | .maybe => .ok base.maybe
  | _ => .error (.unknownType identifier)

/-- The type of `outer<member>`. -/
def generic (identifier : String) (outer member : Ty) : Except RegistryError Ty :=
  (outer.arrayOf member).mapError fun e => .combination identifier (.refused e)

/-- The type of an identifier. -/
def resolve (r : TypeRegistry) (identifier : String) : Except RegistryError Ty :=
  match r.get? identifier with
  | some t => .ok t
  | none =>
    match h : Identifier.parse identifier with
    | .error fault => .error (.invalidIdentifier identifier fault)
    | .ok (.base name) => .error (.unknownType name)
    | .ok (.generic outer member) => do
      have := Identifier.length_lt_of_generic h
      let outer ← r.resolve outer
      let member ← r.resolve member
      generic identifier outer member
    | .ok (.qualified q rest) => do
      have := Identifier.length_lt_of_qualified h
      let base ← r.resolve rest
      qualify identifier q base
termination_by identifier.length

/-- Stores a type that was put together under its identifier. -/
def remember (identifier : String) (built : Except RegistryError Ty) (r : TypeRegistry) :
    Except RegistryError Ty × TypeRegistry :=
  match built with
  | .ok t => let (t, r) := r.getOrInsert identifier t; (.ok t, r)
  | .error e => (.error e, r)

/-- The type of an identifier, and the registry with what was put together for it. -/
def lookup (identifier : String) (r : TypeRegistry) : Except RegistryError Ty × TypeRegistry :=
  match r.get? identifier with
  | some t => (.ok t, r)
  | none =>
    match h : Identifier.parse identifier with
    | .error fault => (.error (.invalidIdentifier identifier fault), r)
    | .ok (.base name) => (.error (.unknownType name), r)
    | .ok (.generic outer member) =>
      have := Identifier.length_lt_of_generic h
      match lookup outer r with
      | (.error e, r) => (.error e, r)
      | (.ok outer, r) =>
        match lookup member r with
        | (.error e, r) => (.error e, r)
        | (.ok member, r) => remember identifier (generic identifier outer member) r
    | .ok (.qualified q rest) =>
      have := Identifier.length_lt_of_qualified h
      match lookup rest r with
      | (.error e, r) => (.error e, r)
      | (.ok base, r) => remember identifier (qualify identifier q base) r
termination_by identifier.length

end TypeRegistry

end Conform
