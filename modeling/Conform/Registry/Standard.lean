import Conform.Coercion.Builtin
import Conform.Registry.Lookup

/-!
# Standard types

The types that a fresh registry knows: every primitive, its strict form, and the coercing types of
the three families.

* `TypeRegistry.standardTypes` — the names with their types.
* `TypeRegistry.standard` — the registry of them.
* `TypeRegistry.reset` — back to them.
-/

namespace Conform.TypeRegistry

/-- A primitive and its strict form. -/
def ofPrimitive (p : Primitive) : List (String × Ty) :=
  (p.identifier, Ty.ofPrimitive p) ::
    if p = .any then [] else [("strict." ++ p.identifier, Ty.strict p)]

/-- The names of types that run one built-in function. -/
def constructed : List (String × Builtin) :=
  [("coercible.string", .kernelString),
    ("coercible.integer", .kernelInteger),
    ("coercible.float", .kernelFloat),
    ("coercible.decimal", .kernelDecimal),
    ("coercible.array", .kernelArray),
    ("coercible.hash", .kernelHash),
    ("coercible.symbol", .kernelSymbol),
    ("params.nil", .paramsNil),
    ("params.true", .paramsTrue),
    ("params.false", .paramsFalse),
    ("params.integer", .paramsInteger),
    ("params.float", .paramsFloat),
    ("params.decimal", .paramsDecimal),
    ("params.date", .paramsDate),
    ("params.date_time", .paramsDateTime),
    ("params.time", .paramsTime),
    ("json.nil", .jsonNil),
    ("json.date", .jsonDate),
    ("json.date_time", .jsonDateTime),
    ("json.time", .jsonTime),
    ("json.decimal", .jsonDecimal)]

/-- The type that runs a built-in function in front of its target. -/
def build (b : Builtin) : Ty :=
  Ty.constructed b.target b.toCoercion

/-- All names with their types. -/
def standardTypes : List (String × Ty) :=
  Primitive.all.flatMap ofPrimitive ++
    constructed.map (fun c => (c.1, build c.2)) ++
    [("object", Ty.any),
      ("bool", (Ty.ofPrimitive .yes).orElse (Ty.ofPrimitive .no)),
      ("strict.bool", (Ty.strict .yes).orElse (Ty.strict .no)),
      ("params.bool", (build .paramsTrue).orElse (build .paramsFalse)),
      ("params.array", (build .paramsArray).safe),
      ("params.hash", (build .paramsHash).safe),
      ("json.array", (Ty.ofPrimitive .array).safe),
      ("json.hash", (Ty.ofPrimitive .hash).safe)]

/-- The registry of the standard types. -/
def standard : TypeRegistry :=
  Registry.ofList "TYPES" standardTypes

/-- The registry with the standard types put back and all other names dropped. -/
def reset (r : TypeRegistry) : TypeRegistry :=
  standard.entries.foldl (fun r e => r.put e.1 e.2) (r.retain standard.contains)

end Conform.TypeRegistry
