import Conform.Value.Table

/-!
# Schema policies

How a hash schema treats keys that it does not know and keys that it misses.

* `Policy` — the six policies and what each asks for:

  | policy               | missing key                | unknown keys | failing member |
  |----------------------|----------------------------|--------------|----------------|
  | `schema`             | default, else left out     | dropped      | refused        |
  | `weak`               | default, else left out     | dropped      | kept as it is  |
  | `permissive`         | default, else left out     | dropped      | refused        |
  | `strict`             | refused                    | refused      | refused        |
  | `strictWithDefaults` | default, else refused      | refused      | refused        |
  | `symbolized`         | default, else left out     | dropped      | kept as it is  |

* `KeyTransform` — what is done to the keys of an input before members are looked up.
* `KeyTransform.fields`, `unknownKeys` — the input as members see it, and its keys that no member
  has.
-/

namespace Conform

/-- What is done to every key of an input. -/
inductive KeyTransform
  | identity
  | symbolize
  | stringify
  deriving DecidableEq, Repr

namespace KeyTransform

/-- Every transform. -/
def all : List KeyTransform :=
  [.identity, .symbolize, .stringify]

/-- The name in documents. -/
def name : KeyTransform → String
  | .identity => "identity"
  | .symbolize => "symbolize"
  | .stringify => "stringify"

/-- The transform with the given name. -/
def ofName? (s : String) : Option KeyTransform :=
  all.find? fun t => t.name == s

/-- Strings become symbols, or symbols strings; other keys stay. -/
def apply : KeyTransform → Value → Value
  | .symbolize, .string s => .symbol s
  | .stringify, .symbol s => .string s
  | _, key => key

/-- The entries under their new keys. Of entries that get the same key the last one counts. -/
def fields (t : KeyTransform) (entries : List (Value × Value)) : List (Value × Value) :=
  Table.ofEntries (entries.map fun e => (t.apply e.1, e.2))

end KeyTransform

/-- How a schema treats missing keys, unknown keys and members that fail. -/
inductive Policy
  | schema
  | weak
  | permissive
  | strict
  | strictWithDefaults
  | symbolized
  deriving DecidableEq, Repr

namespace Policy

/-- Every policy. -/
def all : List Policy :=
  [.schema, .weak, .permissive, .strict, .strictWithDefaults, .symbolized]

/-- The name in documents. -/
def name : Policy → String
  | .schema => "schema"
  | .weak => "weak"
  | .permissive => "permissive"
  | .strict => "strict"
  | .strictWithDefaults => "strict_with_defaults"
  | .symbolized => "symbolized"

/-- The policy with the given name. -/
def ofName? (s : String) : Option Policy :=
  all.find? fun p => p.name == s

/-- Whether all keys must be known and all members present. -/
def isClosed : Policy → Bool
  | .strict => true
  | .strictWithDefaults => true
  | _ => false

/-- Whether defaults stand in for missing keys. -/
def appliesDefaults : Policy → Bool
  | .strict => false
  | _ => true

/-- Whether a member that fails keeps its raw value. -/
def isLenient : Policy → Bool
  | .weak => true
  | .symbolized => true
  | _ => false

/-- The transform that the policy starts with. -/
def keyTransform : Policy → KeyTransform
  | .symbolized => .symbolize
  | _ => .identity

end Policy

/-- The keys of some fields that are not among the names. -/
def unknownKeys (names : List Value) (fields : List (Value × Value)) : List Value :=
  (fields.map (·.1)).filter fun key => !names.any (· == key)

end Conform
