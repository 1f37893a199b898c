import Conform.Ty.Equality

/-!
# Nodes

The portable form of types: trees without functions, which are named by reference instead.

* `RuleNode`, `NodeDefault`, `NodeDecorator` — the parts of a node.
* `Node` — the trees. A schema or array of one of the two `Family` values stands for the coercing
  type of that family.
* `NodeTag`, `Node.tag` — the form of a node.
* `Node.equals` — nodes are equal when their forms and parts are.
-/

namespace Conform

/-- The operand of a predicate. -/
inductive ArgNode
  | type (p : Primitive)
  | pattern (source : String)
  | value (v : Value)

/-- A rule, its predicates by name. -/
inductive RuleNode
  | predicate (name : String) (args : List ArgNode)
  | and (left right : RuleNode)
  | or (left right : RuleNode)

/-- A default: a value, or the reference of a generator. -/
inductive NodeDefault
  | value (v : Value)
  | generator (reference : String)

/-- What surrounds an inner node; functions are given by reference. -/
inductive NodeDecorator
  | constructor (fns : List String)
  | constrained (rule : RuleNode)
  | enumeration (mapping : List (Value × Value))
  | safe
  | default (d : NodeDefault)
  | maybe

/-- The families with coercing types for hashes and arrays of their own. -/
inductive Family
  | params
  | json
  deriving DecidableEq, Repr

/-- A type in portable form. -/
inductive Node
  | definition (p : Primitive) (notes : Metadata)
  | decorated (d : NodeDecorator) (inner : Node) (notes : Metadata)
  | sum (left right : Node) (notes : Metadata)
  | schema (family : Option Family) (policy : Policy) (transform : KeyTransform)
      (members : List (Value × Node)) (notes : Metadata)
  | array (family : Option Family) (item : Node) (notes : Metadata)
  | map (key value : Node) (notes : Metadata)

/-! ## Forms -/

/-- The form of a node. -/
inductive NodeTag
  | definition
  | constructor
  | constrained
  | sum
  | enumeration
  | safe
  | default
  | maybe
  | schema (family : Option Family)
  | array (family : Option Family)
  | map
  deriving DecidableEq, Repr

namespace NodeTag

/-- Every form. -/
def all : List NodeTag :=
  [.definition, .constructor, .constrained, .sum, .enumeration, .safe, .default, .maybe,
    .schema none, .array none, .map, .schema (some .params), .array (some .params),
    .schema (some .json), .array (some .json)]

/-- The tag in documents. -/
def name : NodeTag → String
  | .definition => "definition"
  | .constructor => "constructor"
  | .constrained => "constrained"
  | .sum => "sum"
  | .enumeration => "enum"
  | .safe => "safe"
  | .default => "default"
  | .maybe => "maybe"
  | .schema none => "hash_schema"
  | .schema (some .params) => "params_hash"
  | .schema (some .json) => "json_hash"
  | .array none => "array"
  | .array (some .params) => "params_array"
  | .array (some .json) => "json_array"
  | .map => "map"

/-- The form with the given tag. -/
def ofName? (s : String) : Option NodeTag :=
  all.find? fun t => t.name == s

end NodeTag

/-- The form of a decorated node. -/
def NodeDecorator.tag : NodeDecorator → NodeTag
  | .constructor _ => .constructor
  | .constrained _ => .constrained
  | .enumeration _ => .enumeration
  | .safe => .safe
  | .default _ => .default
  | .maybe => .maybe

namespace Node

/-- The form of a node. -/
def tag : Node → NodeTag
  | .definition .. => .definition
  | .decorated d _ _ => d.tag
  | .sum .. => .sum
  | .schema family .. => .schema family
  | .array family .. => .array family
  | .map .. => .map

/-- The metadata of the node itself. -/
def metadata : Node → Metadata
  | .definition _ m => m
  | .decorated _ _ m => m
  | .sum _ _ m => m
  | .schema _ _ _ _ m => m
  | .array _ _ m => m
  | .map _ _ m => m

end Node

/-! ## Equality -/

/-- Operands are equal when their contents are. -/
def ArgNode.equals : ArgNode → ArgNode → Bool
  | .type p, .type q => p == q
  | .pattern s, .pattern t => s == t
  | .value v, .value w => v == w
  | _, _ => false

instance : BEq ArgNode := ⟨ArgNode.equals⟩

/-- Rules are equal when they have the same form and equal predicates. -/
def RuleNode.equals : RuleNode → RuleNode → Bool
  | .predicate n as, .predicate o bs => n == o && as == bs
  | .and a b, .and c d => a.equals c && b.equals d
  | .or a b, .or c d => a.equals c && b.equals d
  | _, _ => false

/-- Defaults are equal when their values or references are. -/
def NodeDefault.equals : NodeDefault → NodeDefault → Bool
  | .value v, .value w => v == w
  | .generator r, .generator s => r == s
  | _, _ => false

/-- Decorators are equal when they are of one kind with equal contents. -/
def NodeDecorator.equals : NodeDecorator → NodeDecorator → Bool
  | .constructor fs, .constructor gs => fs == gs
  | .constrained r, .constrained s => r.equals s
  | .enumeration ps, .enumeration qs => pairsEqual ps qs
  | .safe, .safe => true
  | .default d, .default e => d.equals e
  | .maybe, .maybe => true
  | _, _ => false

namespace Node

mutual

/-- Whether two nodes are equal, metadata included. -/
def equals : Node → Node → Bool
  | .definition p m, .definition q k => p == q && m.equals k
  | .decorated d s m, .decorated e t k => d.equals e && s.equals t && m.equals k
  | .sum a b m, .sum c d k => a.equals c && b.equals d && m.equals k
  | .schema f p g as m, .schema h q i bs k =>
    f == h && p == q && g == i && membersEqual as bs && m.equals k
  | .array f s m, .array g t k => f == g && s.equals t && m.equals k
  | .map a b m, .map c d k => a.equals c && b.equals d && m.equals k
  | _, _ => false

/-- Whether two lists of members have equal names and nodes in the same order. -/
def membersEqual : List (Value × Node) → List (Value × Node) → Bool
  | [], [] => true
  | (n, s) :: as, (o, t) :: bs => n == o && s.equals t && membersEqual as bs
  | _, _ => false

end

instance : BEq Node := ⟨equals⟩

end Node

end Conform
