import Conform.Node.Basic
import Conform.Json.Writer
import Conform.Value.Literal

/-!
# Nodes as documents

Every node is written as an object with a tag and a payload, and every value in it as a literal.

* `RuleNode.toJson`, `Node.toJson` — the documents.
* `Node.text` — the text of the document of a node.
-/

namespace Conform

/-- The document of a value in a node. -/
def Value.toNodeJson (v : Value) : Json :=
  v.toLiteral.toJson

/-- A tag with a payload. -/
def taggedJson (tag : String) (payload : List (String × Json)) : Json :=
  .object [("tag", .string tag), ("payload", .object payload)]

/-- The document of an operand. -/
def ArgNode.toJson : ArgNode → Json
  | .type p => .object [("type", .string p.name)]
  | .pattern source => .object [("pattern", .string source)]
  | .value v => .object [("value", v.toNodeJson)]

/-- The document of a rule. -/
def RuleNode.toJson : RuleNode → Json
  | .predicate name args =>
    taggedJson "predicate" [("name", .string name), ("args", .array (args.map ArgNode.toJson))]
  | .and left right => taggedJson "and" [("left", left.toJson), ("right", right.toJson)]
  | .or left right => taggedJson "or" [("left", left.toJson), ("right", right.toJson)]

/-- The document of a default. -/
def NodeDefault.toJson : NodeDefault → Json
  | .value v => .object [("value", v.toNodeJson)]
  | .generator reference => .object [("generator", .string reference)]

/-- The fields of a payload that a decorator gives. -/
def NodeDecorator.fields : NodeDecorator → List (String × Json)
  | .constructor fns => [("fns", .array (fns.map Json.string))]
  | .constrained rule => [("rule", rule.toJson)]
  | .enumeration mapping =>
    [("mapping", .array (mapping.map fun p => .array [p.1.toNodeJson, p.2.toNodeJson]))]
  | .safe => []
  | .default d => [("default", d.toJson)]
  | .maybe => []

/-- The field of metadata; empty metadata is left out. -/
def Metadata.fields (m : Metadata) : List (String × Json) :=
  if m.isEmpty then [] else [("meta", .object (m.map fun e => (e.1, e.2.toNodeJson)))]

/-- The document of the options of a schema. -/
def optionsJson (policy : Policy) (transform : KeyTransform) : Json :=
  .object [("policy", .string policy.name), ("key_transform", .string transform.name)]

namespace Node

mutual

/-- The document of a node. -/
def toJson : Node → Json
  | .definition p m =>
    taggedJson NodeTag.definition.name (("primitive", .string p.name) :: m.fields)
  | .decorated d inner m =>
    taggedJson d.tag.name (("inner", inner.toJson) :: (d.fields ++ m.fields))
  | .sum left right m =>
    taggedJson NodeTag.sum.name (("left", left.toJson) :: ("right", right.toJson) :: m.fields)
  | .schema family policy transform members m =>
    taggedJson (NodeTag.schema family).name
      (("members", .array (membersToJson members)) ::
        ("options", optionsJson policy transform) :: m.fields)
  | .array family item m =>
    taggedJson (NodeTag.array family).name (("member", item.toJson) :: m.fields)
  | .map key value m =>
    taggedJson NodeTag.map.name (("key", key.toJson) :: ("value", value.toJson) :: m.fields)

/-- The documents of members, each with a tag of its own. -/
def membersToJson : List (Value × Node) → List Json
  | [] => []
  | (name, node) :: rest =>
    .object [("tag", .string "member"), ("name", name.toNodeJson), ("type", node.toJson)] ::
      membersToJson rest

end

/-- The text of the document of a node. -/
def text (n : Node) : String :=
  n.toJson.pretty

end Node

end Conform
