import Conform.Node.Basic
import Conform.Registry.Functions

/-!
# Nodes of types

A type is taken apart into a node. Functions are registered on the way, so that their references can
be resolved when the node is compiled.

* `Rule.toNode` — the node of a rule.
* `Ty.toNode` — the node of a type, with or without metadata.
-/

namespace Conform

/-- The node of an operand. -/
def Operand.toNode : Operand → ArgNode
  | .value (.marker p) => .type p
  | .value v => .value v
  | .pattern p => .pattern p.source

/-- The node of a rule. -/
def Rule.toNode : Rule → RuleNode
  | .predicate p => .predicate p.name.text (p.operands.map Operand.toNode)
  | .and left right => .and left.toNode right.toNode
  | .or left right => .or left.toNode right.toNode

/-- The node of a default. -/
def Default.toNode : Default → StateM Functions NodeDefault
  | .fixed v => pure (.value v)
  | .drawn g => do
    let reference ← Functions.addGenerator g
    pure (.generator reference)

/-- The node of a decorator. -/
def Decorator.toNode : Decorator → StateM Functions NodeDecorator
  | .constructor fns => do
    let references ← fns.mapM Functions.addCoercion
    pure (.constructor references)
  | .constrained rule => pure (.constrained rule.toNode)
  | .enumeration mapping => pure (.enumeration mapping)
  | .safe => pure .safe
  | .default d => do
    let d ← d.toNode
    pure (.default d)
  | .maybe => pure .maybe

/-- The metadata of a node, if it is wanted. -/
def Metadata.onlyIf (withMetadata : Bool) (m : Metadata) : Metadata :=
  if withMetadata then m else []

namespace Ty

/-- Whether metadata inside a node of a family would not get lost. -/
def isBare (withMetadata : Bool) (m : Metadata) : Bool :=
  !withMetadata || m.isEmpty

mutual

/-- The node of a type. The safe schemas and arrays of a family have nodes of their own, which leave
out what is inside; they are used when there is no metadata inside that would get lost. -/
def toNode (withMetadata : Bool) : Ty → StateM Functions Node
  | .definition p m => pure (.definition p (m.onlyIf withMetadata))
  | .decorated .safe (.schema policy transform members k) m => do
    let members ← membersToNodes withMetadata members
    if isBare withMetadata k then
      pure (.schema (some .json) policy transform members (m.onlyIf withMetadata))
    else
      let inner := Node.schema none policy transform members (k.onlyIf withMetadata)
      pure (.decorated .safe inner (m.onlyIf withMetadata))
  | .decorated .safe (.array item k) m => do
    let item ← item.toNode withMetadata
    if isBare withMetadata k then pure (.array (some .json) item (m.onlyIf withMetadata))
    else
      let inner := Node.array none item (k.onlyIf withMetadata)
      pure (.decorated .safe inner (m.onlyIf withMetadata))
  | .decorated .safe (.decorated (.constructor [f]) (.schema policy transform members k) l) m => do
    let members ← membersToNodes withMetadata members
    if f.name == some "params.hash" && isBare withMetadata l && isBare withMetadata k then
      pure (.schema (some .params) policy transform members (m.onlyIf withMetadata))
    else
      let d ← Decorator.toNode (.constructor [f])
      let core := Node.schema none policy transform members (k.onlyIf withMetadata)
      let inner := Node.decorated d core (l.onlyIf withMetadata)
      pure (.decorated .safe inner (m.onlyIf withMetadata))
  | .decorated .safe (.decorated (.constructor [f]) (.array item k) l) m => do
    let item ← item.toNode withMetadata
    if f.name == some "params.array" && isBare withMetadata l && isBare withMetadata k then
      pure (.array (some .params) item (m.onlyIf withMetadata))
    else
      let d ← Decorator.toNode (.constructor [f])
      let inner :=
        Node.decorated d (.array none item (k.onlyIf withMetadata)) (l.onlyIf withMetadata)
      pure (.decorated .safe inner (m.onlyIf withMetadata))
  | .decorated d inner m => do
    let inner ← inner.toNode withMetadata
    let d ← d.toNode
    pure (.decorated d inner (m.onlyIf withMetadata))
  | .sum left right m => do
    let left ← left.toNode withMetadata
    let right ← right.toNode withMetadata
    pure (.sum left right (m.onlyIf withMetadata))
  | .schema policy transform members m => do
    let members ← membersToNodes withMetadata members
    pure (.schema none policy transform members (m.onlyIf withMetadata))
  | .array item m => do
    let item ← item.toNode withMetadata
    pure (.array none item (m.onlyIf withMetadata))
  | .map key value m => do
    let key ← key.toNode withMetadata
    let value ← value.toNode withMetadata
    pure (.map key value (m.onlyIf withMetadata))

/-- The members of a schema with their nodes. -/
def membersToNodes (withMetadata : Bool) :
    List (Value × Ty) → StateM Functions (List (Value × Node))
  | [] => pure []
  | (name, t) :: rest => do
    let node ← t.toNode withMetadata
    let nodes ← membersToNodes withMetadata rest
    pure ((name, node) :: nodes)

end

-- the equations are derived here, once for all proofs that open these functions
attribute [grind =] toNode membersToNodes

end Ty

end Conform
