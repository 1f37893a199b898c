import Conform.Json.Reader
import Conform.Node.Basic
import Conform.Value.Literal

/-!
# Reading nodes

A node is read from a document field by field, in the order of the field names, and put together
from the parts that were found. Fields that a form does not have are ignored.

* `NodeFault` — why a document is no node.
* `Json.normal` — a document with sorted fields, of repeated names the last.
* `RuleNode.ofJson`, `Node.ofJson` — the rule or node of a sorted document.
* `Node.ofText` — the node of a text. If there is none because of a tag that no node has, that tag
  is reported.

A tag and its payload may also stand in an array of two. The payload of an object is read more
leniently than the rest: there a name without content may come with an empty object.
-/

namespace Conform

/-- Why a document is no node. -/
inductive NodeFault
  | unsupported (tag : String)
  | literal (fault : Literal.Fault)
  | malformed

/-- The text of a fault; of a document of the wrong shape nothing more is said. -/
def NodeFault.message? : NodeFault → Option String
  | .unsupported tag => some ("unsupported node: " ++ tag)
  | .literal fault => some fault.message
  | .malformed => none

namespace Json

mutual

/-- The document with the fields of all objects in the order of their names; of a repeated name the
last field stays. -/
def normal : Json → Json
  | .array items => .array (normalItems items)
  | .object fields => .object (sortedFields (normalFields fields))
  | j => j

/-- The items in normal form. -/
def normalItems : List Json → List Json
  | [] => []
  | j :: js => j.normal :: normalItems js

/-- The fields with normal contents. -/
def normalFields : List (String × Json) → List (String × Json)
  | [] => []
  | (name, j) :: rest => (name, j.normal) :: normalFields rest

end

end Json

namespace NodeFault

/-- The result, or a document of the wrong shape. -/
def orMalformed {α : Type} : Option α → Except NodeFault α
  | some a => .ok a
  | none => .error .malformed

/-- The value of a literal. -/
def valueOf (l : Literal) : Except NodeFault Value :=
  l.toValue.mapError .literal

/-- The values of pairs of literals. -/
def pairsOf : List (Literal × Literal) → Except NodeFault (List (Value × Value))
  | [] => .ok []
  | (k, v) :: rest => do
    let k ← valueOf k
    let v ← valueOf v
    let pairs ← pairsOf rest
    pure ((k, v) :: pairs)

end NodeFault

open NodeFault

/-! ## Contents without nodes -/

/-- The value of a document. -/
def readValue (lenient : Bool) (j : Json) : Except NodeFault Value := do
  valueOf (← orMalformed (Literal.ofJson? lenient j))

/-- The strings of an array. -/
def readStrings : Json → Except NodeFault (List String)
  | .array items => orMalformed (items.mapM Literal.stringOfJson?)
  | _ => .error .malformed

/-- The pairs of an array of pairs. -/
def readPairs (lenient : Bool) : Json → Except NodeFault (List (Value × Value))
  | .array items => do pairsOf (← orMalformed (Literal.entriesOfJson? lenient items))
  | _ => .error .malformed

/-- The literals of an object. -/
def literalFields? (lenient : Bool) : List (String × Json) → Option (List (String × Literal))
  | [] => some []
  | (name, j) :: rest => do
    let l ← Literal.ofJson? lenient j
    let ls ← literalFields? lenient rest
    pure ((name, l) :: ls)

/-- The values of named literals. -/
def metadataOf : List (String × Literal) → Except NodeFault Metadata
  | [] => .ok []
  | (name, l) :: rest => do
    let v ← valueOf l
    let m ← metadataOf rest
    pure ((name, v) :: m)

/-- The metadata of an object. -/
def readMetadata (lenient : Bool) : Json → Except NodeFault Metadata
  | .object fields => do metadataOf (← orMalformed (literalFields? lenient fields))
  | _ => .error .malformed

/-- The policy that a document names. -/
def policyOfJson? (lenient : Bool) (j : Json) : Option Policy :=
  (Literal.bareTag? lenient j).bind Policy.ofName?

/-- The key transform that a document names. -/
def keyTransformOfJson? (lenient : Bool) (j : Json) : Option KeyTransform :=
  (Literal.bareTag? lenient j).bind KeyTransform.ofName?

/-- The options of a schema: an object, or an array of policy and key transform. -/
def readOptions (lenient : Bool) (j : Json) : Except NodeFault (Policy × KeyTransform) :=
  let options? := match j with
    | .array [policy, transform] => some (policy, transform)
    | .object fields => do
      let policy ← Named.find? "policy" fields
      let transform ← Named.find? "key_transform" fields
      pure (policy, transform)
    | _ => none
  orMalformed do
    let (policy, transform) ← options?
    let policy ← policyOfJson? lenient policy
    let transform ← keyTransformOfJson? lenient transform
    pure (policy, transform)

/-- The default of an object with one field. -/
def readDefault (lenient : Bool) : Json → Except NodeFault NodeDefault
  | .object [("value", j)] => (readValue lenient j).map .value
  | .object [("generator", .string reference)] => .ok (.generator reference)
  | _ => .error .malformed

/-- The operand of an object with one field. -/
def readArg (lenient : Bool) : Json → Except NodeFault ArgNode
  | .object [("type", j)] => orMalformed ((Literal.primitiveOfJson? lenient j).map .type)
  | .object [("pattern", .string source)] => .ok (.pattern source)
  | .object [("value", j)] => (readValue lenient j).map .value
  | _ => .error .malformed

/-- The operands of an array. -/
def readArgs (lenient : Bool) : Json → Except NodeFault (List ArgNode)
  | .array items => items.mapM (readArg lenient)
  | _ => .error .malformed

/-! ## Rules -/

/-- The form of a rule. -/
inductive RuleTag
  | predicate
  | and
  | or
  deriving DecidableEq

/-- Every form of a rule. -/
def RuleTag.all : List RuleTag :=
  [.predicate, .and, .or]

/-- The form of a rule with the given tag. -/
def RuleTag.ofName? : String → Option RuleTag
  | "predicate" => some .predicate
  | "and" => some .and
  | "or" => some .or
  | _ => none

/-- What was found in the payload of a rule. -/
structure RuleParts where
  name : Option String
  args : Option (List ArgNode)
  left : Option RuleNode
  right : Option RuleNode

/-- The rule of some parts, if none that it needs is missing. -/
def RuleParts.toRule? (parts : RuleParts) : RuleTag → Option RuleNode
  | .predicate => do
    let name ← parts.name
    let args ← parts.args
    pure (.predicate name args)
  | .and => do
    let left ← parts.left
    let right ← parts.right
    pure (.and left right)
  | .or => do
    let left ← parts.left
    let right ← parts.right
    pure (.or left right)

/-- The tag of an object with tag and payload. -/
def tagOf? {α : Type} (ofName? : String → Option α) (lenient : Bool)
    (fields : List (String × Json)) : Option α := do
  let tag ← Named.find? "tag" fields
  let name ← Literal.bareTag? lenient tag
  ofName? name

/-- The tag at the head of an array with tag and payload. Inside a payload the place of a form among
all forms may stand for its tag. -/
def headTag? {α : Type} (ofName? : String → Option α) (all : List α) (lenient : Bool) :
    Json → Option α
  | .string name => ofName? name
  | .integer place => if lenient && 0 ≤ place then all[place.toNat]? else none
  | _ => none

namespace RuleNode

mutual

/-- The rule of a document. -/
def ofJson (lenient : Bool) : Json → Except NodeFault RuleNode
  | .array (tag :: payload :: rest) => do
    let tag ← orMalformed (headTag? RuleTag.ofName? RuleTag.all lenient tag)
    let rule ← ofPayload lenient tag payload
    if rest.isEmpty then pure rule else throw .malformed
  | .object fields => do
    let tag ← orMalformed (tagOf? RuleTag.ofName? lenient fields)
    ofFields tag fields
  | _ => .error .malformed

/-- The rule of the field with the payload. -/
def ofFields (tag : RuleTag) : List (String × Json) → Except NodeFault RuleNode
  | [] => .error .malformed
  | (name, j) :: rest => if name = "payload" then ofPayload true tag j else ofFields tag rest

/-- The rule of a payload. -/
def ofPayload (lenient : Bool) (tag : RuleTag) : Json → Except NodeFault RuleNode
  | .object fields => do
    let parts ← readParts lenient tag fields
    orMalformed (parts.toRule? tag)
  | _ => .error .malformed

/-- The parts of a payload. -/
def readParts (lenient : Bool) (tag : RuleTag) :
    List (String × Json) → Except NodeFault RuleParts
  | [] => .ok ⟨none, none, none, none⟩
  | (name, j) :: rest =>
    if tag = .predicate then
      if name = "args" then do
        let args ← readArgs lenient j
        let parts ← readParts lenient tag rest
        pure { parts with args := some args }
      else if name = "name" then do
        let name ← orMalformed (Literal.stringOfJson? j)
        let parts ← readParts lenient tag rest
        pure { parts with name := some name }
      else readParts lenient tag rest
    else if name = "left" then do
      let left ← ofJson lenient j
      let parts ← readParts lenient tag rest
      pure { parts with left := some left }
    else if name = "right" then do
      let right ← ofJson lenient j
      let parts ← readParts lenient tag rest
      pure { parts with right := some right }
    else readParts lenient tag rest

end

end RuleNode

/-! ## Nodes -/

/-- What was found in the payload of a node: the nodes by field name, and the other contents. -/
structure NodeParts where
  nodes : List (String × Node)
  members : Option (List (Value × Node))
  primitive : Option Primitive
  fns : Option (List String)
  rule : Option RuleNode
  mapping : Option (List (Value × Value))
  fallback : Option NodeDefault
  options : Option (Policy × KeyTransform)
  notes : Metadata

namespace NodeParts

/-- Nothing found yet. -/
def empty : NodeParts :=
  ⟨[], none, none, none, none, none, none, none, []⟩

/-- The node under a field name. -/
def node? (parts : NodeParts) (name : String) : Option Node :=
  Named.find? name parts.nodes

/-- The node that a decorator makes of the inner node. -/
def decorate? (parts : NodeParts) (d : NodeDecorator) : Option Node :=
  (parts.node? "inner").map fun inner => .decorated d inner parts.notes

/-- The node of some parts, if none that it needs is missing. -/
def toNode? (parts : NodeParts) : NodeTag → Option Node
  | .definition => parts.primitive.map fun p => .definition p parts.notes
  | .constructor => parts.fns.bind fun fns => parts.decorate? (.constructor fns)
  | .constrained => parts.rule.bind fun rule => parts.decorate? (.constrained rule)
  | .enumeration => parts.mapping.bind fun mapping => parts.decorate? (.enumeration mapping)
  | .safe => parts.decorate? .safe
  | .default => parts.fallback.bind fun d => parts.decorate? (.default d)
  | .maybe => parts.decorate? .maybe
  | .sum => do
    let left ← parts.node? "left"
    let right ← parts.node? "right"
    pure (.sum left right parts.notes)
  | .schema family => do
    let members ← parts.members
    let (policy, transform) ← parts.options
    pure (.schema family policy transform members parts.notes)
  | .array family => (parts.node? "member").map fun item => .array family item parts.notes
  | .map => do
    let key ← parts.node? "key"
    let value ← parts.node? "value"
    pure (.map key value parts.notes)

end NodeParts

/-- The fields of a form that hold nodes. -/
def NodeTag.nodeFields : NodeTag → List String
  | .definition => []
  | .sum => ["left", "right"]
  | .schema _ => []
  | .array _ => ["member"]
  | .map => ["key", "value"]
  | _ => ["inner"]

/-- Reads a field of a form that holds no nodes into the parts found so far. -/
def readContent (lenient : Bool) (tag : NodeTag) (name : String) (j : Json) :
    Except NodeFault (NodeParts → NodeParts) :=
  match tag, name with
  | _, "meta" => do
    let notes ← readMetadata lenient j
    pure fun parts => { parts with notes := notes }
  | .definition, "primitive" => do
    let p ← orMalformed (Literal.primitiveOfJson? lenient j)
    pure fun parts => { parts with primitive := some p }
  | .constructor, "fns" => do
    let fns ← readStrings j
    pure fun parts => { parts with fns := some fns }
  | .constrained, "rule" => do
    let rule ← RuleNode.ofJson lenient j
    pure fun parts => { parts with rule := some rule }
  | .enumeration, "mapping" => do
    let mapping ← readPairs lenient j
    pure fun parts => { parts with mapping := some mapping }
  | .default, "default" => do
    let d ← readDefault lenient j
    pure fun parts => { parts with fallback := some d }
  | .schema _, "options" => do
    let options ← readOptions lenient j
    pure fun parts => { parts with options := some options }
  | _, _ => .ok id

/-- Whether a field of a form holds the members of a schema. -/
def NodeTag.hasMembers : NodeTag → String → Bool
  | .schema _, "members" => true
  | _, _ => false

namespace Node

mutual

/-- The node of a document whose objects have sorted fields. -/
def ofJson (lenient : Bool) : Json → Except NodeFault Node
  | .array (tag :: payload :: rest) => do
    let tag ← orMalformed (headTag? NodeTag.ofName? NodeTag.all lenient tag)
    let node ← ofPayload lenient tag payload
    if rest.isEmpty then pure node else throw .malformed
  | .object fields => do
    let tag ← orMalformed (tagOf? NodeTag.ofName? lenient fields)
    ofFields tag fields
  | _ => .error .malformed

/-- The node of the field with the payload. -/
def ofFields (tag : NodeTag) : List (String × Json) → Except NodeFault Node
  | [] => .error .malformed
  | (name, j) :: rest => if name = "payload" then ofPayload true tag j else ofFields tag rest

/-- The node of a payload. -/
def ofPayload (lenient : Bool) (tag : NodeTag) : Json → Except NodeFault Node
  | .object fields => do
    let parts ← readParts lenient tag fields
    orMalformed (parts.toNode? tag)
  | _ => .error .malformed

/-- The parts of a payload. -/
def readParts (lenient : Bool) (tag : NodeTag) :
    List (String × Json) → Except NodeFault NodeParts
  | [] => .ok .empty
  | (name, j) :: rest =>
    if tag.nodeFields.contains name then do
      let node ← ofJson lenient j
      let parts ← readParts lenient tag rest
      pure { parts with nodes := (name, node) :: parts.nodes }
    else if tag.hasMembers name then do
      let members ← readMembers lenient j
      let parts ← readParts lenient tag rest
      pure { parts with members := some members }
    else do
      let add ← readContent lenient tag name j
      let parts ← readParts lenient tag rest
      pure (add parts)

/-- The members of an array. -/
def readMembers (lenient : Bool) : Json → Except NodeFault (List (Value × Node))
  | .array items => readMemberItems lenient items
  | _ => .error .malformed

/-- The members of some items. -/
def readMemberItems (lenient : Bool) : List Json → Except NodeFault (List (Value × Node))
  | [] => .ok []
  | j :: js => do
    let m ← readMember lenient j
    let ms ← readMemberItems lenient js
    pure (m :: ms)

/-- The member of an object, or of an array of name and type. -/
def readMember (lenient : Bool) : Json → Except NodeFault (Value × Node)
  | .array [name] => do
    let _ ← readValue lenient name
    throw .malformed
  | .array (name :: node :: rest) => do
    let name ← readValue lenient name
    let node ← ofJson lenient node
    if rest.isEmpty then pure (name, node) else throw .malformed
  | .object fields => do
    let (name, node) ← readMemberFields lenient fields
    orMalformed do
      let name ← name
      let node ← node
      pure (name, node)
  | _ => .error .malformed

/-- The name and the type among the fields of a member. -/
def readMemberFields (lenient : Bool) :
    List (String × Json) → Except NodeFault (Option Value × Option Node)
  | [] => .ok (none, none)
  | (field, j) :: rest =>
    if field = "name" then do
      let name ← readValue lenient j
      let (_, node) ← readMemberFields lenient rest
      pure (some name, node)
    else if field = "type" then do
      let node ← ofJson lenient j
      let (name, _) ← readMemberFields lenient rest
      pure (name, some node)
    else readMemberFields lenient rest

end

/-! ## Texts -/

/-- The tags that occur in documents of nodes. -/
def knownTags : List String :=
  NodeTag.all.map NodeTag.name ++ ["member", "predicate", "and", "or"]

/-- A tag of an object, if it is a text that is not known. -/
def strangeTag? (fields : List (String × Json)) : Option String :=
  match Named.find? "tag" fields with
  | some (.string tag) => if knownTags.contains tag then none else some tag
  | _ => none

mutual

/-- The first tag in a document that is not known: that of an object before those inside it. -/
def unknownTag? : Json → Option String
  | .object fields => (strangeTag? fields).or (unknownTagInFields? fields)
  | .array items => unknownTagInItems? items
  | _ => none

/-- The first unknown tag in some items. -/
def unknownTagInItems? : List Json → Option String
  | [] => none
  | j :: js => (unknownTag? j).or (unknownTagInItems? js)

/-- The first unknown tag in some fields. -/
def unknownTagInFields? : List (String × Json) → Option String
  | [] => none
  | (_, j) :: rest => (unknownTag? j).or (unknownTagInFields? rest)

end

/-- The node of a document. -/
def ofDocument (j : Json) : Except NodeFault Node :=
  let j := j.normal
  match ofJson false j with
  | .ok node => .ok node
  | .error fault =>
    match unknownTag? j with
    | some tag => .error (.unsupported tag)
    | none => .error fault

/-- The node of a text. -/
def ofText (text : String) : Except NodeFault Node :=
  match Json.ofText? text with
  | some j => ofDocument j
  | none => .error .malformed

end Node

end Conform
