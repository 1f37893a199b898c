import Conform.Node.Reader
import Conform.Node.Writer
import Conform.Proofs.Literals
import Conform.Proofs.Names

/-!
# Nodes are read back from their documents

The reader looks at the fields of a payload in the order of their names, whatever order they were
written in, and puts together what it found.  Each form of node has its own fields, so each has its
own case here, whatever its metadata.  The values in a node come back as their literals do: sets and
hashes are put in order.

* `RuleNode.Writable`, `Node.Writable` — every value is one that its literal tells, and metadata is
  in order.
* `RuleNode.reread`, `Node.reread` — the rule or node with every value put in order.
* `RuleNode.ofJson_toJson`, `Node.ofJson_toJson` — the rule or node that is read from a document.
* `Node.ofDocument_toJson` — the same for whole documents.
-/

namespace Conform

open NodeFault

/-! ## Normal form -/

namespace Json

theorem sortedFields_singleton (name : String) (j : Json) :
    sortedFields [(name, j)] = [(name, j)] :=
  rfl

theorem normalItems_eq_map (items : List Json) : normalItems items = items.map normal := by
  induction items with
  | nil => rfl
  | cons j rest ih => rw [normalItems, ih, List.map_cons]

/-- Fields are normalized one by one, before they are sorted. -/
theorem normalFields_eq_map (fields : List (String × Json)) :
    normalFields fields = fields.map fun f => (f.1, f.2.normal) := by
  induction fields with
  | nil => rfl
  | cons f rest ih =>
    obtain ⟨name, j⟩ := f
    rw [normalFields, ih, List.map_cons]

/-- Two fields in order stay where they are when fields are sorted. -/
theorem sorted_pair {a b : String} (h : a < b) (x y : Json) :
    sortedFields (normalFields [(a, x), (b, y)]) = [(a, x.normal), (b, y.normal)] :=
  Named.Ascending.ofList_eq (List.pairwise_pair.2 h)

/-- Two fields out of order change places. -/
theorem sorted_swap {a b : String} (h : b < a) (x y : Json) :
    sortedFields (normalFields [(a, x), (b, y)]) = [(b, y.normal), (a, x.normal)] := by
  show Named.place b y.normal [(a, x.normal)] = _
  rw [Named.place, if_neg h.ne', if_pos h]

end Json

namespace Literal

mutual

/-- The objects in the document of a literal have one field each, so there is nothing to sort. -/
theorem normal_toJson : (l : Literal) → l.toJson.normal = l.toJson
  | .nil => rfl
  | .undefined => rfl
  | .bool _ => rfl
  | .integer _ => rfl
  | .float _ => rfl
  | .decimal _ => rfl
  | .symbol _ => rfl
  | .string _ => rfl
  | .date _ => rfl
  | .dateTime _ => rfl
  | .time _ => rfl
  | .range a b => by
    simp [toJson, single, Json.normal, Json.normalFields, Json.normalItems,
      Json.sortedFields_singleton, normal_toJson a, normal_toJson b]
  | .marker _ => rfl
  | .array items => by
    simp [toJson, single, Json.normal, Json.normalFields, Json.sortedFields_singleton,
      normal_itemsToJson items]
  | .set items => by
    simp [toJson, single, Json.normal, Json.normalFields, Json.sortedFields_singleton,
      normal_itemsToJson items]
  | .hash entries => by
    simp [toJson, single, Json.normal, Json.normalFields, Json.sortedFields_singleton,
      normal_entriesToJson entries]

theorem normal_itemsToJson : (ls : List Literal) →
    Json.normalItems (itemsToJson ls) = itemsToJson ls
  | [] => rfl
  | l :: ls => by simp [itemsToJson, Json.normalItems, normal_toJson l, normal_itemsToJson ls]

theorem normal_entriesToJson : (ls : List (Literal × Literal)) →
    Json.normalItems (entriesToJson ls) = entriesToJson ls
  | [] => rfl
  | (k, v) :: rest => by
    simp [entriesToJson, Json.normalItems, Json.normal, normal_toJson k, normal_toJson v,
      normal_entriesToJson rest]

end

end Literal

/-! ## Contents without nodes -/

section Contents

variable {lenient : Bool}

/-- The literal that was written of a value has that value, put in order. -/
theorem valueOf_toLiteral {v : Value} (h : v.Writable) : valueOf v.toLiteral = .ok v.reread := by
  rw [valueOf, Literal.toValue_toLiteral v h]
  rfl

@[simp] theorem normal_toNodeJson (v : Value) : v.toNodeJson.normal = v.toNodeJson :=
  Literal.normal_toJson _

/-- A value in a node is read back, put in order. -/
theorem readValue_toNodeJson {v : Value} (h : v.Writable) :
    readValue lenient v.toNodeJson = .ok v.reread := by
  rw [readValue, Value.toNodeJson, Literal.ofJson?_toJson]
  exact valueOf_toLiteral h

theorem readStrings_toJson (fns : List String) :
    readStrings (Json.array (fns.map Json.string)).normal = .ok fns := by
  have hmap : (fns.map Json.string).mapM Literal.stringOfJson? = some fns := by
    induction fns with
    | nil => rfl
    | cons f rest ih =>
      rw [List.map_cons, List.mapM_cons, ih]
      rfl
  have hnormal : (fns.map Json.string).map Json.normal = fns.map Json.string := by
    simp [Json.normal]
  rw [Json.normal, Json.normalItems_eq_map, hnormal, readStrings, hmap]
  rfl

/-- The pairs with all values put in order. -/
def pairsReread (pairs : List (Value × Value)) : List (Value × Value) :=
  pairs.map fun p => (p.1.reread, p.2.reread)

/-- Pairs are written as arrays of two, and read one by one. -/
theorem readPairs_toJson {pairs : List (Value × Value)}
    (h : ∀ p ∈ pairs, p.1.Writable ∧ p.2.Writable) :
    readPairs lenient (Json.array (pairs.map fun p =>
      .array [p.1.toNodeJson, p.2.toNodeJson])).normal =
      .ok (pairsReread pairs) := by
  have hentries : Literal.entriesOfJson? lenient
      (pairs.map fun p => .array [p.1.toNodeJson, p.2.toNodeJson]) =
      some (pairs.map fun p => (p.1.toLiteral, p.2.toLiteral)) := by
    clear h
    induction pairs with
    | nil => rfl
    | cons p rest ih =>
      simp [Literal.entriesOfJson?, Value.toNodeJson, Literal.ofJson?_toJson] at ih ⊢
      rw [ih]
      rfl
  have hpairs : pairsOf (pairs.map fun p => (p.1.toLiteral, p.2.toLiteral)) =
      .ok (pairsReread pairs) := by
    clear hentries
    induction pairs with
    | nil => rfl
    | cons p rest ih =>
      obtain ⟨hk, hv⟩ := h p List.mem_cons_self
      rw [List.map_cons, pairsOf, valueOf_toLiteral hk, valueOf_toLiteral hv,
        ih fun q hq => h q (List.mem_cons_of_mem _ hq)]
      rfl
  have hnormal : (pairs.map fun p => Json.array [p.1.toNodeJson, p.2.toNodeJson]).map Json.normal =
      pairs.map fun p => Json.array [p.1.toNodeJson, p.2.toNodeJson] := by
    simp [Json.normal, Json.normalItems]
  rw [Json.normal, Json.normalItems_eq_map, hnormal, readPairs, hentries]
  exact hpairs

/-- Metadata that can be written: in order, with values that can be. -/
def Metadata.Writable (m : Metadata) : Prop :=
  Named.Ascending m ∧ ∀ e ∈ m, e.2.Writable

/-- The metadata with all values put in order. -/
def Metadata.reread (m : Metadata) : Metadata :=
  m.map fun e => (e.1, e.2.reread)

/-- Metadata is read back, its values put in order. -/
theorem readMetadata_toJson {m : Metadata} (h : m.Writable) :
    readMetadata lenient (Json.object (m.map fun e => (e.1, e.2.toNodeJson))).normal =
      .ok m.reread := by
  obtain ⟨hm, hvalues⟩ := h
  have hsorted : Json.sortedFields (m.map fun e => (e.1, e.2.toNodeJson)) =
      m.map fun e => (e.1, e.2.toNodeJson) := by
    apply Named.Ascending.ofList_eq
    exact List.Pairwise.map _ (fun _ _ hlt => hlt) hm
  have hfields : literalFields? lenient (m.map fun e => (e.1, e.2.toNodeJson)) =
      some (m.map fun e => (e.1, e.2.toLiteral)) := by
    clear hm hvalues hsorted
    induction m with
    | nil => rfl
    | cons e rest ih =>
      rw [List.map_cons, literalFields?, Value.toNodeJson, Literal.ofJson?_toJson, ih]
      rfl
  have hvalue : metadataOf (m.map fun e => (e.1, e.2.toLiteral)) = .ok m.reread := by
    clear hm hsorted hfields
    induction m with
    | nil => rfl
    | cons e rest ih =>
      rw [List.map_cons, metadataOf, valueOf_toLiteral (hvalues e List.mem_cons_self),
        ih fun f hf => hvalues f (List.mem_cons_of_mem _ hf)]
      rfl
  have hnormal : (m.map fun e => (e.1, e.2.toNodeJson)).map (fun f => (f.1, f.2.normal)) =
      m.map fun e => (e.1, e.2.toNodeJson) := by
    simp
  rw [Json.normal, Json.normalFields_eq_map, hnormal, hsorted, readMetadata, hfields]
  exact hvalue

theorem readOptions_toJson (policy : Policy) (transform : KeyTransform) :
    readOptions lenient (optionsJson policy transform).normal = .ok (policy, transform) := by
  have hsorted : (optionsJson policy transform).normal =
      .object [("key_transform", .string transform.name), ("policy", .string policy.name)] := by
    exact congrArg Json.object (Json.sorted_swap (by decide) _ _)
  have hpolicy : Policy.ofName? policy.name = some policy := by cases policy <;> rfl
  have htransform : KeyTransform.ofName? transform.name = some transform := by
    cases transform <;> rfl
  rw [hsorted, readOptions]
  simp [Named.find?, policyOfJson?, keyTransformOfJson?, Literal.bareTag?, hpolicy, htransform,
    orMalformed]

end Contents

/-! ## Rules -/

/-- An operand that can be written. -/
def ArgNode.Writable : ArgNode → Prop
  | .value v => v.Writable
  | _ => True

/-- A rule whose operands can be written. -/
def RuleNode.Writable : RuleNode → Prop
  | .predicate _ args => ∀ a ∈ args, a.Writable
  | .and left right => left.Writable ∧ right.Writable
  | .or left right => left.Writable ∧ right.Writable

/-- The operand with its value put in order. -/
def ArgNode.reread : ArgNode → ArgNode
  | .value v => .value v.reread
  | a => a

/-- The rule with all operands put in order. -/
def RuleNode.reread : RuleNode → RuleNode
  | .predicate name args => .predicate name (args.map ArgNode.reread)
  | .and left right => .and left.reread right.reread
  | .or left right => .or left.reread right.reread

/-- An operand is read back, its value put in order. -/
theorem readArg_toJson {lenient : Bool} {a : ArgNode} (h : a.Writable) :
    readArg lenient a.toJson.normal = .ok a.reread := by
  cases a with
  | type p =>
    simp [ArgNode.toJson, Json.normal, Json.normalFields, Json.sortedFields_singleton, readArg,
      Literal.primitiveOfJson?, Literal.bareTag?, Primitive.ofName?_name, orMalformed,
      ArgNode.reread]
  | pattern source => rfl
  | value v =>
    simp only [ArgNode.toJson, Json.normal, Json.normalFields, Json.sortedFields_singleton,
      normal_toNodeJson, readArg, readValue_toNodeJson h]
    rfl

theorem readArgs_toJson {lenient : Bool} {args : List ArgNode} (h : ∀ a ∈ args, a.Writable) :
    readArgs lenient (Json.array (args.map ArgNode.toJson)).normal =
      .ok (args.map ArgNode.reread) := by
  rw [Json.normal, Json.normalItems_eq_map, readArgs]
  induction args with
  | nil => rfl
  | cons a rest ih =>
    rw [List.map_cons, List.map_cons, List.mapM_cons, readArg_toJson (h a List.mem_cons_self),
      ih fun b hb => h b (List.mem_cons_of_mem _ hb)]
    rfl

/-- The payload comes before the tag when the fields are sorted. -/
theorem normal_taggedJson (tag : String) (payload : List (String × Json)) :
    (taggedJson tag payload).normal =
      .object [("payload", .object (Json.sortedFields (Json.normalFields payload))),
        ("tag", .string tag)] := by
  exact congrArg Json.object (Json.sorted_swap (by decide) _ _)

namespace RuleNode

/-- A rule with a tag is read by that tag. -/
theorem ofJson_taggedJson (lenient : Bool) {tag : String} {t : RuleTag}
    (ht : RuleTag.ofName? tag = some t) (payload : List (String × Json)) :
    ofJson lenient (taggedJson tag payload).normal =
      ofPayload true t (.object (Json.sortedFields (Json.normalFields payload))) := by
  rw [normal_taggedJson, ofJson]
  simp [tagOf?, Named.find?, Literal.bareTag?, ht, orMalformed, ofFields]
  rfl

/-- **A rule is read back from its document**, with its operands put in order. -/
theorem ofJson_toJson (lenient : Bool) (rule : RuleNode) (h : rule.Writable) :
    ofJson lenient rule.toJson.normal = .ok rule.reread := by
  induction rule generalizing lenient with
  | predicate name args =>
    have hname : (Json.string name).normal = .string name := rfl
    rw [toJson, ofJson_taggedJson lenient (t := .predicate) rfl, Json.sorted_swap (by decide),
      hname]
    simp [ofPayload, readParts, readArgs_toJson h, Literal.stringOfJson?, orMalformed,
      RuleParts.toRule?]
    rfl
  | and left right ihl ihr =>
    rw [toJson, ofJson_taggedJson lenient (t := .and) rfl, Json.sorted_pair (by decide)]
    simp [ofPayload, readParts, ihl true h.1, ihr true h.2, orMalformed, RuleParts.toRule?]
    rfl
  | or left right ihl ihr =>
    rw [toJson, ofJson_taggedJson lenient (t := .or) rfl, Json.sorted_pair (by decide)]
    simp [ofPayload, readParts, ihl true h.1, ihr true h.2, orMalformed, RuleParts.toRule?]
    rfl

end RuleNode

/-! ## Payloads -/

namespace Node

/-- What one field adds to the parts. -/
def readField (lenient : Bool) (tag : NodeTag) (name : String) (j : Json) :
    Except NodeFault (NodeParts → NodeParts) :=
  if tag.nodeFields.contains name then
    (ofJson lenient j).map fun node parts => { parts with nodes := (name, node) :: parts.nodes }
  else if tag.hasMembers name then
    (readMembers lenient j).map fun members parts => { parts with members := some members }
  else readContent lenient tag name j

/-- Fields are read one by one. -/
theorem readParts_cons (lenient : Bool) (tag : NodeTag) (name : String) (j : Json)
    (rest : List (String × Json)) :
    readParts lenient tag ((name, j) :: rest) = (do
      let add ← readField lenient tag name j
      let parts ← readParts lenient tag rest
      pure (add parts)) := by
  rw [readParts, readField]
  split
  · cases ofJson lenient j <;> rfl
  · split
    · cases readMembers lenient j <;> rfl
    · rfl

/-- What leaves metadata alone may be done before or after it is set. -/
def KeepsNotes (add : NodeParts → NodeParts) : Prop :=
  ∀ (parts : NodeParts) (m : Metadata),
    add { parts with notes := m } = { add parts with notes := m }

/-- What a field adds leaves the notes, whatever was read for it. -/
theorem keepsNotes_of_bind {α : Type} {e : Except NodeFault α} {f : α → NodeParts → NodeParts}
    {add : NodeParts → NodeParts} (h : (do let a ← e; pure (f a)) = Except.ok add)
    (hf : ∀ a, KeepsNotes (f a)) : KeepsNotes add := by
  cases e with
  | error fault => cases h
  | ok a =>
    cases h
    exact hf a

/-- Every field but the one with the metadata leaves it alone. -/
theorem keepsNotes_readField {lenient : Bool} {tag : NodeTag} {name : String} {j : Json}
    (hname : name ≠ "meta") {add : NodeParts → NodeParts}
    (h : readField lenient tag name j = .ok add) : KeepsNotes add := by
  unfold readField at h
  split at h
  · exact keepsNotes_of_bind (e := ofJson lenient j) h fun _ _ _ => rfl
  · split at h
    · exact keepsNotes_of_bind (e := readMembers lenient j) h fun _ _ _ => rfl
    · unfold readContent at h
      split at h
      · exact absurd rfl hname
      all_goals first
        | exact keepsNotes_of_bind h fun _ _ _ => rfl
        | (cases h; exact fun _ _ => rfl)

/-- The metadata is read wherever its field stands. -/
theorem readParts_place {lenient : Bool} {tag : NodeTag} {fields : List (String × Json)}
    {parts : NodeParts} {j : Json} {m : Metadata} (hj : readMetadata lenient j = .ok m)
    (hnames : ∀ f ∈ fields, f.1 ≠ "meta") (h : readParts lenient tag fields = .ok parts) :
    readParts lenient tag (Named.place "meta" j fields) = .ok { parts with notes := m } := by
  have hfield : readField lenient tag "meta" j = .ok fun parts => { parts with notes := m } := by
    have hnodes : tag.nodeFields.contains "meta" = false := by cases tag <;> rfl
    have hmembers : tag.hasMembers "meta" = false := by cases tag <;> rfl
    simp only [readField, hnodes, hmembers, Bool.false_eq_true, if_false, readContent, hj]
    rfl
  induction fields generalizing parts with
  | nil =>
    rw [readParts] at h
    cases h
    rw [Named.place, readParts_cons, hfield, readParts]
    rfl
  | cons f rest ih =>
    obtain ⟨name, k⟩ := f
    have hname : name ≠ "meta" := hnames _ List.mem_cons_self
    have hrest : ∀ f ∈ rest, f.1 ≠ "meta" := fun f hf => hnames f (List.mem_cons_of_mem _ hf)
    rw [Named.place, if_neg hname]
    split
    · rw [readParts_cons, hfield, h]
      rfl
    · rw [readParts_cons] at h ⊢
      cases hadd : readField lenient tag name k with
      | error fault =>
        rw [hadd] at h
        cases h
      | ok add =>
        rw [hadd] at h
        cases hparts : readParts lenient tag rest with
        | error fault =>
          rw [hparts] at h
          cases h
        | ok others =>
          rw [hparts] at h
          cases h
          rw [ih hrest hparts]
          exact congrArg Except.ok (keepsNotes_readField hname hadd others m)

/-- A node with a tag is read by that tag. -/
theorem ofJson_taggedJson (lenient : Bool) (tag : NodeTag) (payload : List (String × Json)) :
    ofJson lenient (taggedJson tag.name payload).normal =
      ofPayload true tag (.object (Json.sortedFields (Json.normalFields payload))) := by
  have htag : NodeTag.ofName? tag.name = some tag := by
    cases tag with
    | schema family => rcases family with _ | _ | _ <;> rfl
    | array family => rcases family with _ | _ | _ <;> rfl
    | _ => rfl
  rw [normal_taggedJson, ofJson]
  simp [tagOf?, Named.find?, Literal.bareTag?, htag, orMalformed, ofFields]
  rfl

/-- A node is read from its own fields, whatever its metadata. -/
theorem ofJson_of_parts (lenient : Bool) (tag : NodeTag) (fields : List (String × Json))
    (parts : NodeParts) {base : List (String × Json)} {m : Metadata} {n : Node} (hm : m.Writable)
    (hsorted : Json.sortedFields (Json.normalFields base) = fields)
    (hnames : ∀ f ∈ fields, f.1 ≠ "meta") (hparts : readParts true tag fields = .ok parts)
    (hnotes : parts.notes = [])
    (hn : NodeParts.toNode? { parts with notes := m.reread } tag = some n) :
    ofJson lenient (taggedJson tag.name (base ++ m.fields)).normal = .ok n := by
  have hread : readParts true tag (Json.sortedFields (Json.normalFields (base ++ m.fields))) =
      .ok { parts with notes := m.reread } := by
    cases m with
    | nil =>
      have hnil : { parts with notes := Metadata.reread [] } = parts := by
        rw [show Metadata.reread [] = parts.notes from hnotes.symm]
      have hnone : Metadata.fields [] = [] := rfl
      rw [hnone, List.append_nil, hsorted, hparts, hnil]
    | cons e m =>
      rw [Metadata.fields, if_neg (by simp), Json.normalFields_eq_map, List.map_append]
      rw [Json.normalFields_eq_map] at hsorted
      have happend : ∀ (l : List (String × Json)) (name : String) (j : Json),
          Json.sortedFields (l ++ [(name, j)]) = Named.place name j (Json.sortedFields l) := by
        intro l name j
        rw [Json.sortedFields, Json.sortedFields, Named.ofList, List.foldl_append]
        rfl
      rw [List.map_singleton, happend, hsorted]
      exact readParts_place (readMetadata_toJson hm) hnames hparts
  rw [ofJson_taggedJson, ofPayload, hread]
  show orMalformed _ = _
  rw [hn]
  rfl

end Node

/-! ## Nodes -/

/-- A default that can be written. -/
def NodeDefault.Writable : NodeDefault → Prop
  | .value v => v.Writable
  | .generator _ => True

/-- A decorator whose values can be written. -/
def NodeDecorator.Writable : NodeDecorator → Prop
  | .constrained rule => rule.Writable
  | .enumeration mapping => ∀ p ∈ mapping, p.1.Writable ∧ p.2.Writable
  | .default d => d.Writable
  | _ => True

/-- The default with its value put in order. -/
def NodeDefault.reread : NodeDefault → NodeDefault
  | .value v => .value v.reread
  | .generator reference => .generator reference

/-- The decorator with all values put in order. -/
def NodeDecorator.reread : NodeDecorator → NodeDecorator
  | .constrained rule => .constrained rule.reread
  | .enumeration mapping => .enumeration (pairsReread mapping)
  | .default d => .default d.reread
  | d => d

namespace Node

mutual

/-- A node whose values can be written, all metadata included. -/
def Writable : Node → Prop
  | .definition _ m => m.Writable
  | .decorated d inner m => d.Writable ∧ inner.Writable ∧ m.Writable
  | .sum left right m => left.Writable ∧ right.Writable ∧ m.Writable
  | .schema _ _ _ members m => MembersWritable members ∧ m.Writable
  | .array _ item m => item.Writable ∧ m.Writable
  | .map key value m => key.Writable ∧ value.Writable ∧ m.Writable

/-- The same for the members of a schema and their names. -/
def MembersWritable : List (Value × Node) → Prop
  | [] => True
  | (name, node) :: rest => name.Writable ∧ node.Writable ∧ MembersWritable rest

end

mutual

/-- The node with all values put in order, those of metadata and the names of members included. -/
def reread : Node → Node
  | .definition p m => .definition p m.reread
  | .decorated d inner m => .decorated d.reread inner.reread m.reread
  | .sum left right m => .sum left.reread right.reread m.reread
  | .schema family policy transform members m =>
    .schema family policy transform (membersReread members) m.reread
  | .array family item m => .array family item.reread m.reread
  | .map key value m => .map key.reread value.reread m.reread

/-- The same for the members of a schema. -/
def membersReread : List (Value × Node) → List (Value × Node)
  | [] => []
  | (name, node) :: rest => (name.reread, node.reread) :: membersReread rest

end

/-- A default is read back, its value put in order. -/
theorem readDefault_toJson {lenient : Bool} {d : NodeDefault} (h : d.Writable) :
    readDefault lenient d.toJson.normal = .ok d.reread := by
  cases d with
  | value v =>
    simp only [NodeDefault.toJson, Json.normal, Json.normalFields, Json.sortedFields_singleton,
      normal_toNodeJson, readDefault, readValue_toNodeJson h]
    rfl
  | generator reference => rfl

/-- A decorated node is read when the inner node is. -/
theorem ofJson_decorated (lenient : Bool) {d : NodeDecorator} {inner read : Node} {m : Metadata}
    (hd : d.Writable) (hm : m.Writable) (hinner : ofJson true inner.toJson.normal = .ok read) :
    ofJson lenient (Node.decorated d inner m).toJson.normal =
      .ok (.decorated d.reread read m.reread) := by
  rw [toJson, ← List.cons_append]
  cases d with
  | constructor fns =>
    apply ofJson_of_parts lenient .constructor
      [("fns", (Json.array (fns.map Json.string)).normal), ("inner", inner.toJson.normal)]
      { NodeParts.empty with nodes := [("inner", read)], fns := some fns } hm
    · exact Json.sorted_swap (by decide) _ _
    · simp
    · simp [readParts, NodeTag.nodeFields, NodeTag.hasMembers, readContent, readStrings_toJson,
        hinner]
      rfl
    · rfl
    · rfl
  | constrained rule =>
    apply ofJson_of_parts lenient .constrained
      [("inner", inner.toJson.normal), ("rule", rule.toJson.normal)]
      { NodeParts.empty with nodes := [("inner", read)], rule := some rule.reread } hm
    · exact Json.sorted_pair (by decide) _ _
    · simp
    · simp [readParts, NodeTag.nodeFields, NodeTag.hasMembers, readContent,
        rule.ofJson_toJson true hd, hinner]
      rfl
    · rfl
    · rfl
  | enumeration mapping =>
    apply ofJson_of_parts lenient .enumeration
      [("inner", inner.toJson.normal), ("mapping", (Json.array (mapping.map fun p => .array
        [p.1.toNodeJson, p.2.toNodeJson])).normal)]
      { NodeParts.empty with nodes := [("inner", read)], mapping := some (pairsReread mapping) } hm
    · exact Json.sorted_pair (by decide) _ _
    · simp
    · simp [readParts, NodeTag.nodeFields, NodeTag.hasMembers, readContent,
        readPairs_toJson hd, hinner]
      rfl
    · rfl
    · rfl
  | safe =>
    apply ofJson_of_parts lenient .safe
      [("inner", inner.toJson.normal)]
      { NodeParts.empty with nodes := [("inner", read)] } hm
    · rfl
    · simp
    · simp [readParts, NodeTag.nodeFields, hinner]
      rfl
    · rfl
    · rfl
  | default d =>
    apply ofJson_of_parts lenient .default
      [("default", d.toJson.normal), ("inner", inner.toJson.normal)]
      { NodeParts.empty with nodes := [("inner", read)], fallback := some d.reread } hm
    · exact Json.sorted_swap (by decide) _ _
    · simp
    · simp [readParts, NodeTag.nodeFields, NodeTag.hasMembers, readContent,
        readDefault_toJson hd, hinner]
      rfl
    · rfl
    · rfl
  | maybe =>
    apply ofJson_of_parts lenient .maybe
      [("inner", inner.toJson.normal)]
      { NodeParts.empty with nodes := [("inner", read)] } hm
    · rfl
    · simp
    · simp [readParts, NodeTag.nodeFields, hinner]
      rfl
    · rfl
    · rfl

mutual

/-- **A node is read back from its document**, with its values put in order. -/
theorem ofJson_toJson (lenient : Bool) : (n : Node) → n.Writable →
    ofJson lenient n.toJson.normal = .ok n.reread
  | .definition p m, hm => by
    rw [toJson, ← List.singleton_append]
    apply ofJson_of_parts lenient .definition [("primitive", .string p.name)]
      { NodeParts.empty with primitive := some p } hm
    · rfl
    · simp
    · simp [readParts, NodeTag.nodeFields, NodeTag.hasMembers, readContent,
        Literal.primitiveOfJson?, Literal.bareTag?, Primitive.ofName?_name, orMalformed]
      rfl
    · rfl
    · rfl
  | .decorated d inner m, ⟨hd, hinner, hm⟩ =>
    ofJson_decorated lenient hd hm (ofJson_toJson true inner hinner)
  | .sum left right m, ⟨hl, hr, hm⟩ => by
    show ofJson lenient (taggedJson NodeTag.sum.name
      ([("left", left.toJson), ("right", right.toJson)] ++ m.fields)).normal = _
    apply ofJson_of_parts lenient .sum
      [("left", left.toJson.normal), ("right", right.toJson.normal)]
      { NodeParts.empty with nodes := [("left", left.reread), ("right", right.reread)] } hm
    · exact Json.sorted_pair (by decide) _ _
    · simp
    · simp [readParts, NodeTag.nodeFields, ofJson_toJson true left hl, ofJson_toJson true right hr]
      rfl
    · rfl
    · rfl
  | .schema family policy transform members m, ⟨hms, hm⟩ => by
    show ofJson lenient (taggedJson (NodeTag.schema family).name
      ([("members", .array (membersToJson members)), ("options", optionsJson policy transform)] ++
        m.fields)).normal = _
    have hmembers : readMembers true (Json.array (membersToJson members)).normal =
        .ok (membersReread members) := by
      rw [Json.normal, readMembers]
      exact readMemberItems_toJson members hms
    apply ofJson_of_parts lenient (.schema family)
      [("members", (Json.array (membersToJson members)).normal),
        ("options", (optionsJson policy transform).normal)]
      { NodeParts.empty with
        members := some (membersReread members), options := some (policy, transform) } hm
    · exact Json.sorted_pair (by decide) _ _
    · simp
    · simp [readParts, NodeTag.nodeFields, NodeTag.hasMembers, readContent, hmembers,
        readOptions_toJson]
      rfl
    · rfl
    · rfl
  | .array family item m, ⟨hi, hm⟩ => by
    show ofJson lenient (taggedJson (NodeTag.array family).name
      ([("member", item.toJson)] ++ m.fields)).normal = _
    apply ofJson_of_parts lenient (.array family) [("member", item.toJson.normal)]
      { NodeParts.empty with nodes := [("member", item.reread)] } hm
    · rfl
    · simp
    · simp [readParts, NodeTag.nodeFields, ofJson_toJson true item hi]
      rfl
    · rfl
    · rfl
  | .map key value m, ⟨hk, hv, hm⟩ => by
    show ofJson lenient (taggedJson NodeTag.map.name
      ([("key", key.toJson), ("value", value.toJson)] ++ m.fields)).normal = _
    apply ofJson_of_parts lenient .map
      [("key", key.toJson.normal), ("value", value.toJson.normal)]
      { NodeParts.empty with nodes := [("key", key.reread), ("value", value.reread)] } hm
    · exact Json.sorted_pair (by decide) _ _
    · simp
    · simp [readParts, NodeTag.nodeFields, ofJson_toJson true key hk, ofJson_toJson true value hv]
      rfl
    · rfl
    · rfl

theorem readMemberItems_toJson : (members : List (Value × Node)) → MembersWritable members →
    readMemberItems true (Json.normalItems (membersToJson members)) = .ok (membersReread members)
  | [], _ => rfl
  | (name, node) :: rest, ⟨hname, hnode, hrest⟩ => by
    have hsorted : (Json.object [("tag", .string "member"), ("name", name.toNodeJson),
        ("type", node.toJson)]).normal =
        .object [("name", name.toNodeJson), ("tag", .string "member"),
          ("type", node.toJson.normal)] := by
      simp [Json.normal, Json.normalFields, Json.sortedFields, Named.ofList, Named.place,
        -String.lt_iff_ltb]
    rw [membersToJson, Json.normalItems, hsorted, readMemberItems, readMember,
      readMemberItems_toJson rest hrest]
    simp [readMemberFields, readValue_toNodeJson hname, ofJson_toJson true node hnode, orMalformed]
    rfl

end

/-- **A node is read back from its whole document**, with its values put in order. -/
theorem ofDocument_toJson {n : Node} (h : n.Writable) : ofDocument n.toJson = .ok n.reread := by
  unfold ofDocument
  simp only [ofJson_toJson false n h]

end Node

end Conform
