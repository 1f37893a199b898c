import Conform.Proofs.JsonText
import Conform.Proofs.Rebuilding
import Conform.Proofs.Rereading

/-!
# Types travel as texts

A type is taken apart into a node, the node is written as a document, and elsewhere the document is
read and the node compiled.  With built-in functions only, nothing is lost on the way, and nothing
is changed but the order in sets and hashes.  Those that were built from values without NaN are in
order already.

* `Node.ofText_text` — a node is read back from its text, with its values put in order.
* `Ty.Writable`, `Ty.records_writable` — when the node of a type can be written.
* `Ty.RunsBuiltins`, `Ty.recognized_eq_self` — compiling puts in no other functions than the
  built-in ones that were there.
* `Ty.arrives_reread` — what the text of a type describes is the type with its values put in order.
* `Ty.travels_as_text` — **it is the type itself exactly if all sets and hashes in it are in
  order**.
* `Ty.not_always_travels` — a default that a NaN has left out of order.
-/

namespace Conform

/-! ## Documents of nodes have no numbers -/

namespace Literal

mutual

theorem isPlain_toJson : (l : Literal) → l.toJson.IsPlain
  | .nil => trivial
  | .undefined => trivial
  | .bool _ => ⟨trivial, trivial⟩
  | .integer _ => ⟨trivial, trivial⟩
  | .float _ => ⟨trivial, trivial⟩
  | .decimal _ => ⟨trivial, trivial⟩
  | .symbol _ => ⟨trivial, trivial⟩
  | .string _ => ⟨trivial, trivial⟩
  | .date _ => ⟨trivial, trivial⟩
  | .dateTime _ => ⟨trivial, trivial⟩
  | .time _ => ⟨trivial, trivial⟩
  | .range a b => ⟨⟨isPlain_toJson a, isPlain_toJson b, trivial⟩, trivial⟩
  | .marker _ => ⟨trivial, trivial⟩
  | .array items => ⟨allPlain_itemsToJson items, trivial⟩
  | .set items => ⟨allPlain_itemsToJson items, trivial⟩
  | .hash entries => ⟨allPlain_entriesToJson entries, trivial⟩

theorem allPlain_itemsToJson : (ls : List Literal) → Json.AllPlain (itemsToJson ls)
  | [] => trivial
  | l :: ls => ⟨isPlain_toJson l, allPlain_itemsToJson ls⟩

theorem allPlain_entriesToJson : (ls : List (Literal × Literal)) →
    Json.AllPlain (entriesToJson ls)
  | [] => trivial
  | (k, v) :: rest =>
    ⟨⟨isPlain_toJson k, isPlain_toJson v, trivial⟩, allPlain_entriesToJson rest⟩

end

end Literal

theorem isPlain_toNodeJson (v : Value) : v.toNodeJson.IsPlain :=
  Literal.isPlain_toJson _

theorem isPlain_taggedJson (tag : String) {payload : List (String × Json)}
    (h : Json.FieldsPlain payload) : (taggedJson tag payload).IsPlain :=
  ⟨trivial, h, trivial⟩

theorem ArgNode.isPlain_toJson (a : ArgNode) : a.toJson.IsPlain := by
  cases a with
  | type p => exact ⟨trivial, trivial⟩
  | pattern source => exact ⟨trivial, trivial⟩
  | value v => exact ⟨isPlain_toNodeJson v, trivial⟩

theorem RuleNode.isPlain_toJson (rule : RuleNode) : rule.toJson.IsPlain := by
  induction rule with
  | predicate name args =>
    have hargs : Json.AllPlain (args.map ArgNode.toJson) := by
      rw [Json.allPlain_iff]
      intro j hj
      obtain ⟨a, -, rfl⟩ := List.mem_map.1 hj
      exact a.isPlain_toJson
    exact isPlain_taggedJson _ ⟨trivial, hargs, trivial⟩
  | and left right ihl ihr => exact isPlain_taggedJson _ ⟨ihl, ihr, trivial⟩
  | or left right ihl ihr => exact isPlain_taggedJson _ ⟨ihl, ihr, trivial⟩

theorem NodeDecorator.fieldsPlain (d : NodeDecorator) : Json.FieldsPlain d.fields := by
  cases d with
  | constructor fns =>
    have hfns : Json.AllPlain (fns.map Json.string) := by
      rw [Json.allPlain_iff]
      intro j hj
      obtain ⟨f, -, rfl⟩ := List.mem_map.1 hj
      trivial
    exact ⟨hfns, trivial⟩
  | constrained rule => exact ⟨rule.isPlain_toJson, trivial⟩
  | enumeration mapping =>
    have hpairs : Json.AllPlain
        (mapping.map fun p => .array [p.1.toNodeJson, p.2.toNodeJson]) := by
      rw [Json.allPlain_iff]
      intro j hj
      obtain ⟨p, -, rfl⟩ := List.mem_map.1 hj
      exact ⟨isPlain_toNodeJson p.1, isPlain_toNodeJson p.2, trivial⟩
    exact ⟨hpairs, trivial⟩
  | safe => trivial
  | default d =>
    cases d with
    | value v => exact ⟨⟨isPlain_toNodeJson v, trivial⟩, trivial⟩
    | generator reference => exact ⟨⟨trivial, trivial⟩, trivial⟩
  | maybe => trivial

theorem Metadata.fieldsPlain (m : Metadata) : Json.FieldsPlain (Metadata.fields m) := by
  unfold Metadata.fields
  split
  · trivial
  · have hm : Json.FieldsPlain (m.map fun e => (e.1, e.2.toNodeJson)) := by
      rw [Json.fieldsPlain_iff]
      intro f hf
      obtain ⟨e, -, rfl⟩ := List.mem_map.1 hf
      exact isPlain_toNodeJson e.2
    exact ⟨hm, trivial⟩

namespace Node

mutual

/-- The JSON of a node is plain. -/
theorem isPlain_toJson : (n : Node) → n.toJson.IsPlain
  | .definition _ m => isPlain_taggedJson _ ⟨trivial, m.fieldsPlain⟩
  | .decorated d inner m => by
    have hfields : Json.FieldsPlain (d.fields ++ m.fields) := by
      rw [Json.fieldsPlain_iff]
      intro f hf
      rcases List.mem_append.1 hf with hf | hf
      · exact Json.fieldsPlain_iff.1 d.fieldsPlain f hf
      · exact Json.fieldsPlain_iff.1 m.fieldsPlain f hf
    exact isPlain_taggedJson _ ⟨isPlain_toJson inner, hfields⟩
  | .sum left right m =>
    isPlain_taggedJson _ ⟨isPlain_toJson left, isPlain_toJson right, m.fieldsPlain⟩
  | .schema _ _ _ members m =>
    isPlain_taggedJson _ ⟨allPlain_membersToJson members, ⟨trivial, trivial, trivial⟩,
      m.fieldsPlain⟩
  | .array _ item m => isPlain_taggedJson _ ⟨isPlain_toJson item, m.fieldsPlain⟩
  | .map key value m =>
    isPlain_taggedJson _ ⟨isPlain_toJson key, isPlain_toJson value, m.fieldsPlain⟩

theorem allPlain_membersToJson : (members : List (Value × Node)) →
    Json.AllPlain (membersToJson members)
  | [] => trivial
  | (name, node) :: rest =>
    ⟨⟨trivial, isPlain_toNodeJson name, isPlain_toJson node, trivial⟩, allPlain_membersToJson rest⟩

end

/-- **A node is read back from its text**, with its values put in order, if it is not nested too
deep for the reader. -/
theorem ofText_text {n : Node} (h : n.Writable) (hd : n.toJson.depth ≤ Json.maxDepth) :
    ofText n.text = .ok n.reread := by
  rw [ofText, text, Json.ofText?_pretty n.isPlain_toJson hd]
  exact ofDocument_toJson h

end Node

/-! ## Nodes of types -/

/-- The node of an operand can be written if its value can. -/
theorem Operand.writable_toNode {o : Operand} (h : ∀ v, o = .value v → v.Writable) :
    o.toNode.Writable := by
  cases o with
  | value v =>
    have hv := h v rfl
    cases v <;> trivial
  | pattern p => trivial

/-- The node of a rule can be written if its values can. -/
theorem Rule.writable_toNode {rule : Rule} (h : ∀ v ∈ rule.values, v.Writable) :
    rule.toNode.Writable := by
  induction rule with
  | predicate p =>
    intro a ha
    obtain ⟨o, ho, rfl⟩ := List.mem_map.1 ha
    apply Operand.writable_toNode
    rintro v rfl
    exact h v (List.mem_filterMap.2 ⟨_, ho, rfl⟩)
  | and left right ihl ihr =>
    exact ⟨ihl fun v hv => h v (List.mem_append_left _ hv),
      ihr fun v hv => h v (List.mem_append_right _ hv)⟩
  | or left right ihl ihr =>
    exact ⟨ihl fun v hv => h v (List.mem_append_left _ hv),
      ihr fun v hv => h v (List.mem_append_right _ hv)⟩

/-- The node of a decorator can be written if the values stored in it can. -/
theorem Decorator.writable_toNode {d : Decorator} (h : ∀ v ∈ d.stored, v.Writable)
    (fs : Functions) : (d.toNode fs).1.Writable := by
  cases d with
  | constructor fns => trivial
  | constrained rule => exact Rule.writable_toNode h
  | enumeration mapping =>
    intro p hp
    have hmem : ∀ v ∈ [p.1, p.2], v ∈ (Decorator.enumeration mapping).stored := fun v hv =>
      List.mem_flatMap.2 ⟨p, hp, hv⟩
    exact ⟨h _ (hmem _ (by simp)), h _ (hmem _ (by simp))⟩
  | safe => trivial
  | default d =>
    cases d with
    | fixed v => exact h v (List.mem_singleton.2 rfl)
    | drawn g => trivial
  | maybe => trivial

namespace Ty

/-- A type whose node can be written: metadata is in order, and its values are such that their
literals tell them. -/
structure Writable (t : Ty) : Prop where
  inOrder : t.InOrder
  stored : ∀ v ∈ t.stored, v.Writable

namespace Writable

/-- A part of a type that can be written can be written. -/
theorem part {t u : Ty} (ht : t.Writable) (hu : u.Within t) : u.Writable where
  inOrder := fun m hm => ht.inOrder m (hu.notes hm)
  stored := fun v hv => ht.stored v (hu.stored hv)

theorem metadata {t : Ty} (ht : t.Writable) : Metadata.Writable t.metadata :=
  ⟨ht.inOrder _ (notes_subset_gather t (List.mem_singleton.2 rfl)), fun e he =>
    ht.stored _ (notes_subset_gather t (List.mem_map.2 ⟨e, he, rfl⟩))⟩

theorem decorator {d : Decorator} {inner : Ty} {m : Metadata}
    (ht : Writable (.decorated d inner m)) :
    Records .any d.toNode fun nd _ => nd.Writable :=
  records_any (Decorator.writable_toNode fun v hv =>
    ht.stored v (decorator_subset_gather d inner m hv))

theorem inner {d : Decorator} {t : Ty} {m : Metadata} (ht : Writable (.decorated d t m)) :
    t.Writable :=
  ht.part (within_decorated d t m)

theorem member {policy : Policy} {transform : KeyTransform} {members : List (Value × Ty)}
    {m : Metadata} (ht : Writable (.schema policy transform members m)) {e : Value × Ty}
    (he : e ∈ members) : e.1.Writable ∧ e.2.Writable :=
  ⟨ht.stored _ (name_subset_gather policy transform m he (List.mem_singleton.2 rfl)),
    ht.part (within_schema policy transform m he)⟩

theorem item {t : Ty} {m : Metadata} (ht : Writable (.array t m)) : t.Writable :=
  ht.part (within_array t m)

end Writable

/-- The nodes of members can be written if those of each of them can. -/
theorem records_writable_members {members : List (Value × Ty)}
    (hnames : ∀ e ∈ members, e.1.Writable)
    (h : ∀ e ∈ members, Records .any (e.2.toNode true) fun n _ => n.Writable) :
    Records .any (membersToNodes true members) fun nodes _ => Node.MembersWritable nodes := by
  induction members with
  | nil => exact .pure fun _ => trivial
  | cons e rest ih =>
    obtain ⟨hname, hnames⟩ := List.forall_mem_cons.1 hnames
    obtain ⟨ht, hrest⟩ := List.forall_mem_cons.1 h
    rw [membersToNodes]
    exact ht.bind fun node => (ih hnames hrest).bind
      fun nodes => .pure fun _ hns hn => ⟨hname, hn, hns⟩

/-- **The node of a type can be written** when the type can. -/
theorem records_writable (t : Ty) (ht : t.Writable) :
    Records .any (t.toNode true) fun n _ => n.Writable := by
  induction t using formsInduct true with
  | definition p m =>
    rw [toNode]
    exact .pure fun _ => ht.metadata
  | jsonSchema policy transform members k m hin ih =>
    have hms := records_writable_members (fun e he => (ht.inner.member he).1)
      fun e he => ih e he (ht.inner.member he).2
    rw [toNode_jsonSchema hin]
    exact hms.bind fun nodes => .pure fun _ hns => ⟨hns, ht.metadata⟩
  | jsonArray item k m hin ih =>
    rw [toNode_jsonArray hin]
    exact (ih ht.inner.item).bind fun node => .pure fun _ hn => ⟨hn, ht.metadata⟩
  | paramsSchema f policy transform members k l m hin ih =>
    have hms := records_writable_members (fun e he => (ht.inner.inner.member he).1)
      fun e he => ih e he (ht.inner.inner.member he).2
    rw [toNode_paramsSchema hin]
    exact hms.bind fun nodes => .pure fun _ hns => ⟨hns, ht.metadata⟩
  | paramsArray f item k l m hin ih =>
    rw [toNode_paramsArray hin]
    exact (ih ht.inner.inner.item).bind fun node => .pure fun _ hn => ⟨hn, ht.metadata⟩
  | decorated d inner m hin ih =>
    rw [toNode_decorated hin]
    exact (ih ht.inner).bind fun n => ht.decorator.bind fun nd =>
      .pure fun _ hnd hn => ⟨hnd, hn, ht.metadata⟩
  | sum left right m ihl ihr =>
    rw [toNode]
    refine (ihl (ht.part (within_sum_left left right m))).bind fun l => ?_
    refine (ihr (ht.part (within_sum_right left right m))).bind fun r => ?_
    exact .pure fun _ hr hl => ⟨hl, hr, ht.metadata⟩
  | schema policy transform members m ih =>
    have hms := records_writable_members (fun e he => (ht.member he).1)
      fun e he => ih e he (ht.member he).2
    rw [toNode]
    exact hms.bind fun nodes => .pure fun _ hns => ⟨hns, ht.metadata⟩
  | array item m ih =>
    rw [toNode]
    exact (ih ht.item).bind fun node => .pure fun _ hn => ⟨hn, ht.metadata⟩
  | map key value m ihk ihv =>
    rw [toNode]
    refine (ihk (ht.part (within_map_key key value m))).bind fun k => ?_
    refine (ihv (ht.part (within_map_value key value m))).bind fun v => ?_
    exact .pure fun _ hv hk => ⟨hk, hv, ht.metadata⟩

/-! ## Built-in functions only -/

/-- A type whose functions and generators are built-in ones. -/
structure RunsBuiltins (t : Ty) : Prop where
  coercions : ∀ f ∈ t.coercions, f ∈ Coercion.builtins
  generators : ∀ g ∈ t.generators, g ∈ Generator.builtins

namespace RunsBuiltins

/-- A part of a type that runs built-in functions does so too. -/
theorem part {t u : Ty} (ht : t.RunsBuiltins) (hu : u.Within t) : u.RunsBuiltins where
  coercions := fun f hf => ht.coercions f (hu.coercions hf)
  generators := fun g hg => ht.generators g (hu.generators hg)

theorem inner {d : Decorator} {t : Ty} {m : Metadata} (ht : RunsBuiltins (.decorated d t m)) :
    t.RunsBuiltins :=
  ht.part (within_decorated d t m)

theorem member {policy : Policy} {transform : KeyTransform} {members : List (Value × Ty)}
    {m : Metadata} (ht : RunsBuiltins (.schema policy transform members m)) {e : Value × Ty}
    (he : e ∈ members) : e.2.RunsBuiltins :=
  ht.part (within_schema policy transform m he)

theorem constructor {f : Coercion} {t : Ty} {m : Metadata}
    (ht : RunsBuiltins (.decorated (.constructor [f]) t m)) : ∃ b : Builtin, f = b.toCoercion := by
  have hf := ht.coercions f (decorator_subset_gather _ t m (List.mem_singleton.2 rfl))
  obtain ⟨b, -, rfl⟩ := List.mem_map.1 hf
  exact ⟨b, rfl⟩

/-- Every function of the type is found again under its reference. -/
theorem rebuildable {t : Ty} (ht : t.RunsBuiltins) (hm : t.InOrder) : t.Rebuildable .byName where
  inOrder := hm
  coercions := fun f hf => by
    obtain ⟨b, -, rfl⟩ := List.mem_map.1 (ht.coercions f hf)
    exact records_builtin b
  generators := fun g hg => records_builtin_generator (ht.generators g hg)

end RunsBuiltins

/-- A built-in function with the name of another is that other. -/
theorem recognize_builtin (b : Builtin) (bare : Bool) (c : Builtin) :
    recognize b bare c.toCoercion = c.toCoercion := by
  unfold recognize
  split
  · next h =>
    rw [Bool.and_eq_true, beq_iff_eq] at h
    have hname : c.name = b.name := Option.some.inj h.1
    have hfound := Coercion.builtin?_name b
    rw [← hname, Coercion.builtin?_name] at hfound
    exact (Option.some.inj hfound).symm
  · rfl

/-- **With built-in functions only, compiling puts in none but those.** -/
theorem recognized_eq_self (t : Ty) (ht : t.RunsBuiltins) : t.recognized = t := by
  refine Ty.recognized.induct (fun t => t.RunsBuiltins → t.recognized = t)
    (fun members => (∀ e ∈ members, e.2.RunsBuiltins) → membersRecognized members = members)
    ?definition ?coercedSchema ?coercedArray ?decorated ?sum ?schema ?array ?map ?nil ?cons t ht
  case definition =>
    intro p m _
    rfl
  case coercedSchema =>
    intro f policy transform members k l m ih ht
    obtain ⟨c, rfl⟩ := ht.inner.constructor
    rw [recognized, recognize_builtin, ih fun e he => ht.inner.inner.member he]
  case coercedArray =>
    intro f item k l m ih ht
    obtain ⟨c, rfl⟩ := ht.inner.constructor
    rw [recognized, recognize_builtin, ih (ht.inner.inner.part (within_array item k))]
  case decorated =>
    intro d inner m hs ha ih ht
    rw [recognized, ih ht.inner]
    · exact hs
    · exact ha
  case sum =>
    intro left right m ihl ihr ht
    rw [recognized, ihl (ht.part (within_sum_left left right m)),
      ihr (ht.part (within_sum_right left right m))]
  case schema =>
    intro policy transform members m ih ht
    rw [recognized, ih fun e he => ht.member he]
  case array =>
    intro item m ih ht
    rw [recognized, ih (ht.part (within_array item m))]
  case map =>
    intro key value m ihk ihv ht
    rw [recognized, ihk (ht.part (within_map_key key value m)),
      ihv (ht.part (within_map_value key value m))]
  case nil =>
    intro _
    rfl
  case cons =>
    intro name t rest ih ihs hms
    rw [membersRecognized, ih (hms _ List.mem_cons_self),
      ihs fun e he => hms e (List.mem_cons_of_mem _ he)]

/-- Putting the stored values in order keeps a type among those. -/
theorem RunsBuiltins.reread {t : Ty} (ht : t.RunsBuiltins) : t.reread.RunsBuiltins where
  coercions := t.coercions_reread ▸ ht.coercions
  generators := t.generators_reread ▸ ht.generators

/-- The names of metadata stay where they are. -/
theorem InOrder.reread {t : Ty} (ht : t.InOrder) : t.reread.InOrder := by
  rw [InOrder, notes_reread]
  refine List.forall_mem_map.2 fun m hm => ?_
  exact List.Pairwise.map _ (fun _ _ hlt => hlt) (ht m hm)

section Travel

variable {t : Ty} {fs : Functions}

/-- The node of a type, with its values put in order, is the node of the type with its values put in
order. -/
theorem reread_toNode (t : Ty) (fs : Functions) :
    (t.toNode true fs).1.reread = (t.reread.toNode true fs).1 := by
  rw [t.toNode_reread]
  rfl

/-- **What the text of a type describes** is the type with its values put in order. -/
theorem arrives_reread (ht : t.RunsBuiltins) (hw : t.Writable) (hfs : fs.HasBuiltins)
    (hd : (t.toNode true fs).1.toJson.depth ≤ Json.maxDepth) (env : Environment)
    (htypes : env.types.HoldsStandard) (hfunctions : env.functions.HasBuiltins) :
    Node.ofText (t.toNode true fs).1.text = .ok (t.toNode true fs).1.reread ∧
      (t.toNode true fs).1.reread.compile env = .ok t.reread := by
  constructor
  · have hn := (records_writable t hw fs trivial).2.2 fs trivial trivial
    exact Node.ofText_text hn hd
  · have hrebuildable := ht.reread.rebuildable hw.inOrder.reread
    have hc :=
      (records_toNode .byName htypes t.reread hrebuildable fs hfs).2.2 env.functions hfunctions
      trivial
    rw [recognized_eq_self t.reread ht.reread] at hc
    rw [reread_toNode]
    exact hc

/-- **Types travel as texts.**  Taken apart in one place and written down, a type is read and put
together in any other place with the built-in types and functions.  The node is the one that was
written, and the type equals the one that was taken apart, metadata included, exactly if all sets
and hashes in the values of the type are in order.  No value has a NaN in it, and moments are such
that their texts tell them. -/
theorem travels_as_text (ht : t.RunsBuiltins) (hm : t.InOrder) (hnan : ∀ v ∈ t.stored, v.NoNaN)
    (hyears : ∀ v ∈ t.stored, v.PlainYears) (hclocks : ∀ v ∈ t.stored, v.PlainClocks)
    (hfs : fs.HasBuiltins) (hd : (t.toNode true fs).1.toJson.depth ≤ Json.maxDepth)
    (env : Environment) (htypes : env.types.HoldsStandard)
    (hfunctions : env.functions.HasBuiltins) :
    ∃ n u, Node.ofText (t.toNode true fs).1.text = .ok n ∧ n.compile env = .ok u ∧
      (n = (t.toNode true fs).1 ↔ ∀ v ∈ t.stored, v.Ordered) ∧
      (u.equals true t = true ↔ ∀ v ∈ t.stored, v.Ordered) := by
  have hw : t.Writable := ⟨hm, fun v hv => Value.writable_of_plain (hyears v hv) (hclocks v hv)⟩
  obtain ⟨hread, hcompile⟩ := arrives_reread ht hw hfs hd env htypes hfunctions
  have hequals := equals_reread_iff hnan
  refine ⟨_, _, hread, hcompile, ⟨fun hn => ?_, fun ho => ?_⟩, hequals⟩
  · -- the node of the type compiles to the type
    have hc :=
      (records_toNode .byName htypes t (ht.rebuildable hm) fs hfs).2.2 env.functions hfunctions
      trivial
    rw [recognized_eq_self t ht, ← hn, hcompile] at hc
    rw [← hequals, Except.ok.inj hc]
    exact t.equals_self true
  · rw [reread_toNode, reread_of_ordered ho]

end Travel

/-- A form with a text for a number, a rate of one tenth by default, and the current date.  The set
in its note holds a symbol and a text. -/
def form : Ty :=
  .decorated .safe (.decorated (.constructor [Builtin.paramsHash.toCoercion])
    (.schema .schema .identity
      [(.symbol "age", constructed .integer Builtin.paramsInteger.toCoercion),
        (.symbol "rate",
          decorate (.default (.fixed (.number (.float (Binary64.ofRatio false 1 10)))))
            (ofPrimitive .float)),
        (.symbol "on", withGenerator (ofPrimitive .date)
          ⟨"fn_date.today", some "date.today", fun now _ => .date now.date⟩)] []) [])
    [("note", .set [.symbol "form", .string "form"])]

theorem toCoercion_mem_builtins (b : Builtin) : b.toCoercion ∈ Coercion.builtins :=
  List.mem_map.2 ⟨b, by cases b <;> decide, rfl⟩

theorem runsBuiltins_form : form.RunsBuiltins where
  coercions := by
    have h : form.coercions = [Builtin.paramsHash, .paramsInteger].map Builtin.toCoercion := rfl
    rw [h]
    exact fun f hf => List.forall_mem_map.2 (fun b _ => toCoercion_mem_builtins b) f hf
  generators := fun _ hg => List.mem_cons_of_mem _ hg

theorem inOrder_form : form.InOrder := by
  have h : form.notes = [("note", .set [.symbol "form", .string "form"])] :: List.replicate 8 [] :=
    rfl
  intro m hm
  rw [h] at hm
  rcases List.mem_cons.1 hm with rfl | hm
  · exact List.pairwise_singleton _ _
  · obtain rfl := List.eq_of_mem_replicate hm
    exact List.Pairwise.nil

theorem forall_stored_form {P : Value → Prop} (hset : P (.set [.symbol "form", .string "form"]))
    (hsymbol : ∀ s, P (.symbol s)) (hrate : P (.number (.float (Binary64.ofRatio false 1 10)))) :
    ∀ v ∈ form.stored, P v := by
  have h : form.stored = [.set [.symbol "form", .string "form"], .symbol "age", .symbol "rate",
    .number (.float (Binary64.ofRatio false 1 10)), .symbol "on"] := rfl
  intro v hv
  rw [h] at hv
  simp only [List.mem_cons, List.not_mem_nil, or_false] at hv
  rcases hv with rfl | rfl | rfl | rfl | rfl
  · exact hset
  · exact hsymbol _
  · exact hsymbol _
  · exact hrate
  · exact hsymbol _

/-- The document of this form is not nested too deeply. -/
theorem depth_form : (form.toNode true Functions.standard).1.toJson.depth ≤ Json.maxDepth := by
  decide

/-- The form travels, from the standard registries to themselves. -/
theorem travels_as_text_form :
    form.RunsBuiltins ∧ form.InOrder ∧ (∀ v ∈ form.stored, v.NoNaN ∧ v.PlainYears ∧ v.PlainClocks) ∧
      ∃ n u, Node.ofText (form.toNode true Functions.standard).1.text = .ok n ∧
        n.compile ⟨TypeRegistry.standard, Functions.standard⟩ = .ok u ∧
        n = (form.toNode true Functions.standard).1 ∧ u.equals true form = true := by
  have htenth : (Number.float (Binary64.ofRatio false 1 10)).HasValue := fun h =>
    absurd (Number.float.inj h) (by decide)
  have hnan : ∀ v ∈ form.stored, v.NoNaN :=
    forall_stored_form ⟨trivial, trivial, trivial, trivial⟩ (fun _ => trivial) htenth
  have hyears : ∀ v ∈ form.stored, v.PlainYears :=
    forall_stored_form ⟨trivial, trivial, trivial, trivial⟩ (fun _ => trivial) trivial
  have hclocks : ∀ v ∈ form.stored, v.PlainClocks :=
    forall_stored_form ⟨trivial, trivial, trivial, trivial⟩ (fun _ => trivial) trivial
  have hordered : ∀ v ∈ form.stored, v.Ordered := by
    have hset : Table.Ascending [.symbol "form", .string "form"] := .cons_cons rfl (.singleton _)
    exact forall_stored_form ⟨hset, trivial, trivial, trivial⟩ (fun _ => trivial) trivial
  obtain ⟨n, u, hread, hcompile, hn, hu⟩ :=
    travels_as_text runsBuiltins_form inOrder_form hnan hyears
    hclocks Functions.hasBuiltins_standard depth_form ⟨TypeRegistry.standard, Functions.standard⟩
    TypeRegistry.holdsStandard_standard Functions.hasBuiltins_standard
  exact ⟨runsBuiltins_form, inOrder_form, fun v hv => ⟨hnan v hv, hyears v hv, hclocks v hv⟩, n, u,
    hread, hcompile, hn.2 hordered, hu.2 hordered⟩

/-! ### Out of order -/

/-- Anything, with a set for a default that a NaN has left out of order. -/
def disorderedDefault : Ty :=
  decorate (.default (.fixed .disordered)) (ofPrimitive .any)

theorem runsBuiltins_disorderedDefault : disorderedDefault.RunsBuiltins :=
  ⟨by simp [disorderedDefault, decorate, ofPrimitive, coercions, gather, Decorator.coercions],
    by simp [disorderedDefault, decorate, ofPrimitive, generators, gather, Decorator.generators]⟩

theorem inOrder_disorderedDefault : disorderedDefault.InOrder := by
  simp [InOrder, disorderedDefault, decorate, ofPrimitive, notes, gather, Named.Ascending]

/-- Without any NaN in it, the default is still read as another one. -/
theorem not_always_travels :
    disorderedDefault.RunsBuiltins ∧ disorderedDefault.InOrder ∧
      (∀ v ∈ disorderedDefault.stored, v.NoNaN ∧ v.PlainYears ∧ v.PlainClocks) ∧
      (disorderedDefault.toNode true Functions.standard).1.toJson.depth ≤ Json.maxDepth ∧
      ∃ n u, Node.ofText (disorderedDefault.toNode true Functions.standard).1.text = .ok n ∧
        n.compile ⟨TypeRegistry.standard, Functions.standard⟩ = .ok u ∧
        u.equals true disorderedDefault = false := by
  have hd : (disorderedDefault.toNode true Functions.standard).1.toJson.depth ≤ Json.maxDepth := by
    decide
  have hplain := Value.writable_of_plain Value.plainYears_disordered Value.plainClocks_disordered
  have hw : disorderedDefault.Writable :=
    ⟨inOrder_disorderedDefault, List.forall_mem_singleton.2 hplain⟩
  obtain ⟨hread, hcompile⟩ := arrives_reread runsBuiltins_disorderedDefault hw
    Functions.hasBuiltins_standard hd ⟨TypeRegistry.standard, Functions.standard⟩
    TypeRegistry.holdsStandard_standard Functions.hasBuiltins_standard
  refine ⟨runsBuiltins_disorderedDefault, inOrder_disorderedDefault, List.forall_mem_singleton.2
    ⟨Value.noNaN_disordered, Value.plainYears_disordered, Value.plainClocks_disordered⟩, hd, _, _,
    hread, hcompile, ?_⟩
  have hnan : ∀ v ∈ disorderedDefault.stored, v.NoNaN :=
    List.forall_mem_singleton.2 Value.noNaN_disordered
  rw [← Bool.not_eq_true, equals_reread_iff hnan]
  exact fun ho => Value.not_ordered_disordered (ho _ List.mem_cons_self)

end Ty

end Conform
