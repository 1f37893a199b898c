import Conform.Node.Compile
import Conform.Proofs.Families
import Conform.Proofs.References
import Conform.Proofs.Registered

/-!
# A type is rebuilt from its node

Taking a type apart and compiling the node gives the type back, with one proviso.  The node of a
family names no function: the safe schema or array behind a bare constructor is told by the name of
its one function, and the compiled type runs the built-in function of that name.

* `Ty.recognized` — the type with the functions that compiling puts in.
* `Ty.InOrder`, `Ty.InOrder.withMetadata` — the metadata of the type and of all its parts is in
  order, and stays so when more is put on it.
* `Ty.CompilesBack` — the node of a type compiles to `recognized`; one lemma for each form of type.
* `Ty.records_toNode` — the node of a type compiles to `recognized`, now and in later registries.
-/

namespace Conform

/-! ## Rules -/

/-- An operand is compiled back from its node. -/
theorem Operand.compile_toNode (o : Operand) : o.toNode.compile = .ok o := by
  cases o with
  | value v => cases v <;> rfl
  | pattern p =>
    simp only [toNode, ArgNode.compile, Pattern.ofSource?_source]

/-- A name is read off its own text: the question mark is taken off again. -/
theorem PredicateName.ofText?_text (n : PredicateName) : ofText? n.text = some n := by
  cases n <;> rfl

theorem Operand.mapM_compile_toNode (operands : List Operand) :
    (operands.map Operand.toNode).mapM ArgNode.compile = Except.ok operands := by
  induction operands with
  | nil => rfl
  | cons o rest ih =>
    rw [List.map_cons, List.mapM_cons, o.compile_toNode, ih]
    rfl

/-- A rule is compiled from its node as it was. -/
theorem Rule.compile_toNode (rule : Rule) : rule.toNode.compile = .ok rule := by
  induction rule with
  | predicate p =>
    rw [toNode, RuleNode.compile, PredicateName.ofText?_text]
    simp only [Operand.mapM_compile_toNode]
    show (do let q ← Predicate.ofOperands p.name p.operands; pure (Rule.predicate q)) = _
    rw [Predicate.ofOperands_operands]
    rfl
  | and left right ihl ihr =>
    rw [toNode, RuleNode.compile, ihl, ihr]
    rfl
  | or left right ihl ihr =>
    rw [toNode, RuleNode.compile, ihl, ihr]
    rfl

/-! ## Compiling nodes that stand for registered types -/

/-- Metadata in order is put on a type without metadata as it is. -/
theorem Ty.withMetadata_of_ascending {t : Ty} {m : Metadata} (ht : t.metadata = [])
    (hm : Named.Ascending m) : t.withMetadata m = t.setMetadata m := by
  rw [Ty.withMetadata, ht]
  exact congrArg t.setMetadata hm.ofList_eq

/-- A definition is compiled to itself: the registered type of the primitive has no metadata. -/
theorem Environment.definition_eq {env : Environment} (h : env.types.HoldsStandard)
    (p : Primitive) :
    env.definition p = .definition p [] := by
  unfold definition
  rw [h.resolve (TypeRegistry.find?_primitive p)]
  exact if_pos rfl

namespace Family

/-- The function that the coercing types of the family run first, if any. -/
def surround : Family → Builtin → Ty → Ty
  | .params, b, t => Ty.decorate (.constructor [b.toCoercion]) t
  | .json, _, t => t

/-- The hash of a family is registered as a hash in the layers of that family. -/
theorem find?_hash (family : Family) :
    Named.find? family.hashIdentifier TypeRegistry.standardTypes.reverse =
      some (Ty.decorate .safe (family.surround .paramsHash (.definition .hash []))) := by
  cases family <;> rfl

/-- The array of a family is registered as an array in the layers of that family. -/
theorem find?_array (family : Family) :
    Named.find? family.arrayIdentifier TypeRegistry.standardTypes.reverse =
      some (Ty.decorate .safe (family.surround .paramsArray (.definition .array []))) := by
  cases family <;> rfl

end Family

namespace Node

variable (env : Environment) (h : env.types.HoldsStandard)

include h

/-- A primitive is compiled from the registered type of its name. -/
theorem compile_definition (p : Primitive) {m : Metadata} (hm : Named.Ascending m) :
    (Node.definition p m).compile env = .ok (.definition p m) := by
  rw [compile, env.definition_eq h, Ty.withMetadata_of_ascending rfl hm]
  rfl

/-- The node of a family compiles to the coercing type of that family. -/
theorem compile_schema (family : Family) (policy : Policy) (transform : KeyTransform)
    {members : List (Value × Node)} {ts : List (Value × Ty)} {m : Metadata}
    (hms : compileMembers env members = .ok ts) (hm : Named.Ascending m) :
    (Node.schema (some family) policy transform members m).compile env =
      .ok (.decorated .safe (family.surround .paramsHash (.schema policy transform ts [])) m) := by
  rw [compile, hms]
  simp only [Environment.type, h.resolve family.find?_hash]
  cases family with
  | params =>
    show Except.ok (Ty.withMetadata _ m) = _
    rw [Ty.withMetadata_of_ascending rfl hm]
    rfl
  | json =>
    show Except.ok (Ty.withMetadata _ m) = _
    rw [Ty.withMetadata_of_ascending rfl hm]
    rfl

/-- An array of a family is compiled from the registered type of that family. -/
theorem compile_array (family : Family) {item : Node} {t : Ty} {m : Metadata}
    (hi : item.compile env = .ok t) (hm : Named.Ascending m) :
    (Node.array (some family) item m).compile env =
      .ok (.decorated .safe (family.surround .paramsArray (.array t [])) m) := by
  rw [compile, hi]
  simp only [Environment.type, h.resolve family.find?_array]
  cases family with
  | params =>
    show Except.ok (Ty.withMetadata _ m) = _
    rw [Ty.withMetadata_of_ascending rfl hm]
    rfl
  | json =>
    show Except.ok (Ty.withMetadata _ m) = _
    rw [Ty.withMetadata_of_ascending rfl hm]
    rfl

end Node

/-! ## The functions that compiling puts in -/

namespace Ty

/-- A function that a node of a family leaves out is the built-in one of its name from then on. -/
def recognize (b : Builtin) (bare : Bool) (f : Coercion) : Coercion :=
  if f.name == some b.name && bare then b.toCoercion else f

mutual

/-- The type with the functions that compiling its node puts in. -/
def recognized : Ty → Ty
  | .definition p m => .definition p m
  | .decorated .safe (.decorated (.constructor [f]) (.schema policy transform members k) l) m =>
    let g := recognize .paramsHash (isBare true l && isBare true k) f
    let core := Ty.schema policy transform (membersRecognized members) k
    .decorated .safe (.decorated (.constructor [g]) core l) m
  | .decorated .safe (.decorated (.constructor [f]) (.array item k) l) m =>
    let g := recognize .paramsArray (isBare true l && isBare true k) f
    .decorated .safe (.decorated (.constructor [g]) (.array item.recognized k) l) m
  | .decorated d inner m => .decorated d inner.recognized m
  | .sum left right m => .sum left.recognized right.recognized m
  | .schema policy transform members m => .schema policy transform (membersRecognized members) m
  | .array item m => .array item.recognized m
  | .map key value m => .map key.recognized value.recognized m

/-- The same for the members of a schema. -/
def membersRecognized : List (Value × Ty) → List (Value × Ty)
  | [] => []
  | (name, t) :: rest => (name, t.recognized) :: membersRecognized rest

end

/-- All metadata is in order, as the functions that build types keep it. -/
def InOrder (t : Ty) : Prop :=
  ∀ m ∈ t.notes, Named.Ascending m

/-- The notes of a type with new metadata are the new metadata and its old notes. -/
theorem mem_notes_setMetadata {t : Ty} {m k : Metadata} (h : k ∈ (t.setMetadata m).notes) :
    k = m ∨ k ∈ t.notes := by
  cases t with
  | _ =>
    simp only [setMetadata, notes, gather, List.cons_append, List.nil_append, List.mem_cons] at h ⊢
    exact h.imp_right .inr

/-- More metadata keeps the order. -/
theorem InOrder.withMetadata {t : Ty} (ht : t.InOrder) (entries : Metadata) :
    (t.withMetadata entries).InOrder := by
  intro k hk
  rcases mem_notes_setMetadata hk with rfl | hk
  · exact (ht _ (notes_subset_gather t (List.mem_singleton.2 rfl))).foldl_place entries
  · exact ht k hk

/-- What taking the type apart relies on: metadata in order, and functions whose references can be
resolved later. -/
structure Rebuildable (B : Bookkeeping) (t : Ty) : Prop where
  inOrder : t.InOrder
  coercions : ∀ f ∈ t.coercions, Records B (Functions.addCoercion f)
    fun reference gs => gs.coercions.get? reference = some f
  generators : ∀ g ∈ t.generators, Records B (Functions.addGenerator g)
    fun reference gs => gs.generators.get? reference = some g

namespace Rebuildable

variable {B : Bookkeeping}

/-- A part of a rebuildable type is rebuildable. -/
theorem part {t u : Ty} (ht : t.Rebuildable B) (hu : u.Within t) : u.Rebuildable B where
  inOrder := fun m hm => ht.inOrder m (hu.notes hm)
  coercions := fun f hf => ht.coercions f (hu.coercions hf)
  generators := fun g hg => ht.generators g (hu.generators hg)

theorem metadata {t : Ty} (ht : t.Rebuildable B) : Named.Ascending t.metadata :=
  ht.inOrder _ (notes_subset_gather t (List.mem_singleton.2 rfl))

theorem inner {d : Decorator} {t : Ty} {m : Metadata} (h : Rebuildable B (.decorated d t m)) :
    t.Rebuildable B :=
  h.part (within_decorated d t m)

theorem member {policy : Policy} {transform : KeyTransform} {members : List (Value × Ty)}
    {m : Metadata} (h : Rebuildable B (.schema policy transform members m)) {e : Value × Ty}
    (he : e ∈ members) : e.2.Rebuildable B :=
  h.part (within_schema policy transform m he)

theorem item {t : Ty} {m : Metadata} (h : Rebuildable B (.array t m)) : t.Rebuildable B :=
  h.part (within_array t m)

end Rebuildable

end Ty

/-! ## Decorators -/

section Decorators

variable {B : Bookkeeping}

/-- Functions are found again under the references that they were given. -/
theorem records_addCoercions {fns : List Coercion}
    (h : ∀ f ∈ fns, Records B (Functions.addCoercion f)
      fun reference gs => gs.coercions.get? reference = some f) (types : TypeRegistry) :
    Records B (fns.mapM Functions.addCoercion) fun references gs =>
      references.mapM (Environment.coercion ⟨types, gs⟩) = .ok fns := by
  induction fns with
  | nil =>
    rw [List.mapM_nil]
    exact .pure fun gs => rfl
  | cons f rest ih =>
    rw [List.mapM_cons]
    refine (h f List.mem_cons_self).bind fun reference => ?_
    refine (ih fun g hg => h g (List.mem_cons_of_mem f hg)).bind fun references => ?_
    refine .pure fun gs hrest hf => ?_
    rw [List.mapM_cons, hrest, Environment.coercion, hf]
    rfl

theorem records_fallback {d : Default} (h : ∀ g, d = .drawn g → Records B (Functions.addGenerator g)
      fun reference gs => gs.generators.get? reference = some g) (types : TypeRegistry) :
    Records B d.toNode fun n gs => Environment.fallback ⟨types, gs⟩ n = .ok d := by
  cases d with
  | fixed v => exact .pure fun gs => rfl
  | drawn g =>
    refine (h g rfl).bind fun reference => .pure fun gs hg => ?_
    rw [Environment.fallback, Environment.generator, hg]
    rfl

/-- The node of a decorated type compiles when that of the inner type does. -/
theorem records_decorator {d : Decorator}
    (hc : ∀ f ∈ d.coercions, Records B (Functions.addCoercion f)
      fun reference gs => gs.coercions.get? reference = some f)
    (hg : ∀ g ∈ d.generators, Records B (Functions.addGenerator g)
      fun reference gs => gs.generators.get? reference = some g) (types : TypeRegistry) :
    Records B d.toNode fun nd gs => ∀ (inner : Node) (t : Ty) (m : Metadata),
      inner.compile ⟨types, gs⟩ = .ok t →
        (Node.decorated nd inner m).compile ⟨types, gs⟩ = .ok (.decorated d t m) := by
  cases d with
  | constructor fns =>
    refine (records_addCoercions hc types).bind fun references => .pure fun gs h inner t m ht => ?_
    rw [Node.compile, ht]
    show (do let fns ← references.mapM (Environment.coercion ⟨types, gs⟩)
             pure (Ty.decorated (.constructor fns) t m)) = _
    rw [h]
    rfl
  | constrained rule =>
    refine .pure fun gs inner t m ht => ?_
    rw [Node.compile, ht, rule.compile_toNode]
    rfl
  | enumeration mapping =>
    refine .pure fun gs inner t m ht => ?_
    rw [Node.compile, ht]
    rfl
  | safe =>
    refine .pure fun gs inner t m ht => ?_
    rw [Node.compile, ht]
    rfl
  | default d =>
    have hd :=
      records_fallback (d := d) (fun g hdg => hg g (by simp [Decorator.generators, hdg])) types
    refine hd.bind fun n => .pure fun gs h inner t m ht => ?_
    rw [Node.compile, h, ht]
    rfl
  | maybe =>
    refine .pure fun gs inner t m ht => ?_
    rw [Node.compile, ht]
    rfl

end Decorators

/-! ## Types -/

namespace Ty

section Recognized

variable {b : Builtin} {policy : Policy} {transform : KeyTransform} {members : List (Value × Ty)}
  {item : Ty} {f : Coercion} {k l m : Metadata}

/-- The function by the name of a built-in one is recognized as that. -/
theorem recognize_of_name (h : f.name = some b.name) : recognize b true f = b.toCoercion :=
  if_pos (by rw [h, beq_self_eq_true, Bool.true_and])

theorem recognize_of_kept (h : (f.name == some b.name && isBare true l && isBare true k) = false) :
    recognize b (isBare true l && isBare true k) f = f := by
  rw [Bool.and_assoc] at h
  exact if_neg (Bool.eq_false_iff.1 h)

/-- In a schema of parameters the function that reads them is recognized. -/
theorem recognized_paramsSchema (h : f.name = some Builtin.paramsHash.name) :
    recognized (.decorated .safe (.decorated (.constructor [f])
      (.schema policy transform members []) []) m) =
      .decorated .safe (Family.params.surround .paramsHash
        (.schema policy transform (membersRecognized members) [])) m := by
  have hf :
      recognize .paramsHash (isBare true [] && isBare true []) f = Builtin.paramsHash.toCoercion :=
    recognize_of_name h
  rw [recognized, hf]
  rfl

theorem recognized_paramsArray (h : f.name = some Builtin.paramsArray.name) :
    recognized (.decorated .safe (.decorated (.constructor [f]) (.array item []) []) m) =
      .decorated .safe (Family.params.surround .paramsArray (.array item.recognized [])) m := by
  have hf : recognize .paramsArray (isBare true [] && isBare true []) f =
    Builtin.paramsArray.toCoercion :=
    recognize_of_name h
  rw [recognized, hf]
  rfl

/-- Outside the families the functions of the type stay. -/
theorem recognized_decorated {d : Decorator} {inner : Ty}
    (h : inFamily true (.decorated d inner m) = false) :
    recognized (.decorated d inner m) = .decorated d inner.recognized m := by
  unfold inFamily at h
  split at h
  case h_1 heq =>
    cases heq
    rfl
  case h_2 heq =>
    cases heq
    rfl
  case h_3 heq =>
    cases heq
    rw [recognized, recognize_of_kept (b := .paramsHash) h]
    rfl
  case h_4 heq =>
    cases heq
    rw [recognized, recognize_of_kept (b := .paramsArray) h]
    rfl
  case h_5 hs ha hcs hca =>
    rw [recognized]
    · rintro f policy transform members k l rfl rfl
      exact hcs _ _ _ _ _ _ _ rfl
    · rintro f item k l rfl rfl
      exact hca _ _ _ _ _ rfl

end Recognized

variable {B : Bookkeeping} {types : TypeRegistry}

/-- The node of the type compiles to the type with the functions that compiling puts in. -/
def CompilesBack (B : Bookkeeping) (types : TypeRegistry) (t : Ty) : Prop :=
  Records B (t.toNode true) fun n gs => n.compile ⟨types, gs⟩ = .ok t.recognized

/-- The same for the members of a schema. -/
def MembersCompileBack (B : Bookkeeping) (types : TypeRegistry)
    (members : List (Value × Ty)) : Prop :=
  Records B (membersToNodes true members) fun nodes gs =>
    Node.compileMembers ⟨types, gs⟩ nodes = .ok (membersRecognized members)

/-- A decorator is compiled back around whatever is compiled inside. -/
theorem Rebuildable.records_decorator {d : Decorator} {inner : Ty} {m : Metadata}
    (ht : Rebuildable B (.decorated d inner m)) (types : TypeRegistry) :
    Records B d.toNode fun nd gs => ∀ (n : Node) (t : Ty) (k : Metadata),
      n.compile ⟨types, gs⟩ = .ok t →
        (Node.decorated nd n k).compile ⟨types, gs⟩ = .ok (.decorated d t k) :=
  Conform.records_decorator (fun f hf => ht.coercions f (decorator_subset_gather d inner m hf))
    (fun g hg => ht.generators g (decorator_subset_gather d inner m hg)) types

section Forms

variable {policy : Policy} {transform : KeyTransform} {members : List (Value × Ty)}
  {item left right key value : Ty} {f : Coercion} {m : Metadata}

/-- The members of a schema are compiled back if each of them is. -/
theorem membersCompileBack (h : ∀ e ∈ members, CompilesBack B types e.2) :
    MembersCompileBack B types members := by
  induction members with
  | nil => exact .pure fun gs => rfl
  | cons e rest ih =>
    obtain ⟨ht, hrest⟩ := List.forall_mem_cons.1 h
    rw [MembersCompileBack, membersToNodes]
    refine ht.bind fun node => (ih hrest).bind fun nodes => .pure fun gs hns hn => ?_
    rw [Node.compileMembers, hn, hns]
    rfl

/-- A primitive is compiled back. -/
theorem compilesBack_definition (h : types.HoldsStandard) (p : Primitive) (hm : Named.Ascending m) :
    CompilesBack B types (.definition p m) := by
  rw [CompilesBack, toNode]
  exact .pure fun gs => Node.compile_definition ⟨types, gs⟩ h p hm

/-- A JSON schema is compiled back if its members are. -/
theorem compilesBack_jsonSchema (h : types.HoldsStandard) (hm : Named.Ascending m)
    (hms : MembersCompileBack B types members) :
    CompilesBack B types (.decorated .safe (.schema policy transform members []) m) := by
  rw [CompilesBack, toNode_jsonSchema rfl]
  exact Records.bind hms fun nodes => .pure fun gs hns =>
    Node.compile_schema ⟨types, gs⟩ h .json policy transform hns hm

/-- A JSON array is compiled back if its items are. -/
theorem compilesBack_jsonArray (h : types.HoldsStandard) (hm : Named.Ascending m)
    (hi : CompilesBack B types item) :
    CompilesBack B types (.decorated .safe (.array item []) m) := by
  rw [CompilesBack, toNode_jsonArray rfl]
  exact hi.bind fun node => .pure fun gs hn => Node.compile_array ⟨types, gs⟩ h .json hn hm

/-- The function that the node of the family leaves out is the built-in one from then on. -/
theorem compilesBack_paramsSchema (h : types.HoldsStandard) (hm : Named.Ascending m)
    (hf : f.name = some Builtin.paramsHash.name) (hms : MembersCompileBack B types members) :
    CompilesBack B types
      (.decorated .safe (.decorated (.constructor [f])
        (.schema policy transform members []) []) m) := by
  rw [CompilesBack, toNode_paramsSchema (inFamily_paramsSchema.2 ⟨hf, rfl, rfl⟩),
    recognized_paramsSchema hf]
  exact Records.bind hms fun nodes => .pure fun gs hns =>
    Node.compile_schema ⟨types, gs⟩ h .params policy transform hns hm

/-- An array of parameters is compiled back if its items are. -/
theorem compilesBack_paramsArray (h : types.HoldsStandard) (hm : Named.Ascending m)
    (hf : f.name = some Builtin.paramsArray.name) (hi : CompilesBack B types item) :
    CompilesBack B types (.decorated .safe (.decorated (.constructor [f])
      (.array item []) []) m) := by
  rw [CompilesBack, toNode_paramsArray (inFamily_paramsArray.2 ⟨hf, rfl, rfl⟩),
    recognized_paramsArray hf]
  exact hi.bind fun node => .pure fun gs hn => Node.compile_array ⟨types, gs⟩ h .params hn hm

/-- A type outside the families compiles layer by layer. -/
theorem compilesBack_decorated {d : Decorator} {inner : Ty}
    (ht : Rebuildable B (.decorated d inner m)) (h : inFamily true (.decorated d inner m) = false)
    (hi : CompilesBack B types inner) :
    CompilesBack B types (.decorated d inner m) := by
  rw [CompilesBack, toNode_decorated h, recognized_decorated h]
  exact hi.bind fun n => (ht.records_decorator types).bind fun nd =>
    .pure fun gs hnd hn => hnd n _ m hn

/-- A sum is compiled back if both sides are. -/
theorem compilesBack_sum (hl : CompilesBack B types left) (hr : CompilesBack B types right) :
    CompilesBack B types (.sum left right m) := by
  rw [CompilesBack, toNode]
  refine hl.bind fun l => hr.bind fun r => .pure fun gs hr hl => ?_
  rw [Node.compile, hl, hr]
  rfl

/-- A plain schema is compiled back if its members are. -/
theorem compilesBack_schema (hms : MembersCompileBack B types members) :
    CompilesBack B types (.schema policy transform members m) := by
  rw [CompilesBack, toNode]
  refine Records.bind hms fun nodes => .pure fun gs hns => ?_
  rw [Node.compile, hns]
  rfl

/-- A plain array is compiled back if its items are. -/
theorem compilesBack_array (hi : CompilesBack B types item) :
    CompilesBack B types (.array item m) := by
  rw [CompilesBack, toNode]
  refine hi.bind fun node => .pure fun gs hn => ?_
  rw [Node.compile, hn]
  rfl

/-- A map is compiled back if its keys and values are. -/
theorem compilesBack_map (hk : CompilesBack B types key) (hv : CompilesBack B types value) :
    CompilesBack B types (.map key value m) := by
  rw [CompilesBack, toNode]
  refine hk.bind fun k => hv.bind fun v => .pure fun gs hv hk => ?_
  rw [Node.compile, hk, hv]
  rfl

end Forms

/-- **The node of a type compiles to the type**, but for the functions that nodes of a family leave
out. -/
theorem records_toNode (B : Bookkeeping) {types : TypeRegistry} (h : types.HoldsStandard) (t : Ty)
    (ht : t.Rebuildable B) : Records B (t.toNode true) fun n gs =>
      n.compile ⟨types, gs⟩ = .ok t.recognized := by
  show CompilesBack B types t
  induction t using formsInduct true with
  | definition p m => exact compilesBack_definition h p ht.metadata
  | jsonSchema policy transform members k m hin ih =>
    obtain rfl := inFamily_jsonSchema.1 hin
    have hms := membersCompileBack fun e he => ih e he (ht.inner.member he)
    exact compilesBack_jsonSchema h ht.metadata hms
  | jsonArray item k m hin ih =>
    obtain rfl := inFamily_jsonArray.1 hin
    exact compilesBack_jsonArray h ht.metadata (ih ht.inner.item)
  | paramsSchema f policy transform members k l m hin ih =>
    obtain ⟨hf, rfl, rfl⟩ := inFamily_paramsSchema.1 hin
    have hms := membersCompileBack fun e he => ih e he (ht.inner.inner.member he)
    exact compilesBack_paramsSchema h ht.metadata hf hms
  | paramsArray f item k l m hin ih =>
    obtain ⟨hf, rfl, rfl⟩ := inFamily_paramsArray.1 hin
    exact compilesBack_paramsArray h ht.metadata hf (ih ht.inner.inner.item)
  | decorated d inner m hin ih => exact compilesBack_decorated ht hin (ih ht.inner)
  | sum left right m ihl ihr =>
    exact compilesBack_sum (ihl (ht.part (within_sum_left left right m)))
      (ihr (ht.part (within_sum_right left right m)))
  | schema policy transform members m ih =>
    exact compilesBack_schema (membersCompileBack fun e he => ih e he (ht.member he))
  | array item m ih => exact compilesBack_array (ih ht.item)
  | map key value m ihk ihv =>
    exact compilesBack_map (ihk (ht.part (within_map_key key value m)))
      (ihv (ht.part (within_map_value key value m)))

end Ty

end Conform
