import Conform.Proofs.Defaults
import Conform.Proofs.Issued
import Conform.Proofs.Transport

/-!
# Nodes without metadata

A type can be taken apart without its metadata, or be stripped of it and then taken apart.  Metadata
decides which nodes may be used, and both ways must come to the same one: once nothing is wanted,
and once nothing is left, no node of a family is ruled out.  Functions are stored on the way, so
that the second of two nodes is made in another registry than the first; a reference that was given
is given again.

* `Ty.gather_withoutMetadata`, `Ty.equals_withoutMetadata` — stripping keeps everything but
  metadata.
* `Ty.toNode_withoutMetadata` — the two ways are the same computation.
* `Repeats`, `Ty.repeats_toNode` — a node that is asked for again is the same in every later
  registry.
* `Ty.bare_node` — the node without metadata, in every state of a process, and what it compiles to.
-/

namespace Conform

/-! ## What stripping keeps -/

namespace Ty

/-- What a type holds beside its metadata it holds without metadata too. -/
theorem gather_withoutMetadata {α : Type} (ofDecorator : Decorator → List α)
    (ofName : Value → List α) (t : Ty) :
    t.withoutMetadata.gather ofDecorator ofName (fun _ => []) =
      t.gather ofDecorator ofName fun _ => [] := by
  induction t with
  | definition p m => rfl
  | decorated d inner m ih => simp only [withoutMetadata, gather, ih]
  | sum left right m ihl ihr => simp only [withoutMetadata, gather, ihl, ihr]
  | schema policy transform members m ih =>
    simp only [withoutMetadata, gather, List.nil_append]
    induction members with
    | nil => rfl
    | cons e rest ihs =>
      obtain ⟨name, t⟩ := e
      simp only [membersWithoutMetadata, gatherMembers, ih _ List.mem_cons_self,
        ihs fun e he => ih e (List.mem_cons_of_mem _ he)]
  | array item m ih => simp only [withoutMetadata, gather, ih]
  | map key value m ihk ihv => simp only [withoutMetadata, gather, ihk, ihv]

/-- Taking the metadata off keeps the functions. -/
theorem coercions_withoutMetadata (t : Ty) : t.withoutMetadata.coercions = t.coercions :=
  gather_withoutMetadata _ _ t

theorem generators_withoutMetadata (t : Ty) : t.withoutMetadata.generators = t.generators :=
  gather_withoutMetadata _ _ t

theorem RunsBuiltins.withoutMetadata {t : Ty} (ht : t.RunsBuiltins) :
    t.withoutMetadata.RunsBuiltins where
  coercions := t.coercions_withoutMetadata ▸ ht.coercions
  generators := t.generators_withoutMetadata ▸ ht.generators

/-- The metadata that is left is empty everywhere. -/
theorem eq_nil_of_mem_notes {t : Ty} : ∀ m ∈ t.withoutMetadata.notes, m = [] := by
  induction t with
  | definition p k => simp [withoutMetadata, notes, gather]
  | decorated d inner k ih => simpa [withoutMetadata, notes, gather] using ih
  | sum left right k ihl ihr =>
    simpa [withoutMetadata, notes, gather, or_imp, forall_and] using And.intro ihl ihr
  | schema policy transform members k ih =>
    intro m hm
    simp only [withoutMetadata, notes, gather, List.mem_append, List.mem_singleton,
      membersWithoutMetadata_eq, mem_gatherMembers, List.mem_map] at hm
    obtain rfl | ⟨-, ⟨e, he, rfl⟩, hnone | hm⟩ := hm
    · rfl
    · cases hnone
    · exact ih e he m hm
  | array item k ih => simpa [withoutMetadata, notes, gather] using ih
  | map key value k ihk ihv =>
    simpa [withoutMetadata, notes, gather, or_imp, forall_and] using And.intro ihk ihv

/-- Without metadata all metadata is in order. -/
theorem inOrder_withoutMetadata (t : Ty) : t.withoutMetadata.InOrder := by
  intro m hm
  rw [eq_nil_of_mem_notes m hm]
  exact List.Pairwise.nil

/-- A stripped type equals the type where metadata is left out of the comparison. -/
theorem equals_withoutMetadata (t : Ty) : t.withoutMetadata.equals false t = true := by
  induction t with
  | definition p m => simp [withoutMetadata, equals, agree]
  | decorated d inner m ih => simp [withoutMetadata, equals, agree, d.equals_self, ih]
  | sum left right m ihl ihr => simp [withoutMetadata, equals, agree, ihl, ihr]
  | schema policy transform members m ih =>
    have hms : membersEqual false (membersWithoutMetadata members) members = true := by
      induction members with
      | nil => rfl
      | cons e rest ihs =>
        obtain ⟨name, t⟩ := e
        rw [membersWithoutMetadata, membersEqual, Value.beq_self, ih _ List.mem_cons_self,
          ihs fun e he => ih e (List.mem_cons_of_mem _ he), Bool.and_self, Bool.and_self]
    simp [withoutMetadata, equals, agree, hms]
  | array item m ih => simp [withoutMetadata, equals, agree, ih]
  | map key value m ihk ihv => simp [withoutMetadata, equals, agree, ihk, ihv]

/-! ## The two ways to a node -/

/-- A stripped type is in a family where the type is with metadata left aside. -/
theorem inFamily_withoutMetadata (t : Ty) : t.withoutMetadata.inFamily true = t.inFamily false := by
  cases t with
  | decorated d inner m =>
    cases d with
    | safe =>
      cases inner with
      | decorated e core l =>
        cases e with
        | constructor fns => rcases fns with _ | ⟨f, _ | ⟨g, rest⟩⟩ <;> cases core <;> rfl
        | _ => rfl
      | _ => rfl
    | _ => rfl
  | _ => rfl

/-- The members of a schema without metadata have the nodes that leave it out. -/
theorem membersToNodes_withoutMetadata {members : List (Value × Ty)}
    (h : ∀ e ∈ members, e.2.withoutMetadata.toNode true = e.2.toNode false) :
    membersToNodes true (membersWithoutMetadata members) = membersToNodes false members := by
  induction members with
  | nil => rfl
  | cons e rest ih =>
    obtain ⟨ht, hrest⟩ := List.forall_mem_cons.1 h
    simp only [membersWithoutMetadata, membersToNodes, ht, ih hrest]

/-- **Stripped first or stripped on the way**: both ways store the same functions in the same order
and end with the same node. -/
theorem toNode_withoutMetadata (t : Ty) : t.withoutMetadata.toNode true = t.toNode false := by
  induction t using formsInduct false with
  | definition p m => rfl
  | jsonSchema policy transform members k m hin ih =>
    have hin' := (inFamily_withoutMetadata _).trans hin
    rw [toNode_jsonSchema hin, withoutMetadata, withoutMetadata, toNode_jsonSchema hin',
      membersToNodes_withoutMetadata ih]
    rfl
  | jsonArray item k m hin ih =>
    have hin' := (inFamily_withoutMetadata _).trans hin
    rw [toNode_jsonArray hin, withoutMetadata, withoutMetadata, toNode_jsonArray hin', ih]
    rfl
  | paramsSchema f policy transform members k l m hin ih =>
    have hin' := (inFamily_withoutMetadata _).trans hin
    rw [toNode_paramsSchema hin, withoutMetadata, withoutMetadata, withoutMetadata,
      toNode_paramsSchema hin', membersToNodes_withoutMetadata ih]
    rfl
  | paramsArray f item k l m hin ih =>
    have hin' := (inFamily_withoutMetadata _).trans hin
    rw [toNode_paramsArray hin, withoutMetadata, withoutMetadata, withoutMetadata,
      toNode_paramsArray hin', ih]
    rfl
  | decorated d inner m hin ih =>
    have hin' := (inFamily_withoutMetadata _).trans hin
    rw [toNode_decorated hin, withoutMetadata, toNode_decorated hin', ih]
    rfl
  | sum left right m ihl ihr =>
    simp only [withoutMetadata, toNode, ihl, ihr]
    rfl
  | schema policy transform members m ih =>
    simp only [withoutMetadata, toNode, membersToNodes_withoutMetadata ih]
    rfl
  | array item m ih =>
    simp only [withoutMetadata, toNode, ih]
    rfl
  | map key value m ihk ihv =>
    simp only [withoutMetadata, toNode, ihk, ihv]
    rfl

end Ty

/-! ## Asking again -/

/-- Run again in a later registry, the computation gives what it gave. -/
def Repeats {α : Type} (B : Bookkeeping) (m : StateM Functions α) : Prop :=
  Records B m fun a gs => (m gs).1 = a

namespace Repeats

variable {α β : Type} {B : Bookkeeping}

theorem pure (a : α) : Repeats B (pure a) :=
  Records.pure fun _ => rfl

/-- The second part runs again in a registry that the first part has led to again. -/
theorem bind {m : StateM Functions α} {f : α → StateM Functions β} (hm : Repeats B m)
    (hf : ∀ a, Repeats B (f a)) : Repeats B (m >>= f) := by
  intro fs hfs
  obtain ⟨hgood, hlater, hagain⟩ := hm fs hfs
  obtain ⟨hgood', hlater', hagain'⟩ := hf (m fs).1 (m fs).2 hgood
  refine ⟨hgood', B.trans hlater hlater', fun gs hgs hle => ?_⟩
  obtain ⟨hgs', hle', -⟩ := hm gs hgs
  show (f (m gs).1 (m gs).2).1 = _
  rw [hagain gs hgs (B.trans hlater' hle)]
  exact hagain' _ hgs' (B.trans hle hle')

/-- A row of steps is repeated if each of them is. -/
theorem mapM {γ : Type} {f : γ → StateM Functions α} {cs : List γ} (h : ∀ c ∈ cs, Repeats B (f c)) :
    Repeats B (cs.mapM f) := by
  induction cs with
  | nil => exact .pure []
  | cons c rest ih =>
    rw [List.mapM_cons]
    refine (h c List.mem_cons_self).bind fun a => ?_
    exact (ih fun c hc => h c (List.mem_cons_of_mem _ hc)).bind fun as => .pure _

end Repeats

section Process

variable {P : Process}

/-- A function of the process gets its reference again. -/
theorem Request.repeats_ask {r : Request} (hr : r.Of P) : Repeats (.within P) r.ask := by
  intro fs hfs
  obtain ⟨hkeeps, hle, -⟩ := asked hr hfs
  exact ⟨hkeeps, hle, fun gs _ hlater => ask_again hlater⟩

/-- The node of a decorator is repeated, as its functions are known by then. -/
theorem Decorator.repeats_toNode {d : Decorator} (hc : ∀ f ∈ d.coercions, P.coercions f)
    (hg : ∀ g ∈ d.generators, P.generators g) : Repeats (.within P) d.toNode := by
  cases d with
  | constructor fns =>
    refine (Repeats.mapM fun f hf => ?_).bind fun references => .pure _
    exact Request.repeats_ask (r := .coercion f) (hc f hf)
  | default d =>
    cases d with
    | fixed v => exact .pure _
    | drawn g =>
      have hr : (Request.generator g).Of P := hg g (List.mem_singleton.2 rfl)
      exact ((Request.repeats_ask hr).bind fun reference => .pure _).bind fun nd => .pure _
  | constrained rule => exact .pure _
  | enumeration mapping => exact .pure _
  | safe => exact .pure _
  | maybe => exact .pure _

namespace Ty

/-- All functions of the type belong to the process. -/
structure Of (P : Process) (t : Ty) : Prop where
  coercions : ∀ f ∈ t.coercions, P.coercions f
  generators : ∀ g ∈ t.generators, P.generators g

namespace Of

/-- A part of a type has its functions among those of the whole. -/
theorem part {t u : Ty} (ht : t.Of P) (hu : u.Within t) : u.Of P where
  coercions := fun f hf => ht.coercions f (hu.coercions hf)
  generators := fun g hg => ht.generators g (hu.generators hg)

theorem inner {d : Decorator} {t : Ty} {m : Metadata} (ht : Of P (.decorated d t m)) : t.Of P :=
  ht.part (within_decorated d t m)

theorem member {policy : Policy} {transform : KeyTransform} {members : List (Value × Ty)}
    {m : Metadata} (ht : Of P (.schema policy transform members m)) {e : Value × Ty}
    (he : e ∈ members) : e.2.Of P :=
  ht.part (within_schema policy transform m he)

theorem decorator {d : Decorator} {t : Ty} {m : Metadata} (ht : Of P (.decorated d t m)) :
    Repeats (.within P) d.toNode :=
  d.repeats_toNode (fun f hf => ht.coercions f (decorator_subset_gather d t m hf))
    fun g hg => ht.generators g (decorator_subset_gather d t m hg)

end Of

/-- The nodes of members are repeated if each of them is. -/
theorem repeats_membersToNodes {withMetadata : Bool} {members : List (Value × Ty)}
    (h : ∀ e ∈ members, Repeats (.within P) (e.2.toNode withMetadata)) :
    Repeats (.within P) (membersToNodes withMetadata members) := by
  induction members with
  | nil => exact .pure _
  | cons e rest ih =>
    obtain ⟨ht, hrest⟩ := List.forall_mem_cons.1 h
    rw [membersToNodes]
    exact ht.bind fun node => (ih hrest).bind fun nodes => .pure _

/-- **A type that is taken apart again has the same node**, in every registry that comes after the
one in which it was taken apart. -/
theorem repeats_toNode (withMetadata : Bool) (t : Ty) (ht : t.Of P) :
    Repeats (.within P) (t.toNode withMetadata) := by
  induction t using formsInduct withMetadata with
  | definition p m => exact .pure _
  | jsonSchema policy transform members k m hin ih =>
    rw [toNode_jsonSchema hin]
    exact (repeats_membersToNodes fun e he => ih e he (ht.inner.member he)).bind
      fun nodes => .pure _
  | jsonArray item k m hin ih =>
    rw [toNode_jsonArray hin]
    exact (ih (ht.inner.part (within_array item k))).bind fun node => .pure _
  | paramsSchema f policy transform members k l m hin ih =>
    rw [toNode_paramsSchema hin]
    exact (repeats_membersToNodes fun e he => ih e he (ht.inner.inner.member he)).bind
      fun nodes => .pure _
  | paramsArray f item k l m hin ih =>
    rw [toNode_paramsArray hin]
    exact (ih (ht.inner.inner.part (within_array item k))).bind fun node => .pure _
  | decorated d inner m hin ih =>
    rw [toNode_decorated hin]
    exact (ih ht.inner).bind fun n => ht.decorator.bind fun nd => .pure _
  | sum left right m ihl ihr =>
    rw [toNode]
    refine (ihl (ht.part (within_sum_left left right m))).bind fun l => ?_
    exact (ihr (ht.part (within_sum_right left right m))).bind fun r => .pure _
  | schema policy transform members m ih =>
    rw [toNode]
    exact (repeats_membersToNodes fun e he => ih e he (ht.member he)).bind fun nodes => .pure _
  | array item m ih =>
    rw [toNode]
    exact (ih (ht.part (within_array item m))).bind fun node => .pure _
  | map key value m ihk ihv =>
    rw [toNode]
    refine (ihk (ht.part (within_map_key key value m))).bind fun k => ?_
    exact (ihv (ht.part (within_map_value key value m))).bind fun v => .pure _

end Ty

/-! ## Nodes in the states of a process -/

/-- Whatever happens in a process, what was found is found as before. -/
theorem Action.keeps_runAll {actions : List Action}
    (h : ∀ a ∈ actions, ∀ r ∈ a.requests, r.Of P) {fs : Functions} (hfs : P.Keeps fs) :
    P.Keeps (runAll actions fs).2 ∧ fs.LeadsTo (runAll actions fs).2 := by
  rw [runAll_eq]
  refine Request.keeps_askAll (fun r hr => ?_) hfs
  obtain ⟨a, ha, hra⟩ := List.mem_flatMap.1 hr
  exact h a ha r hra

end Process

namespace Ty

/-- **The node without metadata is the node of the stripped type**, whatever happened in the process
`before` the first of them is made and in `between`, and whichever comes first.  A type with
built-in functions only comes back from it as the stripped type, which differs from the type in
metadata alone. -/
theorem bare_node (P : Process) (hc : ∀ f ∈ Coercion.builtins, P.coercions f)
    (hg : ∀ g ∈ Generator.builtins, P.generators g) {before between : List Action}
    (hbefore : ∀ a ∈ before, ∀ r ∈ a.requests, r.Of P)
    (hbetween : ∀ a ∈ between, ∀ r ∈ a.requests, r.Of P) {t : Ty} (ht : t.Of P) :
    let fs := (Action.runAll before Functions.standard).2
    let gs := (Action.runAll between (t.toNode false fs).2).2
    let stripped := t.withoutMetadata
    t.toNode false fs = stripped.toNode true fs ∧
      (t.toNode false gs).1 = (t.toNode false fs).1 ∧
      (stripped.toNode true gs).1 = (t.toNode false fs).1 ∧
      (t.RunsBuiltins → ∀ env : Environment, env.types.HoldsStandard → env.functions.HasBuiltins →
        ∃ u, (t.toNode false fs).1.compile env = .ok u ∧ u.equals true stripped = true ∧
          (u == t) = true) := by
  intro fs gs stripped
  have hsame : stripped.toNode true = t.toNode false := t.toNode_withoutMetadata
  have hstart := P.keeps_standard hc hg
  obtain ⟨hkeeps, hle⟩ := Action.keeps_runAll hbefore hstart
  obtain ⟨hkeeps', -, hagain⟩ := t.repeats_toNode false ht fs hkeeps
  obtain ⟨hgood, hlater⟩ := Action.keeps_runAll hbetween hkeeps'
  have hnode : (t.toNode false gs).1 = (t.toNode false fs).1 := hagain gs hgood hlater
  refine ⟨by rw [hsame], hnode, by rw [hsame, hnode], ?_⟩
  intro hb env htypes hfunctions
  have hfs : fs.HasBuiltins := Functions.hasBuiltins_standard.leadsTo hle
  have hr := hb.withoutMetadata.rebuildable t.inOrder_withoutMetadata
  have hcompile := (records_toNode .byName htypes stripped hr fs hfs).2.2 env.functions hfunctions
    trivial
  rw [recognized_eq_self stripped hb.withoutMetadata, hsame] at hcompile
  exact ⟨stripped, hcompile, stripped.equals_self true, t.equals_withoutMetadata⟩

/-- A form whose schema has metadata of its own, which its node without metadata need not keep. -/
def notedForm : Ty :=
  .decorated .safe (.decorated (.constructor [Builtin.paramsHash.toCoercion])
    (.schema .strict .symbolize
      [(.symbol "age", (constructed .integer Builtin.paramsInteger.toCoercion).setMetadata
        [("unit", .string "year")])] [("source", .string "form")]) []) [("note", .string "form")]

theorem runsBuiltins_notedForm : notedForm.RunsBuiltins where
  coercions := by
    have h : notedForm.coercions = [Builtin.paramsHash, .paramsInteger].map Builtin.toCoercion :=
      rfl
    rw [h]
    exact fun f hf => List.forall_mem_map.2 (fun b _ => toCoercion_mem_builtins b) f hf
  generators := by
    have h : notedForm.generators = [] := rfl
    simp [h]

/-- In a process where two functions share a name, the form has one node without metadata, a node of
its family, while its node with metadata is none. -/
theorem bare_node_notedForm :
    let twin : Request := .coercion ⟨"fn_1", some "twin", .ok⟩
    let other : Request := .coercion ⟨"fn_2", some "twin", .ok⟩
    let fs := (Action.runAll [.store twin] Functions.standard).2
    let gs := (Action.runAll [.store other] (notedForm.toNode false fs).2).2
    (∀ r ∈ [twin, other], r.Of Process.crowded) ∧ notedForm.Of Process.crowded ∧
      notedForm.RunsBuiltins ∧ (notedForm.toNode true fs).1.tag = .safe ∧
      (notedForm.toNode false fs).1.tag = .schema (some .params) ∧
      (notedForm.withoutMetadata.toNode true gs).1 = (notedForm.toNode false fs).1 ∧
      ∃ u, (notedForm.toNode false fs).1.compile
        ⟨TypeRegistry.standard, Functions.standard⟩ = .ok u ∧
        u.equals true notedForm.withoutMetadata = true ∧ (u == notedForm) = true := by
  intro twin other fs gs
  have hc : ∀ f ∈ Coercion.builtins, Process.crowded.coercions f := fun f hf => by
    simp [Process.crowded, hf]
  have hg : ∀ g ∈ Generator.builtins, Process.crowded.generators g := fun g hg => hg
  have hr : ∀ r ∈ [twin, other], r.Of Process.crowded := by
    simp [twin, other, Request.Of, Process.crowded]
  have ht : notedForm.Of Process.crowded :=
    ⟨fun f hf => hc f (runsBuiltins_notedForm.coercions f hf), runsBuiltins_notedForm.generators⟩
  have hbefore : ∀ a ∈ [Action.store twin], ∀ r ∈ a.requests, r.Of Process.crowded := by
    simpa [Action.requests] using hr twin List.mem_cons_self
  have hbetween : ∀ a ∈ [Action.store other], ∀ r ∈ a.requests, r.Of Process.crowded := by
    simpa [Action.requests] using hr other (by simp)
  have h := bare_node Process.crowded hc hg hbefore hbetween ht
  exact ⟨hr, ht, runsBuiltins_notedForm, by decide, by decide, h.2.2.1,
    h.2.2.2 runsBuiltins_notedForm
    ⟨TypeRegistry.standard, Functions.standard⟩ TypeRegistry.holdsStandard_standard
    Functions.hasBuiltins_standard⟩

end Ty

end Conform
