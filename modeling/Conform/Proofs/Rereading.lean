import Conform.Proofs.Documents
import Conform.Proofs.Equality
import Conform.Proofs.Families
import Conform.Proofs.Positions

/-!
# Types with all values put in order

Writing a type down and reading it puts the values in it in order, and nothing else changes.  So the
type that comes back can be told beforehand: `Ty.reread`.  It is taken apart into the node that is
read, and its values are those of the type, one by one, put in order.

* `Ty.reread` — the type with every value in it put in order.
* `Ty.toNode_reread` — **taking apart and putting in order can change places**.
* `Ty.gather_reread`, `Ty.stored_reread` — what the type holds, functions and generators included.
* `Ty.valuesEqual_of_equals` — types that are equal with their metadata hold equal values, one by
  one.
* `Ty.equals_reread_iff` — the type equals the one that comes back exactly if all its values are in
  order.
-/

namespace Conform

/-! ## Rules -/

/-- The operand with its value put in order. -/
def Operand.reread : Operand → Operand
  | .value v => .value v.reread
  | .pattern p => .pattern p

/-- The collection with its items put in order. -/
def Collection.reread : Collection → Collection
  | .array items => .array (Value.itemsReread items)
  | .set items => .set (Table.ofItems (Value.itemsReread items))
  | .range first last => .range first last

/-- The predicate with its operand put in order; numbers, primitives and patterns are in order. -/
def Predicate.reread : Predicate → Predicate
  | .eql v => .eql v.reread
  | .is v => .is v.reread
  | .includedIn c => .includedIn c.reread
  | .excludedFrom c => .excludedFrom c.reread
  | .includes v => .includes v.reread
  | .excludes v => .excludes v.reread
  | p => p

/-- The rule with all operands put in order. -/
def Rule.reread : Rule → Rule
  | .predicate p => .predicate p.reread
  | .and left right => .and left.reread right.reread
  | .or left right => .or left.reread right.reread

theorem Collection.toValue_reread (c : Collection) : c.reread.toValue = c.toValue.reread := by
  cases c <;> rfl

theorem Predicate.name_reread (p : Predicate) : p.reread.name = p.name := by
  cases p <;> rfl

theorem Predicate.operands_reread (p : Predicate) :
    p.reread.operands = p.operands.map Operand.reread := by
  cases p with
  | includedIn c => simp [reread, operands, Operand.reread, c.toValue_reread]
  | excludedFrom c => simp [reread, operands, Operand.reread, c.toValue_reread]
  | size bound => cases bound <;> rfl
  | _ => rfl

/-- Putting in order makes no primitive of what is none, so an operand is written the same way. -/
theorem Operand.toNode_reread (o : Operand) : o.reread.toNode = o.toNode.reread := by
  cases o with
  | pattern p => rfl
  | value v => cases v <;> rfl

/-- The node of a rule put in order is the node of the rule, put in order. -/
theorem Rule.toNode_reread (rule : Rule) : rule.reread.toNode = rule.toNode.reread := by
  induction rule with
  | predicate p =>
    have hcomp : Operand.toNode ∘ Operand.reread = ArgNode.reread ∘ Operand.toNode :=
      funext Operand.toNode_reread
    simp only [reread, toNode, RuleNode.reread, p.name_reread, p.operands_reread, List.map_map,
      hcomp]
  | and left right ihl ihr => simp only [reread, toNode, RuleNode.reread, ihl, ihr]
  | or left right ihl ihr => simp only [reread, toNode, RuleNode.reread, ihl, ihr]

/-- The values of the operands, put in order. -/
theorem Rule.values_reread (rule : Rule) : rule.reread.values = rule.values.map Value.reread := by
  induction rule with
  | predicate p =>
    simp only [reread, values, p.operands_reread, List.filterMap_map, List.map_filterMap]
    exact List.filterMap_congr fun o _ => by cases o <;> rfl
  | and left right ihl ihr => simp only [reread, values, ihl, ihr, List.map_append]
  | or left right ihl ihr => simp only [reread, values, ihl, ihr, List.map_append]

/-! ## Decorators -/

/-- The default with its value put in order. -/
def Default.reread : Default → Default
  | .fixed v => .fixed v.reread
  | .drawn g => .drawn g

/-- The decorator with all values put in order. -/
def Decorator.reread : Decorator → Decorator
  | .constrained rule => .constrained rule.reread
  | .enumeration mapping => .enumeration (pairsReread mapping)
  | .default d => .default d.reread
  | d => d

namespace Decorator

@[simp]
theorem reread_safe : safe.reread = safe := rfl

@[simp]
theorem reread_constructor (fns : List Coercion) : (constructor fns).reread = constructor fns := rfl

/-- The same functions are stored for a decorator whose values are put in order. -/
theorem toNode_reread (d : Decorator) : d.reread.toNode = NodeDecorator.reread <$> d.toNode := by
  cases d with
  | constrained rule =>
    rw [reread, toNode, rule.toNode_reread]
    rfl
  | default d => cases d <;> rfl
  | _ => rfl

/-- Putting a decorator in order keeps its functions. -/
theorem coercions_reread (d : Decorator) : d.reread.coercions = d.coercions := by
  cases d <;> rfl

theorem generators_reread (d : Decorator) : d.reread.generators = d.generators := by
  cases d with
  | default d => cases d <;> rfl
  | _ => rfl

/-- What it stores is put in order, value by value. -/
theorem stored_reread (d : Decorator) : d.reread.stored = d.stored.map Value.reread := by
  cases d with
  | constrained rule => exact rule.values_reread
  | enumeration mapping =>
    simp [reread, stored, pairsReread, List.flatMap_map, List.map_flatMap]
  | default d => cases d <;> rfl
  | _ => rfl

end Decorator

/-! ## Types -/

namespace Ty

mutual

/-- The type with all values put in order, those of metadata and the names of members included. -/
def reread : Ty → Ty
  | .definition p m => .definition p m.reread
  | .decorated d inner m => .decorated d.reread inner.reread m.reread
  | .sum left right m => .sum left.reread right.reread m.reread
  | .schema policy transform members m => .schema policy transform (membersReread members) m.reread
  | .array item m => .array item.reread m.reread
  | .map key value m => .map key.reread value.reread m.reread

/-- The same for the members of a schema. -/
def membersReread : List (Value × Ty) → List (Value × Ty)
  | [] => []
  | (name, t) :: rest => (name.reread, t.reread) :: membersReread rest

end

/-! ### Taken apart -/

/-- Whether a layer is bare does not depend on the order. -/
theorem isBare_reread (withMetadata : Bool) (m : Metadata) :
    isBare withMetadata m.reread = isBare withMetadata m := by
  cases m <;> rfl

/-- Whether the node names a family does not depend on any order. -/
theorem inFamily_reread (withMetadata : Bool) (t : Ty) :
    t.reread.inFamily withMetadata = t.inFamily withMetadata := by
  cases t with
  | decorated d inner m =>
    cases d with
    | safe =>
      cases inner with
      | schema policy transform members k => exact isBare_reread withMetadata k
      | array item k => exact isBare_reread withMetadata k
      | decorated e core l =>
        cases e with
        | constructor fns =>
          rcases fns with _ | ⟨f, _ | ⟨g, rest⟩⟩
          · rfl
          · cases core <;> simp only [reread, Decorator.reread_safe, Decorator.reread_constructor,
              inFamily, isBare_reread]
          · rfl
        | _ => rfl
      | _ => rfl
    | _ => rfl
  | _ => rfl

/-- The members of a schema put in order have the nodes of its members, put in order. -/
theorem membersToNodes_reread {members : List (Value × Ty)}
    (h : ∀ e ∈ members, e.2.reread.toNode true = Node.reread <$> e.2.toNode true) :
    membersToNodes true (membersReread members) =
      Node.membersReread <$> membersToNodes true members := by
  induction members with
  | nil => rfl
  | cons e rest ih =>
    obtain ⟨ht, hrest⟩ := List.forall_mem_cons.1 h
    simp only [membersReread, membersToNodes, ht, ih hrest]
    rfl

/-- **The node of the type with all values put in order** is the node of the type with all values
put in order, and the same functions are stored on the way. -/
theorem toNode_reread (t : Ty) : t.reread.toNode true = Node.reread <$> t.toNode true := by
  induction t using formsInduct true with
  | definition p m => rfl
  | jsonSchema policy transform members k m hin ih =>
    have hin' := (inFamily_reread true _).trans hin
    rw [toNode_jsonSchema hin, reread, Decorator.reread_safe, reread, toNode_jsonSchema hin',
      membersToNodes_reread ih]
    rfl
  | jsonArray item k m hin ih =>
    have hin' := (inFamily_reread true _).trans hin
    rw [toNode_jsonArray hin, reread, Decorator.reread_safe, reread, toNode_jsonArray hin', ih]
    rfl
  | paramsSchema f policy transform members k l m hin ih =>
    have hin' := (inFamily_reread true _).trans hin
    rw [toNode_paramsSchema hin, reread, Decorator.reread_safe, reread,
      Decorator.reread_constructor, reread, toNode_paramsSchema hin', membersToNodes_reread ih]
    rfl
  | paramsArray f item k l m hin ih =>
    have hin' := (inFamily_reread true _).trans hin
    rw [toNode_paramsArray hin, reread, Decorator.reread_safe, reread, Decorator.reread_constructor,
      reread, toNode_paramsArray hin', ih]
    rfl
  | decorated d inner m hin ih =>
    have hin' := (inFamily_reread true _).trans hin
    rw [toNode_decorated hin, reread, toNode_decorated hin', ih, d.toNode_reread]
    rfl
  | sum left right m ihl ihr =>
    simp only [reread, toNode, ihl, ihr]
    rfl
  | schema policy transform members m ih =>
    simp only [reread, toNode, membersToNodes_reread ih]
    rfl
  | array item m ih =>
    simp only [reread, toNode, ih]
    rfl
  | map key value m ihk ihv =>
    simp only [reread, toNode, ihk, ihv]
    rfl

/-! ### What the type holds -/

section Gather

variable {α β : Type} {r : α → β} {ofDecorator : Decorator → List α} {ofName : Value → List α}
  {ofNotes : Metadata → List α} {ofDecorator' : Decorator → List β} {ofName' : Value → List β}
  {ofNotes' : Metadata → List β}

/-- What is gathered from the type with all values put in order is the image of what is gathered
from the type, if it is so for each decorator, each name and all metadata. -/
theorem gather_reread (hd : ∀ d, ofDecorator' (Decorator.reread d) = (ofDecorator d).map r)
    (hname : ∀ v, ofName' (Value.reread v) = (ofName v).map r)
    (hnotes : ∀ m, ofNotes' (Metadata.reread m) = (ofNotes m).map r) (t : Ty) :
    t.reread.gather ofDecorator' ofName' ofNotes' =
      (t.gather ofDecorator ofName ofNotes).map r := by
  induction t with
  | definition p m => simp only [reread, gather, hnotes]
  | decorated d inner m ih => simp only [reread, gather, hd, hnotes, ih, List.map_append]
  | sum left right m ihl ihr => simp only [reread, gather, hnotes, ihl, ihr, List.map_append]
  | schema policy transform members m ih =>
    have hms : gatherMembers ofDecorator' ofName' ofNotes' (membersReread members) =
        (gatherMembers ofDecorator ofName ofNotes members).map r := by
      induction members with
      | nil => rfl
      | cons e rest ihs =>
        obtain ⟨name, t⟩ := e
        simp only [membersReread, gatherMembers, hname, ih _ List.mem_cons_self,
          ihs fun e he => ih e (List.mem_cons_of_mem _ he), List.map_append]
    simp only [reread, gather, hnotes, hms, List.map_append]
  | array item m ih => simp only [reread, gather, hnotes, ih, List.map_append]
  | map key value m ihk ihv => simp only [reread, gather, hnotes, ihk, ihv, List.map_append]

end Gather

/-- The functions are the same. -/
theorem coercions_reread (t : Ty) : t.reread.coercions = t.coercions := by
  refine (gather_reread (r := id) ?_ ?_ ?_ t).trans (List.map_id _)
  · exact fun d => d.coercions_reread.trans (List.map_id _).symm
  · exact fun _ => rfl
  · exact fun _ => rfl

/-- The generators are the same. -/
theorem generators_reread (t : Ty) : t.reread.generators = t.generators := by
  refine (gather_reread (r := id) ?_ ?_ ?_ t).trans (List.map_id _)
  · exact fun d => d.generators_reread.trans (List.map_id _).symm
  · exact fun _ => rfl
  · exact fun _ => rfl

/-- The metadata is the same, but for its values. -/
theorem notes_reread (t : Ty) : t.reread.notes = t.notes.map Metadata.reread := by
  refine gather_reread ?_ ?_ ?_ t
  · exact fun _ => rfl
  · exact fun _ => rfl
  · exact fun _ => rfl

/-- The values are those of the type, put in order one by one. -/
theorem stored_reread (t : Ty) : t.reread.stored = t.stored.map Value.reread :=
  gather_reread Decorator.stored_reread (fun _ => rfl)
    (fun m => by simp only [Metadata.reread, List.map_map]; rfl) t

end Ty

/-! ## Equal types hold equal values -/

/-- The items of two lists are equal values, one by one. -/
def ValuesEqual (vs ws : List Value) : Prop :=
  List.Forall₂ (fun v w => (v == w) = true) vs ws

theorem ValuesEqual.append {vs ws vs' ws' : List Value} (h : ValuesEqual vs ws)
    (h' : ValuesEqual vs' ws') : ValuesEqual (vs ++ vs') (ws ++ ws') :=
  List.rel_append h h'

/-- Mappings that are equal pair by pair store equal values. -/
theorem valuesEqual_of_pairsEqual {ps qs : List (Value × Value)} (h : pairsEqual ps qs = true) :
    ValuesEqual (ps.flatMap fun p => [p.1, p.2]) (qs.flatMap fun p => [p.1, p.2]) := by
  induction ps generalizing qs with
  | nil => cases qs with
    | nil => exact .nil
    | cons q qs => cases h
  | cons p ps ih => cases qs with
    | nil => cases h
    | cons q qs =>
      simp only [pairsEqual, Bool.and_eq_true] at h
      exact .cons h.1.1 (.cons h.1.2 (ih h.2))

theorem Metadata.valuesEqual_of_equals {m k : Metadata} (h : Metadata.equals m k = true) :
    ValuesEqual (m.map (·.2)) (k.map (·.2)) := by
  induction m generalizing k with
  | nil => cases k with
    | nil => exact .nil
    | cons f k => cases h
  | cons e m ih => cases k with
    | nil => cases h
    | cons f k =>
      simp only [Metadata.equals, Bool.and_eq_true] at h
      exact .cons h.1.2 (ih h.2)

/-- The value of an operand, if it has one. -/
def Operand.value? : Operand → Option Value
  | .value v => some v
  | .pattern _ => none

theorem Rule.values_predicate (p : Predicate) :
    (Rule.predicate p).values = p.operands.filterMap Operand.value? :=
  List.filterMap_congr fun o _ => by cases o <;> rfl

theorem valuesEqual_of_operands {os os' : List Operand} (h : (os == os') = true) :
    ValuesEqual (os.filterMap Operand.value?) (os'.filterMap Operand.value?) := by
  induction os generalizing os' with
  | nil => cases os' with
    | nil => exact .nil
    | cons o' os' => cases h
  | cons o os ih => cases os' with
    | nil => cases h
    | cons o' os' =>
      obtain ⟨ho, hrest⟩ := Bool.and_eq_true_iff.1 h
      cases o with
      | value v => cases o' with
        | value w => exact .cons ho (ih hrest)
        | pattern q => cases ho
      | pattern p => cases o' with
        | value w => cases ho
        | pattern q =>
          have hvalues := ih hrest
          exact hvalues

theorem Rule.valuesEqual_of_equals {r s : Rule} (h : r.equals s = true) :
    ValuesEqual r.values s.values := by
  induction r generalizing s with
  | predicate p =>
    cases s with
    | predicate q =>
      rw [values_predicate, values_predicate]
      exact valuesEqual_of_operands (Bool.and_eq_true_iff.1 h).2
    | _ => cases h
  | and left right ihl ihr =>
    cases s with
    | and left' right' =>
      obtain ⟨hl, hr⟩ := Bool.and_eq_true_iff.1 h
      exact (ihl hl).append (ihr hr)
    | _ => cases h
  | or left right ihl ihr =>
    cases s with
    | or left' right' =>
      obtain ⟨hl, hr⟩ := Bool.and_eq_true_iff.1 h
      exact (ihl hl).append (ihr hr)
    | _ => cases h

/-- Equal decorators store equal values. -/
theorem Decorator.valuesEqual_of_equals {d e : Decorator} (h : d.equals e = true) :
    ValuesEqual d.stored e.stored := by
  cases d with
  | constructor fns => cases e <;> first | exact .nil | cases h
  | constrained rule => cases e <;> first | exact Rule.valuesEqual_of_equals h | cases h
  | enumeration mapping => cases e <;> first | exact valuesEqual_of_pairsEqual h | cases h
  | safe => cases e <;> first | exact .nil | cases h
  | maybe => cases e <;> first | exact .nil | cases h
  | default d =>
    cases e with
    | default e =>
      cases d with
      | fixed v => cases e with
        | fixed w => exact .cons h .nil
        | drawn g => cases h
      | drawn f => cases e with
        | fixed w => cases h
        | drawn g => exact .nil
    | _ => cases h

namespace Ty

/-- Equal members store equal values if their types do. -/
theorem valuesEqual_of_membersEqual {ms ns : List (Value × Ty)}
    (ih : ∀ e ∈ ms, ∀ {u : Ty}, e.2.equals true u = true → ValuesEqual e.2.stored u.stored)
    (h : membersEqual true ms ns = true) :
    ValuesEqual (gatherMembers Decorator.stored (fun name => [name]) (fun m => m.map (·.2)) ms)
      (gatherMembers Decorator.stored (fun name => [name]) (fun m => m.map (·.2)) ns) := by
  induction ms generalizing ns with
  | nil => cases ns with
    | nil => exact .nil
    | cons f ns => cases h
  | cons e ms ihs => cases ns with
    | nil => cases h
    | cons f ns =>
      simp only [membersEqual, Bool.and_eq_true] at h
      obtain ⟨⟨hname, ht⟩, hrest⟩ := h
      exact .cons hname ((ih e List.mem_cons_self ht).append
        (ihs (fun x hx => ih x (List.mem_cons_of_mem _ hx)) hrest))

/-- **Types that are equal with their metadata hold equal values**, one by one. -/
theorem valuesEqual_of_equals {t u : Ty} (h : t.equals true u = true) :
    ValuesEqual t.stored u.stored := by
  induction t generalizing u with
  | definition p m =>
    cases u with
    | definition q k =>
      simp only [equals, agree, Bool.and_eq_true] at h
      exact Metadata.valuesEqual_of_equals h.1
    | _ => cases h
  | decorated d inner m ih =>
    cases u with
    | decorated e inner' k =>
      simp only [equals, agree, Bool.and_eq_true] at h
      exact (Metadata.valuesEqual_of_equals h.1.1).append
        ((Decorator.valuesEqual_of_equals h.1.2).append (ih h.2))
    | _ => cases h
  | sum left right m ihl ihr =>
    cases u with
    | sum left' right' k =>
      simp only [equals, agree, Bool.and_eq_true] at h
      exact (Metadata.valuesEqual_of_equals h.1.1).append ((ihl h.1.2).append (ihr h.2))
    | _ => cases h
  | schema policy transform members m ih =>
    cases u with
    | schema policy' transform' members' k =>
      simp only [equals, agree, Bool.and_eq_true] at h
      exact (Metadata.valuesEqual_of_equals h.1.1.1).append (valuesEqual_of_membersEqual ih h.2)
    | _ => cases h
  | array item m ih =>
    cases u with
    | array item' k =>
      simp only [equals, agree, Bool.and_eq_true] at h
      exact (Metadata.valuesEqual_of_equals h.1).append (ih h.2)
    | _ => cases h
  | map key value m ihk ihv =>
    cases u with
    | map key' value' k =>
      simp only [equals, agree, Bool.and_eq_true] at h
      exact (Metadata.valuesEqual_of_equals h.1.1).append ((ihk h.1.2).append (ihv h.2))
    | _ => cases h

end Ty

/-! ## Nothing to put in order -/

/-- All values of a list are in order. -/
def AllOrdered (vs : List Value) : Prop :=
  ∀ v ∈ vs, v.Ordered

theorem AllOrdered.left {vs ws : List Value} (h : AllOrdered (vs ++ ws)) : AllOrdered vs :=
  fun v hv => h v (List.mem_append_left ws hv)

theorem AllOrdered.right {vs ws : List Value} (h : AllOrdered (vs ++ ws)) : AllOrdered ws :=
  fun v hv => h v (List.mem_append_right vs hv)

theorem Metadata.reread_of_ordered {m : Metadata} (h : AllOrdered (m.map (·.2))) :
    m.reread = m := by
  refine (List.map_congr_left fun e he => ?_).trans (List.map_id m)
  rw [Value.reread_of_ordered _ (h _ (List.mem_map_of_mem he))]
  rfl

theorem pairsReread_of_ordered {ps : List (Value × Value)}
    (h : AllOrdered (ps.flatMap fun p => [p.1, p.2])) : pairsReread ps = ps := by
  refine (List.map_congr_left fun p hp => ?_).trans (List.map_id ps)
  have hmem : ∀ v ∈ [p.1, p.2], v.Ordered := fun v hv => h v (List.mem_flatMap.2 ⟨p, hp, hv⟩)
  rw [Value.reread_of_ordered _ (hmem _ (by simp)), Value.reread_of_ordered _ (hmem _ (by simp))]
  rfl

theorem Collection.reread_of_ordered {c : Collection} (h : c.toValue.Ordered) : c.reread = c := by
  cases c with
  | array items => exact congrArg Collection.array (Value.itemsReread_of_ordered items h.2)
  | set items => exact congrArg Collection.set (Value.set.inj (Value.reread_of_ordered _ h))
  | range a b => rfl

theorem Predicate.reread_of_ordered {p : Predicate} (h : AllOrdered (Rule.predicate p).values) :
    p.reread = p := by
  cases p with
  | eql v => exact congrArg Predicate.eql (Value.reread_of_ordered v (h v List.mem_cons_self))
  | is v => exact congrArg Predicate.is (Value.reread_of_ordered v (h v List.mem_cons_self))
  | includedIn c =>
    exact congrArg includedIn (Collection.reread_of_ordered (h _ List.mem_cons_self))
  | excludedFrom c =>
    exact congrArg excludedFrom (Collection.reread_of_ordered (h _ List.mem_cons_self))
  | includes v => exact congrArg includes (Value.reread_of_ordered v (h v List.mem_cons_self))
  | excludes v => exact congrArg excludes (Value.reread_of_ordered v (h v List.mem_cons_self))
  | _ => rfl

theorem Rule.reread_of_ordered {rule : Rule} (h : AllOrdered rule.values) : rule.reread = rule := by
  induction rule with
  | predicate p => rw [reread, Predicate.reread_of_ordered h]
  | and left right ihl ihr => rw [reread, ihl h.left, ihr h.right]
  | or left right ihl ihr => rw [reread, ihl h.left, ihr h.right]

/-- A decorator in order stays as it is. -/
theorem Decorator.reread_of_ordered {d : Decorator} (h : AllOrdered d.stored) : d.reread = d := by
  cases d with
  | constrained rule => rw [reread, Rule.reread_of_ordered h]
  | enumeration mapping => rw [reread, pairsReread_of_ordered h]
  | default d => cases d with
    | fixed v => rw [reread, Default.reread, Value.reread_of_ordered v (h v List.mem_cons_self)]
    | drawn g => rfl
  | _ => rfl

namespace Ty

/-- Members in order stay as they are if their types do. -/
theorem membersReread_of_ordered {members : List (Value × Ty)}
    (ih : ∀ e ∈ members, AllOrdered e.2.stored → e.2.reread = e.2)
    (h : AllOrdered (gatherMembers Decorator.stored (fun name => [name])
      (fun m => m.map (·.2)) members)) :
    membersReread members = members := by
  induction members with
  | nil => rfl
  | cons e rest ihs =>
    obtain ⟨name, t⟩ := e
    rw [membersReread, Value.reread_of_ordered name (h _ List.mem_cons_self),
      ih _ List.mem_cons_self h.right.left,
      ihs (fun e he => ih e (List.mem_cons_of_mem _ he)) h.right.right]

/-- What is in order stays as it is. -/
theorem reread_of_ordered {t : Ty} (h : AllOrdered t.stored) : t.reread = t := by
  induction t with
  | definition p m => rw [reread, Metadata.reread_of_ordered h]
  | decorated d inner m ih =>
    rw [reread, Decorator.reread_of_ordered h.right.left, ih h.right.right,
      Metadata.reread_of_ordered h.left]
  | sum left right m ihl ihr =>
    rw [reread, ihl h.right.left, ihr h.right.right, Metadata.reread_of_ordered h.left]
  | schema policy transform members m ih =>
    rw [reread, membersReread_of_ordered ih h.right, Metadata.reread_of_ordered h.left]
  | array item m ih => rw [reread, ih h.right, Metadata.reread_of_ordered h.left]
  | map key value m ihk ihv =>
    rw [reread, ihk h.right.left, ihv h.right.right, Metadata.reread_of_ordered h.left]

/-- **Putting its values in order leaves a type equal exactly if they were in order**, if none of
them has a NaN in it. -/
theorem equals_reread_iff {t : Ty} (hnan : ∀ v ∈ t.stored, v.NoNaN) :
    t.reread.equals true t = true ↔ ∀ v ∈ t.stored, v.Ordered := by
  constructor
  · intro heq v hv
    have hvalues := valuesEqual_of_equals heq
    rw [stored_reread] at hvalues
    have hequal := List.forall₂_same.1 (List.forall₂_map_left_iff.1 hvalues) v hv
    exact (Value.reread_beq_iff (hnan v hv)).1 hequal
  · intro h
    rw [reread_of_ordered h]
    exact t.equals_self true

end Ty

end Conform
