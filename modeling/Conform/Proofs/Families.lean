import Conform.Node.OfType
import Conform.Proofs.Contents

/-!
# Types whose nodes name a family

The node of a safe schema or array, with or without a function for form parameters inside, names a
family and leaves out what stands between the type and its members or items.  It does so only if no
metadata gets lost.  Every other type is taken apart layer by layer.  What is true of all nodes is
proved over these forms.

* `Ty.inFamily` — whether the node of the type names a family; one equation for each of the four
  forms.
* `Ty.toNode_decorated` — **any other decorated type is taken apart layer by layer**.
* `Ty.formsInduct` — the induction over forms: four in a family, and one for each way to build a
  type.
-/

namespace Conform

namespace Ty

/-- Whether the node of the type names a family. -/
def inFamily (withMetadata : Bool) : Ty → Bool
  | .decorated .safe (.schema _ _ _ k) _ => isBare withMetadata k
  | .decorated .safe (.array _ k) _ => isBare withMetadata k
  | .decorated .safe (.decorated (.constructor [f]) (.schema _ _ _ k) l) _ =>
    f.name == some "params.hash" && isBare withMetadata l && isBare withMetadata k
  | .decorated .safe (.decorated (.constructor [f]) (.array _ k) l) _ =>
    f.name == some "params.array" && isBare withMetadata l && isBare withMetadata k
  | _ => false

variable {withMetadata : Bool} {policy : Policy} {transform : KeyTransform}
  {members : List (Value × Ty)} {item : Ty} {f : Coercion} {k l m : Metadata}

/-! ## The forms of a family -/

/-- With metadata, only what has none is bare. -/
theorem isBare_true : isBare true m = true ↔ m = [] :=
  List.isEmpty_iff

/-- A schema inside `safe` is taken for a JSON schema exactly if it has no metadata of its own. -/
theorem inFamily_jsonSchema :
    inFamily true (.decorated .safe (.schema policy transform members k) m) = true ↔ k = [] :=
  isBare_true

theorem inFamily_jsonArray : inFamily true (.decorated .safe (.array item k) m) = true ↔ k = [] :=
  isBare_true

/-- The schema of parameters has one more layer: the function that reads a hash of parameters. -/
theorem inFamily_paramsSchema : inFamily true
    (.decorated .safe (.decorated (.constructor [f])
      (.schema policy transform members k) l) m) = true ↔
      f.name = some Builtin.paramsHash.name ∧ l = [] ∧ k = [] := by
  rw [inFamily, Bool.and_eq_true, Bool.and_eq_true, isBare_true, isBare_true, beq_iff_eq, and_assoc]
  rfl

theorem inFamily_paramsArray : inFamily true
    (.decorated .safe (.decorated (.constructor [f]) (.array item k) l) m) = true ↔
      f.name = some Builtin.paramsArray.name ∧ l = [] ∧ k = [] := by
  rw [inFamily, Bool.and_eq_true, Bool.and_eq_true, isBare_true, isBare_true, beq_iff_eq, and_assoc]
  rfl

/-- The node of a JSON schema names the family and leaves its layers out. -/
theorem toNode_jsonSchema
    (h : inFamily withMetadata (.decorated .safe (.schema policy transform members k) m)) :
    toNode withMetadata (.decorated .safe (.schema policy transform members k) m) = (do
      let nodes ← membersToNodes withMetadata members
      pure (.schema (some .json) policy transform nodes (m.onlyIf withMetadata))) := by
  have hk : isBare withMetadata k = true := h
  simp only [toNode, hk, if_true]

theorem toNode_jsonArray (h : inFamily withMetadata (.decorated .safe (.array item k) m)) :
    toNode withMetadata (.decorated .safe (.array item k) m) = (do
      let node ← item.toNode withMetadata
      pure (.array (some .json) node (m.onlyIf withMetadata))) := by
  have hk : isBare withMetadata k = true := h
  simp only [toNode, hk, if_true]

theorem toNode_paramsSchema (h : inFamily withMetadata
      (.decorated .safe (.decorated (.constructor [f]) (.schema policy transform members k) l) m)) :
    toNode withMetadata
        (.decorated .safe (.decorated (.constructor [f])
          (.schema policy transform members k) l) m) = (do
      let nodes ← membersToNodes withMetadata members
      pure (.schema (some .params) policy transform nodes (m.onlyIf withMetadata))) := by
  have hf :
      (f.name == some "params.hash" && isBare withMetadata l && isBare withMetadata k) = true := h
  simp only [toNode, hf, if_true]

theorem toNode_paramsArray (h : inFamily withMetadata
      (.decorated .safe (.decorated (.constructor [f]) (.array item k) l) m)) :
    toNode withMetadata (.decorated .safe (.decorated (.constructor [f]) (.array item k) l) m) = (do
      let node ← item.toNode withMetadata
      pure (.array (some .params) node (m.onlyIf withMetadata))) := by
  have hf :
      (f.name == some "params.array" && isBare withMetadata l && isBare withMetadata k) = true := h
  simp only [toNode, hf, if_true]

/-! ## All other forms -/

/-- **A decorated type outside the families is taken apart layer by layer.** -/
theorem toNode_decorated {d : Decorator} {inner : Ty}
    (h : inFamily withMetadata (.decorated d inner m) = false) :
    toNode withMetadata (.decorated d inner m) = (do
      let n ← inner.toNode withMetadata
      let nd ← d.toNode
      pure (.decorated nd n (m.onlyIf withMetadata))) := by
  unfold inFamily at h
  split at h
  case h_1 heq =>
    cases heq
    simp only [toNode, h]
    rfl
  case h_2 heq =>
    cases heq
    simp only [toNode, h]
    rfl
  case h_3 heq =>
    cases heq
    simp only [toNode, h]
    rfl
  case h_4 heq =>
    cases heq
    simp only [toNode, h]
    rfl
  case h_5 hs ha hcs hca =>
    rw [toNode]
    · rintro policy transform members k rfl rfl
      exact hs _ _ _ _ _ rfl
    · rintro item k rfl rfl
      exact ha _ _ _ rfl
    · rintro f policy transform members k l rfl rfl
      exact hcs _ _ _ _ _ _ _ rfl
    · rintro f item k l rfl rfl
      exact hca _ _ _ _ _ rfl

/-- **Induction over the forms of types**: those whose node names a family, and for all others one
case for each way to build a type. -/
@[elab_as_elim]
theorem formsInduct (withMetadata : Bool) {P : Ty → Prop}
    (definition : ∀ p m, P (.definition p m))
    (jsonSchema : ∀ policy transform members k m,
      inFamily withMetadata (.decorated .safe (.schema policy transform members k) m) = true →
        (∀ e ∈ members, P e.2) → P (.decorated .safe (.schema policy transform members k) m))
    (jsonArray : ∀ item k m, inFamily withMetadata (.decorated .safe (.array item k) m) = true →
      P item → P (.decorated .safe (.array item k) m))
    (paramsSchema : ∀ f policy transform members k l m, inFamily withMetadata
        (.decorated .safe (.decorated (.constructor [f])
          (.schema policy transform members k) l) m) = true →
      (∀ e ∈ members, P e.2) →
        P (.decorated .safe (.decorated (.constructor [f])
          (.schema policy transform members k) l) m))
    (paramsArray : ∀ f item k l m, inFamily withMetadata
        (.decorated .safe (.decorated (.constructor [f]) (.array item k) l) m) = true →
      P item → P (.decorated .safe (.decorated (.constructor [f]) (.array item k) l) m))
    (decorated : ∀ d inner m, inFamily withMetadata (.decorated d inner m) = false → P inner →
      P (.decorated d inner m))
    (sum : ∀ left right m, P left → P right → P (.sum left right m))
    (schema : ∀ policy transform members m, (∀ e ∈ members, P e.2) →
      P (.schema policy transform members m))
    (array : ∀ item m, P item → P (.array item m))
    (map : ∀ key value m, P key → P value → P (.map key value m)) (t : Ty) : P t := by
  refine Ty.toNode.induct P (fun members => ∀ e ∈ members, P e.2) definition ?safeSchema ?safeArray
    ?coercedSchema ?coercedArray ?layer sum schema array map ?nil ?cons t
  case safeSchema =>
    intro policy transform members k m ih
    cases h : inFamily withMetadata (.decorated .safe (.schema policy transform members k) m) with
    | true => exact jsonSchema _ _ _ _ _ h ih
    | false => exact decorated _ _ _ h (schema _ _ _ _ ih)
  case safeArray =>
    intro item k m ih
    cases h : inFamily withMetadata (.decorated .safe (.array item k) m) with
    | true => exact jsonArray _ _ _ h ih
    | false => exact decorated _ _ _ h (array _ _ ih)
  case coercedSchema =>
    intro f policy transform members k l m ih
    cases h : inFamily withMetadata
        (.decorated .safe (.decorated (.constructor [f])
          (.schema policy transform members k) l) m) with
    | true => exact paramsSchema _ _ _ _ _ _ _ h ih
    | false => exact decorated _ _ _ h (decorated _ _ _ rfl (schema _ _ _ _ ih))
  case coercedArray =>
    intro f item k l m ih
    cases h : inFamily withMetadata
        (.decorated .safe (.decorated (.constructor [f]) (.array item k) l) m) with
    | true => exact paramsArray _ _ _ _ _ h ih
    | false => exact decorated _ _ _ h (decorated _ _ _ rfl (array _ _ ih))
  case layer =>
    intro d inner m hs ha hcs hca ih
    refine decorated _ _ _ ?_ ih
    unfold inFamily
    split
    case h_1 heq =>
      cases heq
      exact (hs _ _ _ _ rfl rfl).elim
    case h_2 heq =>
      cases heq
      exact (ha _ _ rfl rfl).elim
    case h_3 heq =>
      cases heq
      exact (hcs _ _ _ _ _ _ rfl rfl).elim
    case h_4 heq =>
      cases heq
      exact (hca _ _ _ _ rfl rfl).elim
    case h_5 => rfl
  case nil =>
    intro e he
    cases he
  case cons =>
    intro name t rest ih ihs
    exact List.forall_mem_cons.2 ⟨ih, ihs⟩

end Ty

end Conform
