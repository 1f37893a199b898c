import Conform.Node.OfType
import Conform.Proofs.Equality
import Conform.Proofs.Names

/-!
# References that stay good

While a type is taken apart, its functions are stored and references to them are handed out; the
registry may go on changing before such a reference is resolved.  What is said about a reference
must therefore hold in every later registry, not only in the one it came from.

* `Bookkeeping` — which registries are in good order, and what may become of one.
* `Records` — a computation keeps the order, and its result has a property in every later registry.
  There is one rule for each way to put computations together.
* `Functions.HasBuiltins`, `Bookkeeping.byName` — the order in which every built-in function is
  found under its name.
-/

namespace Conform

/-- Which registries of functions are in good order, and which may come after a given one. -/
structure Bookkeeping where
  good : Functions → Prop
  later : Functions → Functions → Prop
  refl : ∀ fs, later fs fs
  trans : ∀ {fs gs hs}, later fs gs → later gs hs → later fs hs

/-- The computation leads from a good registry to a later good one, and its result has the property
`P` in every good registry from then on. -/
def Records {α : Type} (B : Bookkeeping) (m : StateM Functions α)
    (P : α → Functions → Prop) : Prop :=
  ∀ fs, B.good fs → B.good (m fs).2 ∧ B.later fs (m fs).2 ∧
    ∀ gs, B.good gs → B.later (m fs).2 gs → P (m fs).1 gs

namespace Records

variable {α β : Type} {B : Bookkeeping}

theorem pure {a : α} {P : α → Functions → Prop} (h : ∀ gs, P a gs) : Records B (pure a) P :=
  fun fs hfs => ⟨hfs, B.refl fs, fun gs _ _ => h gs⟩

/-- What the first part established still holds when the second part is done. -/
theorem bind {m : StateM Functions α} {f : α → StateM Functions β} {P : α → Functions → Prop}
    {Q : β → Functions → Prop} (hm : Records B m P)
    (hf : ∀ a, Records B (f a) fun b gs => P a gs → Q b gs) : Records B (m >>= f) Q := by
  intro fs hfs
  obtain ⟨hgood, hlater, hP⟩ := hm fs hfs
  obtain ⟨hgood', hlater', hQ⟩ := hf (m fs).1 (m fs).2 hgood
  refine ⟨hgood', B.trans hlater hlater', ?_⟩
  intro gs hgs hle
  exact hQ gs hgs hle (hP gs hgs (B.trans hlater' hle))

/-- What is recorded under a strong condition is recorded under a weaker one. -/
theorem mono {m : StateM Functions α} {P Q : α → Functions → Prop} (hm : Records B m P)
    (h : ∀ a gs, P a gs → Q a gs) : Records B m Q := by
  intro fs hfs
  obtain ⟨hgood, hlater, hP⟩ := hm fs hfs
  exact ⟨hgood, hlater, fun gs hgs hle => h _ _ (hP gs hgs hle)⟩

end Records

/-- Any registry is good, and any may come later. -/
def Bookkeeping.any : Bookkeeping where
  good := fun _ => True
  later := fun _ _ => True
  refl := fun _ => trivial
  trans := fun _ _ => trivial

/-- What holds of the result from any registry on is recorded. -/
theorem records_any {α : Type} {m : StateM Functions α} {P : α → Prop} (h : ∀ fs, P (m fs).1) :
    Records .any m fun a _ => P a :=
  fun fs _ => ⟨trivial, trivial, fun _ _ _ => h fs⟩

/-! ## Built-in functions by name -/

/-- Every built-in function is found under its name. -/
structure Functions.HasBuiltins (fs : Functions) : Prop where
  coercions : ∀ b : Builtin, fs.coercions.get? b.name = some b.toCoercion
  generators : ∀ g ∈ Generator.builtins, fs.generators.get? g.reference = some g

/-- The standard functions include the built-in ones. -/
theorem Functions.hasBuiltins_standard : Functions.standard.HasBuiltins where
  coercions := by
    intro b
    rw [Registry.get?, standard, Registry.ofList, Named.find?_ofList]
    cases b <;> rfl
  generators := by
    intro g hg
    refine (Named.find?_ofList _ _).trans ?_
    rcases List.mem_cons.1 hg with rfl | hg
    · rfl
    · obtain rfl := List.mem_singleton.1 hg
      rfl

/-- Nothing but built-in functions under their names is asked for, so that any registry with those
will do later. -/
def Bookkeeping.byName : Bookkeeping where
  good := Functions.HasBuiltins
  later := fun _ _ => True
  refl := fun _ => trivial
  trans := fun _ _ => trivial

/-- A function that is stored already is referred to as before, and nothing changes. -/
theorem Registry.claim_stored {α : Type} [BEq α] [ReflBEq α] {r : Registry α} {reference : String}
    {a : α} (h : r.get? reference = some a) (address : String) :
    r.claim reference address a = (reference, r) := by
  rw [claim, h]
  exact if_pos (BEq.refl a)

/-- A built-in function is given its own name, and nothing is put in. -/
theorem Functions.HasBuiltins.addCoercion {fs : Functions} (h : fs.HasBuiltins) (b : Builtin) :
    addCoercion b.toCoercion fs = (b.name, fs) := by
  have hc := Registry.claim_stored (h.coercions b) b.toCoercion.address
  show ((fs.coercions.claim b.name b.toCoercion.address b.toCoercion).1,
    { fs with coercions := (fs.coercions.claim b.name b.toCoercion.address b.toCoercion).2 }) = _
  rw [hc]

/-- A built-in generator is given its own reference, and nothing is put in. -/
theorem Functions.HasBuiltins.addGenerator {fs : Functions} (h : fs.HasBuiltins) {g : Generator}
    (hg : g ∈ Generator.builtins) : addGenerator g fs = (g.reference, fs) := by
  have hc := Registry.claim_stored (h.generators g hg) g.address
  show ((fs.generators.claim g.reference g.address g).1,
    { fs with generators := (fs.generators.claim g.reference g.address g).2 }) = _
  rw [hc]

/-- A built-in function is found under what it was given. -/
theorem records_builtin (b : Builtin) : Records .byName (Functions.addCoercion b.toCoercion)
    fun reference gs => gs.coercions.get? reference = some b.toCoercion := by
  intro fs hfs
  rw [Functions.HasBuiltins.addCoercion hfs b]
  exact ⟨hfs, trivial, fun gs hgs _ => hgs.coercions b⟩

theorem records_builtin_generator {g : Generator} (hg : g ∈ Generator.builtins) :
    Records .byName (Functions.addGenerator g)
      fun reference gs => gs.generators.get? reference = some g := by
  intro fs hfs
  rw [Functions.HasBuiltins.addGenerator hfs hg]
  exact ⟨hfs, trivial, fun gs hgs _ => hgs.generators g hg⟩

end Conform
