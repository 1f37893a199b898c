import Conform.Proofs.Respect
import Conform.Proofs.Steady
import Mathlib.Data.List.Find

/-!
# Evaluations side by side

Two evaluations on inputs that are the same run in parallel if they succeed together, with results
that are the same, or fail together.  Each step of an evaluation keeps this: putting two in a row,
going on after a failure, coercing items and entries, looking up the fields of a hash.

The functions of a type need more than that of their inputs if one of them turns values into texts:
the inputs have to be one and the same value.  Inputs of this kind are `Value.Matching`, and steps
that hand inputs on keep it.

* `Eval.Parallel` — two evaluations that succeed together with related results, or fail together.
* `Value.Matching` — the same, and identical where a difference would be visible.
* `Coercion.matching_runAll`, `matching_aliased` — functions and enumerations hand on matching
  values.
* `parallel_collect`, `parallel_assemble`, `parallel_openFields` — items, entries and fields.
-/

namespace Conform

open Value (Same)

theorem Parallel.imp {δ ε α β : Type} {R S : α → β → Prop} (hRS : ∀ a b, R a b → S a b)
    {r : Except δ α} {q : Except ε β} (h : Parallel R r q) : Parallel S r q := by
  cases h with
  | ok hab => exact .ok (hRS _ _ hab)
  | error x y => exact .error x y

/-! ## Evaluations in parallel -/

namespace Eval

variable {δ ε ζ η α β γ κ : Type} {R : α → β → Prop} {S : γ → κ → Prop}

/-- Two evaluations that succeed together with related results, or fail together, whatever the
supply. -/
def Parallel (R : α → β → Prop) (e : Eval δ α) (f : Eval ε β) : Prop :=
  ∃ r q, e.Yields r ∧ f.Yields q ∧ Conform.Parallel R r q

theorem parallel_pure {a : α} {b : β} (h : R a b) :
    Parallel R (pure a : Eval δ α) (pure b : Eval ε β) :=
  ⟨_, _, yields_pure a, yields_pure b, .ok h⟩

theorem parallel_throw (x : δ) (y : ε) : Parallel R (throw x : Eval δ α) (throw y : Eval ε β) :=
  ⟨_, _, yields_throw x, yields_throw y, .error x y⟩

theorem parallel_liftExcept {r : Except δ α} {q : Except ε β} (h : Conform.Parallel R r q) :
    Parallel R (liftM r : Eval δ α) (liftM q : Eval ε β) :=
  ⟨r, q, yields_liftExcept r, yields_liftExcept q, h⟩

/-- Computations that cannot fail are parallel if their results correspond. -/
theorem parallel_lift {m : StateM Supply α} {n : StateM Supply β} {a : α} {b : β} (hm : Steady m a)
    (hn : Steady n b) (h : R a b) : Parallel R (liftM m : Eval δ α) (liftM n : Eval ε β) :=
  ⟨_, _, yields_lift hm, yields_lift hn, .ok h⟩

/-- Two steps in a row are parallel if each of them is. -/
theorem Parallel.bind {e : Eval δ α} {f : Eval ε β} {g : α → Eval δ γ} {k : β → Eval ε κ}
    (h : Parallel R e f) (hgk : ∀ a b, R a b → Parallel S (g a) (k b)) :
    Parallel S (e >>= g) (f >>= k) := by
  obtain ⟨r, q, hr, hq, hrq⟩ := h
  cases hrq with
  | ok hab =>
    obtain ⟨r', q', hr', hq', hrq'⟩ := hgk _ _ hab
    exact ⟨r', q', hr.bind_ok hr', hq.bind_ok hq', hrq'⟩
  | error x y => exact ⟨_, _, hr.bind_error g, hq.bind_error k, .error x y⟩

/-- Handling failures keeps computations parallel. -/
theorem Parallel.recover {e : Eval δ α} {f : Eval ε β} {g : δ → Eval ζ α} {k : ε → Eval η β}
    (h : Parallel R e f) (hgk : ∀ x y, Parallel R (g x) (k y)) :
    Parallel R (e.recover g) (f.recover k) := by
  obtain ⟨r, q, hr, hq, hrq⟩ := h
  cases hrq with
  | ok hab => exact ⟨_, _, hr.recover_ok g, hq.recover_ok k, .ok hab⟩
  | error x y =>
    obtain ⟨r', q', hr', hq', hrq'⟩ := hgk x y
    exact ⟨r', q', hr.recover_error hr', hq.recover_error hq', hrq'⟩

end Eval

open Eval (Parallel parallel_pure parallel_throw parallel_lift parallel_liftExcept)

/-! ## Inputs -/

namespace Value

/-- Values that are the same, and even one value if a difference would be `visible`. -/
structure Matching (visible : Prop) (v w : Value) : Prop where
  same : v.Same w
  eq : visible → v = w

variable {visible visible' : Prop} {v w : Value}

/-- A match stays one where less is visible. -/
theorem Matching.mono (h : Matching visible v w) (himp : visible' → visible) :
    Matching visible' v w :=
  ⟨h.same, fun hv => h.eq (himp hv)⟩

theorem matching_self (h : v.NoNaN) : Matching visible v v :=
  ⟨same_self h, fun _ => rfl⟩

/-- Same values match where no text is made of them. -/
theorem Same.matching (h : v.Same w) (hv : ¬ visible) : Matching visible v w :=
  ⟨h, fun hvis => absurd hvis hv⟩

theorem matching_items {xs ys : List Value} (h : Matching visible (.array xs) (.array ys)) :
    List.Forall₂ (Matching visible) xs ys := by
  by_cases hv : visible
  · cases h.eq hv
    exact List.forall₂_same.2 fun v hmem => matching_self (everywhereIn_iff.1 h.same.left.2 v hmem)
  · exact (same_array_iff.1 h.same).imp fun _ _ hxy => hxy.matching hv

theorem matching_entries {es fs : List (Value × Value)}
    (h : Matching visible (.hash es) (.hash fs)) :
    List.Forall₂ (fun e f => Matching visible e.1 f.1 ∧ Matching visible e.2 f.2) es fs := by
  by_cases hv : visible
  · cases h.eq hv
    refine List.forall₂_same.2 fun e hmem => ?_
    obtain ⟨hkey, hvalue⟩ := everywhereAmong_iff.1 h.same.left.2 e hmem
    exact ⟨matching_self hkey, matching_self hvalue⟩
  · exact (same_hash_iff.1 h.same).imp fun _ _ hef => ⟨hef.1.matching hv, hef.2.matching hv⟩

end Value

/-! ## Functions -/

section Functions

variable {visible : Prop} {v w : Value}

open Value (Matching)

/-- A built-in function takes matching values to matching results, or fails on both. -/
theorem Builtin.matching_run (b : Builtin) (h : Matching (b = .kernelString ∨ visible) v w) :
    Parallel (Matching visible) (b.run v) (b.run w) := by
  by_cases hv : visible
  · obtain rfl := h.eq (.inr hv)
    have hpar := b.parallel_run h.same fun _ => rfl
    generalize b.run v = r at hpar ⊢
    cases hpar with
    | ok ha => exact .ok ⟨ha, fun _ => rfl⟩
    | error x _ => exact .error x x
  · exact (b.parallel_run h.same fun hb => h.eq (.inl hb)).imp fun _ _ hab => hab.matching hv

/-- **A chain of built-in functions hands on matching values.**  Its inputs have to be identical if
it turns values into texts, or if a difference is visible later on. -/
theorem Coercion.matching_runAll {fns : List Coercion} (hfns : fns ⊆ builtins)
    (h : Matching (Builtin.kernelString.toCoercion ∈ fns ∨ visible) v w) :
    Parallel (Matching visible) (runAll fns v) (runAll fns w) := by
  induction fns generalizing v w with
  | nil => exact .ok (h.mono .inr)
  | cons f rest ih =>
    obtain ⟨hf, hrest⟩ := List.cons_subset.1 hfns
    obtain ⟨b, -, rfl⟩ := List.mem_map.1 hf
    have hhead : Parallel (Matching (Builtin.kernelString.toCoercion ∈ rest ∨ visible))
        (b.toCoercion.run v) (b.toCoercion.run w) := by
      refine b.matching_run (h.mono ?_)
      rintro (rfl | hmem | hv)
      · exact .inl List.mem_cons_self
      · exact .inl (List.mem_cons_of_mem _ hmem)
      · exact .inr hv
    rw [runAll, runAll]
    generalize b.toCoercion.run v = r, b.toCoercion.run w = q at hhead ⊢
    cases hhead with
    | error x y => exact .error x y
    | @ok a c hac =>
      show Parallel (Matching visible) (if a.isUndefined then pure a else runAll rest a)
        (if c.isUndefined then pure c else runAll rest c)
      rw [hac.same.isUndefined]
      split
      · exact .ok (hac.mono .inr)
      · exact ih hrest hac

/-- Built-in functions at one address are one function. -/
theorem Coercion.eq_of_beq_builtin {f g : Coercion} (hf : f ∈ builtins) (hg : g ∈ builtins)
    (h : (f == g) = true) : f = g := by
  obtain ⟨b, -, rfl⟩ := List.mem_map.1 hf
  obtain ⟨c, -, rfl⟩ := List.mem_map.1 hg
  have haddress : "fn_" ++ b.name = "fn_" ++ c.name := beq_iff_eq.1 h
  have hname : b.name = c.name := by
    simpa [← String.toList_inj] using haddress
  exact Option.some.inj ((builtin?_name b).symm.trans ((congrArg _ hname).trans (builtin?_name c)))

/-- Functions among the built-in ones are equal only if they are the same. -/
theorem Coercion.eq_of_beq_builtins {fns gns : List Coercion} (hf : fns ⊆ builtins)
    (hg : gns ⊆ builtins) (h : (fns == gns) = true) : fns = gns := by
  induction fns generalizing gns with
  | nil => cases gns with
    | nil => rfl
    | cons g gns => cases h
  | cons f fns ih => cases gns with
    | nil => cases h
    | cons g gns =>
      obtain ⟨hfg, hrest⟩ := Bool.and_eq_true_iff.1 h
      obtain ⟨hf, hfs⟩ := List.cons_subset.1 hf
      obtain ⟨hg, hgs⟩ := List.cons_subset.1 hg
      rw [eq_of_beq_builtin hf hg hfg, ih hfs hgs hrest]

end Functions

/-! ## Enumerations -/

/-- The value that an enumeration puts in the place of an input, if it replaces it. -/
def replacement? (mapping : List (Value × Value)) (v : Value) : Option Value :=
  if mapping.any fun p => p.1 == v then none
  else (mapping.find? fun p => p.2 == v).map (·.1)

/-- An enumeration takes the replacement of a value if there is one, and else the value. -/
theorem aliased_eq (mapping : List (Value × Value)) (v : Value) :
    aliased mapping v = (replacement? mapping v).getD v := by
  unfold aliased replacement?
  split
  · rfl
  · cases mapping.find? fun p => p.2 == v <;> rfl

/-- What two lists give that are searched side by side. -/
theorem rel_find? {α : Type} {S : α → α → Prop} {f g : α → Bool} {as bs : List α}
    (hfg : ∀ a b, S a b → f a = g b) (h : List.Forall₂ S as bs) :
    Option.Rel S (as.find? f) (bs.find? g) := by
  induction h with
  | nil => exact .none
  | @cons a b _ _ hab _ ih =>
    rw [List.find?_cons, List.find?_cons, hfg a b hab]
    split
    · exact .some hab
    · exact ih

theorem forall₂_and_map_eq {α γ : Type} {S : α → α → Prop} {f g : α → γ} {as bs : List α}
    (h : List.Forall₂ S as bs) (heq : as.map f = bs.map g) :
    List.Forall₂ (fun a b => S a b ∧ f a = g b) as bs := by
  rw [← List.forall₂_eq_eq_eq, List.forall₂_map_left_iff, List.forall₂_map_right_iff] at heq
  exact h.mp (fun _ _ => And.intro) heq

section Enumerations

open Value (Matching)
open Table (Alike)

variable {ps qs : List (Value × Value)} {v w : Value}

/-- Same values are both among the keys, or neither is. -/
theorem any_key_congr (h : Alike Same ps qs) (hv : v.Same w) :
    (ps.any fun p => p.1 == v) = qs.any fun q => q.1 == w := by
  have hkeys := Predicate.any_beq_congr hv h.keys
  rwa [List.any_map, List.any_map] at hkeys

/-- Same values are replaced by same values. -/
theorem rel_replacement? (h : Alike Same ps qs) (hv : v.Same w) :
    Option.Rel Same (replacement? ps v) (replacement? qs w) := by
  rw [replacement?, replacement?, any_key_congr h hv]
  split
  · exact .none
  · have hrel := rel_find? (f := fun p => p.2 == v) (g := fun q => q.2 == w)
      (fun p q hpq => hpq.2.beq hv) h
    generalize ps.find? (fun p => p.2 == v) = p?, qs.find? (fun q => q.2 == w) = q? at hrel ⊢
    cases hrel with
    | none => exact .none
    | some hpq => exact .some hpq.1

/-- Inputs that are the same are replaced by one and the same value. -/
theorem replacement?_congr (h : Alike Same ps ps) (hv : v.Same w) :
    replacement? ps v = replacement? ps w := by
  have hfind : (ps.find? fun p => p.2 == v) = ps.find? fun p => p.2 == w :=
    List.find?_congr fun p hp => by
      have hself := List.forall₂_same.1 h p hp
      exact hself.2.beq hv
  rw [replacement?, replacement?, any_key_congr h hv, hfind]

/-- Where each alias is replaced by one value in both enumerations, each input is. -/
theorem replacement?_eq (h : Alike Same ps qs)
    (heq : (ps.map fun p => replacement? ps p.2) = qs.map fun q => replacement? qs q.2)
    (hv : v.NoNaN) : replacement? ps v = replacement? qs v := by
  have hself := Value.same_self hv
  have hrel := rel_find? (f := fun p => p.2 == v) (g := fun q => q.2 == v)
    (fun p q hpq => hpq.1.2.beq hself) (forall₂_and_map_eq h heq)
  cases hp : ps.find? fun p => p.2 == v with
  | none =>
    have hq : (qs.find? fun q => q.2 == v) = none := by
      rw [hp] at hrel
      generalize (qs.find? fun q => q.2 == v) = q? at hrel ⊢
      cases hrel
      rfl
    rw [replacement?, replacement?, any_key_congr h hself, hp, hq]
  | some p =>
    obtain ⟨q, hq, ⟨-, hpq⟩, hreplace⟩ : ∃ q, (qs.find? fun q => q.2 == v) = some q ∧
        (p.1.Same q.1 ∧ p.2.Same q.2) ∧ replacement? ps p.2 = replacement? qs q.2 := by
      rw [hp] at hrel
      generalize (qs.find? fun q => q.2 == v) = q? at hrel ⊢
      cases hrel with
      | some hpq => exact ⟨_, rfl, hpq⟩
    have hbeq := List.find?_some hp
    have hpv : p.2.Same v := Value.same_of_beq hpq.left hv hbeq
    calc replacement? ps v
        = replacement? ps p.2 := (replacement?_congr (Value.alike_left h) hpv).symm
      _ = replacement? qs q.2 := hreplace
      _ = replacement? qs v :=
        replacement?_congr (Value.alike_left (Value.alike_symm h)) (hpq.symm.trans hpv)

/-- **Enumerations hand on matching values** if they replace their aliases by the same values, or if
a difference is not visible. -/
theorem matching_aliased {visible : Prop} (h : Alike Same ps qs)
    (heq : visible → (ps.map fun p => replacement? ps p.2) = qs.map fun q => replacement? qs q.2)
    (hv : Matching visible v w) : Matching visible (aliased ps v) (aliased qs w) := by
  rw [aliased_eq, aliased_eq]
  refine ⟨?_, fun hvisible => ?_⟩
  · have hrel := rel_replacement? h hv.same
    generalize replacement? ps v = x?, replacement? qs w = y? at hrel ⊢
    cases hrel with
    | none => exact hv.same
    | some hxy => exact hxy
  · rw [hv.eq hvisible, replacement?_eq h (heq hvisible) hv.same.right]

end Enumerations

/-! ## Items and entries -/

theorem Rule.parallel_check {r s : Rule} (h : r.equals s = true) (hr : ∀ x ∈ r.values, x.NoNaN)
    (hs : ∀ x ∈ s.values, x.NoNaN) {v w : Value} (hv : v.Same w) :
    Parallel Same (r.check v) (s.check w) := by
  have hpar := parallel_evaluate h hr hs hv
  rw [check, check]
  generalize r.evaluate v = x, s.evaluate w = y at hpar ⊢
  cases hpar with
  | ok _ => exact .ok hv
  | error _ _ => exact .error _ _

section Items

variable {δ ε : Type} {visible : Prop}

open Value (Matching)

/-- Rows of items that match are collected alike. -/
theorem parallel_collect {f : Value → Eval δ Value} {g : Value → Eval ε Value}
    (hfg : ∀ x y, Matching visible x y → Eval.Parallel Same (f x) (g y)) {xs ys : List Value}
    (h : List.Forall₂ (Matching visible) xs ys) :
    Eval.Parallel (List.Forall₂ Same) (collect f xs) (collect g ys) := by
  induction h with
  | nil => exact Eval.parallel_pure .nil
  | cons hxy _ ih =>
    refine (hfg _ _ hxy).bind fun a b hab => ih.bind fun as bs habs => ?_
    rw [hab.isUndefined]
    split
    · exact Eval.parallel_pure habs
    · exact Eval.parallel_pure (.cons hab habs)

/-- Two attempts at an entry of which the same parts failed, the others with results that are the
same. -/
structure Attempt.Parallel (a b : Attempt) : Prop where
  newKey : Conform.Parallel Same a.newKey b.newKey
  newValue : Conform.Parallel Same a.newValue b.newValue

/-- Entries that match are tried with the same outcome. -/
theorem steady_attempts {visibleKey visibleValue : Prop} {f g f' g' : Value → Eval Failure Value}
    (hf : ∀ x y, Matching visibleKey x y → Eval.Parallel Same (f x) (f' y))
    (hg : ∀ x y, Matching visibleValue x y → Eval.Parallel Same (g x) (g' y))
    {es fs : List (Value × Value)}
    (h : List.Forall₂ (fun e f => Matching visibleKey e.1 f.1 ∧ Matching visibleValue e.2 f.2)
      es fs) :
    ∃ as bs, Steady (attemptEntries f g es) as ∧ Steady (attemptEntries f' g' fs) bs ∧
      List.Forall₂ Attempt.Parallel as bs := by
  induction h with
  | nil => exact ⟨[], [], Steady.pure _, Steady.pure _, .nil⟩
  | @cons e e' _ _ hef _ ih =>
    obtain ⟨as, bs, has, hbs, hpar⟩ := ih
    obtain ⟨r, q, hr, hq, hkey⟩ := hf _ _ hef.1
    obtain ⟨r', q', hr', hq', hvalue⟩ := hg _ _ hef.2
    exact ⟨⟨e.1, e.2, r, r'⟩ :: as, ⟨e'.1, e'.2, q, q'⟩ :: bs,
      Steady.bind hr (Steady.bind hr' (Steady.bind has (Steady.pure _))),
      Steady.bind hq (Steady.bind hq' (Steady.bind hbs (Steady.pure _))),
      .cons ⟨hkey, hvalue⟩ hpar⟩

namespace Attempt

variable {a b : Attempt} {as bs : List Attempt}

/-- Attempts in parallel are both free of faults, or neither is. -/
theorem Parallel.faults_eq_nil (h : a.Parallel b) : a.faults = [] ↔ b.faults = [] := by
  obtain ⟨k, v, r, r'⟩ := a
  obtain ⟨l, w, q, q'⟩ := b
  obtain ⟨hkey, hvalue⟩ := h
  cases hkey <;> cases hvalue <;> simp [faults, faultOf]

/-- Attempts in parallel make entries that are the same. -/
theorem Parallel.rel_entry (h : a.Parallel b) :
    Option.Rel (fun e f => e.1.Same f.1 ∧ e.2.Same f.2) ( entry? a) ( entry? b) := by
  obtain ⟨k, v, r, r'⟩ := a
  obtain ⟨l, w, q, q'⟩ := b
  obtain ⟨hkey, hvalue⟩ := h
  cases hkey with
  | error _ _ => exact .none
  | ok hk =>
    cases hvalue with
    | error _ _ => exact .none
    | ok hv => exact .some ⟨hk, hv⟩

theorem flatMap_faults_eq_nil (h : List.Forall₂ Attempt.Parallel as bs) :
    as.flatMap faults = [] ↔ bs.flatMap faults = [] := by
  induction h with
  | nil => rfl
  | cons hab _ ih =>
    rw [List.flatMap_cons, List.flatMap_cons, List.append_eq_nil_iff, List.append_eq_nil_iff,
      hab.faults_eq_nil, ih]

theorem alike_entries (h : List.Forall₂ Attempt.Parallel as bs) :
    Table.Alike Same (as.filterMap entry?) (bs.filterMap entry?) :=
  List.rel_filterMap (fun _ _ hab => hab.rel_entry) h

/-- **Maps are put together alike.** -/
theorem parallel_assemble (h : List.Forall₂ Attempt.Parallel as bs) :
    Conform.Parallel Same (assemble as) (assemble bs) := by
  have hnil := flatMap_faults_eq_nil h
  unfold assemble
  split
  · next has =>
    rw [hnil.1 has]
    exact .ok (Value.same_hash_iff.2 (Conversion.alike_foldl_insert (alike_entries h) .nil))
  · next has =>
    split
    · next hbs => exact absurd (hnil.2 hbs) has
    · exact .error _ _

end Attempt

end Items

/-! ## Fields of a schema -/

section Fields

variable {visible : Prop}

open Value (Matching)

/-- A transformation of keys takes same keys to same keys. -/
theorem KeyTransform.same_apply (t : KeyTransform) {k l : Value} (h : k.Same l) :
    (t.apply k).Same (t.apply l) := by
  cases t with
  | identity => exact h
  | symbolize =>
    cases h.form with
    | string s => exact Value.same_self trivial
    | _ => exact h
  | stringify =>
    cases h.form with
    | symbol s => exact Value.same_self trivial
    | _ => exact h

/-- Entries that match have fields that are alike. -/
theorem KeyTransform.alike_fields (t : KeyTransform) {es fs : List (Value × Value)}
    (h : List.Forall₂ (fun e f => Matching visible e.1 f.1 ∧ Matching visible e.2 f.2) es fs) :
    Table.Alike (Matching visible) (t.fields es) (t.fields fs) := by
  refine Table.alike_ofEntries ?_
  refine List.forall₂_map_left_iff.2 (List.forall₂_map_right_iff.2 ?_)
  exact h.imp fun e f hef => ⟨t.same_apply hef.1.same, hef.2⟩

/-- Fields that are alike have the same unknown keys. -/
theorem forall₂_unknownKeys {names names' : List Value} (hnames : List.Forall₂ Same names names')
    {es fs : List (Value × Value)} (h : Table.Alike (Matching visible) es fs) :
    List.Forall₂ Same (unknownKeys names es) (unknownKeys names' fs) := by
  refine List.rel_filter (fun k l hkl => ?_) h.keys
  simp only [Predicate.any_beq_congr hkl hnames]

/-- **The members of two schemas see fields with the same keys and matching values**, unless both
schemas refuse unknown keys. -/
theorem parallel_openFields (policy : Policy) (transform : KeyTransform) {names names' : List Value}
    (hnames : List.Forall₂ Same names names') {es fs : List (Value × Value)}
    (h : Matching visible (.hash es) (.hash fs)) :
    Parallel (Table.Alike (Matching visible)) (openFields policy transform names es)
      (openFields policy transform names' fs) := by
  have hfields := transform.alike_fields (Value.matching_entries h)
  have hempty : (unknownKeys names (transform.fields es)).isEmpty =
      (unknownKeys names' (transform.fields fs)).isEmpty := by
    rw [Bool.eq_iff_iff, List.isEmpty_iff_length_eq_zero, List.isEmpty_iff_length_eq_zero,
      (forall₂_unknownKeys hnames hfields).length_eq]
  simp only [openFields, hempty]
  split
  · exact .error _ _
  · exact .ok hfields

end Fields

end Conform
