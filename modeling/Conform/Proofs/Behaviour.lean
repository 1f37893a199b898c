import Conform.Proofs.Agreement
import Conform.Proofs.Parallel
import Conform.Ty.Combinators
import Conform.Ty.Equality

/-!
# Equal types behave alike

Two types that equality takes for one may still hold different values, zeros of either sign and
moments of other clocks.  What they do is the same but for that: one accepts what the other accepts,
and the results are equal.

There is one way for such a difference to come out.  An enumeration hands a value that it holds to
the type inside it in place of an alias, and if that type turns values into texts it sees which zero
it was given.  So both enumerations have to put one and the same value there.

* `Ty.Static` — built-in functions, fixed defaults, and no NaN.
* `Ty.ReplacesAlike` — enumerations around a conversion into text replace aliases by the same
  values.
* `Ty.Corresponds` — equal types with both of these, form by form.
* `Ty.parallel_evaluations` — such types on values that are the same.
* `Ty.equal_types_behave_alike` — **equal types accept the same values with equal results**.
-/

namespace Conform

open Value (Same Matching)

/-- Two enumerations replace each of their aliases by one and the same value, if a difference would
be `visible`. -/
def Decorator.ReplacesAlike (visible : Prop) : Decorator → Decorator → Prop
  | .enumeration ps, .enumeration qs =>
    visible → (ps.map fun p => replacement? ps p.2) = qs.map fun q => replacement? qs q.2
  | _, _ => True

namespace Ty

/-- Every value that decides what a type does: those of its decorators and the names of members. -/
def held (t : Ty) : List Value :=
  t.gather Decorator.stored (fun name => [name]) (fun _ => [])

/-- The conversion of values into texts is among the functions of the type. -/
def RunsText (t : Ty) : Prop :=
  Builtin.kernelString.toCoercion ∈ t.coercions

/-- A type of built-in functions, without generators and without NaN; what its metadata holds does
not matter. -/
structure Static (t : Ty) : Prop where
  coercions : t.coercions ⊆ Coercion.builtins
  generators : t.generators = []
  noNaN : ∀ v ∈ t.held, v.NoNaN

mutual

/-- In two types of one form, enumerations at the same place around a conversion into text replace
their aliases by the same values. -/
def ReplacesAlike : Ty → Ty → Prop
  | .decorated d s _, .decorated e t _ => d.ReplacesAlike s.RunsText e ∧ s.ReplacesAlike t
  | .sum a b _, .sum c d _ => a.ReplacesAlike c ∧ b.ReplacesAlike d
  | .schema _ _ as _, .schema _ _ bs _ => MembersReplaceAlike as bs
  | .array s _, .array t _ => s.ReplacesAlike t
  | .map a b _, .map c d _ => a.ReplacesAlike c ∧ b.ReplacesAlike d
  | _, _ => True

/-- The same for the members of two schemas. -/
def MembersReplaceAlike : List (Value × Ty) → List (Value × Ty) → Prop
  | (_, s) :: as, (_, t) :: bs => s.ReplacesAlike t ∧ MembersReplaceAlike as bs
  | _, _ => True

end

/-! ## Corresponding types -/

/-- Equal types of built-in functions and fixed values whose enumerations replace aliases alike. -/
structure Corresponds (t u : Ty) : Prop where
  equal : t.equals false u = true
  left : t.Static
  right : u.Static
  replaces : t.ReplacesAlike u

/-- A part holds no value that the whole does not hold. -/
theorem Within.held {u t : Ty} (h : u.Within t) : u.held ⊆ t.held := h _ _ _ _

theorem Static.part {t u : Ty} (ht : t.Static) (hu : u.Within t) : u.Static where
  coercions := List.Subset.trans hu.coercions ht.coercions
  generators := List.eq_nil_of_subset_nil (ht.generators ▸ hu.generators)
  noNaN v hv := ht.noNaN v (hu.held hv)

/-- The generators of a static type are fixed, as there are none. -/
theorem Static.fixed {t : Ty} (ht : t.Static) : ∀ g ∈ t.generators, g.IsFixed := by
  rw [ht.generators]
  exact nofun

/-- What makes a text inside a part makes one inside the whole. -/
theorem Within.runsText {u t : Ty} (h : u.Within t) (hu : u.RunsText) : t.RunsText :=
  h.coercions hu

namespace Corresponds

variable {u : Ty} {m : Metadata}

theorem definition {p : Primitive} (h : Corresponds (.definition p m) u) :
    ∃ k, u = .definition p k := by
  cases u with
  | definition q k =>
    obtain rfl : p = q := beq_iff_eq.1 h.equal
    exact ⟨k, rfl⟩
  | _ => cases h.equal

/-- What corresponds to a decorated type is decorated alike. -/
theorem decorated {d : Decorator} {s : Ty} (h : Corresponds (.decorated d s m) u) :
    ∃ e t k, u = .decorated e t k ∧ d.equals e = true ∧ d.ReplacesAlike s.RunsText e ∧
      Corresponds s t := by
  cases u with
  | decorated e t k =>
    obtain ⟨hde, hst⟩ := Bool.and_eq_true_iff.1 h.equal
    exact ⟨e, t, k, rfl, hde, h.replaces.1, hst, h.left.part (within_decorated d s m),
      h.right.part (within_decorated e t k), h.replaces.2⟩
  | _ => cases h.equal

/-- What corresponds to a sum is a sum, side by side. -/
theorem sum {a b : Ty} (h : Corresponds (.sum a b m) u) :
    ∃ c d k, u = .sum c d k ∧ Corresponds a c ∧ Corresponds b d := by
  cases u with
  | sum c d k =>
    obtain ⟨hac, hbd⟩ := Bool.and_eq_true_iff.1 h.equal
    exact ⟨c, d, k, rfl,
      ⟨hac, h.left.part (within_sum_left a b m), h.right.part (within_sum_left c d k),
        h.replaces.1⟩,
      ⟨hbd, h.left.part (within_sum_right a b m), h.right.part (within_sum_right c d k),
        h.replaces.2⟩⟩
  | _ => cases h.equal

/-- What corresponds to an array is one, with items that correspond. -/
theorem array {s : Ty} (h : Corresponds (.array s m) u) :
    ∃ t k, u = .array t k ∧ Corresponds s t := by
  cases u with
  | array t k =>
    exact ⟨t, k, rfl, h.equal, h.left.part (within_array s m), h.right.part (within_array t k),
      h.replaces⟩
  | _ => cases h.equal

/-- What corresponds to a map is one, with keys and values that correspond. -/
theorem map {a b : Ty} (h : Corresponds (.map a b m) u) :
    ∃ c d k, u = .map c d k ∧ Corresponds a c ∧ Corresponds b d := by
  cases u with
  | map c d k =>
    obtain ⟨hac, hbd⟩ := Bool.and_eq_true_iff.1 h.equal
    exact ⟨c, d, k, rfl,
      ⟨hac, h.left.part (within_map_key a b m), h.right.part (within_map_key c d k), h.replaces.1⟩,
      ⟨hbd, h.left.part (within_map_value a b m), h.right.part (within_map_value c d k),
        h.replaces.2⟩⟩
  | _ => cases h.equal

/-- Members of equal schemas correspond one by one. -/
theorem members {as bs : List (Value × Ty)} (h : membersEqual false as bs = true)
    (hr : MembersReplaceAlike as bs) (ha : ∀ e ∈ as, e.1.NoNaN ∧ e.2.Static)
    (hb : ∀ e ∈ bs, e.1.NoNaN ∧ e.2.Static) : Table.Alike Corresponds as bs := by
  induction as generalizing bs with
  | nil => cases bs with
    | nil => exact .nil
    | cons f bs => cases h
  | cons e as ih => cases bs with
    | nil => cases h
    | cons f bs =>
      obtain ⟨hef, h⟩ := Bool.and_eq_true_iff.1 h
      obtain ⟨hname, hequal⟩ := Bool.and_eq_true_iff.1 hef
      obtain ⟨⟨hnane, hstatice⟩, has⟩ := List.forall_mem_cons.1 ha
      obtain ⟨⟨hnanf, hstaticf⟩, hbs⟩ := List.forall_mem_cons.1 hb
      exact .cons ⟨Value.same_of_beq hnane hnanf hname, hequal, hstatice, hstaticf, hr.1⟩
        (ih h hr.2 has hbs)

/-- What corresponds to a schema has the same policy and members that correspond. -/
theorem schema {policy : Policy} {transform : KeyTransform} {as : List (Value × Ty)}
    (h : Corresponds (.schema policy transform as m) u) :
    ∃ bs k, u = .schema policy transform bs k ∧ Table.Alike Corresponds as bs := by
  have hparts {ms : List (Value × Ty)} {k : Metadata}
    (hs : Static (.schema policy transform ms k)) :
      ∀ e ∈ ms, e.1.NoNaN ∧ e.2.Static := fun e he =>
    ⟨hs.noNaN e.1 (name_subset_gather policy transform k he List.mem_cons_self),
      hs.part (within_schema policy transform k he)⟩
  cases u with
  | schema policy' transform' bs k =>
    obtain ⟨hform, hmembers⟩ := Bool.and_eq_true_iff.1 h.equal
    obtain ⟨hpolicy, htransform⟩ := Bool.and_eq_true_iff.1 hform
    obtain rfl : policy = policy' := beq_iff_eq.1 hpolicy
    obtain rfl : transform = transform' := beq_iff_eq.1 htransform
    exact ⟨bs, k, rfl, members hmembers h.replaces (hparts h.left) (hparts h.right)⟩
  | _ => cases h.equal

end Corresponds

/-! ## Behaving alike -/

/-- Both evaluations of two types run in parallel on inputs that are the same, and identical if the
types turn values into texts. -/
structure BehavesLike (t u : Ty) : Prop where
  apply : ∀ {v w : Value}, Matching t.RunsText v w → Eval.Parallel Same (t.apply v) (u.apply w)
  tryApply : ∀ {v w : Value}, Matching t.RunsText v w →
    Eval.Parallel Same (t.tryApply v) (u.tryApply w)

open Eval (parallel_pure parallel_throw parallel_lift parallel_liftExcept)

/-- A failure that is blamed on an input is a failure still. -/
theorem parallel_blame {α β : Type} {R : α → β → Prop} {e : Eval CoercionError α}
    {f : Eval CoercionError β} (h : Eval.Parallel R e f) (v w : Value) :
    Eval.Parallel R (Eval.blame v e) (Eval.blame w f) :=
  h.recover fun _ _ => parallel_throw _ _

section Decorated

variable {s t : Ty} {m k : Metadata} {v w : Value}

theorem behavesLike_definition (p : Primitive) :
    BehavesLike (.definition p m) (.definition p k) where
  apply h := parallel_pure h.same
  tryApply {v w} h := by
    simp only [tryApply, h.same.admits p]
    split
    · exact parallel_pure h.same
    · exact parallel_throw _ _

/-- What matches for a decorated type matches for the type inside. -/
theorem matching_inner {d : Decorator} (h : Matching (RunsText (.decorated d s m)) v w) :
    Matching s.RunsText v w :=
  h.mono (within_decorated d s m).runsText

/-- Built-in functions hand on what matches, so types with the same functions behave alike. -/
theorem behavesLike_constructor {fns : List Coercion} (hfns : fns ⊆ Coercion.builtins)
    (h : BehavesLike s t) :
    BehavesLike (.decorated (.constructor fns) s m) (.decorated (.constructor fns) t k) := by
  have hrun {v w : Value} (hv : Matching (RunsText (.decorated (.constructor fns) s m)) v w) :
      Parallel (Matching s.RunsText) (Coercion.runAll fns v) (Coercion.runAll fns w) := by
    refine Coercion.matching_runAll hfns (hv.mono ?_)
    rintro (hmem | hinner)
    · exact decorator_subset_gather (.constructor fns) s m hmem
    · exact (within_decorated _ s m).runsText hinner
  refine ⟨fun {v w} hv => ?_, fun {v w} hv => ?_⟩
  · simp only [apply]
    refine (parallel_liftExcept (hrun hv)).bind fun a b hab => ?_
    rw [hab.same.isUndefined]
    split
    · exact parallel_pure hab.same
    · exact h.apply hab
  · have hpar := hrun hv
    simp only [tryApply]
    generalize Coercion.runAll fns v = r, Coercion.runAll fns w = q at hpar ⊢
    cases hpar with
    | error x y => exact parallel_throw _ _
    | ok hab =>
      simp only [hab.same.isUndefined]
      split
      · exact parallel_pure hab.same
      · exact h.tryApply hab

theorem behavesLike_constrained {r r' : Rule} (hrule : r.equals r' = true)
    (hr : ∀ x ∈ r.values, x.NoNaN) (hr' : ∀ x ∈ r'.values, x.NoNaN) (h : BehavesLike s t) :
    BehavesLike (.decorated (.constrained r) s m) (.decorated (.constrained r') t k) := by
  have hcheck {v w : Value} (hv : Matching (RunsText (.decorated (.constrained r) s m)) v w) :
      Eval.Parallel Same (s.apply v >>= fun a => liftM (r.check a))
        (t.apply w >>= fun b => liftM (r'.check b)) :=
    (h.apply (matching_inner hv)).bind fun a b hab =>
      parallel_liftExcept (Rule.parallel_check hrule hr hr' hab)
  exact ⟨hcheck, fun hv => parallel_blame (hcheck hv) _ _⟩

/-- Alike mappings replace a value by values that match. -/
theorem behavesLike_enumeration {ps qs : List (Value × Value)} (hpairs : Table.Alike Same ps qs)
    (hreplace : (Decorator.enumeration ps).ReplacesAlike s.RunsText (.enumeration qs))
    (h : BehavesLike s t) :
    BehavesLike (.decorated (.enumeration ps) s m) (.decorated (.enumeration qs) t k) where
  apply hv := h.apply (matching_aliased hpairs hreplace (matching_inner hv))
  tryApply hv := h.tryApply (matching_aliased hpairs hreplace (matching_inner hv))

theorem behavesLike_safe (h : BehavesLike s t) :
    BehavesLike (.decorated .safe s m) (.decorated .safe t k) where
  apply hv := (h.tryApply (matching_inner hv)).recover fun _ _ => parallel_pure hv.same
  tryApply hv := h.tryApply (matching_inner hv)

/-- Two defaults have values that are the same. -/
def SameDefaults (d e : Default) : Prop :=
  ∃ x y, Steady d.evaluate x ∧ Steady e.evaluate y ∧ x.Same y

/-- Equal defaults stand in for what is absent in both types. -/
theorem behavesLike_default {d e : Default} (hde : SameDefaults d e) (h : BehavesLike s t) :
    BehavesLike (.decorated (.default d) s m) (.decorated (.default e) t k) := by
  obtain ⟨x, y, hx, hy, hxy⟩ := hde
  refine ⟨fun {v w} hv => ?_, fun {v w} hv => ?_⟩
  · simp only [apply, hv.same.isUndefined]
    split
    · exact parallel_lift hx hy hxy
    · refine (h.apply (matching_inner hv)).bind fun a b hab => ?_
      rw [hab.isAbsent]
      split
      · exact parallel_lift hx hy hxy
      · exact parallel_pure hab
  · simp only [tryApply, hv.same.isUndefined]
    split
    · exact parallel_lift hx hy hxy
    · refine (h.tryApply (matching_inner hv)).bind fun a b hab => ?_
      rw [hab.isAbsent]
      split
      · exact parallel_lift hx hy hxy
      · exact parallel_pure hab

theorem behavesLike_maybe (h : BehavesLike s t) :
    BehavesLike (.decorated .maybe s m) (.decorated .maybe t k) := by
  refine ⟨fun {v w} hv => ?_, fun {v w} hv => ?_⟩
  · simp only [apply, hv.same.isAbsent]
    split
    · exact parallel_pure (Value.same_self trivial)
    · exact h.apply (matching_inner hv)
  · simp only [tryApply, hv.same.isAbsent]
    split
    · exact parallel_pure (Value.same_self trivial)
    · exact h.tryApply (matching_inner hv)

end Decorated

section Compound

variable {m k : Metadata}

/-- Both sums decide for the same side. -/
theorem behavesLike_sum {a b c d : Ty} (hac : BehavesLike a c) (hbd : BehavesLike b d) :
    BehavesLike (.sum a b m) (.sum c d k) := by
  have hleft {v w : Value} (hv : Matching (RunsText (.sum a b m)) v w) : Matching a.RunsText v w :=
    hv.mono (within_sum_left a b m).runsText
  have hright {v w : Value} (hv : Matching (RunsText (.sum a b m)) v w) : Matching b.RunsText v w :=
    hv.mono (within_sum_right a b m).runsText
  exact ⟨fun hv => (hac.tryApply (hleft hv)).recover fun _ _ => hbd.apply (hright hv),
    fun hv => (hac.tryApply (hleft hv)).recover fun _ _ => hbd.tryApply (hright hv)⟩

/-- Items that behave alike make arrays that do. -/
theorem behavesLike_array {s t : Ty} (h : BehavesLike s t) :
    BehavesLike (.array s m) (.array t k) := by
  have hitem {v w : Value} (hv : Matching (RunsText (.array s m)) v w) : Matching s.RunsText v w :=
    hv.mono (within_array s m).runsText
  refine ⟨fun {v w} hv => ?_, fun {v w} hv => ?_⟩
  · cases hv.same.form with
    | array =>
      simp only [apply]
      refine (parallel_collect (fun x y => h.apply) (Value.matching_items (hitem hv))).bind ?_
      exact fun as bs habs => parallel_pure (Value.same_array_iff.2 habs)
    | _ => exact parallel_pure hv.same
  · cases hv.same.form with
    | array =>
      simp only [tryApply]
      refine ((parallel_collect (fun x y => h.tryApply) (Value.matching_items (hitem hv))).recover
        fun _ _ => parallel_throw _ _).bind ?_
      exact fun as bs habs => parallel_pure (Value.same_array_iff.2 habs)
    | _ => exact parallel_throw _ _

/-- Keys and values that behave alike make maps that do, faults included. -/
theorem behavesLike_map {a b c d : Ty} (hac : BehavesLike a c) (hbd : BehavesLike b d) :
    BehavesLike (.map a b m) (.map c d k) := by
  have hentries {es fs : List (Value × Value)}
      (hv : Matching (RunsText (.map a b m)) (.hash es) (.hash fs)) :
      Eval.Parallel Same
        (liftM (attemptEntries (fun x => a.tryApply x) (fun x => b.tryApply x) es) >>=
          fun attempts => liftM (Attempt.assemble attempts) : Eval CoercionError Value)
        (liftM (attemptEntries (fun x => c.tryApply x) (fun x => d.tryApply x) fs) >>=
          fun attempts => liftM (Attempt.assemble attempts) : Eval CoercionError Value) := by
    have hparts :
        List.Forall₂ (fun e f => Matching a.RunsText e.1 f.1 ∧ Matching b.RunsText e.2 f.2)
          es fs := (Value.matching_entries hv).imp fun e f hef =>
      ⟨hef.1.mono (within_map_key a b m).runsText, hef.2.mono (within_map_value a b m).runsText⟩
    obtain ⟨as, bs, has, hbs, hpar⟩ :=
      steady_attempts (fun x y => hac.tryApply) (fun x y => hbd.tryApply) hparts
    exact (parallel_lift has hbs hpar).bind fun as bs hab =>
      parallel_liftExcept (Attempt.parallel_assemble hab)
  refine ⟨fun {v w} hv => ?_, fun {v w} hv => ?_⟩
  · cases hv.same.form with
    | hash =>
      simp only [apply]
      exact hentries hv
    | _ => exact parallel_throw _ _
  · cases hv.same.form with
    | hash =>
      simp only [tryApply]
      exact parallel_blame (hentries hv) _ _
    | _ => exact parallel_throw _ _

end Compound

/-! ## Members of a schema -/

/-- Types that correspond are both optional members, or neither is. -/
theorem Corresponds.isMaybe {t u : Ty} (h : Corresponds t u) : t.isMaybe = u.isMaybe := by
  cases t with
  | definition p m => obtain ⟨k, rfl⟩ := h.definition; rfl
  | decorated d s m =>
    obtain ⟨e, t, k, rfl, hde, -, -⟩ := h.decorated
    cases d <;> cases e <;> first | rfl | cases hde
  | sum a b m => obtain ⟨c, d, k, rfl, -, -⟩ := h.sum; rfl
  | schema policy transform as m => obtain ⟨bs, k, rfl, -⟩ := h.schema; rfl
  | array s m => obtain ⟨t, k, rfl, -⟩ := h.array; rfl
  | map a b m => obtain ⟨c, d, k, rfl, -, -⟩ := h.map; rfl

/-- The values in the decorator of a static type are free of NaN. -/
theorem Static.stored {d : Decorator} {s : Ty} {m : Metadata} (h : Static (.decorated d s m)) :
    ∀ v ∈ d.stored, v.NoNaN :=
  fun v hv => h.noNaN v (decorator_subset_gather d s m hv)

/-- The functions of a static type are built-in ones. -/
theorem Static.constructor {fns : List Coercion} {s : Ty} {m : Metadata}
    (h : Static (.decorated (.constructor fns) s m)) : fns ⊆ Coercion.builtins :=
  fun _ hf => h.coercions (decorator_subset_gather (.constructor fns) s m hf)

/-- Equal defaults of static types are fixed values that are the same. -/
theorem sameDefaults {d e : Default} {s t : Ty} {m k : Metadata} (h : d.equals e = true)
    (hd : Static (.decorated (.default d) s m)) (he : Static (.decorated (.default e) t k)) :
    SameDefaults d e := by
  cases d with
  | drawn g =>
    have hmem : g ∈ generators (.decorated (.default (.drawn g)) s m) :=
      decorator_subset_gather _ s m List.mem_cons_self
    rw [hd.generators] at hmem
    cases hmem
  | fixed x =>
    cases e with
    | drawn g => cases h
    | fixed y =>
      exact ⟨x, y, Steady.pure x, Steady.pure y,
        Value.same_of_beq (hd.stored x List.mem_cons_self) (he.stored y List.mem_cons_self) h⟩

/-- Types that correspond have the same default, or neither has one. -/
theorem Corresponds.rel_default? {t u : Ty} (h : Corresponds t u) :
    Option.Rel SameDefaults t.default? u.default? := by
  cases t with
  | definition p m => obtain ⟨k, rfl⟩ := h.definition; exact .none
  | decorated d s m =>
    obtain ⟨e, t, k, rfl, hde, -, -⟩ := h.decorated
    cases d with
    | default d =>
      cases e with
      | default e => exact .some (sameDefaults hde h.left h.right)
      | _ => cases hde
    | _ => cases e <;> first | exact .none | cases hde
  | sum a b m => obtain ⟨c, d, k, rfl, -, -⟩ := h.sum; exact .none
  | schema policy transform as m => obtain ⟨bs, k, rfl, -⟩ := h.schema; exact .none
  | array s m => obtain ⟨t, k, rfl, -⟩ := h.array; exact .none
  | map a b m => obtain ⟨c, d, k, rfl, -, -⟩ := h.map; exact .none

section Members

variable {visible : Prop} {fields fields' : List (Value × Value)}

/-- Members that are left out are filled in alike. -/
theorem parallel_fill (policy : Policy) (name name' : Value) {t u : Ty} (h : Corresponds t u) :
    Eval.Parallel Same (fill policy name t) (fill policy name' u) := by
  have hrel := h.rel_default?
  have hmissing : Eval.Parallel Same
      (if policy.isClosed then throw (.missingKey name) else pure .undefined :
        Eval CoercionError Value)
      (if policy.isClosed then throw (.missingKey name') else pure .undefined :
        Eval CoercionError Value) := by
    split
    · exact parallel_throw _ _
    · exact parallel_pure (Value.same_self trivial)
  unfold fill
  rw [h.isMaybe]
  generalize t.default? = d?, u.default? = e? at hrel ⊢
  cases policy.appliesDefaults with
  | false => exact hmissing
  | true =>
    cases hrel with
    | some hde =>
      obtain ⟨x, y, hx, hy, hxy⟩ := hde
      exact parallel_lift hx hy hxy
    | none =>
      cases u.isMaybe with
      | true => exact parallel_pure (Value.same_self trivial)
      | false => exact hmissing

/-- Members of fields that match have the same value, or fail alike. -/
theorem parallel_memberValue (raising : Bool) (policy : Policy)
    (hfields : Table.Alike (Matching visible) fields fields') {name name' : Value}
    (hname : name.Same name') {t u : Ty} (hc : Corresponds t u) (hb : BehavesLike t u)
    (hvisible : t.RunsText → visible) :
    Eval.Parallel Same (memberValue raising policy fields name t)
      (memberValue raising policy fields' name' u) := by
  have hrel := Table.alike_get? hname hfields
  unfold memberValue
  generalize Table.get? name fields = x?, Table.get? name' fields' = y? at hrel ⊢
  cases hrel with
  | none => exact parallel_fill policy name name' hc
  | some hxy =>
    have hv := hxy.mono hvisible
    simp only
    split
    · exact (hb.tryApply hv).recover fun _ _ => parallel_pure hv.same
    · split
      · exact (hb.apply hv).recover fun _ _ => parallel_throw _ _
      · exact (hb.tryApply hv).recover fun _ _ => parallel_throw _ _

/-- Schemas of members that behave alike collect the same fields. -/
theorem parallel_resolve (raising : Bool) (policy : Policy)
    (hfields : Table.Alike (Matching visible) fields fields') {as bs : List (Value × Ty)}
    (h : Table.Alike Corresponds as bs)
    (ih : ∀ e ∈ as, ∀ u, Corresponds e.2 u → BehavesLike e.2 u)
    (hvisible : ∀ e ∈ as, e.2.RunsText → visible) {output output' : List (Value × Value)}
    (ho : Table.Alike Same output output') :
    Eval.Parallel (Table.Alike Same) (resolve raising policy fields as output)
      (resolve raising policy fields' bs output') := by
  induction h generalizing output output' with
  | nil => exact parallel_pure ho
  | @cons e f _ _ hef _ ihrest =>
    obtain ⟨hname, hc⟩ := hef
    obtain ⟨ihe, ihs⟩ := List.forall_mem_cons.1 ih
    obtain ⟨hvis, hvisibles⟩ := List.forall_mem_cons.1 hvisible
    rw [resolve_cons, resolve_cons]
    refine (parallel_memberValue raising policy hfields hname hc (ihe _ hc) hvis).bind
      fun a b hab => ihrest ihs hvisibles ?_
    rw [hab.isUndefined]
    split
    · exact ho
    · exact Table.alike_insert hname hab ho

end Members

/-- Schemas of members that behave alike do so too. -/
theorem behavesLike_schema (policy : Policy) (transform : KeyTransform) {as bs : List (Value × Ty)}
    {m k : Metadata} (h : Table.Alike Corresponds as bs)
    (ih : ∀ e ∈ as, ∀ u, Corresponds e.2 u → BehavesLike e.2 u) :
    BehavesLike (.schema policy transform as m) (.schema policy transform bs k) := by
  have hvisible : ∀ e ∈ as, e.2.RunsText → RunsText (.schema policy transform as m) :=
    fun e he => (within_schema policy transform m he).runsText
  have hresolve (raising : Bool) {es fs : List (Value × Value)}
      (hv : Matching (RunsText (.schema policy transform as m)) (.hash es) (.hash fs)) :
      Eval.Parallel Same
        (liftM (openFields policy transform (as.map (·.1)) es) >>= fun fields =>
          resolve raising policy fields as [] >>= fun output => pure (.hash output))
        (liftM (openFields policy transform (bs.map (·.1)) fs) >>= fun fields =>
          resolve raising policy fields bs [] >>= fun output => pure (.hash output)) := by
    refine (parallel_liftExcept (parallel_openFields policy transform h.keys hv)).bind ?_
    intro fields fields' hfields
    refine (parallel_resolve raising policy hfields h ih hvisible .nil).bind ?_
    exact fun output output' ho => parallel_pure (Value.same_hash_iff.2 ho)
  refine ⟨fun {v w} hv => ?_, fun {v w} hv => ?_⟩
  · cases hv.same.form with
    | hash =>
      simp only [apply]
      exact hresolve true hv
    | _ => exact parallel_throw _ _
  · cases hv.same.form with
    | hash =>
      simp only [tryApply]
      exact parallel_blame (hresolve false hv) _ _
    | _ => exact parallel_throw _ _

/-! ## Types -/

/-- Mappings that are equal pair by pair are alike as tables. -/
theorem alike_of_pairsEqual {ps qs : List (Value × Value)} (h : pairsEqual ps qs = true)
    (hp : ∀ v ∈ (Decorator.enumeration ps).stored, v.NoNaN)
    (hq : ∀ v ∈ (Decorator.enumeration qs).stored, v.NoNaN) : Table.Alike Same ps qs := by
  induction ps generalizing qs with
  | nil => cases qs with
    | nil => exact .nil
    | cons q qs => cases h
  | cons p ps ih => cases qs with
    | nil => cases h
    | cons q qs =>
      obtain ⟨hpair, h⟩ := Bool.and_eq_true_iff.1 h
      obtain ⟨hkey, halias⟩ := Bool.and_eq_true_iff.1 hpair
      simp only [Decorator.stored, List.flatMap_cons, List.cons_append, List.nil_append,
        List.forall_mem_cons] at hp hq
      exact .cons ⟨Value.same_of_beq hp.1 hq.1 hkey, Value.same_of_beq hp.2.1 hq.2.1 halias⟩
        (ih h hp.2.2 hq.2.2)

/-- **Equal types behave alike**, form by form: the induction is on the first type, and the second
has the same form. -/
theorem parallel_evaluations {t u : Ty} (h : Corresponds t u) : BehavesLike t u := by
  induction t generalizing u with
  | definition p m =>
    obtain ⟨k, rfl⟩ := h.definition
    exact behavesLike_definition p
  | decorated d s m ih =>
    obtain ⟨e, t, k, rfl, hde, hreplace, hst⟩ := h.decorated
    have hinner := ih hst
    cases d with
    | constructor fns =>
      cases e with
      | constructor gns =>
        obtain rfl := Coercion.eq_of_beq_builtins h.left.constructor h.right.constructor hde
        exact behavesLike_constructor h.left.constructor hinner
      | _ => cases hde
    | constrained r =>
      cases e with
      | constrained r' => exact behavesLike_constrained hde h.left.stored h.right.stored hinner
      | _ => cases hde
    | enumeration ps =>
      cases e with
      | enumeration qs =>
        exact behavesLike_enumeration (alike_of_pairsEqual hde h.left.stored h.right.stored)
          hreplace hinner
      | _ => cases hde
    | safe =>
      cases e with
      | safe => exact behavesLike_safe hinner
      | _ => cases hde
    | default d =>
      cases e with
      | default e => exact behavesLike_default (sameDefaults hde h.left h.right) hinner
      | _ => cases hde
    | maybe =>
      cases e with
      | maybe => exact behavesLike_maybe hinner
      | _ => cases hde
  | sum a b m iha ihb =>
    obtain ⟨c, d, k, rfl, hac, hbd⟩ := h.sum
    exact behavesLike_sum (iha hac) (ihb hbd)
  | schema policy transform as m ih =>
    obtain ⟨bs, k, rfl, hmembers⟩ := h.schema
    exact behavesLike_schema policy transform hmembers fun e he u hc => ih e he hc
  | array s m ih =>
    obtain ⟨t, k, rfl, hst⟩ := h.array
    exact behavesLike_array (ih hst)
  | map a b m iha ihb =>
    obtain ⟨c, d, k, rfl, hac, hbd⟩ := h.map
    exact behavesLike_map (iha hac) (ihb hbd)

/-- A zero of the given sign under the name `x`, and a text under the name `y`. -/
def zeroKeys (negative : Bool) : List (Value × Value) :=
  [(.number (.float (.zero negative)), .string "x"), (.string "0.0", .string "y")]

/-- The enumeration of these two values around a type with one function. -/
def named (b : Builtin) (negative : Bool) : Ty :=
  decorate (.enumeration (zeroKeys negative)) ((constructed .any b.toCoercion).constrainedBy
    (.predicate (.includedIn (.array ((zeroKeys negative).map (·.1))))))

/-- An enumeration can be built of these two values. -/
theorem enumerateMapping_zeroKeys (b : Builtin) (negative : Bool) :
    (constructed .any b.toCoercion).enumerateMapping (zeroKeys negative) = .ok (named b negative) :=
  rfl

theorem static_named (b : Builtin) (negative : Bool) : (named b negative).Static where
  coercions := by
    have hone : (named b negative).coercions = [b.toCoercion] := rfl
    rw [hone]
    exact List.cons_subset.2 ⟨List.mem_map_of_mem (Builtin.mem_all b), List.nil_subset _⟩
  generators := rfl
  noNaN := by
    have hzero : Value.NoNaN (.number (.float (.zero negative))) := Number.hasValue_zero negative
    have hheld : (named b negative).held = [.number (.float (.zero negative)), .string "x",
        .string "0.0", .string "y",
        .array [.number (.float (.zero negative)), .string "0.0"]] := rfl
    rw [hheld]
    simp only [List.forall_mem_cons]
    exact ⟨hzero, trivial, trivial, trivial, ⟨trivial, hzero, trivial, trivial⟩, nofun⟩

/-- With a function that makes no text, the two replace their aliases alike. -/
theorem replacesAlike_named :
    (named .paramsFloat false).ReplacesAlike (named .paramsFloat true) := by
  refine ⟨fun htext => ?_, trivial, trivial, trivial⟩
  have hfloat := congrArg Coercion.address (List.mem_singleton.1 htext)
  exact absurd hfloat (by decide)

end Ty

end Conform
