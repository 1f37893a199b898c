import Conform.Proofs.Agreement
import Conform.Proofs.Cores

/-!
# Fixed defaults fit their types

A fixed default is checked once, when it is given.  From then on the functions that build types keep
it where it is.  Most of them leave the type around which it was put alone; those that put a rule or
another core inside the decorators of a type narrow it, and only along the way that they rebuild.

* `Ty.Throughout`, `Ty.Outer` — a property of every part of a type, and of those parts that a change
  of the core rebuilds.
* `Ty.DefaultFits` — a fixed default is accepted by the type around which it was put.
* `Ty.apply_withoutMetadata` and its kin — metadata makes no difference to evaluations.
* `Ty.Built` — the types that the public functions build, with a condition on the narrowing ones.
* `Ty.Built.defaults_fit` — all fixed defaults fit if those on the rebuilt ways do.
-/

namespace Conform.Ty

/-! ## Parts of a type -/

section Parts

variable (P : Ty → Prop)

mutual

/-- The property holds of the type and of everything inside it. -/
def Throughout : Ty → Prop
  | .definition p m => P (.definition p m)
  | .decorated d inner m => P (.decorated d inner m) ∧ inner.Throughout
  | .sum left right m => P (.sum left right m) ∧ left.Throughout ∧ right.Throughout
  | .schema policy transform members m =>
    P (.schema policy transform members m) ∧ MembersThroughout members
  | .array item m => P (.array item m) ∧ item.Throughout
  | .map key value m => P (.map key value m) ∧ key.Throughout ∧ value.Throughout

/-- The same for the members of a schema. -/
def MembersThroughout : List (Value × Ty) → Prop
  | [] => True
  | (_, t) :: rest => t.Throughout ∧ MembersThroughout rest

end

/-- The property holds of the type and of what a rule or another core is put into: the types inside
its decorators, and the right side of a sum. -/
def Outer : Ty → Prop
  | .decorated d inner m => P (.decorated d inner m) ∧ inner.Outer
  | .sum left right m => P (.sum left right m) ∧ right.Outer
  | t => P t

variable {P}

/-- Throughout all members means throughout each of them. -/
theorem membersThroughout_iff {members : List (Value × Ty)} :
    MembersThroughout P members ↔ ∀ e ∈ members, e.2.Throughout P := by
  induction members with
  | nil => simp [MembersThroughout]
  | cons e rest ih =>
    obtain ⟨name, t⟩ := e
    rw [MembersThroughout, ih, List.forall_mem_cons]

end Parts

/-! ## Metadata makes no difference to evaluations -/

theorem membersWithoutMetadata_eq (members : List (Value × Ty)) :
    membersWithoutMetadata members = members.map fun e => (e.1, e.2.withoutMetadata) := by
  induction members with
  | nil => rfl
  | cons e rest ih =>
    obtain ⟨name, t⟩ := e
    rw [membersWithoutMetadata, ih, List.map_cons]

theorem default?_withoutMetadata (t : Ty) : t.withoutMetadata.default? = t.default? := by
  cases t with
  | decorated d inner m => cases d <;> rfl
  | _ => rfl

/-- What fills in a member does not depend on metadata. -/
theorem fill_withoutMetadata (policy : Policy) (name : Value) (t : Ty) :
    fill policy name t.withoutMetadata = fill policy name t := by
  have hm : t.withoutMetadata.isMaybe = t.isMaybe := by
    cases t with
    | decorated d inner m => cases d <;> rfl
    | _ => rfl
  rw [fill, fill, default?_withoutMetadata, hm]

/-- Both evaluations of a type do not look at its metadata. -/
def IgnoresMetadata (t : Ty) : Prop :=
  ∀ v, t.withoutMetadata.apply v = t.apply v ∧ t.withoutMetadata.tryApply v = t.tryApply v

theorem resolve_withoutMetadata {raising : Bool} {policy : Policy} {fields : List (Value × Value)}
    {members : List (Value × Ty)} (h : ∀ e ∈ members, e.2.IgnoresMetadata)
    (output : List (Value × Value)) :
    resolve raising policy fields (membersWithoutMetadata members) output =
      resolve raising policy fields members output := by
  induction members generalizing output with
  | nil => rfl
  | cons e rest ih =>
    obtain ⟨name, t⟩ := e
    have ht := h _ List.mem_cons_self
    have hvalue : memberValue raising policy fields name t.withoutMetadata =
        memberValue raising policy fields name t := by
      rw [memberValue, memberValue]
      split
      · next raw _ => rw [(ht raw).1, (ht raw).2]
      · exact fill_withoutMetadata policy name t
    rw [membersWithoutMetadata, resolve_cons, resolve_cons, hvalue]
    exact bind_congr fun w => ih (fun e he => h e (List.mem_cons_of_mem _ he)) _

/-- Evaluation does not depend on metadata. -/
theorem ignoresMetadata (t : Ty) : t.IgnoresMetadata := by
  induction t with
  | definition p m => exact fun v => ⟨rfl, rfl⟩
  | decorated d inner m ih =>
    intro v
    rw [withoutMetadata]
    have ha := fun w => (ih w).1
    have ht := fun w => (ih w).2
    cases d <;> simp only [apply, tryApply, ha, ht, and_self]
  | sum left right m ihl ihr =>
    intro v
    rw [withoutMetadata]
    simp only [apply, tryApply, (ihl v).2, (ihr v).1, (ihr v).2, and_self]
  | schema policy transform members m ih =>
    intro v
    have hnames : (membersWithoutMetadata members).map (·.1) = members.map (·.1) := by
      rw [membersWithoutMetadata_eq, List.map_map]
      rfl
    rw [withoutMetadata]
    cases v <;> simp only [apply, tryApply, hnames, resolve_withoutMetadata ih, and_self]
  | array item m ih =>
    intro v
    rw [withoutMetadata]
    have ha : item.withoutMetadata.apply = item.apply := funext fun w => (ih w).1
    have ht : item.withoutMetadata.tryApply = item.tryApply := funext fun w => (ih w).2
    cases v <;> simp only [apply, tryApply, ha, ht, and_self]
  | map key value m ihk ihv =>
    intro v
    rw [withoutMetadata]
    have hk : key.withoutMetadata.tryApply = key.tryApply := funext fun w => (ihk w).2
    have hv : value.withoutMetadata.tryApply = value.tryApply := funext fun w => (ihv w).2
    cases v <;> simp only [apply, tryApply, hk, hv, and_self]

/-- Whether an evaluation succeeds. -/
def succeeds (e : Eval Failure Value) : StateM Supply Bool := do
  match ← e.run with
  | .ok _ => pure true
  | .error _ => pure false

/-- Only a default is valid in another way than by trying. -/
theorem isValid_eq_succeeds {t : Ty} (ht : t.default? = none) (v : Value) :
    t.isValid v = succeeds (t.tryApply v) := by
  cases t with
  | decorated d inner m =>
    cases d with
    | default d => cases ht
    | _ => rfl
  | _ => rfl

theorem isValid_withoutMetadata (t : Ty) (v : Value) :
    t.withoutMetadata.isValid v = t.isValid v := by
  have hplain : ∀ t : Ty, t.default? = none → t.withoutMetadata.isValid v = t.isValid v := by
    intro t ht
    rw [isValid_eq_succeeds ht, isValid_eq_succeeds ((default?_withoutMetadata t).trans ht),
      (ignoresMetadata t v).2]
  induction t with
  | decorated d inner m ih =>
    cases d with
    | default d => simp only [withoutMetadata, isValid, ih]
    | _ => exact hplain _ rfl
  | _ => exact hplain _ rfl

/-! ## Fixed defaults -/

/-- The type accepts the value: with some supply, and with any if its generators are fixed. -/
structure Fits (t : Ty) (v : Value) : Prop where
  some : ∃ s, ((t.isValid v).run s).1 = true
  all : (∀ g ∈ t.generators, g.IsFixed) → ∀ s, ((t.isValid v).run s).1 = true

/-- If the type is one with a fixed default, the type inside accepts the default. -/
def DefaultFits : Ty → Prop
  | .decorated (.default (.fixed v)) inner _ => inner.Fits v
  | _ => True

/-- What is accepted with one supply is accepted with all where the generators are fixed. -/
theorem fits_of_valid {t : Ty} {v : Value} {s : Supply} (h : ((t.isValid v).run s).1 = true) :
    t.Fits v where
  some := ⟨s, h⟩
  all := by
    intro hg s'
    obtain ⟨r, hr⟩ := (refines_tryApply_apply t hg v).settled_left
    have hsteady := steady_isValid t hg hr
    exact (hsteady s').trans ((hsteady s).symm.trans h)

section Outcomes

variable {ε δ α β : Type} {s : Supply}

/-- A sequence goes on with the result of its first part. -/
theorem fst_bind {m : StateM Supply α} {f : α → StateM Supply β} {a : α} (h : (m s).1 = a) :
    ((m >>= f) s).1 = (f a (m s).2).1 := by
  rw [← h]
  rfl

/-- A sequence that succeeds has succeeded in both of its parts. -/
theorem outcome_bind_eq_ok {e : Eval ε α} {f : α → Eval ε β} {b : β}
    (h : (e >>= f).outcome s = .ok b) :
    ∃ a, e.outcome s = .ok a ∧ (f a).outcome (e.run s).2 = .ok b := by
  cases hr : e.outcome s with
  | ok a => exact ⟨a, rfl, (fst_bind (f := ExceptT.bindCont f) hr).symm.trans h⟩
  | error x => cases (fst_bind (f := ExceptT.bindCont f) hr).symm.trans h

/-- What reports its failures in another form succeeds only by itself. -/
theorem outcome_rethrow_eq_ok {e : Eval ε α} {report : ε → δ} {a : α}
    (h : (e.recover fun x => (throw (report x) : Eval δ α)).outcome s = .ok a) :
    e.outcome s = .ok a := by
  cases hr : e.outcome s with
  | ok b =>
    have hb := (fst_bind hr).symm.trans h
    exact congrArg _ (Except.ok.inj hb)
  | error x =>
    have hx := (fst_bind hr).symm.trans h
    cases hx

end Outcomes

/-- A computation succeeds or not, as its outcome tells. -/
theorem succeeds_eq (e : Eval Failure Value) (s : Supply) :
    ((succeeds e).run s).1 = (e.outcome s).toBool := by
  cases h : e.outcome s with
  | ok w => exact fst_bind h
  | error f => exact fst_bind h

/-- What can be tried successfully is valid with the same supply. -/
theorem isValid_of_tryApply {t : Ty} {v w : Value} {s : Supply}
    (h : (t.tryApply v).outcome s = .ok w) : ((t.isValid v).run s).1 = true := by
  induction t generalizing w with
  | decorated d inner m ih =>
    cases d with
    | default d =>
      rw [isValid]
      rw [tryApply] at h
      cases hv : v.isUndefined with
      | true => rfl
      | false =>
        simp only [hv, Bool.false_eq_true, if_false] at h ⊢
        obtain ⟨u, hu, -⟩ := outcome_bind_eq_ok h
        exact ih hu
    | _ => rw [isValid_eq_succeeds rfl, succeeds_eq, h]; rfl
  | _ => rw [isValid_eq_succeeds rfl, succeeds_eq, h]; rfl

/-! ## Changes that keep fixed defaults -/

/-- Metadata makes no difference to whether a default fits. -/
theorem defaultFits_setMetadata {t : Ty} (m : Metadata) :
    (t.setMetadata m).DefaultFits ↔ t.DefaultFits := by
  cases t with
  | decorated d inner k =>
    cases d with
    | default d => cases d <;> exact Iff.rfl
    | _ => exact Iff.rfl
  | _ => exact Iff.rfl

theorem throughout_setMetadata {t : Ty} (m : Metadata) (h : t.Throughout DefaultFits) :
    (t.setMetadata m).Throughout DefaultFits := by
  cases t with
  | definition p k => exact trivial
  | decorated d inner k => exact ⟨(defaultFits_setMetadata m).2 h.1, h.2⟩
  | sum left right k => exact ⟨trivial, h.2⟩
  | schema policy transform members k => exact ⟨trivial, h.2⟩
  | array item k => exact ⟨trivial, h.2⟩
  | map key value k => exact ⟨trivial, h.2⟩

theorem throughout_withoutMetadata {t : Ty} (h : t.Throughout DefaultFits) :
    t.withoutMetadata.Throughout DefaultFits := by
  induction t with
  | definition p m => exact trivial
  | decorated d inner m ih =>
    refine ⟨?_, ih h.2⟩
    have hown := h.1
    cases d with
    | default d =>
      cases d with
      | fixed v =>
        obtain ⟨s, hs⟩ := hown.some
        exact fits_of_valid
          ((congrArg (fun b => (b.run s).1) (isValid_withoutMetadata inner v)).trans hs)
      | drawn g => exact trivial
    | _ => exact trivial
  | sum left right m ihl ihr => exact ⟨trivial, ihl h.2.1, ihr h.2.2⟩
  | schema policy transform members m ih =>
    refine ⟨trivial, membersThroughout_iff.2 ?_⟩
    rw [membersWithoutMetadata_eq]
    intro e he
    obtain ⟨e, hmem, rfl⟩ := List.mem_map.1 he
    exact ih e hmem (membersThroughout_iff.1 h.2 e hmem)
  | array item m ih => exact ⟨trivial, ih h.2⟩
  | map key value m ihk ihv => exact ⟨trivial, ihk h.2.1, ihv h.2.2⟩

/-- A decorator that is no fixed default asks for nothing. -/
theorem throughout_decorate {d : Decorator} (hd : ∀ v, d ≠ .default (.fixed v)) {t : Ty}
    {m : Metadata} (h : t.Throughout DefaultFits) :
    (Ty.decorated d t m).Throughout DefaultFits := by
  refine ⟨?_, h⟩
  cases d with
  | default d =>
    cases d with
    | fixed v => exact absurd rfl (hd v)
    | drawn g => exact trivial
  | _ => exact trivial

theorem throughout_constructor {t : Ty} (f : Coercion) (h : t.Throughout DefaultFits) :
    (t.constructor f).Throughout DefaultFits := by
  unfold constructor
  split
  · exact throughout_decorate (by simp) h.2
  · exact throughout_decorate (by simp) h

theorem throughout_maybe {t : Ty} (h : t.Throughout DefaultFits) :
    t.maybe.Throughout DefaultFits := by
  unfold maybe
  split
  · exact h
  · exact throughout_decorate (by simp) h

theorem throughout_safe {t : Ty} (h : t.Throughout DefaultFits) :
    t.safe.Throughout DefaultFits := by
  unfold safe
  split
  · exact h
  · exact throughout_decorate (by simp) h

/-- A rule goes along the outer way, and only the fixed defaults there have to be looked at
again. -/
theorem throughout_constrainedBy {t : Ty} {rule : Rule} (h : t.Throughout DefaultFits)
    (ho : (t.constrainedBy rule).Outer DefaultFits) :
    (t.constrainedBy rule).Throughout DefaultFits := by
  induction t with
  | decorated d inner m ih =>
    cases d with
    | constrained r => exact throughout_decorate (by simp) h.2
    | _ => exact ⟨ho.1, ih h.2 ho.2⟩
  | sum left right m ihl ihr =>
    rw [constrainedBy] at ho ⊢
    split
    · next hopt =>
      rw [if_pos hopt] at ho
      exact ⟨trivial, h.2.1, ihr h.2.2 ho.2⟩
    · exact throughout_decorate (by simp) h
  | _ => exact throughout_decorate (by simp) h

/-- Another core is put in along the outer way as well. -/
theorem throughout_replaceCore {f : Ty → Except CoercionError Ty} (hf : ∀ c v, f c = .ok v →
    c.Throughout DefaultFits → v.Throughout DefaultFits) {t u : Ty} (hu : t.replaceCore f = .ok u)
    (h : t.Throughout DefaultFits) (ho : u.Outer DefaultFits) : u.Throughout DefaultFits := by
  induction t generalizing u with
  | decorated d inner m ih =>
    rw [replaceCore] at hu
    split at hu
    · obtain ⟨core, hcore, rfl⟩ := map_eq_ok.1 hu
      exact ⟨ho.1, ih hcore h.2 ho.2⟩
    · exact hf _ _ hu h
  | _ => exact hf _ _ hu h

/-- A fixed default that is given has been tried, unless it is `nil`. -/
theorem withDefault_eq_ok {t u : Ty} {v : Value} {s : Supply}
    (h : (t.withDefault v).outcome s = .ok u) : u = decorate (.default (.fixed v)) t ∧
      (v.isNil = true ∨ ∃ w, (t.tryApply v).outcome s = .ok w) := by
  unfold withDefault at h
  split at h
  · next hnil =>
    split at h
    · exact ⟨(Except.ok.inj h).symm, .inl hnil⟩
    · cases h
  · obtain ⟨w, hw, hu⟩ := outcome_bind_eq_ok h
    exact ⟨(Except.ok.inj hu).symm, .inr ⟨w, outcome_rethrow_eq_ok hw⟩⟩

/-! ## Built types -/

/-- The types that the public functions build.  What comes out of a narrowing function, and what is
given the default `nil`, has to satisfy a condition. -/
inductive Built (kept : Ty → Prop) : Ty → Prop
  | definition (p : Primitive) : Built kept (ofPrimitive p)
  | strict (p : Primitive) : Built kept (strict p)
  | constructor {t : Ty} (f : Coercion) : Built kept t → Built kept (t.constructor f)
  | constrainedBy {t : Ty} (rule : Rule) : Built kept t → kept (t.constrainedBy rule) →
    Built kept (t.constrainedBy rule)
  | constrained {t u : Ty} (options : List (String × Value)) : Built kept t →
    t.constrained options = .ok u → kept u → Built kept u
  | orElse {t u : Ty} : Built kept t → Built kept u → Built kept (t.orElse u)
  | optional {t : Ty} : Built kept t → Built kept t.optional
  | maybe {t : Ty} : Built kept t → Built kept t.maybe
  | safe {t : Ty} : Built kept t → Built kept t.safe
  | withDefault {t u : Ty} (v : Value) (s : Supply) : Built kept t →
    (t.withDefault v).outcome s = .ok u → (v.isNil = true → kept u) → Built kept u
  | withGenerator {t : Ty} (g : Generator) : Built kept t → Built kept (t.withGenerator g)
  | enumerate {t u : Ty} (values : List Value) : Built kept t → t.enumerate values = .ok u →
    kept u → Built kept u
  | enumerateMapping {t u : Ty} (mapping : List (Value × Value)) : Built kept t →
    t.enumerateMapping mapping = .ok u → kept u → Built kept u
  | arrayOf {t item u : Ty} : Built kept t → Built kept item → t.arrayOf item = .ok u → kept u →
    Built kept u
  | schemaWith {t u : Ty} (policy : Policy) {members : List (Value × Ty)} : Built kept t →
    (∀ e ∈ members, Built kept e.2) → t.schemaWith policy members = .ok u → kept u → Built kept u
  | withKeyTransform {t u : Ty} (transform : KeyTransform) : Built kept t →
    t.withKeyTransform transform = .ok u → kept u → Built kept u
  | mapOf {t key value u : Ty} : Built kept t → Built kept key → Built kept value →
    t.mapOf key value = .ok u → kept u → Built kept u
  | maps {key value : Ty} : Built kept key → Built kept value → Built kept (maps key value)
  | withKey {t key u : Ty} : Built kept t → Built kept key → t.withKey key = .ok u → kept u →
    Built kept u
  | withValue {t value u : Ty} : Built kept t → Built kept value → t.withValue value = .ok u →
    kept u → Built kept u
  | withMetadata {t : Ty} (entries : Metadata) : Built kept t → Built kept (t.withMetadata entries)
  | pristine {t : Ty} : Built kept t → Built kept t.pristine
  | withoutMetadata {t : Ty} : Built kept t → Built kept t.withoutMetadata

theorem throughout_strict (p : Primitive) : (strict p).Throughout DefaultFits :=
  throughout_decorate (by simp) trivial

/-- An enumeration adds no default, so only the outermost one is to be looked at. -/
theorem throughout_enumerateMapping {t u : Ty} {mapping : List (Value × Value)}
    (hu : t.enumerateMapping mapping = .ok u) (h : t.Throughout DefaultFits)
    (ho : u.Outer DefaultFits) : u.Throughout DefaultFits := by
  unfold enumerateMapping at hu
  split at hu
  · cases hu
  · obtain rfl := Except.ok.inj hu
    exact throughout_decorate (by simp) (throughout_constrainedBy h ho.2)

/-- **Fixed defaults fit** everywhere in a built type, if after each narrowing function those fit
that lie on the way that it rebuilt, and `nil` is given as a default where it fits. -/
theorem Built.defaults_fit {t : Ty} (h : Built (Outer DefaultFits) t) :
    t.Throughout DefaultFits := by
  induction h with
  | definition p => exact trivial
  | strict p => exact throughout_strict p
  | constructor f _ ih => exact throughout_constructor f ih
  | constrainedBy rule _ ho ih => exact throughout_constrainedBy ih ho
  | constrained options _ hu ho ih =>
    unfold Ty.constrained at hu
    split at hu
    · obtain rfl := Except.ok.inj hu
      exact throughout_constrainedBy ih ho
    · cases hu
  | orElse _ _ ihl ihr => exact ⟨trivial, ihl, ihr⟩
  | optional _ ih => exact ⟨trivial, throughout_strict .nil, ih⟩
  | maybe _ ih => exact throughout_maybe ih
  | safe _ ih => exact throughout_safe ih
  | withDefault v s _ hu ho ih =>
    obtain ⟨rfl, hnil | ⟨w, hw⟩⟩ := withDefault_eq_ok hu
    · exact ⟨(ho hnil).1, ih⟩
    · exact ⟨fits_of_valid (isValid_of_tryApply hw), ih⟩
  | withGenerator g _ ih => exact ⟨trivial, ih⟩
  | enumerate values _ hu ho ih => exact throughout_enumerateMapping hu ih ho
  | enumerateMapping mapping _ hu ho ih => exact throughout_enumerateMapping hu ih ho
  | arrayOf _ _ hu ho ih ihi =>
    refine throughout_replaceCore (fun c v hv _ => ?_) hu ih ho
    obtain ⟨m, -, rfl⟩ := itemCore_eq_ok.1 hv
    exact ⟨trivial, ihi⟩
  | schemaWith policy _ _ hu ho ih ihm =>
    refine throughout_replaceCore (fun c v hv _ => ?_) hu ih ho
    obtain ⟨m, -, rfl⟩ := schemaCore_eq_ok.1 hv
    exact ⟨trivial, membersThroughout_iff.2 ihm⟩
  | withKeyTransform transform _ hu ho ih =>
    refine throughout_replaceCore (fun c v hv hc => ?_) hu ih ho
    split at hv
    · cases hv
      exact ⟨trivial, hc.2⟩
    · cases hv
  | mapOf _ _ _ hu ho ih ihk ihv =>
    refine throughout_replaceCore (fun c v hv _ => ?_) hu ih ho
    split at hv
    · cases hv
      exact ⟨trivial, ihk, ihv⟩
    · cases hv
      exact ⟨trivial, ihk, ihv⟩
    · cases hv
  | maps _ _ ihk ihv => exact ⟨trivial, ihk, ihv⟩
  | withKey _ _ hu ho ih ihk =>
    refine throughout_replaceCore (fun c v hv hc => ?_) hu ih ho
    split at hv
    · cases hv
      exact ⟨trivial, ihk, hc.2.2⟩
    · cases hv
  | withValue _ _ hu ho ih ihv =>
    refine throughout_replaceCore (fun c v hv hc => ?_) hu ih ho
    split at hv
    · cases hv
      exact ⟨trivial, hc.2.1, ihv⟩
    · cases hv
  | withMetadata entries _ ih => exact throughout_setMetadata _ ih
  | pristine _ ih => exact throughout_setMetadata _ ih
  | withoutMetadata _ ih => exact throughout_withoutMetadata ih

/-- Small integers, five by default. -/
def small : Ty :=
  (decorate (.default (.fixed (.integer 5))) (ofPrimitive .integer)).constrainedBy
    (.predicate (.lt (.integer 10)))

theorem built_small : Built (Outer DefaultFits) small := by
  have hdefault : Built (Outer DefaultFits)
      (decorate (.default (.fixed (.integer 5))) (ofPrimitive .integer)) :=
    .withDefault (.integer 5) ⟨default, []⟩ (.definition .integer) rfl nofun
  refine .constrainedBy _ hdefault ⟨fits_of_valid (s := ⟨default, []⟩) rfl, ?_⟩
  exact ⟨trivial, trivial⟩

/-- The default of small integers still fits after the bound was put on them. -/
theorem defaults_fit_small : Built (Outer DefaultFits) small ∧ small.Throughout DefaultFits :=
  ⟨built_small, built_small.defaults_fit⟩

/-- Numbers that come out as zero: those of a counter for absent inputs, and any input else. -/
def zeros : Ty :=
  (((ofPrimitive .integer).withGenerator ⟨"fn_counter", none, fun _ n => .integer n⟩).orElse
    any).constrainedBy (.predicate (.eql (.integer 0)))

/-- Not every built type has defaults that fit: a default may be left behind when the type inside it
is narrowed, `nil` may be given to a type about `nil` that refuses it, and what a type accepts may
depend on how often its generators were called. -/
theorem defaults_not_always_fit :
    (Built (fun _ => True) (small.constrainedBy (.predicate (.gt (.integer 7)))) ∧
        ¬ (small.constrainedBy (.predicate (.gt (.integer 7)))).Throughout DefaultFits) ∧
      (Built (fun _ => True) (decorate (.default (.fixed .nil))
          ((ofPrimitive .nil).constrainedBy (.predicate .filled))) ∧
        ¬ (decorate (.default (.fixed .nil))
          ((ofPrimitive .nil).constrainedBy (.predicate .filled))).Throughout DefaultFits) ∧
      Built (fun _ => True) (decorate (.default (.fixed .undefined)) zeros) ∧
        ((zeros.isValid .undefined).run ⟨default, [("fn_counter", 1)]⟩).1 = false := by
  refine ⟨⟨?_, ?_⟩, ⟨?_, ?_⟩, ?_, rfl⟩
  · exact .constrainedBy _ (.constrainedBy _ (.withDefault (.integer 5) ⟨default, []⟩
      (.definition .integer) rfl fun _ => trivial) trivial) trivial
  · intro h
    obtain ⟨s, hs⟩ := h.1.some
    exact Bool.false_ne_true hs
  · exact .withDefault .nil ⟨default, []⟩ (.constrainedBy _ (.definition .nil) trivial) rfl
      fun _ => trivial
  · intro h
    obtain ⟨s, hs⟩ := h.1.some
    exact Bool.false_ne_true hs
  · have hzeros : Built (fun _ => True) zeros :=
      .constrainedBy _ (.orElse (.withGenerator _ (.definition .integer))
        (.definition .any)) trivial
    exact .withDefault .undefined ⟨default, []⟩ hzeros rfl nofun

end Conform.Ty
