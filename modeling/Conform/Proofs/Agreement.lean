import Conform.Proofs.Steady
import Mathlib.Data.List.Forall2

/-!
# Validity, trying and applying agree

`apply`, `tryApply` and `isValid` are three recursions over the same types, and each calls the
others.  With fixed generators they agree: a value is valid exactly when trying it succeeds, and
applying then gives the same value.

The relation that carries the induction is `Eval.Refines`: where the first evaluation succeeds the
second succeeds with the same value.  Every step of the evaluation — sequencing, going on after a
failure, blaming an input — respects it.

* `Eval.Refines` — the relation, with a lemma for each step.
* `Attempt.Tries` — what a steady attempt of one entry of a map has found out.
* `Ty.memberValue`, `Ty.resolve_cons` — the value that one member adds to a schema.
* `Ty.TriesAsApplied` — trying a value refines applying the type; one lemma for each form of type.
* `Ty.refines_tryApply_apply` — so it is for every type.
* `Ty.steady_isValid`, `Ty.evaluations_agree` — the three evaluations agree.
-/

namespace Conform

variable {δ ε ζ α β : Type}

namespace Eval

/-- Both evaluations have one outcome each, and where the first succeeds the second succeeds with
the same result. -/
def Refines (e : Eval δ α) (f : Eval ε α) : Prop :=
  ∃ r q, e.Yields r ∧ f.Yields q ∧ ∀ a, r = .ok a → q = .ok a

/-! ## The steps of an evaluation -/

/-- What refines a computation comes to a result. -/
theorem Refines.settled_left {e : Eval δ α} {f : Eval ε α} (h : Refines e f) : e.Settled := by
  obtain ⟨r, _, hr, _, _⟩ := h
  exact ⟨r, hr⟩

theorem Refines.settled_right {e : Eval δ α} {f : Eval ε α} (h : Refines e f) : f.Settled := by
  obtain ⟨_, q, _, hq, _⟩ := h
  exact ⟨q, hq⟩

theorem Settled.refines_self {e : Eval ε α} (h : e.Settled) : Refines e e := by
  obtain ⟨r, hr⟩ := h
  exact ⟨r, r, hr, hr, fun _ => id⟩

theorem refines_pure (a : α) : Refines (pure a : Eval δ α) (pure a : Eval ε α) :=
  ⟨_, _, yields_pure a, yields_pure a, fun b hb => by cases hb; rfl⟩

/-- A steady computation refines itself. -/
theorem refines_steady {m : StateM Supply α} {a : α} (h : Steady m a) :
    Refines (liftM m : Eval δ α) (liftM m : Eval ε α) :=
  ⟨_, _, yields_lift h, yields_lift h, fun b hb => by cases hb; rfl⟩

/-- A failure refines everything. -/
theorem refines_throw (x : δ) {f : Eval ε α} (hf : f.Settled) :
    Refines (throw x : Eval δ α) f := by
  obtain ⟨q, hq⟩ := hf
  exact ⟨_, q, yields_throw x, hq, fun a ha => by cases ha⟩

/-- Refinement is kept where two computations go on alike. -/
theorem Refines.bind {e : Eval δ α} {f : Eval ε α} {g : α → Eval δ β} {k : α → Eval ε β}
    (hef : Refines e f) (hgk : ∀ a, Refines (g a) (k a)) : Refines (e >>= g) (f >>= k) := by
  have hk : (f >>= k).Settled := hef.settled_right.bind fun a => (hgk a).settled_right
  obtain ⟨r, q, hr, hq, h⟩ := hef
  cases r with
  | error x =>
    obtain ⟨p, hp⟩ := hk
    exact ⟨_, p, hr.bind_error g, hp, fun a ha => by cases ha⟩
  | ok a =>
    rw [h a rfl] at hq
    obtain ⟨r', q', hr', hq', h'⟩ := hgk a
    exact ⟨r', q', hr.bind_ok hr', hq.bind_ok hq', h'⟩

/-- Both go on in their own way after one and the same failure. -/
theorem Refines.recover {e : Eval ζ α} {g : ζ → Eval δ α} {k : ζ → Eval ε α} (he : e.Settled)
    (hgk : ∀ x, Refines (g x) (k x)) : Refines (e.recover g) (e.recover k) := by
  obtain ⟨r, hr⟩ := he
  cases r with
  | error x =>
    obtain ⟨r', q', hr', hq', h'⟩ := hgk x
    exact ⟨r', q', hr.recover_error hr', hr.recover_error hq', h'⟩
  | ok a =>
    exact ⟨_, _, hr.recover_ok g, hr.recover_ok k, fun b hb => by cases hb; rfl⟩

/-- Going on after a failure keeps every success. -/
theorem Settled.refines_recover {e : Eval δ α} {k : δ → Eval ε α} (he : e.Settled)
    (hk : ∀ x, (k x).Settled) : Refines e (e.recover k) := by
  obtain ⟨r, hr⟩ := he
  cases r with
  | error x =>
    obtain ⟨q, hq⟩ := hk x
    exact ⟨_, q, hr, hr.recover_error hq, fun a ha => by cases ha⟩
  | ok a => exact ⟨_, _, hr, hr.recover_ok k, fun b hb => by cases hb; rfl⟩

/-- Each side may report its failures in another form. -/
theorem Refines.rethrow {e : Eval δ α} {f : Eval ε α} {γ η : Type} (report : δ → γ)
    (report' : ε → η) (h : Refines e f) :
    Refines (e.recover fun x => throw (report x) : Eval γ α)
      (f.recover fun x => throw (report' x) : Eval η α) := by
  have hf : (f.recover fun x => throw (report' x) : Eval η α).Settled :=
    h.settled_right.recover fun _ => settled_throw _
  obtain ⟨r, q, hr, hq, h⟩ := h
  cases r with
  | error x =>
    obtain ⟨p, hp⟩ := hf
    exact ⟨_, p, hr.recover_error (yields_throw _), hp, fun a ha => by cases ha⟩
  | ok a =>
    rw [h a rfl] at hq
    exact ⟨_, _, hr.recover_ok _, hq.recover_ok _, fun b hb => by cases hb; rfl⟩

/-- The left side may report its failures in another form. -/
theorem Refines.rethrow_left {e : Eval δ α} {f : Eval ε α} {γ : Type} (report : δ → γ)
    (h : Refines e f) : Refines (e.recover fun x => throw (report x) : Eval γ α) f := by
  obtain ⟨r, q, hr, hq, h⟩ := h
  cases r with
  | error x => exact ⟨_, q, hr.recover_error (yields_throw _), hq, fun a ha => by cases ha⟩
  | ok a => exact ⟨_, q, hr.recover_ok _, hq, fun b hb => by cases hb; exact h a rfl⟩

end Eval

open Eval

/-! ## Defaults, items and entries -/

/-- A default has one value when the generator behind it is fixed. -/
theorem Default.steady_evaluate (d : Default) (h : ∀ g, d = .drawn g → g.IsFixed) :
    ∃ v, Steady d.evaluate v := by
  cases d with
  | fixed v => exact ⟨v, Steady.pure v⟩
  | drawn g => exact (h g rfl).steady

/-- A row of items is tried as it is applied, if each item is. -/
theorem refines_collect {f : Value → Eval δ Value} {g : Value → Eval ε Value}
    (h : ∀ v, Refines (f v) (g v)) (items : List Value) :
    Refines (collect f items) (collect g items) := by
  induction items with
  | nil => exact refines_pure _
  | cons v rest ih =>
    refine (h v).bind fun w => ih.bind fun ws => ?_
    exact refines_pure _

/-- The attempt says what the evaluations give for the key and the value of an entry. -/
structure Attempt.Tries (f g : Value → Eval Failure Value) (e : Value × Value)
    (a : Attempt) : Prop where
  key : a.key = e.1
  value : a.value = e.2
  newKey : (f e.1).Yields a.newKey
  newValue : (g e.2).Yields a.newValue

/-- Every entry is attempted, whatever became of those before it. -/
theorem exists_tries {f g : Value → Eval Failure Value} (hf : ∀ v, (f v).Settled)
    (hg : ∀ v, (g v).Settled) (entries : List (Value × Value)) :
    ∃ attempts, Steady (attemptEntries f g entries) attempts ∧
      List.Forall₂ (Attempt.Tries f g) entries attempts := by
  induction entries with
  | nil => exact ⟨[], Steady.pure _, .nil⟩
  | cons e rest ih =>
    obtain ⟨k, v⟩ := e
    obtain ⟨newKey, hk⟩ := hf k
    obtain ⟨newValue, hv⟩ := hg v
    obtain ⟨attempts, hrest, htries⟩ := ih
    refine ⟨⟨k, v, newKey, newValue⟩ :: attempts, ?_, .cons ⟨rfl, rfl, hk, hv⟩ htries⟩
    exact Steady.bind hk (Steady.bind hv (Steady.bind hrest (Steady.pure _)))

namespace Ty

/-- Trying a value refines applying the type to it. -/
def TriesAsApplied (t : Ty) : Prop :=
  ∀ v, Refines (t.tryApply v) (t.apply v)

/-! ## Members of a schema -/

/-- What one member of a schema adds to the output: the coerced value of its field, or what its
policy gives for a missing one. -/
def memberValue (raising : Bool) (policy : Policy) (fields : List (Value × Value)) (name : Value)
    (t : Ty) : Eval CoercionError Value :=
  match Table.get? name fields with
  | some raw =>
    if policy.isLenient then (t.tryApply raw).recover fun _ => pure raw
    else if raising then (t.apply raw).recover fun e => throw (.member name e)
    else (t.tryApply raw).recover fun f => throw (.member name f.error)
  | none => fill policy name t

/-- The members after the first see the output with the value of the first. -/
theorem resolve_cons (raising : Bool) (policy : Policy) (fields : List (Value × Value))
    (name : Value) (t : Ty) (rest : List (Value × Ty)) (output : List (Value × Value)) :
    resolve raising policy fields ((name, t) :: rest) output =
      memberValue raising policy fields name t >>= fun w =>
        resolve raising policy fields rest
          (if w.isUndefined then output else Table.insert name w output) := by
  rw [resolve, memberValue]
  cases Table.get? name fields with
  | none => rfl
  | some raw =>
    cases policy.isLenient with
    | true => rfl
    | false => cases raising <;> rfl

/-- The default of a type itself is among its generators. -/
theorem mem_generators_of_default? {t : Ty} {g : Generator} (h : t.default? = some (.drawn g)) :
    g ∈ t.generators := by
  unfold default? at h
  split at h
  · cases h
    exact mem_generators_of_drawn rfl _ _
  · cases h

/-- Filling in a member comes to a result where generators are fixed. -/
theorem settled_fill (policy : Policy) (name : Value) {t : Ty}
    (ht : ∀ g ∈ t.generators, g.IsFixed) : (fill policy name t).Settled := by
  unfold fill
  split
  · next d _ hd =>
    obtain ⟨v, hv⟩ := d.steady_evaluate fun g hg => ht g (mem_generators_of_default? (hg ▸ hd))
    exact ⟨_, yields_lift hv⟩
  · exact settled_pure _
  · split
    · exact settled_throw _
    · exact settled_pure _

/-- A member that is tried refines the member that is applied. -/
theorem refines_memberValue (policy : Policy) (fields : List (Value × Value)) (name : Value)
    {t : Ty} (hg : ∀ g ∈ t.generators, g.IsFixed) (ht : t.TriesAsApplied) :
    Refines (memberValue false policy fields name t) (memberValue true policy fields name t) := by
  unfold memberValue
  split
  · next raw _ =>
    split
    · exact ((ht raw).settled_left.recover fun _ => settled_pure _).refines_self
    · exact (ht raw).rethrow _ _
  · exact (settled_fill policy name hg).refines_self

/-- The members of a schema that are tried refine those that are applied. -/
theorem refines_resolve (policy : Policy) (fields : List (Value × Value))
    (members : List (Value × Ty)) (hg : ∀ m ∈ members, ∀ g ∈ m.2.generators, g.IsFixed)
    (hm : ∀ m ∈ members, m.2.TriesAsApplied)
    (output : List (Value × Value)) :
    Refines (resolve false policy fields members output)
      (resolve true policy fields members output) := by
  induction members generalizing output with
  | nil => exact refines_pure _
  | cons m rest ih =>
    obtain ⟨name, t⟩ := m
    have hh := refines_memberValue policy fields name (hg _ List.mem_cons_self)
      (hm _ List.mem_cons_self)
    rw [resolve_cons, resolve_cons]
    refine hh.bind fun w => ih ?_ ?_ _
    · exact fun m hmem => hg m (List.mem_cons_of_mem _ hmem)
    · exact fun m hmem => hm m (List.mem_cons_of_mem _ hmem)

/-! ## Types -/

section Forms

variable {inner left right item key value : Ty} {m : Metadata}

theorem triesAsApplied_definition (p : Primitive) : TriesAsApplied (.definition p m) := by
  intro v
  simp only [tryApply, apply]
  split
  · exact refines_pure v
  · exact refines_throw _ (settled_pure v)

/-- Both evaluations run the functions, and go on inside unless the result is undefined. -/
theorem triesAsApplied_constructor {fns : List Coercion} (h : inner.TriesAsApplied) :
    TriesAsApplied (.decorated (.constructor fns) inner m) := by
  intro v
  simp only [tryApply, apply]
  cases Coercion.runAll fns v with
  | error e => exact refines_throw _ (settled_throw e)
  | ok w =>
    cases hw : w.isUndefined with
    | true => simpa [hw] using refines_pure w
    | false => simpa [hw] using h w

/-- A rule is checked against what the inner type applies to, in either case. -/
theorem triesAsApplied_constrained {rule : Rule} (h : inner.TriesAsApplied) :
    TriesAsApplied (.decorated (.constrained rule) inner m) := by
  intro v
  simp only [tryApply, apply]
  refine Refines.rethrow_left _ (Settled.refines_self ?_)
  exact (h v).settled_right.bind fun w => settled_liftExcept _

theorem triesAsApplied_enumeration {mapping : List (Value × Value)} (h : inner.TriesAsApplied) :
    TriesAsApplied (.decorated (.enumeration mapping) inner m) := by
  intro v
  simp only [tryApply, apply]
  exact h _

/-- A safe type gives the value back where trying fails. -/
theorem triesAsApplied_safe (h : inner.TriesAsApplied) :
    TriesAsApplied (.decorated .safe inner m) := by
  intro v
  simp only [tryApply, apply]
  exact (h v).settled_left.refines_recover fun _ => settled_pure v

/-- One and the same value stands in for what is absent. -/
theorem triesAsApplied_default {d : Default} (hd : ∀ g, d = .drawn g → g.IsFixed)
    (h : inner.TriesAsApplied) : TriesAsApplied (.decorated (.default d) inner m) := by
  obtain ⟨w, hw⟩ := d.steady_evaluate hd
  intro v
  simp only [tryApply, apply]
  split
  · exact refines_steady hw
  · refine (h v).bind fun u => ?_
    split
    · exact refines_steady hw
    · exact refines_pure u

theorem triesAsApplied_maybe (h : inner.TriesAsApplied) :
    TriesAsApplied (.decorated .maybe inner m) := by
  intro v
  simp only [tryApply, apply]
  split
  · exact refines_pure _
  · exact h v

/-- The left side is tried in both evaluations. -/
theorem triesAsApplied_sum (hl : left.TriesAsApplied) (hr : right.TriesAsApplied) :
    TriesAsApplied (.sum left right m) := by
  intro v
  simp only [tryApply, apply]
  exact Refines.recover (hl v).settled_left fun _ => hr v

theorem triesAsApplied_schema {policy : Policy} {transform : KeyTransform}
    {members : List (Value × Ty)} (hg : ∀ m ∈ members, ∀ g ∈ m.2.generators, g.IsFixed)
    (h : ∀ m ∈ members, m.2.TriesAsApplied) :
    TriesAsApplied (.schema policy transform members m) := by
  intro v
  cases v with
  | hash entries =>
    simp only [tryApply, apply]
    refine Refines.rethrow_left _ ?_
    cases openFields policy transform (members.map (·.1)) entries with
    | error e => exact refines_throw e (settled_throw e)
    | ok fields =>
      exact (refines_resolve policy fields members hg h []).bind fun output => refines_pure _
  | _ =>
    simp only [tryApply, apply]
    exact refines_throw _ (settled_throw _)

/-- What is no array passes where it is applied, and trying it fails. -/
theorem triesAsApplied_array (h : item.TriesAsApplied) : TriesAsApplied (.array item m) := by
  intro v
  cases v with
  | array items =>
    simp only [tryApply, apply]
    refine Refines.bind ?_ fun ws => refines_pure _
    exact (refines_collect h items).rethrow_left _
  | _ =>
    simp only [tryApply, apply]
    exact refines_throw _ (settled_pure _)

/-- Keys and values are tried in both evaluations. -/
theorem triesAsApplied_map (hk : key.TriesAsApplied) (hv : value.TriesAsApplied) :
    TriesAsApplied (.map key value m) := by
  intro v
  cases v with
  | hash entries =>
    simp only [tryApply, apply]
    refine Refines.rethrow_left _ (Settled.refines_self ?_)
    obtain ⟨attempts, ha, -⟩ := exists_tries (fun x => (hk x).settled_left)
      (fun x => (hv x).settled_left) entries
    exact ⟨_, (yields_lift ha).bind_ok (yields_liftExcept _)⟩
  | _ =>
    simp only [tryApply, apply]
    exact refines_throw _ (settled_throw _)

end Forms

/-- **Trying refines applying.**  The induction is on the type; the hypothesis on generators makes
both evaluations independent of the supply. -/
theorem refines_tryApply_apply (t : Ty) (hg : ∀ g ∈ t.generators, g.IsFixed) :
    t.TriesAsApplied := by
  induction t with
  | definition p m => exact triesAsApplied_definition p
  | decorated d inner m ih =>
    replace ih := ih fun g hmem => hg g ((within_decorated d inner m).generators hmem)
    cases d with
    | constructor fns => exact triesAsApplied_constructor ih
    | constrained rule => exact triesAsApplied_constrained ih
    | enumeration mapping => exact triesAsApplied_enumeration ih
    | safe => exact triesAsApplied_safe ih
    | default d =>
      exact triesAsApplied_default (fun g hdg => hg g (mem_generators_of_drawn hdg inner m)) ih
    | maybe => exact triesAsApplied_maybe ih
  | sum left right m ihl ihr =>
    exact triesAsApplied_sum
      (ihl fun g hmem => hg g ((within_sum_left left right m).generators hmem))
      (ihr fun g hmem => hg g ((within_sum_right left right m).generators hmem))
  | schema policy transform members m ih =>
    have hms : ∀ e ∈ members, ∀ g ∈ e.2.generators, g.IsFixed := fun e he g hmem =>
      hg g ((within_schema policy transform m he).generators hmem)
    exact triesAsApplied_schema hms fun e he => ih e he (hms e he)
  | array item m ih =>
    exact triesAsApplied_array
      (ih fun g hmem => hg g ((within_array item m).generators hmem))
  | map key value m ihk ihv =>
    exact triesAsApplied_map
      (ihk fun g hmem => hg g ((within_map_key key value m).generators hmem))
      (ihv fun g hmem => hg g ((within_map_value key value m).generators hmem))

/-! ## Validity -/

/-- Looking whether trying succeeds gives just that. -/
theorem steady_succeeds {e : Eval Failure Value} {r : Except Failure Value} (h : e.Yields r) :
    Steady (do
      match ← e.run with
      | .ok _ => pure true
      | .error _ => pure false) r.toBool := by
  refine Steady.bind h ?_
  cases r with
  | error f => exact Steady.pure false
  | ok w => exact Steady.pure true

/-- Validity is the success of trying.  Only a default looks at its inner type instead, and there a
default value stands in for what is absent, so that both succeed together. -/
theorem steady_isValid (t : Ty) (hg : ∀ g ∈ t.generators, g.IsFixed) {v : Value}
    {r : Except Failure Value} (hr : (t.tryApply v).Yields r) :
    Steady (t.isValid v) r.toBool := by
  induction t generalizing r with
  | decorated d inner notes ih =>
    cases d with
    | default d =>
      have hi : ∀ g ∈ inner.generators, g.IsFixed := fun g hmem =>
        hg g ((within_decorated (.default d) inner notes).generators hmem)
      obtain ⟨w, hw⟩ := d.steady_evaluate fun g hdg =>
        hg g (mem_generators_of_drawn hdg inner notes)
      simp only [isValid]
      simp only [tryApply] at hr
      cases hv : v.isUndefined with
      | true =>
        simp only [hv, if_true] at hr ⊢
        rw [hr.unique (yields_lift hw)]
        exact Steady.pure true
      | false =>
        simp only [hv, Bool.false_eq_true, if_false] at hr ⊢
        obtain ⟨q, hq⟩ := (refines_tryApply_apply inner hi v).settled_left
        have hqr : q.toBool = r.toBool := by
          cases q with
          | error f => rw [hr.unique (hq.bind_error _)]
          | ok u =>
            cases hu : u.isAbsent with
            | true =>
              have hb := yields_lift (ε := Failure) hw
              rw [hr.unique (hq.bind_ok (by simpa [hu] using hb))]
              rfl
            | false =>
              rw [hr.unique (hq.bind_ok (by simpa [hu] using yields_pure u))]
        rw [← hqr]
        exact ih hi hq
    | _ => exact steady_succeeds hr
  | _ => exact steady_succeeds hr

/-- **The three evaluations agree.**  A value is valid exactly when trying it succeeds, and then
applying gives the same value.  The three supplies need not be the same one. -/
theorem evaluations_agree (t : Ty) (hg : ∀ g ∈ t.generators, g.IsFixed) (v : Value)
    (s₁ s₂ s₃ : Supply) :
    (((t.isValid v).run s₁).1 = true ↔ ∃ w, (t.tryApply v).outcome s₂ = .ok w) ∧
      ∀ w, (t.tryApply v).outcome s₂ = .ok w → (t.apply v).outcome s₃ = .ok w := by
  obtain ⟨r, q, hr, hq, h⟩ := refines_tryApply_apply t hg v
  have hvalid : ((t.isValid v).run s₁).1 = r.toBool := steady_isValid t hg hr s₁
  rw [hvalid, hr.outcome_eq, hq.outcome_eq]
  refine ⟨?_, h⟩
  cases r with
  | error f => simp [Except.toBool]
  | ok w => simp [Except.toBool]

/-- Integers that are seven by default. -/
def sevens : Ty :=
  .array (.decorated (.default (.drawn ⟨"fn_seven", none, fun _ _ => .integer 7⟩))
    (.definition .integer []) []) []

/-- The array with a gap is filled with seven, tried and applied. -/
theorem evaluations_agree_sevens :
    (∀ g ∈ sevens.generators, g.IsFixed) ∧
      (sevens.tryApply (.array [.integer 1, .undefined])).outcome ⟨default, []⟩ =
        .ok (.array [.integer 1, .integer 7]) ∧
      (sevens.apply (.array [.integer 1, .undefined])).outcome ⟨default, []⟩ =
        .ok (.array [.integer 1, .integer 7]) := by
  have hg : ∀ g ∈ sevens.generators, g.IsFixed := by
    simp [sevens, generators, gather, Decorator.generators, Generator.IsFixed]
  have ht : (sevens.tryApply (.array [.integer 1, .undefined])).outcome ⟨default, []⟩ =
      .ok (.array [.integer 1, .integer 7]) := rfl
  exact ⟨hg, ht, (evaluations_agree sevens hg _ ⟨default, []⟩ _ _).2 _ ht⟩

end Ty

end Conform
