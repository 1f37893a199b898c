import Conform.Proofs.Enforcement

/-!
# The errors of trying and of applying

A type that fails to be applied is also refused when it is tried.  Mostly the error is one and the
same: a rule, a function, a map and the shape of a schema are checked alike in both ways.  But
applying is lenient: a primitive gives back what it does not admit, and arrays give back what is no
array.  An array and a schema report the first of their parts that fails, so that trying can stop at
an earlier part than applying, at one that would have been given back.

* `Eval.GetsTo` — evaluations one after the other get to an element if they succeed on those before
  it.
* `Ty.Fails`, `Ty.Refuses` — the error of applying, and that of trying.
* `Ty.Forestalled` — trying stops with an error at a part that can be applied.
* `Ty.tried_error` — **trying reports the error of applying**, unless that is forestalled by
  another.
* `Ty.error_not_always_same` — an array and a schema in which it is.
-/

namespace Conform

/-! ## The first element that fails -/

namespace Eval

variable {δ ε α β : Type}

/-- Two steps fail in a row exactly if the first one does, or the second after a success of the
first. -/
theorem Settled.bind_error_iff {e : Eval ε α} {f : α → Eval ε β} {x : ε} (he : e.Settled)
    (hf : ∀ a, (f a).Settled) :
    (e >>= f).Yields (.error x) ↔
      e.Yields (.error x) ∨ ∃ a, e.Yields (.ok a) ∧ (f a).Yields (.error x) := by
  constructor
  · intro h
    obtain ⟨r, hr⟩ := he
    cases r with
    | error y =>
      cases h.unique (hr.bind_error f)
      exact .inl hr
    | ok a =>
      obtain ⟨q, hq⟩ := hf a
      refine .inr ⟨a, hr, ?_⟩
      rw [h.unique (hr.bind_ok hq)]
      exact hq
  · rintro (h | ⟨a, ha, h⟩)
    · exact h.bind_error f
    · exact ha.bind_ok h

/-- What is only made of a result does not fail. -/
theorem Settled.bind_pure_error_iff {e : Eval ε α} {g : α → β} {x : ε} (he : e.Settled) :
    (e >>= fun a => pure (g a)).Yields (.error x) ↔ e.Yields (.error x) := by
  rw [he.bind_error_iff fun a => settled_pure (g a)]
  refine or_iff_left ?_
  rintro ⟨a, -, h⟩
  cases h.unique (yields_pure (g a))

/-- What reports its failures in another form succeeds and fails as before. -/
theorem Settled.rethrow_iff {e : Eval ε α} {report : ε → δ} (he : e.Settled) :
    (∀ a, (e.recover fun x => (throw (report x) : Eval δ α)).Yields (.ok a) ↔ e.Yields (.ok a)) ∧
      ∀ y, (e.recover fun x => (throw (report x) : Eval δ α)).Yields (.error y) ↔
        ∃ x, e.Yields (.error x) ∧ y = report x := by
  constructor
  · intro a
    refine ⟨fun h => ?_, fun h => h.recover_ok _⟩
    obtain h | ⟨x, -, h⟩ := (he.recover_ok_iff fun x => settled_throw (report x)).1 h
    · exact h
    · cases h.unique (yields_throw (report x))
  · intro y
    rw [he.recover_error_iff fun x => settled_throw (report x)]
    refine exists_congr fun x => and_congr_right fun _ => ?_
    exact ⟨fun h => Except.error.inj (h.unique (yields_throw _)), fun h => h ▸ yields_throw _⟩

/-- The evaluations of the elements of a list get to `a`: they succeed on all elements before it. -/
inductive GetsTo (f : α → Eval ε β) (a : α) : List α → Prop
  | here {rest} : GetsTo f a (a :: rest)
  | after {b w rest} (hb : (f b).Yields (.ok w)) (h : GetsTo f a rest) : GetsTo f a (b :: rest)

theorem GetsTo.mem {f : α → Eval ε β} {a : α} {l : List α} (h : GetsTo f a l) : a ∈ l := by
  induction h with
  | here => exact List.mem_cons_self
  | after _ _ ih => exact List.mem_cons_of_mem _ ih

/-- The first failure of a list is that of its head, or the first of the others after the head has
succeeded. -/
theorem exists_getsTo_cons {f : α → Eval ε β} {b : α} {rest : List α} {x : ε} :
    (∃ a, GetsTo f a (b :: rest) ∧ (f a).Yields (.error x)) ↔
      (f b).Yields (.error x) ∨
        ∃ w, (f b).Yields (.ok w) ∧ ∃ a, GetsTo f a rest ∧ (f a).Yields (.error x) := by
  constructor
  · rintro ⟨a, hgets, hx⟩
    cases hgets with
    | here => exact .inl hx
    | after hb h => exact .inr ⟨_, hb, a, h, hx⟩
  · rintro (hx | ⟨w, hb, a, h, hx⟩)
    · exact ⟨b, .here, hx⟩
    · exact ⟨a, .after hb h, hx⟩

theorem not_getsTo_nil {f : α → Eval ε β} {x : ε} :
    ¬∃ a, GetsTo f a [] ∧ (f a).Yields (.error x) := by
  rintro ⟨a, h, -⟩
  cases h

/-- Where evaluations that refine others fail in a list, so do the refining ones: at the same
element, or at an earlier one on which the others succeed. -/
theorem GetsTo.refining {f : α → Eval δ β} {g : α → Eval ε β} {a : α} {l : List α} {x : ε}
    (hfg : ∀ b ∈ l, Refines (f b) (g b)) (h : GetsTo g a l) (hx : (g a).Yields (.error x)) :
    ∃ b y, GetsTo f b l ∧ (f b).Yields (.error y) ∧
      ((∃ w, (g b).Yields (.ok w)) ∨ (g b).Yields (.error x)) := by
  induction h with
  | @here rest =>
    obtain ⟨r, q, hr, hq, hrq⟩ := hfg a List.mem_cons_self
    cases r with
    | ok w =>
      rw [hrq w rfl] at hq
      cases hx.unique hq
    | error y => exact ⟨a, y, .here, hr, .inr hx⟩
  | @after b w rest hb h ih =>
    obtain ⟨hhead, hrest⟩ := List.forall_mem_cons.1 hfg
    obtain ⟨r, hr⟩ := hhead.settled_left
    cases r with
    | ok u =>
      obtain ⟨c, y, hc, hy, hor⟩ := ih hrest
      exact ⟨c, y, .after hr hc, hy, hor⟩
    | error y => exact ⟨b, y, .here, hr, .inl ⟨w, hb⟩⟩

end Eval

open Eval

/-- A row of items fails with the failure of the first item that fails. -/
theorem collect_error_iff {ε : Type} {f : Value → Eval ε Value} (hf : ∀ v, (f v).Settled)
    {items : List Value} {x : ε} :
    (collect f items).Yields (.error x) ↔ ∃ v, GetsTo f v items ∧ (f v).Yields (.error x) := by
  induction items with
  | nil =>
    refine iff_of_false (fun h => ?_) not_getsTo_nil
    cases h.unique (yields_pure [])
  | cons v rest ih =>
    have hrest := settled_collect hf rest
    rw [collect, (hf v).bind_error_iff fun w => hrest.bind fun ws => settled_pure _,
      exists_getsTo_cons]
    simp only [hrest.bind_pure_error_iff, ih]

namespace Ty

/-! ## Members -/

section Members

variable {raising : Bool} {policy : Policy} {fields : List (Value × Value)} {name raw : Value}
  {t : Ty} {members : List (Value × Ty)} {x : CoercionError}

/-- Filling in a member comes to a result where there are no generators. -/
theorem settled_memberValue (ht : t.generators = []) :
    (memberValue raising policy fields name t).Settled := by
  have hg : ∀ g ∈ t.generators, g.IsFixed := by simp [ht]
  have h := refines_memberValue policy fields name hg (refines_tryApply_apply t hg)
  cases raising with
  | true => exact h.settled_right
  | false => exact h.settled_left

theorem settled_resolve (hm : ∀ m ∈ members, m.2.generators = []) (output : List (Value × Value)) :
    (resolve raising policy fields members output).Settled := by
  have hg : ∀ m ∈ members, ∀ g ∈ m.2.generators, g.IsFixed := fun m h => by simp [hm m h]
  have h := refines_resolve policy fields members hg
    (fun m h v => refines_tryApply_apply m.2 (hg m h) v) output
  cases raising with
  | true => exact h.settled_right
  | false => exact h.settled_left

/-- The members fail with the error of the first one that fails, whatever they were added to. -/
theorem resolve_yields_error_iff (hm : ∀ m ∈ members, m.2.generators = [])
    (output : List (Value × Value)) :
    (resolve raising policy fields members output).Yields (.error x) ↔
      ∃ m, GetsTo (fun m => memberValue raising policy fields m.1 m.2) m members ∧
        (memberValue raising policy fields m.1 m.2).Yields (.error x) := by
  induction members generalizing output with
  | nil =>
    refine iff_of_false (fun h => ?_) not_getsTo_nil
    rw [resolve] at h
    cases h.unique (yields_pure output)
  | cons m rest ih =>
    obtain ⟨hhead, hrest⟩ := List.forall_mem_cons.1 hm
    rw [resolve_cons, (settled_memberValue hhead).bind_error_iff fun w => settled_resolve hrest _,
      exists_getsTo_cons]
    simp only [ih hrest]

/-- A member whose field is there fails as its type does, unless its policy is lenient. -/
theorem memberValue_applied (hp : policy.isLenient = false)
    (hraw : Table.get? name fields = some raw) :
    memberValue true policy fields name t =
      (t.apply raw).recover fun e => throw (.member name e) := by
  rw [memberValue, hraw]
  simp [hp]

/-- A member that is there, under a strict policy, reports its failure under its name. -/
theorem memberValue_tried (hp : policy.isLenient = false)
    (hraw : Table.get? name fields = some raw) :
    memberValue false policy fields name t =
      (t.tryApply raw).recover fun f => throw (.member name f.error) := by
  rw [memberValue, hraw]
  simp [hp]

end Members

/-! ## The errors of a type -/

/-- Applying the type to the value fails with the error. -/
def Fails (t : Ty) (x : Value) (e : CoercionError) : Prop :=
  (t.apply x).Yields (.error e)

/-- Trying the type on the value fails with the error, whatever input is reported with it. -/
def Refuses (t : Ty) (x : Value) (e : CoercionError) : Prop :=
  ∃ input, (t.tryApply x).Yields (.error ⟨input, e⟩)

/-- Trying the type on the value stops with the error at a part that can be applied.  The part is
the type itself, or it is inside: what decorators and sums hand the value to, an item of an array
that trying gets to, or a member of a schema that it gets to. -/
inductive Forestalled : Ty → Value → CoercionError → Prop
  | here {t x w f} (hrefused : t.Refuses x f) (happlied : t.Applies x w) : Forestalled t x f
  | constructor {fns inner m x y f} (hy : Coercion.runAll fns x = .ok y)
    (hdef : y.isUndefined = false) (h : Forestalled inner y f) :
    Forestalled (.decorated (.constructor fns) inner m) x f
  | enumeration {mapping inner m x f} (h : Forestalled inner (aliased mapping x) f) :
    Forestalled (.decorated (.enumeration mapping) inner m) x f
  | default {d inner m x f} (hdef : x.isUndefined = false) (h : Forestalled inner x f) :
    Forestalled (.decorated (.default d) inner m) x f
  | maybe {inner m x f} (hx : x.isAbsent = false) (h : Forestalled inner x f) :
    Forestalled (.decorated .maybe inner m) x f
  | right {left right m x f} (hl : left.Rejects x) (h : Forestalled right x f) :
    Forestalled (.sum left right m) x f
  | item {item m items v f} (hgets : GetsTo (fun v => item.tryApply v) v items)
    (h : Forestalled item v f) : Forestalled (.array item m) (.array items) f
  | member {policy transform members m entries fields name t raw f}
    (hp : policy.isLenient = false)
    (hfields : openFields policy transform (members.map (·.1)) entries = .ok fields)
    (hgets : GetsTo (fun m => memberValue false policy fields m.1 m.2) (name, t) members)
    (hraw : Table.get? name fields = some raw) (h : Forestalled t raw f) :
    Forestalled (.schema policy transform members m) (.hash entries) (.member name f)

/-- Trying the type on the value is refused, with the given error or forestalled by another. -/
def Reports (t : Ty) (x : Value) (e : CoercionError) : Prop :=
  ∃ f, t.Refuses x f ∧ (f = e ∨ t.Forestalled x f)

section Errors

variable {m : Metadata} {inner item left right t : Ty} {x y v : Value} {e f : CoercionError}

/-- A type refuses a value with one failure only. -/
theorem Refuses.unique (h : t.Refuses x e) (h' : t.Refuses x f) : e = f := by
  obtain ⟨i, hi⟩ := h
  obtain ⟨j, hj⟩ := h'
  cases hi.unique hj
  rfl

/-- The refusal of a type is among what it reports. -/
theorem Refuses.reports (h : t.Refuses x e) : t.Reports x e :=
  ⟨e, h, .inl rfl⟩

/-- Both evaluations fail at once, with the same error. -/
theorem reports_of_throw {input : Value} (happly : t.apply x = throw f)
    (htry : t.tryApply x = throw ⟨input, f⟩) (h : t.Fails x e) : t.Reports x e := by
  rw [Fails, happly] at h
  cases h.unique (yields_throw f)
  refine Refuses.reports ⟨input, ?_⟩
  rw [htry]
  exact yields_throw _

/-- What an inner type reports comes through, if its errors do. -/
theorem Reports.through (hrefuses : ∀ {f}, inner.Refuses y f → t.Refuses x f)
    (hforestalled : ∀ {f}, inner.Forestalled y f → t.Forestalled x f) (h : inner.Reports y e) :
    t.Reports x e := by
  obtain ⟨f, hf, hor⟩ := h
  exact ⟨f, hrefuses hf, hor.imp_right hforestalled⟩

/-! ### Errors that come through -/

/-- A type behind functions refuses what it refuses of what they make. -/
theorem refuses_constructor {fns : List Coercion} (hy : Coercion.runAll fns x = .ok y)
    (hdef : y.isUndefined = false) (h : inner.Refuses y f) :
    (decorated (.constructor fns) inner m).Refuses x f := by
  simpa [Refuses, tryApply, hy, hdef] using h

/-- An enumeration refuses what the type inside refuses of the value behind the alias. -/
theorem refuses_enumeration {mapping : List (Value × Value)}
    (h : inner.Refuses (aliased mapping x) f) :
    (decorated (.enumeration mapping) inner m).Refuses x f := by
  simpa [Refuses, tryApply] using h

/-- A default does not stand in for a value that is there. -/
theorem refuses_default {d : Default} (hdef : x.isUndefined = false) (h : inner.Refuses x f) :
    (decorated (.default d) inner m).Refuses x f := by
  obtain ⟨i, hi⟩ := h
  refine ⟨i, ?_⟩
  simp only [tryApply, hdef, Bool.false_eq_true, if_false]
  exact hi.bind_error _

theorem refuses_maybe (hx : x.isAbsent = false) (h : inner.Refuses x f) :
    (decorated .maybe inner m).Refuses x f := by
  simpa [Refuses, tryApply, hx] using h

/-- A sum refuses with the failure of its right side. -/
theorem refuses_right (hl : left.Rejects x) (h : right.Refuses x f) :
    (sum left right m).Refuses x f := by
  obtain ⟨g, hg⟩ := hl
  obtain ⟨i, hi⟩ := h
  refine ⟨i, ?_⟩
  rw [tryApply]
  exact hg.recover_error hi

/-- An array refuses with the failure of its first item that fails. -/
theorem refuses_item (hi : item.generators = []) {items : List Value}
    (hgets : GetsTo (fun v => item.tryApply v) v items) (h : item.Refuses v f) :
    (array item m).Refuses (.array items) f := by
  obtain ⟨i, hf⟩ := h
  have hcollect : (collect (fun v => item.tryApply v) items).Yields (.error ⟨i, f⟩) :=
    (collect_error_iff (settled_tryApply hi)).2 ⟨v, hgets, hf⟩
  refine ⟨.array items, ?_⟩
  rw [tryApply]
  refine Yields.bind_error _ (hcollect.recover_error ?_)
  exact yields_throw _

/-- What is computed without trying is blamed on the input. -/
theorem yields_blame {e : Eval CoercionError Value} (h : e.Yields (.error f)) (v : Value) :
    (Eval.blame v e).Yields (.error ⟨v, f⟩) :=
  h.recover_error (yields_throw _)

/-- A schema refuses with the failure of its first member that fails. -/
theorem refuses_schema {policy : Policy} {transform : KeyTransform} {members : List (Value × Ty)}
    {entries fields : List (Value × Value)}
    (hfields : openFields policy transform (members.map (·.1)) entries = .ok fields)
    (h : (resolve false policy fields members []).Yields (.error f)) :
    (schema policy transform members m).Refuses (.hash entries) f := by
  refine ⟨.hash entries, ?_⟩
  rw [tryApply]
  refine yields_blame ?_ _
  rw [hfields]
  exact h.bind_error _

/-- An error that forestalls others is the one that trying fails with. -/
theorem Forestalled.refuses (ht : t.generators = []) (h : t.Forestalled x f) : t.Refuses x f := by
  induction h with
  | here hrefused _ => exact hrefused
  | constructor hy hdef _ ih => exact refuses_constructor hy hdef (ih (generators_inner ht))
  | enumeration _ ih => exact refuses_enumeration (ih (generators_inner ht))
  | default hdef _ ih => exact refuses_default hdef (ih (generators_inner ht))
  | maybe hx _ ih => exact refuses_maybe hx (ih (generators_inner ht))
  | right hl _ ih => exact refuses_right hl (ih (generators_sides ht).2)
  | item hgets _ ih => exact refuses_item (generators_item ht) hgets (ih (generators_item ht))
  | @member policy transform members m entries fields name t raw f hp hfields hgets hraw _ ih =>
    have hm := generators_members ht
    obtain ⟨i, hi⟩ := ih (hm _ hgets.mem)
    have hmember : (memberValue false policy fields name t).Yields (.error (.member name f)) := by
      rw [memberValue_tried hp hraw]
      exact hi.recover_error (yields_throw _)
    exact refuses_schema hfields ((resolve_yields_error_iff hm []).2 ⟨_, hgets, hmember⟩)

/-! ### Errors of each kind of type -/

/-- If the type inside reports its failures, it does so behind functions. -/
theorem reports_constructor {fns : List Coercion} (ih : ∀ {y}, inner.Fails y e → inner.Reports y e)
    (h : (decorated (.constructor fns) inner m).Fails x e) :
    (decorated (.constructor fns) inner m).Reports x e := by
  cases hy : Coercion.runAll fns x with
  | error e' =>
    have happly : (decorated (.constructor fns) inner m).apply x = throw e' := by
      rw [apply, hy, liftM_error, throw_bind]
    have htry : (decorated (.constructor fns) inner m).tryApply x = throw ⟨x, e'⟩ := by
      rw [tryApply, hy]
    exact reports_of_throw happly htry h
  | ok y =>
    simp only [Fails, apply, hy, liftM_ok, pure_bind] at h
    split at h
    case isTrue => cases h.unique (yields_pure y)
    case isFalse hdef =>
      have hdef' := Bool.eq_false_iff.2 hdef
      exact (ih h).through (refuses_constructor hy hdef') (.constructor hy hdef')

theorem reports_default {d : Default} (ht : (decorated (.default d) inner m).generators = [])
    (ih : inner.Fails x e → inner.Reports x e) (h : (decorated (.default d) inner m).Fails x e) :
    (decorated (.default d) inner m).Reports x e := by
  obtain ⟨w, hw⟩ := exists_steady_default ht
  simp only [Fails, apply] at h
  split at h
  case isTrue => cases h.unique (yields_lift hw)
  case isFalse hdef =>
    have hstand (u : Value) : ∃ v, (if u.isAbsent = true then liftM d.evaluate else pure u :
        Eval CoercionError Value).Yields (.ok v) := by
      split
      · exact ⟨w, yields_lift hw⟩
      · exact ⟨u, yields_pure u⟩
    have hdef' := Bool.eq_false_iff.2 hdef
    rcases ((settled_apply (generators_inner ht) x).bind_error_iff
      fun u => (hstand u).imp' _ fun _ hv => hv).1 h with h | ⟨u, -, hu⟩
    · exact (ih h).through (refuses_default hdef') (.default hdef')
    · obtain ⟨v, hv⟩ := hstand u
      cases hu.unique hv

/-- Trying checks the rule of a constrained type on what the inner type gives when it is applied. -/
theorem reports_constrained {rule : Rule} (h : (decorated (.constrained rule) inner m).Fails x e) :
    (decorated (.constrained rule) inner m).Reports x e := by
  refine Refuses.reports ⟨x, ?_⟩
  rw [tryApply]
  rw [Fails, apply] at h
  exact yields_blame h x

/-- A safe type does not fail. -/
theorem not_fails_safe (hi : inner.generators = []) : ¬(decorated .safe inner m).Fails x e := by
  intro h
  rw [Fails, apply, (settled_tryApply hi x).recover_error_iff fun _ => settled_pure x] at h
  obtain ⟨f, -, h⟩ := h
  cases h.unique (yields_pure x)

/-- A sum reports the failures of its right side, as those of the left are lost. -/
theorem reports_sum (ht : (sum left right m).generators = [])
    (ih : right.Fails x e → right.Reports x e) (h : (sum left right m).Fails x e) :
    (sum left right m).Reports x e := by
  obtain ⟨hl, hr⟩ := generators_sides ht
  rw [Fails, apply, (settled_tryApply hl x).recover_error_iff fun _ => settled_apply hr x] at h
  obtain ⟨f, hleft, hright⟩ := h
  exact (ih hright).through (refuses_right ⟨f, hleft⟩) (.right ⟨f, hleft⟩)

/-- An array reports the first item that fails.  An item that is refused and not applied with that
error is before it, and can be applied. -/
theorem reports_array (ht : (array item m).generators = [])
    (ih : ∀ {v}, item.Fails v e → item.Reports v e) (h : (array item m).Fails x e) :
    (array item m).Reports x e := by
  have hi := generators_item ht
  cases x with
  | array items =>
    rw [Fails, apply, (settled_collect (settled_apply hi) items).bind_pure_error_iff] at h
    obtain ⟨v, hgets, hv⟩ := (collect_error_iff (settled_apply hi)).1 h
    obtain ⟨w, ⟨i, f⟩, hgets', hf, hor⟩ := hgets.refining
      (fun w _ => refines_tryApply_apply item (by simp [hi]) w) hv
    refine ⟨f, refuses_item hi hgets' ⟨i, hf⟩, ?_⟩
    obtain ⟨u, hu⟩ | hfails := hor
    · exact .inr (.item hgets' (.here ⟨i, hf⟩ hu))
    · obtain ⟨f', hf', hor'⟩ := ih hfails
      obtain rfl : f' = f := hf'.unique ⟨i, hf⟩
      exact hor'.imp_right (.item hgets')
  | _ =>
    simp only [Fails, apply] at h
    cases h.unique (yields_pure _)

/-- A member that is refused when it is tried fails with the same error when it is applied, or its
type forestalls that. -/
theorem member_error_or_forestalled {policy : Policy} {fields : List (Value × Value)} {name : Value}
    (ht : t.generators = []) (ih : ∀ {v e}, t.Fails v e → t.Reports v e)
    (htried : (memberValue false policy fields name t).Yields (.error f))
    (happlied : (∃ w, (memberValue true policy fields name t).Yields (.ok w)) ∨
      (memberValue true policy fields name t).Yields (.error e)) :
    f = e ∨ ∃ raw g, policy.isLenient = false ∧ Table.get? name fields = some raw ∧
      f = .member name g ∧ t.Forestalled raw g := by
  -- a missing field and a lenient policy do not look at how members are evaluated
  have hsame (h : memberValue false policy fields name t = memberValue true policy fields name t) :
      f = e := by
    rw [h] at htried
    obtain ⟨w, hw⟩ | he := happlied
    · cases hw.unique htried
    · exact Except.error.inj (htried.unique he)
  cases hraw : Table.get? name fields with
  | none => exact .inl (hsame (by rw [memberValue, memberValue, hraw]))
  | some raw =>
    cases hp : policy.isLenient with
    | true => exact .inl (hsame (by simp [memberValue, hraw, hp]))
    | false =>
      rw [memberValue_tried hp hraw] at htried
      rw [memberValue_applied hp hraw] at happlied
      obtain ⟨⟨i, g⟩, hg, rfl⟩ := ((settled_tryApply ht raw).rethrow_iff.2 _).1 htried
      obtain ⟨w, hw⟩ | he := happlied
      · have hw' := ((settled_apply ht raw).rethrow_iff.1 w).1 hw
        exact .inr ⟨raw, g, rfl, rfl, rfl, .here ⟨i, hg⟩ hw'⟩
      · obtain ⟨e', he', rfl⟩ := ((settled_apply ht raw).rethrow_iff.2 _).1 he
        obtain ⟨g', hg', hor⟩ := ih he'
        obtain rfl : g' = g := hg'.unique ⟨i, hg⟩
        exact hor.imp (congrArg _) fun h => ⟨raw, g', rfl, rfl, rfl, h⟩

/-- A schema checks its keys alike in both ways, and then reports the first member that fails. -/
theorem reports_schema {policy : Policy} {transform : KeyTransform} {members : List (Value × Ty)}
    (ht : (schema policy transform members m).generators = [])
    (ih : ∀ e ∈ members, ∀ {v f}, e.2.Fails v f → e.2.Reports v f)
    (h : (schema policy transform members m).Fails x e) :
    (schema policy transform members m).Reports x e := by
  have hm := generators_members ht
  cases x with
  | hash entries =>
    rw [Fails, apply] at h
    cases hfields : openFields policy transform (members.map (·.1)) entries with
    | error e' =>
      rw [hfields] at h
      cases h.unique (yields_throw e')
      refine Refuses.reports ⟨.hash entries, ?_⟩
      rw [tryApply]
      refine yields_blame ?_ _
      rw [hfields]
      exact yields_throw e
    | ok fields =>
      rw [hfields, liftM_ok, pure_bind, (settled_resolve hm []).bind_pure_error_iff] at h
      obtain ⟨a, hgets, ha⟩ := (resolve_yields_error_iff hm []).1 h
      obtain ⟨⟨name, t⟩, f, hgets', hf, hor⟩ := hgets.refining
        (fun b hb => refines_memberValue policy fields b.1 (by simp [hm b hb])
          (refines_tryApply_apply b.2 (by simp [hm b hb]))) ha
      refine ⟨f, refuses_schema hfields ((resolve_yields_error_iff hm []).2 ⟨_, hgets', hf⟩), ?_⟩
      obtain rfl | ⟨raw, g, hp, hraw, rfl, hforestalled⟩ :=
        member_error_or_forestalled (hm _ hgets'.mem) (ih _ hgets'.mem) hf hor
      · exact .inl rfl
      · exact .inr (.member hp hfields hgets' hraw hforestalled)
  | _ => exact reports_of_throw rfl rfl h

/-- A map tries its entries in both ways and reports all their errors. -/
theorem reports_map {key value : Ty} (h : (map key value m).Fails x e) :
    (map key value m).Reports x e := by
  cases x with
  | hash entries =>
    refine Refuses.reports ⟨.hash entries, ?_⟩
    rw [tryApply]
    rw [Fails, apply] at h
    exact yields_blame h _
  | _ => exact reports_of_throw rfl rfl h

/-- Every failure of a type without generators is one that it reports. -/
theorem reports_of_fails (ht : t.generators = []) (h : t.Fails x e) : t.Reports x e := by
  induction t generalizing x e with
  | definition p m =>
    rw [Fails, apply] at h
    cases h.unique (yields_pure x)
  | decorated d inner m ih =>
    replace ih {y e} := @ih y e (generators_inner ht)
    cases d with
    | constructor fns => exact reports_constructor ih h
    | constrained rule => exact reports_constrained h
    | enumeration mapping =>
      rw [Fails, apply] at h
      exact (ih h).through refuses_enumeration .enumeration
    | safe => exact absurd h (not_fails_safe (generators_inner ht))
    | default d => exact reports_default ht ih h
    | maybe =>
      simp only [Fails, apply] at h
      split at h
      case isTrue => cases h.unique (yields_pure _)
      case isFalse hx =>
        have hx' := Bool.eq_false_iff.2 hx
        exact (ih h).through (refuses_maybe hx') (.maybe hx')
  | sum left right m _ ihr => exact reports_sum ht (ihr (generators_sides ht).2) h
  | schema policy transform members m ih =>
    exact reports_schema ht (fun b hb {v f} => ih b hb (generators_members ht b hb)) h
  | array item m ih => exact reports_array ht (ih (generators_item ht)) h
  | map key value m _ _ => exact reports_map h

end Errors

/-- **Trying reports the error of applying.**  Where applying fails, trying fails: with the same
error, unless it stops at a part that can be applied; then it fails with the error of that part. -/
theorem tried_error (t : Ty) (ht : t.generators = []) (x : Value) (e : CoercionError)
    (h : (t.apply x).Yields (.error e)) :
    ∃ failure, (t.tryApply x).Yields (.error failure) ∧
      ((∀ f, ¬t.Forestalled x f) → failure.error = e) ∧
      ∀ f, t.Forestalled x f → failure.error = f := by
  obtain ⟨f, ⟨i, hf⟩, hor⟩ := reports_of_fails ht h
  refine ⟨⟨i, f⟩, hf, fun hnone => hor.resolve_right (hnone f), fun g hg => ?_⟩
  exact Refuses.unique ⟨i, hf⟩ (hg.refuses ht)

/-- Arrays of strict strings report the first item that is no string, applied and tried. -/
theorem tried_error_strings :
    (arrays (strict .string)).generators = [] ∧
      ((arrays (strict .string)).apply (.array [.string "a", .integer 1, .integer 2])).Yields
        (.error (.constraint (.integer 1) (.predicate (.type .string) (.integer 1)))) ∧
      ∃ failure, ((arrays (strict .string)).tryApply
          (.array [.string "a", .integer 1, .integer 2])).Yields (.error failure) ∧
        failure.error = .constraint (.integer 1) (.predicate (.type .string) (.integer 1)) := by
  have hfails :
      ((arrays (strict .string)).apply (.array [.string "a", .integer 1, .integer 2])).Yields
        (.error (.constraint (.integer 1) (.predicate (.type .string) (.integer 1)))) :=
    fun _ => rfl
  have hnone (f : CoercionError) : ¬(arrays (strict .string)).Forestalled
      (.array [.string "a", .integer 1, .integer 2]) f := by
    intro h
    cases h with
    | here _ happlied => cases hfails.unique happlied
    | item _ h =>
      -- what a strict type applies to it accepts
      obtain ⟨⟨i, hi⟩, happlied⟩ := h
      exact ((accepts_constrained rfl).2 happlied).not_rejects ⟨_, hi⟩
  obtain ⟨failure, htried, hsame, -⟩ := tried_error (arrays (strict .string)) rfl _ _ hfails
  exact ⟨rfl, hfails, failure, htried, hsame hnone⟩

/-- Arrays of arrays of integers. -/
def rows : Ty :=
  arrays (arrays (strict .integer))

/-- Hashes of a nominal integer and a strict one. -/
def counts : Ty :=
  hashes [(.string "a", ofPrimitive .integer), (.string "b", strict .integer)]

/-- The error of applying can be forestalled.  Applied, rows give back what is no row and report an
item of the next one, and a nominal member gives back what it does not admit.  Tried, both stop
there. -/
theorem error_not_always_same :
    (rows.generators = [] ∧
      rows.Fails (.array [.string "x", .array [.string "y"]])
        (.constraint (.string "y") (.predicate (.type .integer) (.string "y"))) ∧
      rows.Refuses (.array [.string "x", .array [.string "y"]])
        (.typeMismatch (.string "x") .array) ∧
      ¬rows.Refuses (.array [.string "x", .array [.string "y"]])
        (.constraint (.string "y") (.predicate (.type .integer) (.string "y")))) ∧
    (counts.generators = [] ∧
      counts.Fails (.hash [(.string "a", .string "x"), (.string "b", .string "y")])
        (.member (.string "b") (.constraint (.string "y")
          (.predicate (.type .integer) (.string "y")))) ∧
      counts.Refuses (.hash [(.string "a", .string "x"), (.string "b", .string "y")])
        (.member (.string "a") (.typeMismatch (.string "x") .integer)) ∧
      ¬counts.Refuses (.hash [(.string "a", .string "x"), (.string "b", .string "y")])
        (.member (.string "b")
          (.constraint (.string "y") (.predicate (.type .integer) (.string "y"))))) := by
  refine ⟨⟨rfl, fun _ => rfl, ⟨_, fun _ => rfl⟩, fun h => ?_⟩,
    rfl, fun _ => rfl, ⟨_, fun _ => rfl⟩, fun h => ?_⟩
  · have hfirst : rows.Refuses (.array [.string "x", .array [.string "y"]])
        (.typeMismatch (.string "x") .array) := ⟨_, fun _ => rfl⟩
    cases hfirst.unique h
  · have hfirst : counts.Refuses (.hash [(.string "a", .string "x"), (.string "b", .string "y")])
        (.member (.string "a") (.typeMismatch (.string "x") .integer)) := ⟨_, fun _ => rfl⟩
    cases (CoercionError.member.inj (hfirst.unique h)).2

end Ty

end Conform
