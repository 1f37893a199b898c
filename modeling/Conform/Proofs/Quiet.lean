import Conform.Proofs.Calls
import Conform.Ty.Combinators

/-!
# What validation calls

Validation passes over the defaults of the type itself: a value that is missing is valid whatever
would stand in for it, and otherwise the inner type decides.  Beneath these defaults it tries the
value, and trying calls the generators that are reached: those of defaults further inside, which
stand in for missing items and members and for absent results.  So validating a value can count as a
call and change what the generator gives next.

* `Ty.Draws` — where a generator is reached, with one case for each way on.
* `Ty.invokes_iff_draws` — generators are called there and nowhere else, from one lemma for each
  kind of type.
* `Ty.isValid_eq` — what validation tries.
* `Ty.validity_draws_iff` — **when validation calls a generator**, and what it leaves alone.
* `Ty.validity_not_always_quiet` — a gap in an array, and a generator that goes on from one.
-/

namespace Conform

namespace Ty

/-! ## Where a generator is called -/

/-- A generator is called when the value is tried, or when the type is applied to it. -/
def Invokes : Bool → Ty → Value → Supply → Prop
  | true, t, x, s => Calls (t.tryApply x).run s
  | false, t, x, s => Calls (t.apply x).run s

/-- What trying the value, or applying the type to it, gives, unless it fails. -/
def value? : Bool → Ty → Value → Supply → Option Value
  | true, t, x, s => ((t.tryApply x).outcome s).toOption
  | false, t, x, s => ((t.apply x).outcome s).toOption

/-- A generator is called for the value, which is tried or which the type is applied to:
* a generator stands in for the value that is missing or for an absent result;
* a rule applies what it checks, and an alternative, a part that is safe, a key or a value is tried;
* the right side of a sum, an item or a member has its turn when what comes before it lets it: a
  left side that fails, and items and members that do not;
* a missing member is filled from its default if the policy asks for that.

All outcomes are those against `s`, which is the supply until something is called. -/
inductive Draws (s : Supply) : Bool → Ty → Value → Prop
  | missing {trying g inner m x} (hx : x.isUndefined = true) :
    Draws s trying (.decorated (.default (.drawn g)) inner m) x
  | absent {trying g inner m x w} (hx : x.isUndefined = false)
    (hw : inner.value? trying x s = some w) (habsent : w.isAbsent = true) :
    Draws s trying (.decorated (.default (.drawn g)) inner m) x
  | default {trying d inner m x} (hx : x.isUndefined = false) (h : Draws s trying inner x) :
    Draws s trying (.decorated (.default d) inner m) x
  | constructor {trying fns inner m x w} (hw : Coercion.runAll fns x = .ok w)
    (hdefined : w.isUndefined = false) (h : Draws s trying inner w) :
    Draws s trying (.decorated (.constructor fns) inner m) x
  | constrained {trying rule inner m x} (h : Draws s false inner x) :
    Draws s trying (.decorated (.constrained rule) inner m) x
  | enumeration {trying mapping inner m x} (h : Draws s trying inner (aliased mapping x)) :
    Draws s trying (.decorated (.enumeration mapping) inner m) x
  | safe {trying inner m x} (h : Draws s true inner x) : Draws s trying (.decorated .safe inner m) x
  | maybe {trying inner m x} (hx : x.isAbsent = false) (h : Draws s trying inner x) :
    Draws s trying (.decorated .maybe inner m) x
  | left {trying left right m x} (h : Draws s true left x) : Draws s trying (.sum left right m) x
  | right {trying left right m x} (hleft : left.value? true x s = none)
      (h : Draws s trying right x) :
    Draws s trying (.sum left right m) x
  | item {trying item m before v after}
      (hbefore : ∀ u ∈ before, ∃ w, item.value? trying u s = some w)
    (h : Draws s trying item v) : Draws s trying (.array item m) (.array (before ++ v :: after))
  | key {trying key value m entries e} (he : e ∈ entries) (h : Draws s true key e.1) :
    Draws s trying (.map key value m) (.hash entries)
  | value {trying key value m entries e} (he : e ∈ entries) (h : Draws s true value e.2) :
    Draws s trying (.map key value m) (.hash entries)
  | member {trying policy transform before name t after m entries fields raw}
    (hfields : openFields policy transform ((before ++ (name, t) :: after).map (·.1)) entries =
      .ok fields)
    (hbefore : ∀ e ∈ before, ∃ w, (memberValue (!trying) policy fields e.1 e.2).outcome s = .ok w)
    (hraw : Table.get? name fields = some raw) (h : Draws s (policy.isLenient || trying) t raw) :
    Draws s trying (.schema policy transform (before ++ (name, t) :: after) m) (.hash entries)
  | filled {trying policy transform before name t after m entries fields g}
    (hfields : openFields policy transform ((before ++ (name, t) :: after).map (·.1)) entries =
      .ok fields)
    (hbefore : ∀ e ∈ before, ∃ w, (memberValue (!trying) policy fields e.1 e.2).outcome s = .ok w)
    (hraw : Table.get? name fields = none) (hpolicy : policy.appliesDefaults = true)
    (ht : t.default? = some (.drawn g)) :
    Draws s trying (.schema policy transform (before ++ (name, t) :: after) m) (.hash entries)

/-! ## One type at a time

Each lemma says what one type hands on, in both modes: applying and trying go the same way, but for
a rule, which applies, and for what is safe and left sides, which are tried.
-/

variable {trying : Bool} {t inner left right item key value : Ty} {m : Metadata} {x : Value}
  {s : Supply}

/-- Applying a type counts its calls. -/
theorem counted_apply (t : Ty) (x : Value) : Counted (t.apply x).run :=
  (t.callsOnly (fun _ _ => trivial) x).1

theorem counted_tryApply (t : Ty) (x : Value) : Counted (t.tryApply x).run :=
  (t.callsOnly (fun _ _ => trivial) x).2

theorem toOption_eq_some_iff {ε : Type} {r : Except ε Value} {w : Value} :
    r.toOption = some w ↔ r = .ok w := by
  cases r <;> simp [Except.toOption]

theorem toOption_eq_none_iff {ε : Type} {r : Except ε Value} :
    r.toOption = none ↔ ∃ e, r = .error e := by
  cases r <;> simp [Except.toOption]

/-- A primitive calls nothing. -/
theorem not_invokes_definition {p : Primitive} : ¬(definition p m).Invokes trying x s := by
  cases trying with
  | false => exact not_calls_evalPure x
  | true =>
    rw [Invokes, tryApply]
    split
    · exact not_calls_evalPure x
    · exact not_calls_evalThrow _

/-- Behind functions the type is called with what they make, unless that is undefined. -/
theorem invokes_constructor_iff {fns : List Coercion} :
    (decorated (.constructor fns) inner m).Invokes trying x s ↔
      ∃ w, Coercion.runAll fns x = .ok w ∧ w.isUndefined = false ∧ inner.Invokes trying w s := by
  cases hrun : Coercion.runAll fns x with
  | error e =>
    refine iff_of_false ?_ ?_
    · cases trying <;> simp only [Invokes, apply, tryApply, hrun] <;> exact not_calls_evalThrow _
    · rintro ⟨w, h, -⟩
      cases h
  | ok w =>
    cases hw : w.isUndefined with
    | true =>
      refine iff_of_false ?_ ?_
      · cases trying <;>
          simp only [Invokes, apply, tryApply, hrun, Eval.liftM_ok, pure_bind, hw, if_true] <;>
          exact not_calls_evalPure w
      · rintro ⟨u, hu, hdefined, -⟩
        cases hu
        cases hw.symm.trans hdefined
    | false => cases trying <;> simp [Invokes, apply, tryApply, hrun, hw]

/-- Under a rule the type is applied, also where the whole is tried. -/
theorem invokes_constrained_iff {rule : Rule} :
    (decorated (.constrained rule) inner m).Invokes trying x s ↔ inner.Invokes false x s := by
  have hcounted : Counted (do let w ← inner.apply x; rule.check w : Eval CoercionError Value).run :=
    .evalBind (inner.counted_apply x) fun w => .evalLiftExcept _
  have happly : Calls (do let w ← inner.apply x; rule.check w : Eval CoercionError Value).run s ↔
      Calls (inner.apply x).run s :=
    calls_evalBind_quiet_iff (inner.counted_apply x) fun w s => not_calls_evalLiftExcept _
  cases trying with
  | false =>
    rw [Invokes, apply, Invokes]
    exact happly
  | true =>
    rw [Invokes, tryApply, Invokes]
    exact (calls_recover_quiet_iff hcounted fun _ _ => not_calls_evalThrow _).trans happly

/-- In an enumeration the type is called with the value behind the alias. -/
theorem invokes_enumeration_iff {mapping : List (Value × Value)} :
    (decorated (.enumeration mapping) inner m).Invokes trying x s ↔
      inner.Invokes trying (aliased mapping x) s := by
  cases trying <;> simp only [Invokes, apply, tryApply]

/-- In a safe type the type is tried. -/
theorem invokes_safe_iff :
    (decorated .safe inner m).Invokes trying x s ↔ inner.Invokes true x s := by
  cases trying with
  | false =>
    simp only [Invokes, apply]
    exact calls_recover_quiet_iff (inner.counted_tryApply x) fun _ _ => not_calls_evalPure x
  | true => rw [Invokes, tryApply, Invokes]

/-- The default is drawn for what is absent, before or after the inner type. -/
theorem calls_filled_iff {ε : Type} {d : Default} {e : Eval ε Value} (he : Counted e.run) :
    Calls (do let w ← e; if w.isAbsent then d.evaluate else pure w : Eval ε Value).run s ↔
      Calls e.run s ∨
        ∃ w, (e.outcome s).toOption = some w ∧ w.isAbsent = true ∧ ∃ g, d = .drawn g := by
  have hd : CallsOnly (fun _ => True) d.evaluate := .evaluate fun _ _ => trivial
  have hrest : ∀ w : Value,
      Counted (if w.isAbsent then d.evaluate else pure w : Eval ε Value).run := by
    intro w
    split
    · exact .evalLift hd
    · exact .evalPure w
  rw [calls_evalBind_iff he hrest]
  refine or_congr_right (exists_congr fun w => ?_)
  rw [toOption_eq_some_iff]
  refine and_congr_right fun _ => ?_
  cases w.isAbsent with
  | true => exact calls_evaluate_iff.trans (and_iff_right rfl).symm
  | false => exact iff_of_false (not_calls_evalPure w) (by simp)

/-- A default is drawn for what is undefined, and again where the type inside comes to nothing. -/
theorem invokes_default_iff {d : Default} :
    (decorated (.default d) inner m).Invokes trying x s ↔
      if x.isUndefined then ∃ g, d = .drawn g
      else inner.Invokes trying x s ∨
        ∃ w, inner.value? trying x s = some w ∧ w.isAbsent = true ∧ ∃ g, d = .drawn g := by
  cases hx : x.isUndefined with
  | true =>
    rw [if_pos rfl]
    cases trying <;> simp only [Invokes, apply, tryApply, hx, if_true] <;> exact calls_evaluate_iff
  | false =>
    rw [if_neg Bool.false_ne_true]
    cases trying with
    | false =>
      simp only [Invokes, apply, hx]
      exact calls_filled_iff (inner.counted_apply x)
    | true =>
      simp only [Invokes, tryApply, hx]
      exact calls_filled_iff (inner.counted_tryApply x)

/-- An optional type calls nothing for what is absent. -/
theorem invokes_maybe_iff :
    (decorated .maybe inner m).Invokes trying x s ↔
      x.isAbsent = false ∧ inner.Invokes trying x s := by
  cases hx : x.isAbsent with
  | true =>
    refine iff_of_false ?_ (by simp)
    cases trying <;> simp only [Invokes, apply, tryApply, hx, if_true] <;>
      exact not_calls_evalPure _
  | false => cases trying <;> simp [Invokes, apply, tryApply, hx]

/-- A sum calls its right side after a failure of its left side only. -/
theorem invokes_sum_iff : (sum left right m).Invokes trying x s ↔
    left.Invokes true x s ∨ left.value? true x s = none ∧ right.Invokes trying x s := by
  have hleft := left.counted_tryApply x
  cases trying with
  | false =>
    simp only [Invokes, apply, value?, toOption_eq_none_iff]
    rw [calls_recover_iff hleft fun _ => right.counted_apply x, exists_and_right]
  | true =>
    simp only [Invokes, tryApply, value?, toOption_eq_none_iff]
    rw [calls_recover_iff hleft fun _ => right.counted_tryApply x, exists_and_right]

/-- An array calls up to its first item that fails. -/
theorem invokes_array_iff : (array item m).Invokes trying x s ↔ ∃ items, x = .array items ∧
    Reached (fun v => ∃ w, item.value? trying v s = some w) (fun v => item.Invokes trying v s)
      items := by
  cases x with
  | array items =>
    simp only [Value.array.injEq, exists_eq_left']
    cases trying with
    | false =>
      have hitems := CallsOnly.collect (fun v => item.counted_apply v) items
      simp only [Invokes, apply, value?, toOption_eq_some_iff]
      rw [calls_evalBind_quiet_iff hitems fun ws s => not_calls_evalPure _,
        calls_collect_iff fun v => item.counted_apply v]
    | true =>
      have hitems := CallsOnly.collect (fun v => item.counted_tryApply v) items
      simp only [Invokes, tryApply, value?, toOption_eq_some_iff]
      rw [calls_evalBind_quiet_iff (.recover hitems fun _ => .evalThrow _) fun ws s =>
          not_calls_evalPure _,
        calls_recover_quiet_iff hitems fun _ s => not_calls_evalThrow _,
        calls_collect_iff fun v => item.counted_tryApply v]
  | _ =>
    refine iff_of_false ?_ ?_
    · cases trying
      · exact not_calls_evalPure _
      · exact not_calls_evalThrow _
    · rintro ⟨items, h, -⟩
      cases h

/-- A map calls for all its entries, failures or not. -/
theorem invokes_map_iff : (map key value m).Invokes trying x s ↔ ∃ entries, x = .hash entries ∧
    ∃ e ∈ entries, key.Invokes true e.1 s ∨ value.Invokes true e.2 s := by
  cases x with
  | hash entries =>
    have hentries := CallsOnly.attemptEntries (fun v => key.counted_tryApply v)
      (fun v => value.counted_tryApply v) entries
    have happly : Calls (do
        let attempts ← attemptEntries (fun x => key.tryApply x) (fun x => value.tryApply x) entries
        Attempt.assemble attempts : Eval CoercionError Value).run s ↔
          ∃ e ∈ entries, key.Invokes true e.1 s ∨ value.Invokes true e.2 s := by
      rw [calls_evalBind_quiet_iff (.evalLift hentries)
        fun attempts s => not_calls_evalLiftExcept _, calls_evalLift_iff,
        calls_attemptEntries_iff (fun v => key.counted_tryApply v)
          fun v => value.counted_tryApply v]
      rfl
    simp only [Value.hash.injEq, exists_eq_left']
    cases trying with
    | false =>
      simp only [Invokes, apply]
      exact happly
    | true =>
      simp only [Invokes, tryApply]
      refine (calls_recover_quiet_iff ?_ fun _ s => not_calls_evalThrow _).trans happly
      exact .evalBind (.evalLift hentries) fun attempts => .evalLiftExcept _
  | _ =>
    refine iff_of_false ?_ ?_
    · cases trying <;> exact not_calls_evalThrow _
    · rintro ⟨entries, h, -⟩
      cases h

/-! ### Schemas -/

section Schema

variable {policy : Policy} {transform : KeyTransform} {members : List (Value × Ty)} {name : Value}
  {fields output : List (Value × Value)} {raising : Bool}

/-- Filling in a member calls the generator of its default, if the policy fills in defaults. -/
theorem calls_fill_iff :
    Calls (fill policy name t).run s ↔
      policy.appliesDefaults = true ∧ ∃ g, t.default? = some (.drawn g) := by
  unfold fill
  split
  case h_1 d hp hd =>
    rw [hp, hd, and_iff_right rfl]
    exact calls_evaluate_iff.trans (by simp)
  case h_2 hp hd _ =>
    rw [hd]
    exact iff_of_false (not_calls_evalPure _) (by simp)
  case h_3 hfirst _ =>
    refine iff_of_false ?_ ?_
    · split
      · exact not_calls_evalThrow _
      · exact not_calls_evalPure _
    · rintro ⟨hp, g, hd⟩
      exact hfirst _ hp hd

/-- A member calls what its field asks it for, or draws its own default for a missing field. -/
theorem calls_memberValue_iff :
    Calls (memberValue (!trying) policy fields name t).run s ↔
      (∃ raw, Table.get? name fields = some raw ∧ t.Invokes (policy.isLenient || trying) raw s) ∨
        Table.get? name fields = none ∧ policy.appliesDefaults = true ∧
          ∃ g, t.default? = some (.drawn g) := by
  unfold memberValue
  cases hraw : Table.get? name fields with
  | none => simpa using calls_fill_iff
  | some raw =>
    have hlenient :
        Calls ((t.tryApply raw).recover fun _ => pure raw : Eval CoercionError Value).run s ↔
          t.Invokes true raw s :=
      calls_recover_quiet_iff (t.counted_tryApply raw) fun _ s => not_calls_evalPure raw
    cases policy.isLenient with
    | true => simpa using hlenient
    | false =>
      cases trying with
      | false =>
        simpa [Invokes] using
          calls_recover_quiet_iff (t.counted_apply raw) fun _ s => not_calls_evalThrow _
      | true =>
        simpa [Invokes] using
          calls_recover_quiet_iff (t.counted_tryApply raw) fun _ s => not_calls_evalThrow _

theorem counted_memberValue (t : Ty) : Counted (memberValue raising policy fields name t).run :=
  callsOnly_memberValue (fun _ _ => trivial) fun v => ⟨t.counted_apply v, t.counted_tryApply v⟩

/-- Members are asked up to the first one that fails. -/
theorem calls_resolve_iff :
    Calls (resolve raising policy fields members output).run s ↔
      Reached (fun e => ∃ w, (memberValue raising policy fields e.1 e.2).outcome s = .ok w)
        (fun e => Calls (memberValue raising policy fields e.1 e.2).run s) members := by
  induction members generalizing output with
  | nil => exact iff_of_false (not_calls_evalPure _) not_reached_nil
  | cons e rest ih =>
    rw [resolve_cons, calls_evalBind_iff (counted_memberValue e.2) fun w =>
      callsOnly_resolve (fun e _ => counted_memberValue e.2) _, reached_cons_iff]
    simp only [ih, exists_and_right]

/-- A schema calls for its members up to the first one that fails. -/
theorem invokes_schema_iff :
    (schema policy transform members m).Invokes trying x s ↔
      ∃ entries fields, x = .hash entries ∧
        openFields policy transform (members.map (·.1)) entries = .ok fields ∧
        Reached (fun e => ∃ w, (memberValue (!trying) policy fields e.1 e.2).outcome s = .ok w)
          (fun e => Calls (memberValue (!trying) policy fields e.1 e.2).run s) members := by
  cases x with
  | hash entries =>
    have hcounted : ∀ raising fields, Counted (do
        let output ← resolve raising policy fields members []
        pure (.hash output) : Eval CoercionError Value).run := fun raising fields =>
      .evalBind (callsOnly_resolve (fun e _ => counted_memberValue e.2) _) fun output => .evalPure _
    have happly : ∀ raising, Calls (do
        let fields ← openFields policy transform (members.map (·.1)) entries
        let output ← resolve raising policy fields members []
        pure (.hash output) : Eval CoercionError Value).run s ↔ ∃ fields,
          openFields policy transform (members.map (·.1)) entries = .ok fields ∧
          Reached (fun e => ∃ w, (memberValue raising policy fields e.1 e.2).outcome s = .ok w)
            (fun e => Calls (memberValue raising policy fields e.1 e.2).run s) members := by
      intro raising
      rw [calls_evalBind_iff (.evalLiftExcept _) (hcounted raising),
        or_iff_right (not_calls_evalLiftExcept _)]
      refine exists_congr fun fields => and_congr_right fun _ => ?_
      rw [calls_evalBind_quiet_iff (callsOnly_resolve (fun e _ => counted_memberValue e.2) _)
        fun output s => not_calls_evalPure _, calls_resolve_iff]
    simp only [Value.hash.injEq, exists_and_left, exists_eq_left']
    cases trying with
    | false =>
      simp only [Invokes, apply]
      exact happly true
    | true =>
      simp only [Invokes, tryApply]
      exact (calls_recover_quiet_iff (.evalBind (.evalLiftExcept _) (hcounted false)) fun _ s =>
        not_calls_evalThrow _).trans (happly false)
  | _ =>
    refine iff_of_false ?_ ?_
    · cases trying <;> exact not_calls_evalThrow _
    · rintro ⟨entries, fields, h, -⟩
      cases h

end Schema

/-! ## All types -/

/-- **Generators are called where they are reached**, and nowhere else, by induction on the type. -/
theorem invokes_iff_draws : t.Invokes trying x s ↔ Draws s trying t x := by
  induction t generalizing trying x with
  | definition p m =>
    -- nothing is drawn for a primitive: no case of the relation is about it
    refine iff_of_false not_invokes_definition ?_
    rintro ⟨⟩
  | decorated d inner m ih =>
    cases d with
    | constructor fns =>
      simp only [invokes_constructor_iff, ih]
      constructor
      · rintro ⟨w, hw, hdefined, h⟩
        exact .constructor hw hdefined h
      · rintro (_ | _ | _ | ⟨hw, hdefined, h⟩)
        exact ⟨_, hw, hdefined, h⟩
    | constrained rule =>
      rw [invokes_constrained_iff, ih]
      exact ⟨.constrained, fun h => by cases h with | constrained h => exact h⟩
    | enumeration mapping =>
      rw [invokes_enumeration_iff, ih]
      exact ⟨.enumeration, fun h => by cases h with | enumeration h => exact h⟩
    | safe =>
      rw [invokes_safe_iff, ih]
      exact ⟨.safe, fun h => by cases h with | safe h => exact h⟩
    | default d =>
      rw [invokes_default_iff]
      cases hx : x.isUndefined with
      | true =>
        rw [if_pos rfl]
        constructor
        · rintro ⟨g, rfl⟩
          exact .missing hx
        · intro h
          cases h with
          | missing => exact ⟨_, rfl⟩
          | absent hdefined | default hdefined => cases hx.symm.trans hdefined
      | false =>
        rw [if_neg Bool.false_ne_true, ih]
        constructor
        · rintro (h | ⟨w, hw, habsent, g, rfl⟩)
          · exact .default hx h
          · exact .absent hx hw habsent
        · intro h
          cases h with
          | missing hundefined => cases hx.symm.trans hundefined
          | absent _ hw habsent => exact .inr ⟨_, hw, habsent, _, rfl⟩
          | default _ h => exact .inl h
    | maybe =>
      rw [invokes_maybe_iff, ih]
      exact ⟨fun h => .maybe h.1 h.2, fun h => by cases h with | maybe hx h => exact ⟨hx, h⟩⟩
  | sum left right m ihl ihr =>
    rw [invokes_sum_iff, ihl, ihr]
    constructor
    · rintro (h | ⟨hleft, h⟩)
      · exact .left h
      · exact .right hleft h
    · intro h
      cases h with
      | left h => exact .inl h
      | right hleft h => exact .inr ⟨hleft, h⟩
  | schema policy transform members m ih =>
    rw [invokes_schema_iff]
    constructor
    · rintro ⟨entries, fields, rfl, hfields, before, ⟨name, t⟩, after, rfl, hbefore, h⟩
      rcases calls_memberValue_iff.1 h with ⟨raw, hraw, h⟩ | ⟨hraw, hpolicy, g, ht⟩
      · exact .member hfields hbefore hraw ((ih _ (by simp)).1 h)
      · exact .filled hfields hbefore hraw hpolicy ht
    · intro h
      cases h with
      | @member _ _ _ before name t after _ entries fields raw hfields hbefore hraw h =>
        exact ⟨entries, fields, rfl, hfields, before, (name, t), after, rfl, hbefore,
          calls_memberValue_iff.2 (.inl ⟨raw, hraw, (ih (name, t) (by simp)).2 h⟩)⟩
      | @filled _ _ _ before name t after _ entries fields g hfields hbefore hraw hpolicy ht =>
        exact ⟨entries, fields, rfl, hfields, before, (name, t), after, rfl, hbefore,
          calls_memberValue_iff.2 (.inr ⟨hraw, hpolicy, g, ht⟩)⟩
  | array item m ih =>
    simp only [invokes_array_iff, ih]
    constructor
    · rintro ⟨items, rfl, before, v, after, rfl, hbefore, h⟩
      exact .item hbefore h
    · intro h
      cases h with
      | item hbefore h => exact ⟨_, rfl, _, _, _, rfl, hbefore, h⟩
  | map key value m ihk ihv =>
    simp only [invokes_map_iff, ihk, ihv]
    constructor
    · rintro ⟨entries, rfl, e, he, h | h⟩
      · exact .key he h
      · exact .value he h
    · intro h
      cases h with
      | key he h => exact ⟨_, rfl, _, he, .inl h⟩
      | value he h => exact ⟨_, rfl, _, he, .inr h⟩

/-! ## Validation -/

/-- The type beneath its own defaults. -/
def beneathDefaults : Ty → Ty
  | .decorated (.default _) inner _ => inner.beneathDefaults
  | t => t

/-- Without a default, validity is whether the trial succeeds. -/
theorem isValid_of_default?_eq_none (ht : t.default? = none) :
    t.isValid x = (t.tryApply x).run >>= fun r => pure r.toBool := by
  cases t with
  | decorated d inner m =>
    cases d with
    | default d => cases ht
    | _ => exact bind_congr fun r => by cases r <;> rfl
  | _ => exact bind_congr fun r => by cases r <;> rfl

/-- Validation tries the value beneath the type's own defaults.  Nothing is tried where one of them
stands in for a value that is missing. -/
theorem isValid_eq (t : Ty) (x : Value) :
    t.isValid x = if x.isUndefined ∧ t.default?.isSome then pure true
      else (t.beneathDefaults.tryApply x).run >>= fun r => pure r.toBool := by
  induction t with
  | decorated d inner m ih =>
    cases d with
    | default d =>
      rw [isValid]
      cases hx : x.isUndefined with
      | true => simp [default?]
      | false => simpa [hx, beneathDefaults] using ih
    | _ =>
      exact (isValid_of_default?_eq_none rfl).trans (if_neg fun h => Bool.false_ne_true h.2).symm
  | _ => exact (isValid_of_default?_eq_none rfl).trans (if_neg fun h => Bool.false_ne_true h.2).symm

/-- Validity draws exactly what the type beneath the defaults draws. -/
theorem calls_isValid_iff : Calls (t.isValid x) s ↔
    ¬(x.isUndefined ∧ t.default?.isSome) ∧ t.beneathDefaults.Invokes true x s := by
  rw [isValid_eq]
  split
  case isTrue h => exact iff_of_false (not_calls_pure true) fun hn => hn.1 h
  case isFalse h =>
    rw [and_iff_right h, calls_bind_iff (counted_tryApply _ x) fun r => .pure _]
    exact or_iff_left (not_calls_pure _)

/-- Validation calls generators beneath the type's own defaults only. -/
theorem callsOnly_isValid (t : Ty) (x : Value) :
    CallsOnly (· ∈ t.beneathDefaults.generators) (t.isValid x) := by
  rw [isValid_eq]
  split
  · exact .pure true
  · exact .bind (t.beneathDefaults.callsOnly (fun _ hg => hg) x).2 fun r => .pure _

/-- **When validation calls a generator.**  It calls one exactly when a generator is reached in
trying the value beneath the type's own defaults, and not at all where one of those stands in for a
value that is missing.  Then some generator has been called that the type holds there, and otherwise
none has.  The next values of every generator that has not been called are the same as without the
validation. -/
theorem validity_draws_iff (t : Ty) (x : Value) (s : Supply) :
    ((t.isValid x s).2 ≠ s ↔
      ¬(x.isUndefined ∧ t.default?.isSome) ∧ Draws s true t.beneathDefaults x) ∧
    ((t.isValid x s).2 ≠ s → ∃ g ∈ t.beneathDefaults.generators,
      s.count g.address < (t.isValid x s).2.count g.address) ∧
    ∀ g : Generator,
      (t.isValid x s).2 = s ∨ (∀ h ∈ t.beneathDefaults.generators, h.address ≠ g.address) →
      ∀ n, g.upcoming n (t.isValid x s).2 = g.upcoming n s := by
  have hreaches := t.callsOnly_isValid x s
  refine ⟨calls_isValid_iff.trans (and_congr_right fun _ => invokes_iff_draws),
    hreaches.eq_or_count_lt.resolve_left, ?_⟩
  rintro g (hsame | hother) n
  · rw [hsame]
  · exact Generator.upcoming_congr hreaches.now_eq (hreaches.count_eq hother) n

/-- Counts its calls. -/
def counter : Generator :=
  ⟨"fn_counter", none, fun _ calls => .integer calls⟩

/-- A gap in an array of numbers that are counted is valid, and validating it counts. -/
theorem validity_not_always_quiet :
    (arrays (any.withGenerator counter)).isValid (.array [.undefined]) ⟨default, []⟩ =
        (true, ⟨default, [("fn_counter", 1)]⟩) ∧
      counter.upcoming 1 ⟨default, []⟩ = [.integer 0] ∧
      counter.upcoming 1 ((arrays (any.withGenerator counter)).isValid (.array [.undefined])
        ⟨default, []⟩).2 = [.integer 1] :=
  ⟨rfl, rfl, rfl⟩

end Ty

end Conform
