import Conform.Proofs.Agreement
import Mathlib.Logic.Relation

/-!
# Calls of generators

An evaluation changes the supply by calling generators and in no other way, and every call is
counted.  So an evaluation that leaves the supply as it was has called nothing, one that calls
something never leaves the supply as it was, and what was not called goes on as if there had been no
evaluation.

* `Supply.Reaches` — supplies before and after some calls; no calls lead back to a supply.
* `CallsOnly` — a computation calls generators of one kind only, with a lemma for each step.
* `Ty.DrawsOnly`, `Ty.callsOnly` — an evaluation calls generators of its type only, with one lemma
  for each form of type.
* `Calls` — a computation calls some generator against a supply, with a lemma for each step.
* `Generator.upcoming` — the next values of a generator, which depend on its own calls only.
-/

namespace Conform

variable {δ ε α β : Type} {P Q : Generator → Prop} {s s' : Supply}

/-! ## Supplies before and after calls -/

namespace Supply

/-- A call is counted for the generator that was called, and for no other. -/
theorem count_record (s : Supply) (address other : String) :
    (s.record address).count other =
      if address = other then s.count address + 1 else s.count other := by
  rw [count, record, Named.find?_place]
  split <;> rfl

/-- Calls of generators with the property lead from the first supply to the second. -/
def Reaches (P : Generator → Prop) : Supply → Supply → Prop :=
  Relation.ReflTransGen fun s s' => ∃ g, P g ∧ s' = s.record g.address

namespace Reaches

variable {address : String}

/-- No time passes. -/
theorem now_eq (h : Reaches P s s') : s'.now = s.now := by
  induction h with
  | refl => rfl
  | tail _ hcall ih =>
    obtain ⟨g, -, rfl⟩ := hcall
    exact ih

/-- Calls are never uncounted. -/
theorem count_le (h : Reaches P s s') (address : String) : s.count address ≤ s'.count address := by
  induction h with
  | refl => exact Nat.le_refl _
  | tail _ hcall ih =>
    obtain ⟨g, -, rfl⟩ := hcall
    rw [count_record]
    split
    case isTrue hg => exact Nat.le_succ_of_le (hg ▸ ih)
    case isFalse => exact ih

/-- Other generators are not called. -/
theorem count_eq (h : Reaches P s s') (hother : ∀ g, P g → g.address ≠ address) :
    s'.count address = s.count address := by
  induction h with
  | refl => rfl
  | tail _ hcall ih =>
    obtain ⟨g, hg, rfl⟩ := hcall
    rw [count_record, if_neg (hother g hg), ih]

/-- Either nothing was called, or some generator was called more often than before. -/
theorem eq_or_count_lt (h : Reaches P s s') :
    s' = s ∨ ∃ g, P g ∧ s.count g.address < s'.count g.address := by
  rcases Relation.ReflTransGen.cases_head h with rfl | ⟨s₁, ⟨g, hg, rfl⟩, hrest⟩
  · exact .inl rfl
  · have hle := count_le hrest g.address
    rw [count_record, if_pos rfl] at hle
    exact .inr ⟨g, hg, hle⟩

/-- No calls lead back. -/
theorem antisymm (h : Reaches P s s') (hback : Reaches Q s' s) : s' = s := by
  refine h.eq_or_count_lt.resolve_right ?_
  rintro ⟨g, -, hlt⟩
  exact Nat.not_le_of_lt hlt (hback.count_le g.address)

end Reaches

end Supply

/-! ## Computations that call generators of one kind -/

/-- The computation changes the supply by calls of generators with the property only. -/
def CallsOnly (P : Generator → Prop) (m : StateM Supply α) : Prop :=
  ∀ s, Supply.Reaches P s (m s).2

namespace CallsOnly

theorem pure (a : α) : CallsOnly P (pure a) := fun _ => .refl

theorem draw {g : Generator} (hg : P g) : CallsOnly P g.draw := fun _ => .single ⟨g, hg, rfl⟩

/-- Two computations with these calls only have no others in a row. -/
theorem bind {m : StateM Supply α} {f : α → StateM Supply β} (hm : CallsOnly P m)
    (hf : ∀ a, CallsOnly P (f a)) : CallsOnly P (m >>= f) := fun s =>
  (hm s).trans (hf (m s).1 (m s).2)

/-- A default calls nothing but its generator. -/
theorem evaluate {d : Default} (hd : ∀ g, d = .drawn g → P g) : CallsOnly P d.evaluate := by
  cases d with
  | fixed v => exact .pure v
  | drawn g => exact .draw (hd g rfl)

/-! ### Evaluations -/

theorem evalPure (a : α) : CallsOnly P (Pure.pure a : Eval ε α).run := .pure _

theorem evalThrow (x : ε) : CallsOnly P (throw x : Eval ε α).run := .pure (Except.error x)

theorem evalLift {m : StateM Supply α} (hm : CallsOnly P m) :
    CallsOnly P (liftM m : Eval ε α).run :=
  fun s => hm s

theorem evalLiftExcept (r : Except ε α) : CallsOnly P (liftM r : Eval ε α).run := by
  cases r with
  | ok a => exact evalPure a
  | error x => exact evalThrow x

theorem evalBind {e : Eval ε α} {f : α → Eval ε β} (he : CallsOnly P e.run)
    (hf : ∀ a, CallsOnly P (f a).run) : CallsOnly P (e >>= f).run := by
  refine CallsOnly.bind (f := ExceptT.bindCont f) he fun r => ?_
  cases r with
  | ok a => exact hf a
  | error x => exact .pure (Except.error x)

theorem recover {e : Eval ε α} {handle : ε → Eval δ α} (he : CallsOnly P e.run)
    (hh : ∀ x, CallsOnly P (handle x).run) : CallsOnly P (e.recover handle).run := by
  refine CallsOnly.bind he fun r => ?_
  cases r with
  | ok a => exact .pure (Except.ok a)
  | error x => exact hh x

theorem collect {f : Value → Eval ε Value} (hf : ∀ v, CallsOnly P (f v).run) (items : List Value) :
    CallsOnly P (collect f items).run := by
  induction items with
  | nil => exact evalPure _
  | cons v rest ih => exact evalBind (hf v) fun w => evalBind ih fun ws => evalPure _

/-- A row of entries calls what its keys and values call. -/
theorem attemptEntries {f g : Value → Eval Failure Value} (hf : ∀ v, CallsOnly P (f v).run)
    (hg : ∀ v, CallsOnly P (g v).run) (entries : List (Value × Value)) :
    CallsOnly P (attemptEntries f g entries) := by
  induction entries with
  | nil => exact .pure _
  | cons e rest ih => exact (hf e.1).bind fun k => (hg e.2).bind fun v => ih.bind fun _ => .pure _

end CallsOnly

/-! ## Types -/

namespace Ty

variable {t : Ty} {v : Value}

/-- Both evaluations of the type call generators with the property only. -/
def DrawsOnly (P : Generator → Prop) (t : Ty) : Prop :=
  ∀ v, CallsOnly P (t.apply v).run ∧ CallsOnly P (t.tryApply v).run

/-! ### Members of a schema -/

/-- Filling in a member calls the generators of its type only. -/
theorem callsOnly_fill (policy : Policy) (name : Value) (ht : ∀ g ∈ t.generators, P g) :
    CallsOnly P (fill policy name t).run := by
  unfold fill
  split
  · next d _ hd =>
    exact .evalLift (.evaluate fun g hg => ht g (mem_generators_of_default? (hg ▸ hd)))
  · exact .evalPure _
  · split
    · exact .evalThrow _
    · exact .evalPure _

theorem callsOnly_memberValue {raising : Bool} {policy : Policy} {fields : List (Value × Value)}
    {name : Value} (hg : ∀ g ∈ t.generators, P g) (ht : t.DrawsOnly P) :
    CallsOnly P (memberValue raising policy fields name t).run := by
  unfold memberValue
  split
  · next raw _ =>
    split
    · exact .recover (ht raw).2 fun _ => .evalPure raw
    · split
      · exact .recover (ht raw).1 fun _ => .evalThrow _
      · exact .recover (ht raw).2 fun _ => .evalThrow _
  · exact callsOnly_fill policy name hg

theorem callsOnly_resolve {raising : Bool} {policy : Policy} {fields : List (Value × Value)}
    {members : List (Value × Ty)}
    (hm : ∀ m ∈ members, CallsOnly P (memberValue raising policy fields m.1 m.2).run)
    (output : List (Value × Value)) :
    CallsOnly P (resolve raising policy fields members output).run := by
  induction members generalizing output with
  | nil => exact .evalPure _
  | cons m rest ih =>
    obtain ⟨hfirst, hrest⟩ := List.forall_mem_cons.1 hm
    rw [resolve_cons]
    exact .evalBind hfirst fun w => ih hrest _

/-! ### One form of type at a time -/

section Forms

variable {inner left right item key value : Ty} {m : Metadata}

theorem drawsOnly_definition (p : Primitive) : DrawsOnly P (.definition p m) := by
  intro v
  refine ⟨.evalPure v, ?_⟩
  rw [tryApply]
  split
  · exact .evalPure v
  · exact .evalThrow _

theorem drawsOnly_constructor {fns : List Coercion} (h : inner.DrawsOnly P) :
    DrawsOnly P (.decorated (.constructor fns) inner m) := by
  intro v
  simp only [apply, tryApply]
  constructor
  · refine .evalBind (.evalLiftExcept _) fun w => ?_
    split
    · exact .evalPure w
    · exact (h w).1
  · split
    · exact .evalThrow _
    · split
      · exact .evalPure _
      · exact (h _).2

theorem drawsOnly_constrained {rule : Rule} (h : inner.DrawsOnly P) :
    DrawsOnly P (.decorated (.constrained rule) inner m) := by
  intro v
  simp only [apply, tryApply]
  have happly :
      CallsOnly P (do let w ← inner.apply v; rule.check w : Eval CoercionError Value).run :=
    .evalBind (h v).1 fun w => .evalLiftExcept _
  exact ⟨happly, .recover happly fun _ => .evalThrow _⟩

theorem drawsOnly_enumeration {mapping : List (Value × Value)} (h : inner.DrawsOnly P) :
    DrawsOnly P (.decorated (.enumeration mapping) inner m) := by
  intro v
  simp only [apply, tryApply]
  exact h _

theorem drawsOnly_safe (h : inner.DrawsOnly P) : DrawsOnly P (.decorated .safe inner m) := by
  intro v
  simp only [apply, tryApply]
  exact ⟨.recover (h v).2 fun _ => .evalPure v, (h v).2⟩

/-- The default is drawn for a value that is missing and for an absent result. -/
theorem drawsOnly_default {d : Default} (hd : ∀ g, d = .drawn g → P g) (h : inner.DrawsOnly P) :
    DrawsOnly P (.decorated (.default d) inner m) := by
  intro v
  have hdraw : CallsOnly P d.evaluate := .evaluate hd
  simp only [apply, tryApply]
  constructor <;> split
  · exact .evalLift hdraw
  · refine .evalBind (h v).1 fun w => ?_
    split
    · exact .evalLift hdraw
    · exact .evalPure w
  · exact .evalLift hdraw
  · refine .evalBind (h v).2 fun w => ?_
    split
    · exact .evalLift hdraw
    · exact .evalPure w

theorem drawsOnly_maybe (h : inner.DrawsOnly P) : DrawsOnly P (.decorated .maybe inner m) := by
  intro v
  simp only [apply, tryApply]
  constructor <;> split
  · exact .evalPure _
  · exact (h v).1
  · exact .evalPure _
  · exact (h v).2

theorem drawsOnly_sum (hl : left.DrawsOnly P) (hr : right.DrawsOnly P) :
    DrawsOnly P (.sum left right m) := by
  intro v
  simp only [apply, tryApply]
  exact ⟨.recover (hl v).2 fun _ => (hr v).1, .recover (hl v).2 fun _ => (hr v).2⟩

theorem drawsOnly_schema {policy : Policy} {transform : KeyTransform} {members : List (Value × Ty)}
    (hg : ∀ e ∈ members, ∀ g ∈ e.2.generators, P g) (h : ∀ e ∈ members, e.2.DrawsOnly P) :
    DrawsOnly P (.schema policy transform members m) := by
  intro v
  have hresolve : ∀ raising fields, CallsOnly P (resolve raising policy fields members []).run :=
    fun raising fields =>
      callsOnly_resolve (fun e he => callsOnly_memberValue (hg e he) (h e he)) []
  cases v with
  | hash entries =>
    simp only [apply, tryApply]
    have happly := fun raising => CallsOnly.evalBind (P := P) (.evalLiftExcept
      (openFields policy transform (members.map (·.1)) entries)) fun fields =>
        .evalBind (hresolve raising fields) fun output => .evalPure (Value.hash output)
    exact ⟨happly true, .recover (happly false) fun _ => .evalThrow _⟩
  | _ => exact ⟨.evalThrow _, .evalThrow _⟩

theorem drawsOnly_array (h : item.DrawsOnly P) : DrawsOnly P (.array item m) := by
  intro v
  cases v with
  | array items =>
    simp only [apply, tryApply]
    exact ⟨.evalBind (.collect (fun v => (h v).1) items) fun ws => .evalPure _,
      .evalBind (.recover (.collect (fun v => (h v).2) items) fun _ => .evalThrow _) fun ws =>
        .evalPure _⟩
  | _ => exact ⟨.evalPure _, .evalThrow _⟩

theorem drawsOnly_map (hk : key.DrawsOnly P) (hv : value.DrawsOnly P) :
    DrawsOnly P (.map key value m) := by
  intro v
  cases v with
  | hash entries =>
    simp only [apply, tryApply]
    have happly := CallsOnly.evalBind (.evalLift (.attemptEntries (fun v => (hk v).2)
      (fun v => (hv v).2) entries)) fun attempts => .evalLiftExcept (Attempt.assemble attempts)
    exact ⟨happly, .recover happly fun _ => .evalThrow _⟩
  | _ => exact ⟨.evalThrow _, .evalThrow _⟩

end Forms

/-- **An evaluation calls generators of its type only.** -/
theorem callsOnly (t : Ty) (hg : ∀ g ∈ t.generators, P g) : t.DrawsOnly P := by
  induction t with
  | definition p m => exact drawsOnly_definition p
  | decorated d inner m ih =>
    replace ih := ih fun g hmem => hg g ((within_decorated d inner m).generators hmem)
    cases d with
    | constructor fns => exact drawsOnly_constructor ih
    | constrained rule => exact drawsOnly_constrained ih
    | enumeration mapping => exact drawsOnly_enumeration ih
    | safe => exact drawsOnly_safe ih
    | default d =>
      exact drawsOnly_default (fun g hdg => hg g (mem_generators_of_drawn hdg inner m)) ih
    | maybe => exact drawsOnly_maybe ih
  | sum left right m ihl ihr =>
    exact drawsOnly_sum
      (ihl fun g hmem => hg g ((within_sum_left left right m).generators hmem))
      (ihr fun g hmem => hg g ((within_sum_right left right m).generators hmem))
  | schema policy transform members m ih =>
    have hms : ∀ e ∈ members, ∀ g ∈ e.2.generators, P g := fun e he g hmem =>
      hg g ((within_schema policy transform m he).generators hmem)
    exact drawsOnly_schema hms fun e he => ih e he (hms e he)
  | array item m ih =>
    exact drawsOnly_array (ih fun g hmem => hg g ((within_array item m).generators hmem))
  | map key value m ihk ihv =>
    exact drawsOnly_map
      (ihk fun g hmem => hg g ((within_map_key key value m).generators hmem))
      (ihv fun g hmem => hg g ((within_map_value key value m).generators hmem))

end Ty

/-! ## Computations that call something -/

/-- The computation changes the supply by calls only. -/
abbrev Counted (m : StateM Supply α) : Prop :=
  CallsOnly (fun _ => True) m

/-- The computation calls a generator when it runs against the supply. -/
def Calls (m : StateM Supply α) (s : Supply) : Prop :=
  (m s).2 ≠ s

theorem not_calls_pure (a : α) : ¬Calls (pure a) s := fun h => h rfl

theorem counted_of_not_calls {m : StateM Supply α} (h : ∀ s, ¬Calls m s) : Counted m := by
  intro s
  rw [not_not.1 (h s)]
  exact .refl

/-- Drawing from a generator is a call. -/
theorem calls_draw (g : Generator) : Calls g.draw s := by
  intro h
  have hcount := Supply.count_record s g.address g.address
  rw [if_pos rfl, show s.record g.address = s from h] at hcount
  exact Nat.succ_ne_self _ hcount.symm

/-- A default calls exactly if it is drawn. -/
theorem calls_evaluate_iff {d : Default} : Calls d.evaluate s ↔ ∃ g, d = .drawn g := by
  cases d with
  | fixed v => exact iff_of_false (not_calls_pure v) (by simp)
  | drawn g => exact iff_of_true (calls_draw g) ⟨g, rfl⟩

/-- A sequence calls something in its first part, or else in what follows against the same
supply. -/
theorem calls_bind_iff {m : StateM Supply α} {f : α → StateM Supply β} (hm : Counted m)
    (hf : ∀ a, Counted (f a)) : Calls (m >>= f) s ↔ Calls m s ∨ Calls (f (m s).1) s := by
  by_cases h : Calls m s
  case pos =>
    refine iff_of_true (fun hback => h ?_) (.inl h)
    have hrest : Supply.Reaches _ (m s).2 ((m >>= f) s).2 := hf (m s).1 (m s).2
    exact (hm s).antisymm (hback ▸ hrest)
  case neg =>
    have hsame : (m s).2 = s := not_not.1 h
    rw [or_iff_right h]
    show (f (m s).1 (m s).2).2 ≠ s ↔ _
    rw [hsame]
    rfl

section Eval

variable {e : Eval ε α}

theorem not_calls_evalPure (a : α) : ¬Calls (pure a : Eval ε α).run s := not_calls_pure _

theorem not_calls_evalThrow (x : ε) :
    ¬Calls (throw x : Eval ε α).run s := not_calls_pure (Except.error x)

theorem not_calls_evalLiftExcept (r : Except ε α) : ¬Calls (liftM r : Eval ε α).run s := by
  cases r with
  | ok a => exact not_calls_evalPure a
  | error x => exact not_calls_evalThrow x

/-- A computation that cannot fail calls what it called before. -/
theorem calls_evalLift_iff {m : StateM Supply α} : Calls (liftM m : Eval ε α).run s ↔ Calls m s :=
  Iff.rfl

/-- Of two computations in a row the second one calls only after a success of the first. -/
theorem calls_evalBind_iff {f : α → Eval ε β} (he : Counted e.run) (hf : ∀ a, Counted (f a).run) :
    Calls (e >>= f).run s ↔ Calls e.run s ∨ ∃ a, e.outcome s = .ok a ∧ Calls (f a).run s := by
  have hcont : ∀ r, Counted (ExceptT.bindCont f r) := fun r => by
    cases r with
    | ok a => exact hf a
    | error x => exact .pure (Except.error x)
  refine (calls_bind_iff (f := ExceptT.bindCont f) he hcont).trans (or_congr_right ?_)
  show Calls (ExceptT.bindCont f (e.outcome s)) s ↔ _
  cases e.outcome s with
  | ok a => simp [ExceptT.bindCont, ExceptT.run]
  | error x => exact iff_of_false (not_calls_pure (Except.error x)) (by simp)

/-- The handler of a failure calls only after a failure. -/
theorem calls_recover_iff {handle : ε → Eval δ α} (he : Counted e.run)
    (hh : ∀ x, Counted (handle x).run) :
    Calls (e.recover handle).run s ↔
      Calls e.run s ∨ ∃ x, e.outcome s = .error x ∧ Calls (handle x).run s := by
  refine (calls_bind_iff he fun r => ?_).trans (or_congr_right ?_)
  · cases r with
    | ok a => exact .pure (Except.ok a)
    | error x => exact hh x
  · unfold Eval.outcome
    cases (e.run s).1 with
    | ok a => exact iff_of_false (not_calls_pure (Except.ok a)) (by simp)
    | error x => simp

/-- What follows makes no difference when it calls nothing. -/
theorem calls_evalBind_quiet_iff {f : α → Eval ε β} (he : Counted e.run)
    (hf : ∀ a s, ¬Calls (f a).run s) : Calls (e >>= f).run s ↔ Calls e.run s := by
  rw [calls_evalBind_iff he fun a => counted_of_not_calls (hf a)]
  simp only [hf, and_false, exists_false, or_false]

theorem calls_recover_quiet_iff {handle : ε → Eval δ α} (he : Counted e.run)
    (hh : ∀ x s, ¬Calls (handle x).run s) : Calls (e.recover handle).run s ↔ Calls e.run s := by
  rw [calls_recover_iff he fun x => counted_of_not_calls (hh x)]
  simp only [hh, and_false, exists_false, or_false]

end Eval

/-! ### Lists -/

/-- An item with the property `q` comes behind items with the property `p` only. -/
def Reached (p q : α → Prop) (items : List α) : Prop :=
  ∃ before a after, items = before ++ a :: after ∧ (∀ b ∈ before, p b) ∧ q a

theorem not_reached_nil {p q : α → Prop} : ¬Reached p q [] := by
  rintro ⟨before, a, after, h, -⟩
  simp at h

/-- An item is reached first, or after one that lets it be reached. -/
theorem reached_cons_iff {p q : α → Prop} {a : α} {rest : List α} :
    Reached p q (a :: rest) ↔ q a ∨ p a ∧ Reached p q rest := by
  constructor
  · rintro ⟨before, b, after, h, hp, hq⟩
    cases before with
    | nil =>
      cases h
      exact .inl hq
    | cons c before =>
      cases h
      obtain ⟨hc, hp⟩ := List.forall_mem_cons.1 hp
      exact .inr ⟨hc, before, b, after, rfl, hp, hq⟩
  · rintro (hq | ⟨ha, before, b, after, rfl, hp, hq⟩)
    · exact ⟨[], a, rest, rfl, fun b hb => absurd hb List.not_mem_nil, hq⟩
    · exact ⟨a :: before, b, after, rfl, List.forall_mem_cons.2 ⟨ha, hp⟩, hq⟩

/-- Items are evaluated up to the first failure. -/
theorem calls_collect_iff {f : Value → Eval ε Value} (hf : ∀ v, Counted (f v).run)
    {items : List Value} : Calls (collect f items).run s ↔
      Reached (fun v => ∃ w, (f v).outcome s = .ok w) (fun v => Calls (f v).run s) items := by
  induction items with
  | nil => exact iff_of_false (not_calls_evalPure _) not_reached_nil
  | cons v rest ih =>
    have hws : ∀ (w : Value) s, Calls (do
        let ws ← collect f rest
        pure (if w.isUndefined then ws else w :: ws) : Eval ε (List Value)).run s ↔
          Calls (collect f rest).run s := fun w s =>
      calls_evalBind_quiet_iff (.collect hf rest) fun ws s => not_calls_evalPure _
    rw [collect, calls_evalBind_iff (hf v) fun w =>
      .evalBind (.collect hf rest) fun ws => .evalPure _, reached_cons_iff]
    simp only [hws, ih, exists_and_right]

/-- Every key and every value of the entries is tried, whatever became of those before. -/
theorem calls_attemptEntries_iff {f g : Value → Eval Failure Value} (hf : ∀ v, Counted (f v).run)
    (hg : ∀ v, Counted (g v).run) {entries : List (Value × Value)} :
    Calls (attemptEntries f g entries) s ↔
      ∃ e ∈ entries, Calls (f e.1).run s ∨ Calls (g e.2).run s := by
  induction entries with
  | nil => exact iff_of_false (not_calls_pure _) (by simp)
  | cons e rest ih =>
    have hrest := CallsOnly.attemptEntries hf hg rest
    rw [attemptEntries, calls_bind_iff (hf e.1) fun k =>
        .bind (hg e.2) fun v => .bind hrest fun _ => .pure _,
      calls_bind_iff (hg e.2) fun v => .bind hrest fun _ => .pure _,
      calls_bind_iff hrest fun _ => .pure _, or_iff_left (not_calls_pure _), ih, ← or_assoc]
    simp only [List.mem_cons, exists_eq_or_imp]

/-! ## The values to come -/

/-- The next values of the generator. -/
def Generator.upcoming (g : Generator) : Nat → Supply → List Value
  | 0, _ => []
  | n + 1, s => (g.draw s).1 :: g.upcoming n (g.draw s).2

/-- The next values depend on the moment and on the calls of the generator itself. -/
theorem Generator.upcoming_congr {g : Generator} (hnow : s'.now = s.now)
    (hcount : s'.count g.address = s.count g.address) (n : Nat) :
    g.upcoming n s' = g.upcoming n s := by
  induction n generalizing s s' with
  | zero => rfl
  | succ n ih =>
    have hvalue : (g.draw s').1 = (g.draw s).1 := by
      show g.produce s'.now (s'.count g.address) = g.produce s.now (s.count g.address)
      rw [hnow, hcount]
    have hlater : (g.draw s').2.now = (g.draw s).2.now := hnow
    have hafter : ((g.draw s').2).count g.address = ((g.draw s).2).count g.address := by
      show (s'.record g.address).count g.address = (s.record g.address).count g.address
      rw [Supply.count_record, Supply.count_record, hcount]
    rw [upcoming, upcoming, hvalue, ih hlater hafter]

end Conform
