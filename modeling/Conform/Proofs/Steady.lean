import Conform.Proofs.Contents

/-!
# Evaluations without regard to the supply

Coercion functions are pure, so the outcome of an evaluation depends on the supply only through the
generators that it calls.  Where every generator gives one fixed value, each evaluation has one
outcome, whatever moment it is and however often the generators were called before.

* `Steady` — a computation gives one result against every supply.
* `Eval.Yields` — an evaluation has one outcome against every supply.
* `Eval.Settled` — an evaluation has some one outcome.
* `Generator.IsFixed` — a generator gives one value.
-/

namespace Conform

/-- The computation gives `a` against every supply. -/
def Steady {α : Type} (m : StateM Supply α) (a : α) : Prop :=
  ∀ s, (m s).1 = a

/-- The evaluation has the outcome `r` against every supply. -/
def Eval.Yields {ε α : Type} (e : Eval ε α) (r : Except ε α) : Prop :=
  Steady e.run r

/-- The outcome of an evaluation against a supply. -/
def Eval.outcome {ε α : Type} (e : Eval ε α) (s : Supply) : Except ε α :=
  (e.run s).1

/-- The generator gives one value, at every moment and on every call. -/
def Generator.IsFixed (g : Generator) : Prop :=
  ∃ v, ∀ now calls, g.produce now calls = v

variable {ε δ α β : Type}

/-! ## Steady computations -/

theorem Steady.pure (a : α) : Steady (pure a) a := fun _ => rfl

theorem Steady.bind {m : StateM Supply α} {f : α → StateM Supply β} {a : α} {b : β}
    (hm : Steady m a) (hf : Steady (f a) b) : Steady (m >>= f) b := by
  intro s
  show (f (m s).1 (m s).2).1 = b
  rw [hm s]
  exact hf _

/-- A fixed generator gives its value whatever the supply. -/
theorem Generator.IsFixed.steady {g : Generator} (hg : g.IsFixed) : ∃ v, Steady g.draw v := by
  obtain ⟨v, hv⟩ := hg
  exact ⟨v, fun s => hv _ _⟩

namespace Eval

/-! ## Outcomes -/

@[simp] theorem liftM_ok (a : α) : (liftM (Except.ok a : Except ε α) : Eval ε α) = pure a := rfl

@[simp] theorem liftM_error (x : ε) :
    (liftM (Except.error x : Except ε α) : Eval ε α) = throw x := rfl

@[simp] theorem throw_bind (x : ε) (f : α → Eval ε β) :
    ((throw x : Eval ε α) >>= f) = throw x := rfl

/-- A computation comes to one result only. -/
theorem Yields.unique {e : Eval ε α} {r q : Except ε α} (hr : e.Yields r) (hq : e.Yields q) :
    r = q := by
  have s : Supply := ⟨default, []⟩
  rw [← hr s, hq s]

/-- A computation that comes to one result has any other only if it is the same. -/
theorem Yields.eq_iff {e : Eval ε α} {r q : Except ε α} (h : e.Yields r) : r = q ↔ e.Yields q :=
  ⟨fun hr => hr ▸ h, h.unique⟩

/-- The outcome is the result that the computation comes to, whatever the supply. -/
theorem Yields.outcome_eq {e : Eval ε α} {r : Except ε α} (h : e.Yields r) (s : Supply) :
    e.outcome s = r :=
  h s

theorem yields_pure (a : α) : Yields (pure a : Eval ε α) (.ok a) := fun _ => rfl

theorem yields_throw (x : ε) : Yields (throw x : Eval ε α) (.error x) := fun _ => rfl

/-- A pure result used as an evaluation has itself as outcome. -/
theorem yields_liftExcept (r : Except ε α) : Yields (liftM r : Eval ε α) r := fun _ => rfl

/-- A steady computation used as an evaluation succeeds with its result. -/
theorem yields_lift {m : StateM Supply α} {a : α} (h : Steady m a) :
    Yields (liftM m : Eval ε α) (.ok a) := by
  intro s
  show Except.ok (m s).1 = Except.ok a
  rw [h s]

/-- After a success the second step decides. -/
theorem Yields.bind_ok {e : Eval ε α} {f : α → Eval ε β} {a : α} {r : Except ε β}
    (he : e.Yields (.ok a)) (hf : (f a).Yields r) : Yields (e >>= f) r := by
  refine Steady.bind (f := ExceptT.bindCont f) he ?_
  exact hf

/-- After a failure there is no second step. -/
theorem Yields.bind_error {e : Eval ε α} (f : α → Eval ε β) {x : ε} (he : e.Yields (.error x)) :
    Yields (e >>= f) (.error x) :=
  Steady.bind (f := ExceptT.bindCont f) he (Steady.pure _)

theorem Yields.recover_ok {e : Eval ε α} (handle : ε → Eval δ α) {a : α} (he : e.Yields (.ok a)) :
    Yields (e.recover handle) (.ok a) :=
  Steady.bind he (Steady.pure _)

/-- After a failure the handler decides. -/
theorem Yields.recover_error {e : Eval ε α} {handle : ε → Eval δ α} {x : ε} {r : Except δ α}
    (he : e.Yields (.error x)) (hr : (handle x).Yields r) : Yields (e.recover handle) r := by
  refine Steady.bind he ?_
  exact hr

/-! ## Settled evaluations -/

/-- The evaluation has one outcome, whatever the supply. -/
def Settled (e : Eval ε α) : Prop :=
  ∃ r, e.Yields r

/-- The one outcome is that against any supply. -/
theorem Settled.outcome_eq_iff {e : Eval ε α} (he : e.Settled) {s : Supply} {r : Except ε α} :
    e.outcome s = r ↔ e.Yields r := by
  obtain ⟨q, hq⟩ := he
  rw [hq.outcome_eq s, hq.eq_iff]

theorem settled_pure (a : α) : Settled (pure a : Eval ε α) := ⟨_, yields_pure a⟩

theorem settled_throw (x : ε) : Settled (throw x : Eval ε α) := ⟨_, yields_throw x⟩

theorem settled_liftExcept (r : Except ε α) : Settled (liftM r : Eval ε α) :=
  ⟨r, yields_liftExcept r⟩

/-- Two steps in a row come to a result if each of them does. -/
theorem Settled.bind {e : Eval ε α} {f : α → Eval ε β} (he : e.Settled) (hf : ∀ a, (f a).Settled) :
    Settled (e >>= f) := by
  obtain ⟨r, hr⟩ := he
  cases r with
  | error x => exact ⟨_, hr.bind_error f⟩
  | ok a =>
    obtain ⟨q, hq⟩ := hf a
    exact ⟨q, hr.bind_ok hq⟩

/-- Handling a failure comes to a result if the handler does. -/
theorem Settled.recover {e : Eval ε α} {handle : ε → Eval δ α} (he : e.Settled)
    (hh : ∀ x, (handle x).Settled) : Settled (e.recover handle) := by
  obtain ⟨r, hr⟩ := he
  cases r with
  | error x =>
    obtain ⟨q, hq⟩ := hh x
    exact ⟨q, hr.recover_error hq⟩
  | ok a => exact ⟨_, hr.recover_ok handle⟩

/-- A sequence that succeeds has succeeded in both of its parts. -/
theorem Settled.bind_ok_inv {e : Eval ε α} {f : α → Eval ε β} {b : β} (he : e.Settled)
    (hf : ∀ a, (f a).Settled) (h : Yields (e >>= f) (.ok b)) :
    ∃ a, e.Yields (.ok a) ∧ (f a).Yields (.ok b) := by
  obtain ⟨r, hr⟩ := he
  cases r with
  | error x => cases h.unique (hr.bind_error f)
  | ok a =>
    obtain ⟨q, hq⟩ := hf a
    refine ⟨a, hr, ?_⟩
    rw [h.unique (hr.bind_ok hq)]
    exact hq

section Recover

variable {e : Eval ε α} {handle : ε → Eval δ α} (he : e.Settled) (hh : ∀ x, (handle x).Settled)

include he hh

/-- The outcome is the first success, or that of going on after the failure. -/
theorem Settled.recover_iff {r : Except δ α} :
    (e.recover handle).Yields r ↔
      (∃ a, e.Yields (.ok a) ∧ r = .ok a) ∨ ∃ x, e.Yields (.error x) ∧ (handle x).Yields r := by
  constructor
  · intro h
    obtain ⟨q, hq⟩ := he
    cases q with
    | ok a => exact .inl ⟨a, hq, h.unique (hq.recover_ok handle)⟩
    | error x =>
      obtain ⟨p, hp⟩ := hh x
      refine .inr ⟨x, hq, ?_⟩
      rw [h.unique (hq.recover_error hp)]
      exact hp
  · rintro (⟨a, ha, rfl⟩ | ⟨x, hx, h⟩)
    · exact ha.recover_ok handle
    · exact hx.recover_error h

/-- A handled computation succeeds by itself or by its handler. -/
theorem Settled.recover_ok_iff {a : α} :
    (e.recover handle).Yields (.ok a) ↔
      e.Yields (.ok a) ∨ ∃ x, e.Yields (.error x) ∧ (handle x).Yields (.ok a) := by
  rw [he.recover_iff hh]
  refine or_congr_left ⟨?_, fun h => ⟨a, h, rfl⟩⟩
  rintro ⟨b, hb, heq⟩
  cases heq
  exact hb

theorem Settled.recover_error_iff {y : δ} :
    (e.recover handle).Yields (.error y) ↔
      ∃ x, e.Yields (.error x) ∧ (handle x).Yields (.error y) := by
  rw [he.recover_iff hh]
  refine or_iff_right ?_
  rintro ⟨a, -, heq⟩
  cases heq

end Recover

end Eval

end Conform
