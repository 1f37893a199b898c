import Conform.Coercion.Builtin
import Conform.Proofs.Policies
import Conform.Ty.Combinators

/-!
# The input that a failure reports

A failure of trying comes with an input.  Functions that fail, rules, schemas, arrays and maps
report the value that they were given, and so do primitives; what goes wrong inside them is reported
for the whole.  The other decorators and the right side of a sum hand on the failure of an inner
type, and with it the input of that one.  Most of them hand on the value too.  But what a
constructor hands on has gone through its functions, and an enumeration hands on the value that an
alias stands for, so that a failure behind them reports a value that was never the input.

* `Eval.Blames` — all failures of an evaluation report one value, with a lemma for each step.
* `Ty.blamed` — the value that reaches the type which refuses it.
* `Ty.keepsInput` — no constructor and no enumeration hands on a failure.
* `Ty.failure_reports` — **a failure reports the value that was refused**, which is the input if no
  constructor or enumeration is on the way.
* `Ty.input_not_always_reported` — a function and an alias between the input and what is reported.
-/

namespace Conform

namespace Eval

variable {ε α β : Type}

/-! ## One value for all failures -/

/-- Every failure of the evaluation reports the value. -/
def Blames (e : Eval Failure α) (v : Value) : Prop :=
  ∀ s f s', e.Runs s (.error f) s' → f.input = v

variable {e : Eval Failure α} {v : Value}

theorem blames_pure (a : α) (v : Value) : Blames (pure a) v := by
  intro s f s' h
  cases (runs_pure_iff.1 h).1

/-- A failure blames the value that it carries. -/
theorem blames_throw (v : Value) (x : CoercionError) :
    Blames (throw ⟨v, x⟩ : Eval Failure α) v := by
  intro s f s' h
  cases (runs_throw_iff.1 h).1
  rfl

/-- A computation that only draws has no failures. -/
theorem blames_lift (m : StateM Supply α) (v : Value) : Blames (liftM m) v := by
  intro s f s' h
  obtain ⟨a, -, h⟩ := runs_lift_iff.1 h
  cases h

/-- Two computations that blame a value blame it in a row. -/
theorem Blames.bind {f : α → Eval Failure β} (he : e.Blames v) (hf : ∀ a, (f a).Blames v) :
    Blames (e >>= f) v := by
  intro s g s' h
  obtain ⟨a, s₁, -, h⟩ | ⟨x, h, hx⟩ := runs_bind_iff.1 h
  · exact hf a s₁ g s' h
  · cases hx
    exact he s g s' h

/-- After a failure only those of going on are left. -/
theorem blames_recover {e : Eval ε α} {handle : ε → Eval Failure α} (h : ∀ x, (handle x).Blames v) :
    (e.recover handle).Blames v := by
  intro s f s' hrun
  obtain ⟨a, -, ha⟩ | ⟨x, s₁, -, hx⟩ := runs_recover_iff.1 hrun
  · cases ha
  · exact h x s₁ f s' hx

/-- A failure that is blamed on a value carries that value. -/
theorem blames_blame (v : Value) (e : Eval CoercionError α) : (Eval.blame v e).Blames v :=
  blames_recover fun x => blames_throw v x

end Eval

namespace Ty

open Eval

/-! ## The value that is refused -/

/-- The value that the decorators and the right sides on the way make of the input, where a failure
is reported for it. -/
def blamed : Ty → Value → Value
  | decorated (.constructor fns) inner _, v =>
    match Coercion.runAll fns v with
    | .ok w => inner.blamed w
    | .error _ => v
  | decorated (.constrained _) _ _, v => v
  | decorated (.enumeration mapping) inner _, v => inner.blamed (aliased mapping v)
  | decorated _ inner _, v => inner.blamed v
  | sum _ right _, v => right.blamed v
  | _, v => v

/-- All failures are reported for the input, or handed on by types that hand on the input too. -/
def keepsInput : Ty → Bool
  | decorated (.constructor _) _ _ => false
  | decorated (.constrained _) _ _ => true
  | decorated (.enumeration _) _ _ => false
  | decorated _ inner _ => inner.keepsInput
  | sum _ right _ => right.keepsInput
  | _ => true

variable {t : Ty} {x : Value}

/-- A type that keeps its input blames the input. -/
theorem blamed_of_keepsInput (h : t.keepsInput = true) : t.blamed x = x := by
  induction t with
  | decorated d inner m ih =>
    cases d with
    | constructor | enumeration => cases h
    | constrained => rfl
    | safe | default | maybe => exact ih h
  | sum left right m _ ihr => exact ihr h
  | _ => rfl

/-- **All failures of trying report one value**, by induction on the type. -/
theorem blames_tryApply (t : Ty) (x : Value) : (t.tryApply x).Blames (t.blamed x) := by
  induction t generalizing x with
  | definition p m =>
    rw [tryApply]
    split
    · exact blames_pure x x
    · exact blames_throw x _
  | decorated d inner m ih =>
    cases d with
    | constructor fns =>
      simp only [tryApply, blamed]
      cases Coercion.runAll fns x with
      | error e => exact blames_throw x e
      | ok w =>
        dsimp only
        split
        · exact blames_pure w _
        · exact ih w
    | constrained rule =>
      rw [tryApply]
      exact blames_blame x _
    | enumeration mapping =>
      rw [tryApply]
      exact ih (aliased mapping x)
    | safe =>
      rw [tryApply]
      exact ih x
    | default d =>
      rw [tryApply]
      split
      · exact blames_lift d.evaluate _
      · refine (ih x).bind fun w => ?_
        split
        · exact blames_lift d.evaluate _
        · exact blames_pure w _
    | maybe =>
      rw [tryApply]
      split
      · exact blames_pure Value.nil _
      · exact ih x
  | sum left right m _ ihr =>
    rw [tryApply]
    exact blames_recover fun _ => ihr x
  | schema policy transform members m _ =>
    cases x with
    | hash entries =>
      rw [tryApply]
      exact blames_blame (.hash entries) _
    | _ => exact blames_throw _ _
  | array item m _ =>
    cases x with
    | array items =>
      rw [tryApply]
      refine Blames.bind (blames_recover fun f => ?_) fun ws => blames_pure _ _
      exact blames_throw (.array items) f.error
    | _ => exact blames_throw _ _
  | map key value m _ _ =>
    cases x with
    | hash entries =>
      rw [tryApply]
      exact blames_blame (.hash entries) _
    | _ => exact blames_throw _ _

/-- **A failure reports the value that was refused.**  Whatever trying a type on an input drew, if
it failed the failure comes with the value that reached the refusing type.  Where no constructor and
no enumeration hands on the failure, that is the input itself. -/
theorem failure_reports (t : Ty) (x : Value) (s : Supply) (f : Failure)
    (h : (t.tryApply x).outcome s = .error f) :
    f.input = t.blamed x ∧ Failure.inputOf ((t.tryApply x).outcome s) = t.blamed x ∧
      (t.keepsInput = true → f.input = x) := by
  have hinput : f.input = t.blamed x :=
    blames_tryApply t x s f ((t.tryApply x).run s).2 (Prod.ext h rfl)
  refine ⟨hinput, ?_, fun hkeeps => hinput.trans (blamed_of_keepsInput hkeeps)⟩
  rw [h]
  exact hinput

/-- An array of integers with a text, reported as a whole by the maybe array that refuses it. -/
theorem failure_reports_array :
    ∃ f, ((arrays (strict .integer)).maybe.tryApply (.array [.integer 1, .string "x"])).outcome
        ⟨default, []⟩ = .error f ∧
      (arrays (strict .integer)).maybe.keepsInput = true ∧
      f.input = .array [.integer 1, .string "x"] := by
  have hfails :
      ((arrays (strict .integer)).maybe.tryApply (.array [.integer 1, .string "x"])).outcome
        ⟨default, []⟩ = .error ⟨.array [.integer 1, .string "x"],
        .constraint (.string "x") (.predicate (.type .integer) (.string "x"))⟩ := rfl
  exact ⟨_, hfails, rfl, (failure_reports _ _ _ _ hfails).2.2 rfl⟩

/-- The input is not always reported.  A strict integer that is read by the function that makes
texts of numbers refuses the text, and not the number.  A strict text that is enumerated by a number
refuses that number, and not the alias that was given. -/
theorem input_not_always_reported :
    (∃ f, (((strict .integer).constructor Builtin.kernelString.toCoercion).tryApply
          (.integer 5)).outcome ⟨default, []⟩ = .error f ∧
        f.input = .string "5" ∧ (f.input == .integer 5) = false) ∧
      ∃ u, (strict .string).enumerateMapping [(.integer 0, .string "draft")] = .ok u ∧
        ∃ f, (u.tryApply (.string "draft")).outcome ⟨default, []⟩ = .error f ∧
          f.input = .integer 0 ∧ (f.input == .string "draft") = false :=
  ⟨⟨_, rfl, rfl, rfl⟩, _, rfl, _, rfl, rfl, rfl⟩

end Ty

end Conform
