import Conform.Proofs.Accumulation

/-!
# Pipelines fuse

Functions in front of a type can be given one after the other, or put together first and given at
once.  The type runs a list of functions in a row and leaves it early, at the first one that fails
or gives `undefined`; two functions put together are one function that leaves early too.  Both ways
out coincide at every place of the list, so that neighbours can be put together anywhere in it.

* `Coercion.runAll_fuse` — two neighbours in a list of functions do what one function does.
* `Coercion.runAll_chain` — so do all functions from some place on.
* `Ty.exists_constructor_eq` — a function that is added stands at the end of the list.
* `Ty.pipelines_fuse` — **functions added one by one do what they do put together**, in any
  bracketing.
-/

namespace Conform

/-! ## Functions in a row -/

namespace Coercion

/-- The function put together with some others that run after it. -/
def chain (address : String) (f : Coercion) (gs : List Coercion) : Coercion :=
  gs.foldl (fun f g => f.andThen g address) f

variable {address : String} {f g h : Coercion}

/-- In a pipeline what is undefined ends the run. -/
theorem runAll_cons (f : Coercion) (fs : List Coercion) (v : Value) :
    runAll (f :: fs) v = f.run v >>= fun w => if w.isUndefined then pure w else runAll fs w := rfl

/-- Two functions composed are run in turn, unless the first one gives what is undefined. -/
theorem run_andThen (v : Value) :
    (f.andThen g address).run v = f.run v >>= fun w => if w.isUndefined then pure w else g.run w :=
      rfl

/-- **Two neighbours do what one function does.**  Before them the list is left early at the same
function, and after both the rest goes on with the same value. -/
theorem runAll_fuse (fs gs : List Coercion) (v : Value) :
    runAll (fs ++ f :: g :: gs) v = runAll (fs ++ f.andThen g address :: gs) v := by
  induction fs generalizing v with
  | nil =>
    rw [List.nil_append, List.nil_append, runAll_cons, runAll_cons, run_andThen, bind_assoc]
    refine bind_congr fun w => ?_
    cases hw : w.isUndefined with
    | true =>
      -- the first function ends the list, and the two together do
      rw [if_pos rfl, if_pos rfl, pure_bind, if_pos hw]
    | false => rw [if_neg Bool.false_ne_true, if_neg Bool.false_ne_true, runAll_cons]
  | cons k fs ih =>
    rw [List.cons_append, List.cons_append, runAll_cons, runAll_cons]
    simp only [ih]

/-- From any place on, the functions do what they do put together, by induction on those after the
first. -/
theorem runAll_chain (fs : List Coercion) (f : Coercion) (gs : List Coercion) (v : Value) :
    runAll (fs ++ f :: gs) v = runAll (fs ++ [chain address f gs]) v := by
  induction gs generalizing f with
  | nil => rfl
  | cons g gs ih => exact (runAll_fuse fs gs v).trans (ih (f.andThen g address))

/-- How functions are bracketed makes no difference to their results. -/
theorem run_andThen_assoc (a b c d : String) (v : Value) :
    ((f.andThen g a).andThen h b).run v = (f.andThen (g.andThen h c) d).run v := by
  rw [run_andThen, run_andThen, run_andThen, bind_assoc]
  refine bind_congr fun w => ?_
  cases hw : w.isUndefined with
  | true => rw [if_pos rfl, if_pos rfl, pure_bind, if_pos hw]
  | false => rw [if_neg Bool.false_ne_true, if_neg Bool.false_ne_true, run_andThen]

end Coercion

/-! ## Functions in front of a type -/

namespace Ty

open Coercion

variable {t inner : Ty} {m : Metadata}

/-- The type with functions added one by one. -/
def pipeline (t : Ty) (gs : List Coercion) : Ty :=
  gs.foldl (fun u g => u.constructor g) t

/-- One inner type behind functions that run alike. -/
theorem EvaluatesAs.of_functions {fs gs : List Coercion} (h : ∀ v, runAll fs v = runAll gs v) :
    (Ty.decorated (.constructor fs) inner m).EvaluatesAs
      (.decorated (.constructor gs) inner m) := by
  refine .of_tried rfl rfl (fun x => ?_) fun x => ?_
  · simp only [Ty.apply, h]
  · simp only [Ty.tryApply, h]

/-- A function that is added stands at the end: of the functions that the type runs already, or
alone. -/
theorem exists_constructor_eq (t : Ty) : ∃ fs inner m, ∀ f,
    t.constructor f = .decorated (.constructor (fs ++ [f])) inner m := by
  cases t with
  | decorated d inner m =>
    cases d with
    | constructor fs => exact ⟨fs, inner, m, fun f => rfl⟩
    | _ => exact ⟨[], _, [], fun f => rfl⟩
  | _ => exact ⟨[], _, [], fun f => rfl⟩

/-- A pipeline around functions goes on after them. -/
theorem pipeline_constructor (fs gs : List Coercion) :
    (Ty.decorated (.constructor fs) inner m).pipeline gs =
      .decorated (.constructor (fs ++ gs)) inner m := by
  induction gs generalizing fs with
  | nil => rw [pipeline, List.foldl_nil, List.append_nil]
  | cons g gs ih =>
    rw [List.append_cons]
    exact ih (fs ++ [g])

/-- **Functions added one by one do what they do put together.**  Two functions added to any type,
one that runs functions already among them, evaluate every input as the one function does that runs
them in turn: results, failures with their inputs, and early ends are the same.  So do any number of
functions, and it makes no difference how they are bracketed. -/
theorem pipelines_fuse (t : Ty) (f g h : Coercion) (a b c d : String) :
    ((t.constructor f).constructor g).EvaluatesAs (t.constructor (f.andThen g a)) ∧
      (∀ gs, ((t.constructor f).pipeline gs).EvaluatesAs (t.constructor (chain a f gs))) ∧
      ∀ v, ((f.andThen g a).andThen h b).run v = (f.andThen (g.andThen h c) d).run v := by
  obtain ⟨fs, inner, m, ht⟩ := exists_constructor_eq t
  have hall gs : ((t.constructor f).pipeline gs).EvaluatesAs (t.constructor (chain a f gs)) := by
    rw [ht, ht, pipeline_constructor, List.append_assoc, List.singleton_append]
    exact .of_functions (runAll_chain fs f gs)
  exact ⟨hall [g], hall, run_andThen_assoc a b c d⟩

end Ty

end Conform
