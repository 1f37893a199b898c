import Conform.Proofs.Lookups
import Mathlib.Data.List.Induction

/-!
# What a lookup gives after a registration

A registration replaces what was under its name, but not what lookups have put together with it
before: that stays under its own identifier until it is registered itself or the registry is reset.
So a lookup gives what the registrations alone determine as far as nothing on its way is out of
date: whatever was put together and stored, no name on its own way has been registered since.

* `TypeRegistry.Step`, `TypeRegistry.afterSteps` — registrations, lookups and resets in a row.
* `TypeRegistry.AgreesOn` — on some identifiers, a registry holds what resolving in another one
  gives.
* `TypeRegistry.lookup_kept` — what is stored stays.
* `TypeRegistry.BuiltAfresh` — nothing that lookups have stored on a way is out of date.
* `TypeRegistry.lookup_after_registering` — **then the lookups made before have no influence**.
* `TypeRegistry.not_always_rebuilt` — otherwise they can have one.
-/

namespace Conform

/-! ## Resetting -/

/-- Of the entries that are kept, those of a name that is kept are found. -/
theorem Named.find?_filter {α : Type} (keep : String → Bool) (name : String)
    (l : List (String × α)) :
    find? name (l.filter fun e => keep e.1) = if keep name then find? name l else none := by
  induction l with
  | nil => simp [find?]
  | cons e l ih =>
    obtain ⟨n, a⟩ := e
    rw [List.filter_cons]
    by_cases hn : n = name
    · subst hn
      by_cases hk : keep n = true
      · simp [hk, find?]
      · simp only [hk, Bool.false_eq_true, if_false, ih]
    · by_cases hk : keep n = true
      · simp only [hk, if_true, find?, if_neg hn, ih]
      · simp only [hk, Bool.false_eq_true, if_false, find?, if_neg hn, ih]

namespace TypeRegistry

variable {s r : TypeRegistry} {identifier name other : String} {t : Ty}

/-- Of types stored one after another, the last one of a name is found. -/
theorem get?_foldl_put (entries : List (String × Ty)) (r : TypeRegistry) (name : String) :
    (entries.foldl (fun r e => r.put e.1 e.2) r).get? name =
      (Named.find? name entries.reverse).or (r.get? name) := by
  have hentries : (entries.foldl (fun r e => r.put e.1 e.2) r).entries =
      entries.foldl (fun named e => Named.place e.1 e.2 named) r.entries := by
    induction entries generalizing r with
    | nil => rfl
    | cons e entries ih => exact ih (r.put e.1 e.2)
  rw [Registry.get?, hentries, Named.find?_foldl_place]
  rfl

/-- What is retained is found, and nothing else. -/
theorem get?_retain (keep : String → Bool) (r : TypeRegistry) (name : String) :
    (r.retain keep).get? name = if keep name then r.get? name else none :=
  Named.find?_filter keep name r.entries

/-- After a reset every name stands for what it stands for in the standard registry. -/
theorem get?_reset (r : TypeRegistry) (name : String) : r.reset.get? name = standard.get? name := by
  have hinOrder : Named.Ascending standard.entries :=
    Named.Ascending.foldl_place List.Pairwise.nil standardTypes
  have hstandard : Named.find? name standard.entries.reverse = standard.get? name := by
    rw [← Named.find?_ofList, hinOrder.ofList_eq]
    rfl
  rw [reset, get?_foldl_put, hstandard, get?_retain, Registry.contains]
  cases standard.get? name <;> rfl

/-! ## Steps -/

/-- What is done with a registry. -/
inductive Step
  | register (name : String) (t : Ty)
  | lookup (identifier : String)
  | reset

namespace Step

/-- The registry after a step.  A registration that is refused changes nothing. -/
def run (r : TypeRegistry) : Step → TypeRegistry
  | register name t =>
    match r.register name t with
    | .ok r' => r'
    | .error _ => r
  | lookup identifier => (TypeRegistry.lookup identifier r).2
  | reset => r.reset

/-- Whether the step is more than a lookup. -/
def changes : Step → Bool
  | lookup _ => false
  | _ => true

/-- Whether the step may put something else under the name: a registration of it that is not
refused, or a reset. -/
def Overwrites (name : String) : Step → Prop
  | register n _ => n = name ∧ (Text.trim n.toList).isEmpty = false
  | lookup _ => False
  | reset => True

end Step

/-- The registry after some steps. -/
def afterSteps (s : TypeRegistry) (steps : List Step) : TypeRegistry :=
  steps.foldl Step.run s

/-- The registry after the same steps without any lookup. -/
def afterChanges (s : TypeRegistry) (steps : List Step) : TypeRegistry :=
  s.afterSteps (steps.filter Step.changes)

theorem afterSteps_append (s : TypeRegistry) (before after : List Step) :
    s.afterSteps (before ++ after) = (s.afterSteps before).afterSteps after :=
  List.foldl_append

theorem afterChanges_append (s : TypeRegistry) (before after : List Step) :
    s.afterChanges (before ++ after) = (s.afterChanges before).afterChanges after := by
  rw [afterChanges, List.filter_append, afterSteps_append]
  rfl

/-- The first step is taken if it changes the registry, and then the others. -/
theorem afterChanges_cons (s : TypeRegistry) (step : Step) (steps : List Step) :
    s.afterChanges (step :: steps) =
      (if step.changes then step.run s else s).afterChanges steps := by
  rw [afterChanges, List.filter_cons]
  split <;> rfl

/-- Registering under a visible name stores the type. -/
theorem register_eq (r : TypeRegistry) (t : Ty) (h : (Text.trim name.toList).isEmpty = false) :
    r.register name t = .ok (r.put name t) := by
  simp only [Registry.register, validateName, h, Bool.false_eq_true, if_false, Except.map]

/-- As a step, registering under a visible name stores the type. -/
theorem run_register (r : TypeRegistry) (t : Ty) (h : (Text.trim name.toList).isEmpty = false) :
    Step.run r (.register name t) = r.put name t := by
  rw [Step.run, register_eq r t h]

/-- As a step, a lookup stores what the search stores. -/
theorem run_lookup (r : TypeRegistry) (identifier : String) :
    Step.run r (.lookup identifier) = (lookup identifier r).2 := by
  rw [Step.run]

/-- What is under a name after a registration. -/
theorem get?_run_register (r : TypeRegistry) (name other : String) (t : Ty) :
    (Step.run r (.register name t)).get? other =
      if name = other ∧ (Text.trim name.toList).isEmpty = false then some t else r.get? other := by
  simp only [Step.run, Registry.register, validateName]
  cases (Text.trim name.toList).isEmpty with
  | true => simp [Except.map]
  | false => simp [Except.map]

/-- A step that does not overwrite a name leaves what is stored under it, if it is no lookup also
when nothing is. -/
theorem get?_run_change {step : Step} (hc : step.changes = true) (ho : ¬ step.Overwrites name) :
    (step.run r).get? name = r.get? name := by
  cases step with
  | register n t => exact (get?_run_register r n name t).trans (if_neg ho)
  | lookup id => cases hc
  | reset => exact absurd trivial ho

/-- A step that overwrites a name determines what is under it. -/
theorem get?_run_overwritten {step : Step} (ho : step.Overwrites name) (r s : TypeRegistry) :
    (step.run r).get? name = (step.run s).get? name := by
  cases step with
  | register n t =>
    exact ((get?_run_register r n name t).trans (if_pos ho)).trans
      ((get?_run_register s n name t).trans (if_pos ho)).symm
  | lookup id => exact ho.elim
  | reset => exact (get?_reset r name).trans (get?_reset s name).symm

/-- What overwrites a name changes the registry. -/
theorem changes_of_overwrites {step : Step} (ho : step.Overwrites name) : step.changes = true := by
  cases step with
  | lookup id => exact ho.elim
  | _ => rfl

/-- What is stored stays, as long as nothing overwrites it. -/
theorem get?_run_stored {step : Step} (ho : ¬ step.Overwrites name) (h : r.get? name = some t) :
    (step.run r).get? name = some t := by
  cases step with
  | lookup id => exact ((remembers_nil r).lookup id).2 name t |>.2 (.inl h)
  | register n u => exact (get?_run_change rfl ho).trans h
  | reset => exact absurd trivial ho

/-- The same over many steps. -/
theorem get?_afterSteps_stored {steps : List Step} (h : r.get? name = some t)
    (ho : ∀ step ∈ steps, ¬ step.Overwrites name) : (r.afterSteps steps).get? name = some t := by
  induction steps generalizing r with
  | nil => exact h
  | cons step steps ih =>
    exact ih (get?_run_stored (ho step List.mem_cons_self) h) fun step hs =>
      ho step (List.mem_cons_of_mem _ hs)

/-- **What a lookup has stored it gives again**, until the identifier is registered or the registry
is reset, whatever else is registered. -/
theorem lookup_kept {steps : List Step} (h : r.get? identifier = some t)
    (ho : ∀ step ∈ steps, ¬ step.Overwrites identifier) :
    lookup identifier (r.afterSteps steps) = (.ok t, r.afterSteps steps) :=
  lookup_registered (get?_afterSteps_stored h ho)

/-! ## What is registered -/

/-- The second registry holds what the first one holds, and perhaps more. -/
def Covers (s r : TypeRegistry) : Prop :=
  ∀ name t, s.get? name = some t → r.get? name = some t

/-- Whatever is looked up, what is registered is there. -/
theorem covers_afterSteps (s : TypeRegistry) (steps : List Step) :
    Covers (s.afterChanges steps) (s.afterSteps steps) := by
  have step : ∀ (steps : List Step) (s r : TypeRegistry), Covers s r →
      Covers (s.afterChanges steps) (r.afterSteps steps) := by
    intro steps
    induction steps with
    | nil => exact fun _ _ h => h
    | cons step steps ih =>
      intro s r h
      rw [afterChanges_cons]
      refine ih _ _ fun name t => ?_
      cases step with
      | register n u =>
        simp only [Step.changes, if_true, get?_run_register]
        split
        · exact id
        · exact h name t
      | lookup identifier => exact fun hs => get?_run_stored nofun (h name t hs)
      | reset =>
        simp only [Step.changes, if_true, Step.run, get?_reset]
        exact id
  exact step steps s s fun _ _ => id

/-! ## Agreement on a way -/

/-- On the identifiers of a class the second registry holds what the first one holds, and perhaps
more, but nothing else than resolving in the first one gives. -/
structure AgreesOn (way : String → Prop) (s r : TypeRegistry) : Prop where
  covers : ∀ name, way name → ∀ t, s.get? name = some t → r.get? name = some t
  resolved : ∀ name, way name → ∀ t, r.get? name = some t → s.resolve name = .ok t

namespace AgreesOn

variable {way : String → Prop}

/-- Where registries agree on all parts, resolving gives the same. -/
theorem resolve_eq (h : AgreesOn way s r)
    (hway : ∀ name, way name → ∀ part ∈ s.parts name, way part) (hid : way identifier) :
    r.resolve identifier = s.resolve identifier := by
  induction hlen : identifier.length using Nat.strong_induction_on generalizing identifier with
  | _ n ih =>
    subst hlen
    cases hr : r.get? identifier with
    | some t => rw [resolve_registered hr, h.resolved identifier hid t hr]
    | none =>
      have hn : s.get? identifier = none := by
        cases hs : s.get? identifier with
        | none => rfl
        | some t => cases hr.symm.trans (h.covers identifier hid t hs)
      have hparts := hway identifier hid
      rw [resolve_unstored hr, resolve_unstored hn]
      cases hp : Identifier.parse identifier with
      | error fault => rfl
      | ok step =>
        cases step with
        | base name => rfl
        | generic outer member =>
          have hlen := Identifier.length_lt_of_generic hp
          simp only [parts, hn, hp] at hparts
          cases ho : s.resolve outer with
          | error e =>
            rw [ho] at hparts
            simp only [ih _ hlen.1 (hparts outer (by simp)) rfl, ho, Except.bind]
          | ok t =>
            rw [ho] at hparts
            simp only [ih _ hlen.1 (hparts outer (by simp)) rfl, ho, Except.bind,
              ih _ hlen.2 (hparts member (by simp)) rfl]
        | qualified q rest =>
          have hlen := Identifier.length_lt_of_qualified hp
          have hrest : way rest := hparts rest (by simp [parts_qualified hn hp])
          simp only [ih _ hlen hrest rfl]

end AgreesOn

/-! ## Lookups after registrations -/

/-- Changes that overwrite other names only leave a name as it is. -/
theorem get?_afterChanges {steps : List Step} (ho : ∀ step ∈ steps, ¬ step.Overwrites name) :
    (s.afterChanges steps).get? name = s.get? name := by
  induction steps generalizing s with
  | nil => rfl
  | cons step steps ih =>
    rw [afterChanges_cons, ih fun step hs => ho step (List.mem_cons_of_mem _ hs)]
    split
    · next hc => exact get?_run_change hc (ho step List.mem_cons_self)
    · rfl

/-- Something has been stored under the name since before the `late` steps. -/
def StoredSince (s : TypeRegistry) (earlier late : List Step) (name : String) : Prop :=
  (s.afterSteps earlier).get? name ≠ none ∧ ∀ step ∈ late, ¬ step.Overwrites name

/-- Nothing on the way of the identifier is out of date: where no type is registered, and one has
been stored since before some late steps, these have overwritten none of the names that it is put
together from. -/
def BuiltAfresh (s : TypeRegistry) (steps : List Step) (identifier : String) : Prop :=
  ∀ name, (s.afterChanges steps).Visits identifier name → (s.afterChanges steps).get? name = none →
    ∀ earlier late, steps = earlier ++ late → StoredSince s earlier late name →
      ∀ part, (s.afterChanges steps).Visits name part → ∀ step ∈ late, ¬ step.Overwrites part

/-- What is registered in the end, under a name that the late steps leave alone, was registered
before them. -/
theorem get?_afterSteps_of_registered {steps earlier late : List Step}
    (hsteps : steps = earlier ++ late) (ho : ∀ step ∈ late, ¬ step.Overwrites name)
    (ht : (s.afterChanges steps).get? name = some t) :
    (s.afterSteps earlier).get? name = some t := by
  rw [hsteps, afterChanges_append, get?_afterChanges ho] at ht
  exact covers_afterSteps s earlier name t ht

namespace BuiltAfresh

variable {steps : List Step}

/-- At any time, what is stored on the way, and stays, is what the registrations alone determine in
the end.  The induction is on the steps done so far.  Only a lookup can have stored what is not
registered; it found nothing but such types, by the induction hypothesis, and none of them was
overwritten since. -/
theorem resolve_eq_of_stored (h : BuiltAfresh s steps identifier) (earlier : List Step) :
    ∀ late, steps = earlier ++ late → ∀ name, (s.afterChanges steps).Visits identifier name →
      (∀ step ∈ late, ¬ step.Overwrites name) → ∀ t, (s.afterSteps earlier).get? name = some t →
        (s.afterChanges steps).resolve name = .ok t := by
  induction earlier using List.reverseRecOn with
  | nil =>
    intro late hsteps name _ ho t ht
    have hregistered : (s.afterChanges steps).get? name = some t := by
      rw [hsteps, List.nil_append, get?_afterChanges ho]
      exact ht
    exact resolve_registered hregistered
  | append_singleton earlier step ih =>
    intro late hsteps name hname ho t ht
    cases hfinal : (s.afterChanges steps).get? name with
    | some u =>
      cases (get?_afterSteps_of_registered hsteps ho hfinal).symm.trans ht
      exact resolve_registered hfinal
    | none =>
      have hsteps' : steps = earlier ++ step :: late := by rw [hsteps, List.append_assoc]; rfl
      have hrun : s.afterSteps (earlier ++ [step]) = step.run (s.afterSteps earlier) :=
        afterSteps_append s earlier [step]
      rw [hrun] at ht
      have hstep : ¬ step.Overwrites name := by
        intro hover
        rw [hsteps', afterChanges_append, afterChanges_cons, if_pos (changes_of_overwrites hover),
          get?_afterChanges ho, get?_run_overwritten hover _ (s.afterSteps earlier), ht] at hfinal
        cases hfinal
      have ho' : ∀ other ∈ step :: late, ¬ other.Overwrites name :=
        List.forall_mem_cons.2 ⟨hstep, ho⟩
      cases step with
      | register n u =>
        exact ih _ hsteps' name hname ho' t ((get?_run_change rfl hstep).symm.trans ht)
      | reset => exact absurd trivial hstep
      | lookup id =>
        rcases (((remembers_nil _).lookup id).2 name t).1 ht with hr | ⟨-, hres⟩
        · exact ih _ hsteps' name hname ho' t hr
        · have hstored : (s.afterSteps (earlier ++ [.lookup id])).get? name ≠ none := by
            rw [hrun, ht]
            exact nofun
          have hfresh : ∀ part, (s.afterChanges steps).Visits name part →
              ∀ other ∈ Step.lookup id :: late, ¬ other.Overwrites part := fun part hpart =>
            List.forall_mem_cons.2 ⟨not_false,
              h name hname hfinal _ late hsteps ⟨hstored, ho⟩ part hpart⟩
          have hagrees : AgreesOn ((s.afterChanges steps).Visits name) (s.afterChanges steps)
              (s.afterSteps earlier) :=
            ⟨fun part hpart _ => get?_afterSteps_of_registered hsteps' (hfresh part hpart),
              fun part hpart => ih _ hsteps' part (hname.trans hpart) (hfresh part hpart)⟩
          exact (hagrees.resolve_eq (fun _ hpart _ => hpart.tail) .refl).symm.trans hres

/-- In the end the registry agrees with the registrations alone. -/
theorem agreesOn (h : BuiltAfresh s steps identifier) :
    AgreesOn ((s.afterChanges steps).Visits identifier) (s.afterChanges steps)
      (s.afterSteps steps) where
  covers := fun name _ t => covers_afterSteps s steps name t
  resolved := fun name hname =>
    h.resolve_eq_of_stored steps [] (List.append_nil steps).symm name hname nofun

/-- A lookup that is built afresh gives what it gives after the changes alone. -/
theorem lookup_eq (h : BuiltAfresh s steps identifier) :
    (lookup identifier (s.afterSteps steps)).1 = (lookup identifier (s.afterChanges steps)).1 := by
  rw [((remembers_nil _).lookup identifier).1, ((remembers_nil _).lookup identifier).1]
  exact h.agreesOn.resolve_eq (fun _ hname _ => hname.tail) .refl

end BuiltAfresh

/-- **A lookup gives what the registrations alone determine**, if nothing that earlier lookups have
stored on its way is out of date.  So a registered type is the one that is built on, until its name
is overwritten. -/
theorem lookup_after_registering {s r : TypeRegistry} {before after : List Step} {name : String}
    {t : Ty} {identifier : String} (hregistered : (s.afterSteps before).register name t = .ok r)
    (hname : ∀ step ∈ after, ¬ step.Overwrites name)
    (hfresh : BuiltAfresh s (before ++ .register name t :: after) identifier) :
    (s.afterChanges (before ++ .register name t :: after)).get? name = some t ∧
      (lookup identifier (s.afterSteps (before ++ .register name t :: after))).1 =
        (lookup identifier (s.afterChanges (before ++ .register name t :: after))).1 := by
  refine ⟨?_, hfresh.lookup_eq⟩
  have hvalid : (Text.trim name.toList).isEmpty = false := by
    cases hv : (Text.trim name.toList).isEmpty with
    | false => rfl
    | true => simp [Registry.register, validateName, hv, Except.map] at hregistered
  rw [afterChanges_append, afterChanges_cons, get?_afterChanges hname]
  simp only [Step.changes, if_true, get?_run_register]
  rw [if_pos ⟨trivial, hvalid⟩]

section Meeting

/-- A text is registered as `y`, and a lookup puts an optional one together with it.  Then `x` and
another name are registered. -/
def optionalThenArray : List Step :=
  [.register "y" (Ty.ofPrimitive .string), .lookup "optional.y"] ++
    .register "x" (Ty.ofPrimitive .array) :: [.register "z" (Ty.ofPrimitive .date)]

/-- What these registrations alone make of a registry. -/
def arrayBesideText (s : TypeRegistry) : TypeRegistry :=
  ((s.put "y" (Ty.ofPrimitive .string)).put "x" (Ty.ofPrimitive .array)).put "z"
    (Ty.ofPrimitive .date)

theorem visible_names : ∀ name ∈ ["x", "y", "z"], (Text.trim name.toList).isEmpty = false := by
  decide

theorem afterChanges_optionalThenArray (s : TypeRegistry) :
    s.afterChanges optionalThenArray = arrayBesideText s := by
  simp only [afterChanges, afterSteps, optionalThenArray, List.cons_append, List.nil_append,
    List.filter_cons, Step.changes, if_true, Bool.false_eq_true, if_false, List.filter_nil,
    List.foldl_cons, List.foldl_nil, run_register _ _ (visible_names "x" (by simp)),
    run_register _ _ (visible_names "y" (by simp)), run_register _ _ (visible_names "z" (by simp)),
    arrayBesideText]

theorem get?_arrayBesideText_x (s : TypeRegistry) :
    (arrayBesideText s).get? "x" = some (Ty.ofPrimitive .array) := by
  rw [arrayBesideText, Registry.get?_put, if_neg (by decide), Registry.get?_put, if_pos rfl]

theorem get?_arrayBesideText_y (s : TypeRegistry) :
    (arrayBesideText s).get? "y" = some (Ty.ofPrimitive .string) := by
  rw [arrayBesideText, Registry.get?_put, if_neg (by decide), Registry.get?_put, if_neg (by decide),
    Registry.get?_put, if_pos rfl]

theorem get?_arrayBesideText (s : TypeRegistry) (name : String) (hname : name ∉ ["x", "y", "z"]) :
    (arrayBesideText s).get? name = s.get? name := by
  simp only [List.mem_cons, List.not_mem_nil, or_false, not_or] at hname
  obtain ⟨hx, hy, hz⟩ := hname
  rw [arrayBesideText, Registry.get?_put, if_neg (Ne.symm hz), Registry.get?_put,
    if_neg (Ne.symm hx), Registry.get?_put, if_neg (Ne.symm hy)]

/-- The way of an optional `y`, wherever `y` is registered. -/
theorem visits_optional (hn : r.get? "optional.y" = none) (hy : r.get? "y" = some t)
    (h : r.Visits "optional.y" name) : name = "optional.y" ∨ name = "y" := by
  have hparse : Identifier.parse "optional.y" = .ok (.qualified .optional "y") := rfl
  rw [visits_iff, parts_qualified hn hparse] at h
  rcases h with h | ⟨part, hpart, h⟩
  · exact .inl h
  · obtain rfl := List.mem_singleton.1 hpart
    exact .inr (h.eq_of_stored hy)

variable (hoptional : s.get? "optional.y" = none) (harray : s.get? "x<optional.y>" = none)

include hoptional harray

theorem visits_array (h : (arrayBesideText s).Visits "x<optional.y>" name) :
    name = "x<optional.y>" ∨ name = "optional.y" ∨ name = "y" ∨ name = "x" := by
  have hparse : Identifier.parse "x<optional.y>" = .ok (.generic "x" "optional.y") := rfl
  have hnone := (get?_arrayBesideText s "x<optional.y>" (by decide)).trans harray
  have hnone' := (get?_arrayBesideText s "optional.y" (by decide)).trans hoptional
  have hparts : (arrayBesideText s).parts "x<optional.y>" = ["optional.y", "x"] := by
    simp only [parts, hnone, hparse, resolve_registered (get?_arrayBesideText_x s)]
  rw [visits_iff, hparts] at h
  rcases h with h | ⟨part, hpart, h⟩
  · exact .inl h
  · simp only [List.mem_cons, List.not_mem_nil, or_false] at hpart
    rcases hpart with rfl | rfl
    · exact .inr ((visits_optional hnone' (get?_arrayBesideText_y s) h).imp_right .inl)
    · exact .inr (.inr (.inr (h.eq_of_stored (get?_arrayBesideText_x s))))

/-- The array itself has not been looked up. -/
theorem array_unstored : (s.afterSteps optionalThenArray).get? "x<optional.y>" = none := by
  have hsteps : s.afterSteps optionalThenArray =
      ((lookup "optional.y" (s.put "y" (Ty.ofPrimitive .string))).2.put "x"
        (Ty.ofPrimitive .array)).put "z" (Ty.ofPrimitive .date) := by
    simp only [afterSteps, optionalThenArray, List.cons_append, List.nil_append, List.foldl_cons,
      List.foldl_nil, run_register _ _ (visible_names "x" (by simp)),
      run_register _ _ (visible_names "y" (by simp)),
      run_register _ _ (visible_names "z" (by simp)), run_lookup]
  rw [hsteps, Registry.get?_put, if_neg (by decide), Registry.get?_put, if_neg (by decide)]
  refine Option.eq_none_iff_forall_ne_some.2 fun u hu => ?_
  rcases (((remembers_nil _).lookup "optional.y").2 _ u).1 hu with hu | ⟨⟨id, hid, hvisits⟩, -⟩
  · rw [Registry.get?_put, if_neg (by decide), harray] at hu
    cases hu
  · obtain rfl := List.mem_singleton.1 hid
    have hnone : (s.put "y" (Ty.ofPrimitive .string)).get? "optional.y" = none := by
      rw [Registry.get?_put, if_neg (by decide), hoptional]
    have hnames := visits_optional hnone (by rw [Registry.get?_put, if_pos rfl]) hvisits
    exact absurd hnames (by decide)

/-- The optional `y` is older than `x`, but not than `y`, and only that is on its way. -/
theorem builtAfresh_optionalThenArray : BuiltAfresh s optionalThenArray "x<optional.y>" := by
  intro name hname hnone earlier late hsteps ⟨hstored, ho⟩ part hpart
  rw [afterChanges_optionalThenArray] at hname hnone hpart
  obtain ⟨t, ht⟩ := Option.ne_none_iff_exists'.1 hstored
  rcases visits_array hoptional harray hname with rfl | rfl | rfl | rfl
  · have hend := get?_afterSteps_stored ht ho
    rw [← afterSteps_append, ← hsteps] at hend
    cases (array_unstored hoptional harray).symm.trans hend
  · cases earlier with
    | nil => cases hoptional.symm.trans ht
    | cons first rest =>
      -- `y` was registered first, so the late steps come after that
      have hrest : [Step.lookup "optional.y", .register "x" (Ty.ofPrimitive .array),
          .register "z" (Ty.ofPrimitive .date)] = rest ++ late := (List.cons.inj hsteps).2
      intro step hstep
      have hmem := List.mem_append_right rest hstep
      rw [← hrest] at hmem
      simp only [List.mem_cons, List.not_mem_nil, or_false] at hmem
      have hparts := visits_optional hnone (get?_arrayBesideText_y s) hpart
      rcases hparts with rfl | rfl <;> rcases hmem with rfl | rfl | rfl <;> simp [Step.Overwrites]
  · cases (get?_arrayBesideText_y s).symm.trans hnone
  · cases (get?_arrayBesideText_x s).symm.trans hnone

end Meeting

/-- Arrays of what was put together before `x` was registered: two names meet in one identifier. -/
theorem lookup_after_registering_x :
    (standard.afterChanges optionalThenArray).get? "x" = some (Ty.ofPrimitive .array) ∧
      (lookup "x<optional.y>" (standard.afterSteps optionalThenArray)).1 =
        (lookup "x<optional.y>" (standard.afterChanges optionalThenArray)).1 := by
  have hoptional : standard.get? "optional.y" = none := by
    rw [get?_standard]
    rfl
  have harray : standard.get? "x<optional.y>" = none := by
    rw [get?_standard]
    rfl
  exact lookup_after_registering (register_eq _ _ (visible_names "x" (by simp)))
    (by simp [Step.Overwrites]) (builtAfresh_optionalThenArray hoptional harray)

/-- An optional type is built on what its name stands for. -/
theorem resolve_optional {r : TypeRegistry} {identifier name : String} {t : Ty}
    (hn : r.get? identifier = none)
    (hp : Identifier.parse identifier = .ok (.qualified .optional name))
    (ht : r.get? name = some t) :
    r.resolve identifier = .ok t.optional := by
  rw [resolve_unstored hn, hp]
  simp only [resolve_registered ht]
  rfl

/-- **A lookup between two registrations is seen afterwards.**  After the second registration of `x`
the type that was put together with the first one is still there. -/
theorem not_always_rebuilt :
    ¬ ∀ (s r : TypeRegistry) (before after : List Step) (name : String) (t : Ty)
    (identifier : String), (s.afterSteps before).register name t = .ok r →
      (∀ step ∈ after, ¬ step.Overwrites name) →
      s.get? identifier = none →
      (∀ u, Step.register identifier u ∉ before ++ .register name t :: after) →
      (s.afterChanges (before ++ .register name t :: after)).Visits identifier name →
        (lookup identifier (s.afterSteps (before ++ .register name t :: after))).1 =
          (lookup identifier (s.afterChanges (before ++ .register name t :: after))).1 := by
  intro h
  have hoptional : standard.get? "optional.x" = none := by
    rw [get?_standard]
    rfl
  generalize standard = s at hoptional
  have hparse : Identifier.parse "optional.x" = .ok (.qualified .optional "x") := rfl
  -- first a string, which a lookup builds on, then an integer
  let strings : TypeRegistry := s.put "x" (Ty.ofPrimitive .string)
  have hstrings : strings.resolve "optional.x" = .ok (Ty.ofPrimitive .string).optional :=
    resolve_optional (by rw [Registry.get?_put, if_neg (by decide), hoptional]) hparse
      (by rw [Registry.get?_put, if_pos rfl])
  have hstored : (lookup "optional.x" strings).2.get? "optional.x" =
      some (Ty.ofPrimitive .string).optional :=
    ((remembers_nil strings).lookup "optional.x").2 _ _ |>.2
      (.inr ⟨⟨_, List.mem_singleton.2 rfl, .refl⟩, hstrings⟩)
  let integers : TypeRegistry := strings.put "x" (Ty.ofPrimitive .integer)
  have hfree : integers.get? "optional.x" = none := by
    rw [Registry.get?_put, if_neg (by decide), Registry.get?_put, if_neg (by decide), hoptional]
  have hintegers : integers.resolve "optional.x" = .ok (Ty.ofPrimitive .integer).optional :=
    resolve_optional hfree hparse (by rw [Registry.get?_put, if_pos rfl])
  have hvisits : integers.Visits "optional.x" "x" :=
    .single (by rw [parts_qualified hfree hparse, List.mem_singleton])
  have hx : (Text.trim "x".toList).isEmpty = false := rfl
  have hchanges : s.afterChanges ([Step.register "x" (Ty.ofPrimitive .string),
      Step.lookup "optional.x"] ++ Step.register "x" (Ty.ofPrimitive .integer) :: []) =
        integers := by
    simp only [afterChanges, afterSteps, List.cons_append, List.nil_append, List.filter_cons,
      Step.changes, if_true, Bool.false_eq_true, if_false, List.filter_nil, List.foldl_cons,
      List.foldl_nil, run_register _ _ hx, integers, strings]
  have hsteps : s.afterSteps ([Step.register "x" (Ty.ofPrimitive .string),
      Step.lookup "optional.x"] ++ Step.register "x" (Ty.ofPrimitive .integer) :: []) =
        (lookup "optional.x" strings).2.afterSteps
          [Step.register "x" (Ty.ofPrimitive .integer)] := by
    simp only [afterSteps, List.cons_append, List.nil_append, List.foldl_cons, List.foldl_nil,
      run_register _ _ hx, run_lookup, strings]
  have hlookups := h s _ [Step.register "x" (Ty.ofPrimitive .string), Step.lookup "optional.x"] []
    "x" (Ty.ofPrimitive .integer) "optional.x" (register_eq _ _ hx) nofun hoptional (by simp)
    (by rwa [hchanges])
  have hkept : lookup "optional.x" ((lookup "optional.x" strings).2.afterSteps
      [Step.register "x" (Ty.ofPrimitive .integer)]) = (.ok (Ty.ofPrimitive .string).optional, _) :=
    lookup_kept hstored (by simp [Step.Overwrites])
  rw [hsteps, hkept, hchanges, ((remembers_nil integers).lookup "optional.x").1,
    hintegers] at hlookups
  cases hlookups

end TypeRegistry

end Conform
