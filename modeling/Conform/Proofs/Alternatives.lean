import Conform.Proofs.FirstError

/-!
# Alternatives in any bracketing

A sum has two sides, so that several alternatives become a tree of sums.  Trying a sum tries both
sides.  Applying it tries the left side and applies the right one, so that the inner sums of one
tree are tried where those of another are applied.  Going on after a failure is associative, and in
every tree it is the last alternative alone that is evaluated as the whole sum is: only the order of
the alternatives counts.

* `Ty.Bracketing` — a tree of sums, with its alternatives `Ty.Bracketing.leaves` and its type
  `Ty.Bracketing.toTy`.
* `Ty.inTurn` — tries types one after the other, and goes on if all are refused.
* `Ty.Bracketing.tryApply_eq`, `Ty.Bracketing.apply_eq` — a tree evaluates its alternatives in turn,
  whatever generators they draw on.
* `Ty.FirstAccepts` — the first of some types that accepts a value.
* `Ty.bracketing_irrelevant` — **all bracketings of a list of alternatives do the same.**
-/

namespace Conform

/-! ## Going on after failures -/

namespace Eval

variable {ε δ ζ α : Type}

/-- Going on after a failure is associative. -/
theorem recover_assoc (e : Eval ε α) (f : ε → Eval δ α) (g : δ → Eval ζ α) :
    (e.recover f).recover g = e.recover fun x => (f x).recover g := by
  refine (bind_assoc (m := StateM Supply) e.run _ _).trans (bind_congr fun r => ?_)
  cases r <;> rfl

end Eval

open Eval

namespace Ty

/-! ## Trees of sums -/

/-- A tree of sums over alternatives, which may be sums themselves. -/
inductive Bracketing
  | one (t : Ty)
  | sum (left right : Bracketing) (notes : Metadata)

namespace Bracketing

/-- The alternatives, from left to right. -/
def leaves : Bracketing → List Ty
  | one t => [t]
  | sum left right _ => left.leaves ++ right.leaves

/-- The last alternative. -/
def last : Bracketing → Ty
  | one t => t
  | sum _ right _ => right.last

/-- The alternatives before the last one. -/
def others : Bracketing → List Ty
  | one _ => []
  | sum left right _ => left.leaves ++ right.others

/-- The type that is put together. -/
def toTy : Bracketing → Ty
  | one t => t
  | sum left right notes => .sum left.toTy right.toTy notes

/-- The last leaf is the one that the others stand in front of. -/
theorem leaves_eq (b : Bracketing) : b.leaves = b.others ++ [b.last] := by
  induction b with
  | one t => rfl
  | sum left right notes _ ihr => rw [leaves, ihr, others, last, List.append_assoc]

/-- Leaves in a row determine the last one and those before it. -/
theorem eq_of_leaves_eq {b : Bracketing} {ts : List Ty} {t : Ty} (h : b.leaves = ts ++ [t]) :
    b.others = ts ∧ b.last = t := by
  obtain ⟨hothers, hlast⟩ := List.append_inj' (b.leaves_eq.symm.trans h) rfl
  exact ⟨hothers, (List.cons_eq_cons.1 hlast).1⟩

end Bracketing

/-! ## Alternatives in turn -/

/-- Tries types one after the other, and goes on with another evaluation if all are refused. -/
def inTurn {ε : Type} (x : Value) (ts : List Ty) (rest : Eval ε Value) : Eval ε Value :=
  ts.foldr (fun t rest => (t.tryApply x).recover fun _ => rest) rest

/-- Two rows of alternatives in turn are one row. -/
theorem inTurn_append {ε : Type} (x : Value) (ts us : List Ty) (rest : Eval ε Value) :
    inTurn x (ts ++ us) rest = inTurn x ts (inTurn x us rest) :=
  List.foldr_append

namespace Bracketing

variable (b : Bracketing) (x : Value)

/-- Going on after a tree is refused is going on after each of its alternatives is. -/
theorem recover_eq {ε : Type} (rest : Eval ε Value) :
    ((b.toTy.tryApply x).recover fun _ => rest) = inTurn x b.leaves rest := by
  induction b generalizing rest with
  | one t => rfl
  | sum left right notes ihl ihr =>
    rw [toTy, tryApply, recover_assoc, ihr, ihl, leaves, inTurn_append]

/-- **Trying a tree tries its alternatives in turn.** -/
theorem tryApply_eq : b.toTy.tryApply x = inTurn x b.others (b.last.tryApply x) := by
  induction b with
  | one t => rfl
  | sum left right notes _ ihr => rw [toTy, tryApply, ihr, recover_eq, others, inTurn_append, last]

/-- **Applying a tree tries its alternatives in turn**, except that the last one is applied. -/
theorem apply_eq : b.toTy.apply x = inTurn x b.others (b.last.apply x) := by
  induction b with
  | one t => rfl
  | sum left right notes _ ihr => rw [toTy, apply, ihr, recover_eq, others, inTurn_append, last]

end Bracketing

/-! ## The first success -/

/-- The value is what the first of the types gives that accepts the input. -/
def FirstAccepts (ts : List Ty) (x w : Value) : Prop :=
  ∃ before t after, ts = before ++ t :: after ∧ (∀ u ∈ before, u.Rejects x) ∧ t.Accepts x w

section FirstAccepts

variable {t : Ty} {ts : List Ty} {x w : Value}

/-- Among no types there is none that accepts. -/
theorem not_firstAccepts_nil : ¬FirstAccepts [] x w := by
  rintro ⟨before, t, after, h, -⟩
  cases List.append_eq_nil_iff.1 h.symm with
  | intro _ h => cases h

/-- The first type to accept is the head, or the head refuses and it is the first one of the
rest. -/
theorem firstAccepts_cons :
    FirstAccepts (t :: ts) x w ↔ t.Accepts x w ∨ t.Rejects x ∧ FirstAccepts ts x w := by
  constructor
  · rintro ⟨before, u, after, h, hbefore, hu⟩
    rcases List.cons_eq_append_iff.1 h with ⟨-, h⟩ | ⟨before, rfl, rfl⟩
    · cases h
      exact .inl hu
    · obtain ⟨ht, hbefore⟩ := List.forall_mem_cons.1 hbefore
      exact .inr ⟨ht, before, u, after, rfl, hbefore, hu⟩
  · rintro (ht | ⟨ht, before, u, after, rfl, hbefore, hu⟩)
    · exact ⟨[], t, ts, rfl, fun u hu => absurd hu List.not_mem_nil, ht⟩
    · exact ⟨t :: before, u, after, rfl, List.forall_mem_cons.2 ⟨ht, hbefore⟩, hu⟩

/-- The first success is before the last type, or the last type's own. -/
theorem firstAccepts_concat :
    FirstAccepts (ts ++ [t]) x w ↔
      FirstAccepts ts x w ∨ (∀ u ∈ ts, u.Rejects x) ∧ t.Accepts x w := by
  induction ts with
  | nil =>
    rw [List.nil_append, firstAccepts_cons, or_iff_left fun h => not_firstAccepts_nil h.2,
      or_iff_right not_firstAccepts_nil]
    exact (and_iff_right fun u hu => absurd hu List.not_mem_nil).symm
  | cons u ts ih =>
    rw [List.cons_append, firstAccepts_cons, ih, firstAccepts_cons, and_or_left, or_assoc,
      List.forall_mem_cons, and_assoc]

/-- Trying types in turn comes to a result if what is left in the end does. -/
theorem settled_inTurn {ε : Type} {rest : Eval ε Value} (hts : ∀ u ∈ ts, u.generators = [])
    (hrest : rest.Settled) : (inTurn x ts rest).Settled := by
  induction ts with
  | nil => exact hrest
  | cons t ts ih =>
    obtain ⟨ht, hts⟩ := List.forall_mem_cons.1 hts
    exact (settled_tryApply ht x).recover fun _ => ih hts

/-- Types in turn give the first success among them, or what comes after all of them. -/
theorem inTurn_yields_iff {ε : Type} {rest : Eval ε Value} {r : Except ε Value}
    (hts : ∀ u ∈ ts, u.generators = []) (hrest : rest.Settled) :
    (inTurn x ts rest).Yields r ↔
      (∃ w, FirstAccepts ts x w ∧ r = .ok w) ∨ (∀ u ∈ ts, u.Rejects x) ∧ rest.Yields r := by
  induction ts with
  | nil =>
    rw [or_iff_right fun ⟨w, hw, _⟩ => not_firstAccepts_nil hw]
    exact (and_iff_right fun u hu => absurd hu List.not_mem_nil).symm
  | cons t ts ih =>
    obtain ⟨ht, hts⟩ := List.forall_mem_cons.1 hts
    have hhead : (inTurn x (t :: ts) rest).Yields r ↔
        (∃ w, t.Accepts x w ∧ r = .ok w) ∨ t.Rejects x ∧ (inTurn x ts rest).Yields r := by
      rw [Rejects, ← exists_and_right]
      exact (settled_tryApply ht x).recover_iff fun _ => settled_inTurn hts hrest
    rw [hhead, ih hts, List.forall_mem_cons]
    constructor
    · rintro (⟨w, hw, hr⟩ | ⟨hreject, ⟨w, hw, hr⟩ | ⟨hrejects, hr⟩⟩)
      · exact .inl ⟨w, firstAccepts_cons.2 (.inl hw), hr⟩
      · exact .inl ⟨w, firstAccepts_cons.2 (.inr ⟨hreject, hw⟩), hr⟩
      · exact .inr ⟨⟨hreject, hrejects⟩, hr⟩
    · rintro (⟨w, hw, hr⟩ | ⟨⟨hreject, hrejects⟩, hr⟩)
      · rcases firstAccepts_cons.1 hw with hw | ⟨hreject, hw⟩
        · exact .inl ⟨w, hw, hr⟩
        · exact .inr ⟨hreject, .inl ⟨w, hw, hr⟩⟩
      · exact .inr ⟨hreject, .inr ⟨hrejects, hr⟩⟩

end FirstAccepts

/-! ## All bracketings of a list -/

/-- Whether a sum with the type on its left is optional. -/
def opensWithNil : Ty → Bool
  | sum left right m => (sum left right m).isOptional
  | t => t.primitive? == some .nil

/-- Whether a sum is optional is up to its left side. -/
theorem isOptional_sum (left right : Ty) (m : Metadata) :
    (sum left right m).isOptional = left.opensWithNil := by
  cases left <;> rfl

namespace Bracketing

/-- The first alternative. -/
def first : Bracketing → Ty
  | one t => t
  | sum left _ _ => left.first

/-- The first leaf is the one at the far left. -/
theorem head?_leaves (b : Bracketing) : b.leaves.head? = some b.first := by
  induction b with
  | one t => rfl
  | sum left right notes ihl _ => rw [leaves, List.head?_append, ihl, first, Option.some_or]

/-- Whether a bracketing opens with nil is up to its first leaf. -/
theorem opensWithNil_toTy (b : Bracketing) : b.toTy.opensWithNil = b.first.opensWithNil := by
  induction b with
  | one t => rfl
  | sum left right notes ihl _ => rw [toTy, opensWithNil, isOptional_sum, ihl, first]

/-- Whether a tree is an optional sum shows in its first alternative. -/
theorem isOptional_toTy {b : Bracketing} (h : b.others ≠ []) :
    b.toTy.isOptional = b.first.opensWithNil := by
  cases b with
  | one t => cases h rfl
  | sum left right notes => rw [toTy, isOptional_sum, opensWithNil_toTy, first]

/-- A sum of types without generators has none. -/
theorem generators_toTy {b : Bracketing} (h : ∀ t ∈ b.leaves, t.generators = []) :
    b.toTy.generators = [] := by
  induction b with
  | one t => exact h t (List.mem_singleton_self t)
  | sum left right notes ihl ihr =>
    obtain ⟨hl, hr⟩ := List.forall_mem_append.1 h
    replace ihl := ihl hl
    replace ihr := ihr hr
    rw [generators] at ihl ihr ⊢
    rw [toTy, gather, ihl, ihr]
    rfl

end Bracketing

/-- Some type is the first to accept exactly if one of them accepts. -/
theorem exists_firstAccepts {ts : List Ty} {x : Value} (hts : ∀ u ∈ ts, u.generators = []) :
    (∃ w, FirstAccepts ts x w) ↔ ∃ u ∈ ts, ∃ w, u.Accepts x w := by
  induction ts with
  | nil => simp [not_firstAccepts_nil]
  | cons t ts ih =>
    obtain ⟨ht, hts⟩ := List.forall_mem_cons.1 hts
    simp only [firstAccepts_cons, List.mem_cons, exists_eq_or_imp, exists_or, exists_and_left,
      ih hts]
    rcases accepts_or_rejects ht x with hacc | hrej
    · exact iff_of_true (.inl hacc) (.inl hacc)
    · rw [and_iff_right hrej]

/-- **Only the order of alternatives counts.**  However a list of at least two types is bracketed to
a sum, trying gives the first success of trying them, and otherwise the failure of the last;
applying gives the first success of trying those before the last, and otherwise what applying the
last gives; a value is valid if it is valid for one of them; and all bracketings are optional sums
or none is. -/
theorem bracketing_irrelevant (b : Bracketing) (ts : List Ty) (t : Ty)
    (hleaves : b.leaves = ts ++ [t]) (hts : ts ≠ []) (hgen : ∀ u ∈ b.leaves, u.generators = [])
    (x : Value) (s : Supply) :
    (∀ r, (b.toTy.tryApply x).outcome s = r ↔
      (∃ w, FirstAccepts (ts ++ [t]) x w ∧ r = .ok w) ∨
        (∀ u ∈ ts, u.Rejects x) ∧ ∃ f, (t.tryApply x).Yields (.error f) ∧ r = .error f) ∧
    (∀ r, (b.toTy.apply x).outcome s = r ↔
      (∃ w, FirstAccepts ts x w ∧ r = .ok w) ∨ (∀ u ∈ ts, u.Rejects x) ∧ (t.apply x).Yields r) ∧
    (((b.toTy.isValid x).run s).1 = true ↔ ∃ u ∈ ts ++ [t], ((u.isValid x).run s).1 = true) ∧
    ∀ b' : Bracketing, b'.leaves = b.leaves → b'.toTy.isOptional = b.toTy.isOptional := by
  obtain ⟨hothers, hlast⟩ := Bracketing.eq_of_leaves_eq hleaves
  have hgen' := hgen
  rw [hleaves] at hgen'
  obtain ⟨hgens, hgent⟩ := List.forall_mem_append.1 hgen'
  replace hgent : t.generators = [] := hgent t (List.mem_singleton_self t)
  -- in both modes the alternatives before the last are tried, and only the last one differs
  have htry (r : Except Failure Value) : (b.toTy.tryApply x).Yields r ↔
      (∃ w, FirstAccepts ts x w ∧ r = .ok w) ∨
      (∀ u ∈ ts, u.Rejects x) ∧ (t.tryApply x).Yields r := by
    rw [b.tryApply_eq, hothers, hlast, inTurn_yields_iff hgens (settled_tryApply hgent x)]
  have happly (r : Except CoercionError Value) : (b.toTy.apply x).Yields r ↔
      (∃ w, FirstAccepts ts x w ∧ r = .ok w) ∨ (∀ u ∈ ts, u.Rejects x) ∧ (t.apply x).Yields r := by
    rw [b.apply_eq, hothers, hlast, inTurn_yields_iff hgens (settled_apply hgent x)]
  have hb := Bracketing.generators_toTy hgen
  refine ⟨fun r => ?_, fun r => ?_, ?_, fun b' hb' => ?_⟩
  · rw [(settled_tryApply hb x).outcome_eq_iff, htry r]
    cases r with
    | ok w => simp [firstAccepts_concat, Accepts]
    | error f => simp
  · rw [(settled_apply hb x).outcome_eq_iff, happly r]
  · rw [isValid_iff_accepts hb]
    have hvalid : (∃ u ∈ ts ++ [t], ((u.isValid x).run s).1 = true) ↔
        ∃ u ∈ ts ++ [t], ∃ w, u.Accepts x w :=
      exists_congr fun u => and_congr_right fun hu => isValid_iff_accepts (hgen' u hu)
    rw [hvalid, ← exists_firstAccepts hgen']
    refine exists_congr fun w => ?_
    rw [firstAccepts_concat, Accepts, htry]
    simp [Accepts]
  · obtain ⟨hothers', -⟩ := Bracketing.eq_of_leaves_eq (hb'.trans hleaves)
    have hfirst : b'.first = b.first := by
      rw [← Option.some_inj, ← Bracketing.head?_leaves, ← Bracketing.head?_leaves, hb']
    rw [Bracketing.isOptional_toTy (hothers' ▸ hts), Bracketing.isOptional_toTy (hothers ▸ hts),
      hfirst]

/-- A `nil`, a string or an array, with the first two together. -/
def leftBracketed : Bracketing :=
  .sum (.sum (.one (strict .nil)) (.one (strict .string)) []) (.one (arrays any)) []

/-- A `nil`, a string or an array, with the last two together. -/
def rightBracketed : Bracketing :=
  .sum (.one (strict .nil)) (.sum (.one (strict .string)) (.one (arrays any)) []) []

/-- A string is accepted by the second alternative, and both bracketings are optional. -/
theorem bracketing_irrelevant_string :
    (leftBracketed.leaves = [strict .nil, strict .string] ++ [arrays any] ∧
      [strict .nil, strict .string] ≠ [] ∧ ∀ u ∈ leftBracketed.leaves, u.generators = []) ∧
    (leftBracketed.toTy.tryApply (.string "ab")).outcome ⟨default, []⟩ = .ok (.string "ab") ∧
    (leftBracketed.toTy.apply (.string "ab")).outcome ⟨default, []⟩ = .ok (.string "ab") ∧
    ((leftBracketed.toTy.isValid (.string "ab")).run ⟨default, []⟩).1 = true ∧
    rightBracketed.toTy.isOptional = leftBracketed.toTy.isOptional := by
  have hgen : ∀ u ∈ leftBracketed.leaves, u.generators = [] := by
    simp only [leftBracketed, Bracketing.leaves, List.cons_append, List.nil_append,
      List.forall_mem_cons]
    exact ⟨rfl, rfl, rfl, fun u hu => absurd hu List.not_mem_nil⟩
  have hreject : (strict .nil).Rejects (.string "ab") := ⟨_, fun _ => rfl⟩
  have haccept : (strict .string).Accepts (.string "ab") (.string "ab") := fun _ => rfl
  have hfirst : FirstAccepts [strict .nil, strict .string] (.string "ab") (.string "ab") :=
    firstAccepts_cons.2 (.inr ⟨hreject, firstAccepts_cons.2 (.inl haccept)⟩)
  obtain ⟨htry, happly, hvalid, hoptional⟩ := bracketing_irrelevant leftBracketed
    [strict .nil, strict .string] (arrays any) rfl (List.cons_ne_nil _ _) hgen (.string "ab")
    ⟨default, []⟩
  refine ⟨⟨rfl, List.cons_ne_nil _ _, hgen⟩, (htry _).2 (.inl ⟨_, ?_, rfl⟩),
    (happly _).2 (.inl ⟨_, hfirst, rfl⟩), hvalid.2 ⟨strict .string, ?_, rfl⟩, hoptional _ rfl⟩
  · exact firstAccepts_concat.2 (.inl hfirst)
  · exact List.mem_append_left _ (.tail _ (.head _))

end Ty

end Conform
