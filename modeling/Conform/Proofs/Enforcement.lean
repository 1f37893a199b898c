import Conform.Proofs.Defaults
import Conform.Proofs.Narrowing

/-!
# Where a further rule is enforced

A further rule goes inwards through the decorators of a type and, in an optional sum, to its right
side.  What a type with the rule gives has therefore passed the rule, `nil` and `undefined` aside,
unless it was accepted on the left side of an optional sum before the rule was asked.  The left side
is meant to accept `nil` only; but a sum is optional as soon as its leftmost alternative is about
`nil`, so that in a nested sum further alternatives stand on the left, and they escape the rule.

* `Ty.Gives` — the results of a type, tried or applied, with a lemma for each kind of type.
* `Ty.Meets` — the parts that a further rule comes by, and the values that they get.
* `Ty.PassesLeft` — a result that a left side gave, without the rule.
* `Ty.enforced_iff_not_passesLeft` — **a further rule is enforced on exactly the results that no
  left side gave.**
* `Ty.rule_not_always_enforced` — a short text that escapes a rule about sizes.
-/

namespace Conform

theorem Value.isAbsent_of_isUndefined {v : Value} (h : v.isUndefined = true) :
    v.isAbsent = true := by
  cases v with
  | undefined => rfl
  | _ => cases h

/-- Both sides of a conjunction have to accept the value. -/
theorem Rule.evaluate_and_iff {r q : Rule} {v : Value} :
    (Rule.and r q).evaluate v = .ok () ↔ r.evaluate v = .ok () ∧ q.evaluate v = .ok () := by
  rw [evaluate]
  cases hr : r.evaluate v with
  | ok => exact (and_iff_right rfl).symm
  | error f =>
    constructor
    · intro h
      cases h
    · rintro ⟨h, -⟩
      cases h

namespace Ty

/-! ## Results -/

/-- Trying the type on the first value gives the second, or applying it does. -/
def Gives (t : Ty) (trying : Bool) (x y : Value) : Prop :=
  if trying then t.Accepts x y else t.Applies x y

section Gives

variable {trying : Bool} {m : Metadata} {inner left right t : Ty} {x y v : Value}

/-- What is accepted is also applied. -/
theorem Gives.applies (ht : t.generators = []) (h : t.Gives trying x y) : t.Applies x y := by
  cases trying with
  | true => exact Accepts.applies ht h
  | false => exact h

/-- A rule checks what the inner type gives when it is applied, in both cases. -/
theorem gives_constrained {rule : Rule} (hi : inner.generators = []) :
    (decorated (.constrained rule) inner m).Gives trying x y ↔
      inner.Applies x y ∧ rule.evaluate y = .ok () := by
  rw [← rule_check_iff]
  cases trying with
  | true => exact (accepts_constrained hi).trans (applies_constrained hi)
  | false => exact applies_constrained hi

/-- The functions give some value if the type gives one. -/
theorem runAll_of_gives {fns : List Coercion}
    (h : (decorated (.constructor fns) inner m).Gives trying x v) :
    ∃ y, Coercion.runAll fns x = .ok y := by
  cases trying with
  | true => exact runAll_of_accepts h
  | false =>
    cases hy : Coercion.runAll fns x with
    | ok y => exact ⟨y, rfl⟩
    | error e =>
      simp only [Gives, Bool.false_eq_true, if_false, Applies, apply, hy] at h
      cases (Eval.yields_throw e).unique h

/-- Functions hand on what they make, unless that is undefined. -/
theorem gives_constructor {fns : List Coercion} (hy : Coercion.runAll fns x = .ok y) :
    (decorated (.constructor fns) inner m).Gives trying x v ↔
      if y.isUndefined = true then v = y else inner.Gives trying y v := by
  cases trying with
  | true =>
    simp only [Gives, if_true, Accepts, tryApply, hy]
    split
    · exact ⟨fun h => Except.ok.inj (h.unique (Eval.yields_pure y)),
        fun h => h ▸ Eval.yields_pure y⟩
    · exact Iff.rfl
  | false =>
    simp only [Gives, Bool.false_eq_true, if_false, Applies, apply, hy, Eval.liftM_ok, pure_bind]
    split
    · exact ⟨fun h => Except.ok.inj (h.unique (Eval.yields_pure y)),
        fun h => h ▸ Eval.yields_pure y⟩
    · exact Iff.rfl

/-- An enumeration hands on what the name stands for. -/
theorem gives_enumeration {mapping : List (Value × Value)} :
    (decorated (.enumeration mapping) inner m).Gives trying x y ↔
      inner.Gives trying (aliased mapping x) y := by
  cases trying with
  | true => exact accepts_enumeration
  | false => simp only [Gives, Bool.false_eq_true, if_false, Applies, apply]

/-- An optional type gives nil for what is absent. -/
theorem gives_maybe :
    (decorated .maybe inner m).Gives trying x y ↔
      if x.isAbsent = true then y = .nil else inner.Gives trying x y := by
  cases trying with
  | true => exact accepts_maybe
  | false => exact applies_maybe

/-- A sum gives what its left side accepts, and otherwise what its right side gives. -/
theorem gives_sum (hl : left.generators = []) (hr : right.generators = []) :
    (sum left right m).Gives trying x y ↔
      left.Accepts x y ∨ left.Rejects x ∧ right.Gives trying x y := by
  cases trying with
  | true => exact accepts_sum hl hr
  | false => exact applies_sum hl hr

/-- The value of a default stands in for an undefined input and for an absent result. -/
theorem gives_default {d : Default} {w : Value} (hw : Steady d.evaluate w)
    (hi : inner.generators = []) :
    (decorated (.default d) inner m).Gives trying x y ↔
      if x.isUndefined = true then y = w
      else ∃ u, inner.Gives trying x u ∧ y = if u.isAbsent = true then w else u := by
  have hstand : ∀ {ε : Type} (u : Value), (if u.isAbsent = true then liftM d.evaluate else pure u :
      Eval ε Value).Yields (.ok (if u.isAbsent = true then w else u)) := by
    intro ε u
    split
    · exact Eval.yields_lift hw
    · exact Eval.yields_pure u
  -- both evaluations do the same with what the inner type gives
  have hresult : ∀ {ε : Type} {e : Eval ε Value}, e.Settled →
      ((do
        let u ← e
        if u.isAbsent = true then liftM d.evaluate else pure u).Yields (.ok y) ↔
        ∃ u, e.Yields (.ok u) ∧ y = if u.isAbsent = true then w else u) := by
    intro ε e he
    constructor
    · intro h
      obtain ⟨u, hu, hy⟩ := he.bind_ok_inv (fun u => ⟨_, hstand u⟩) h
      exact ⟨u, hu, Except.ok.inj (hy.unique (hstand u))⟩
    · rintro ⟨u, hu, rfl⟩
      exact hu.bind_ok (hstand u)
  cases trying with
  | true =>
    simp only [Gives, if_true, Accepts, tryApply]
    split
    · exact ⟨fun h => Except.ok.inj (h.unique (Eval.yields_lift hw)),
        fun h => h ▸ Eval.yields_lift hw⟩
    · exact hresult (settled_tryApply hi x)
  | false =>
    simp only [Gives, Bool.false_eq_true, if_false, Applies, apply]
    split
    · exact ⟨fun h => Except.ok.inj (h.unique (Eval.yields_lift hw)),
        fun h => h ▸ Eval.yields_lift hw⟩
    · exact hresult (settled_apply hi x)

end Gives

/-! ## The parts that a rule comes by -/

/-- A further rule comes by the part `u` on its way into the type, and for the input `x` that part
gets the value `z`.  Whether there is a safe type around the part is noted in `sheltered`. -/
inductive Meets : Ty → Value → Ty → Value → Bool → Prop
  | here {t x} : Meets t x t x false
  | constructor {fns inner m x y u z sheltered} (hy : Coercion.runAll fns x = .ok y)
    (hdef : y.isUndefined = false) (h : Meets inner y u z sheltered) :
    Meets (.decorated (.constructor fns) inner m) x u z sheltered
  | enumeration {mapping inner m x u z sheltered}
      (h : Meets inner (aliased mapping x) u z sheltered) :
    Meets (.decorated (.enumeration mapping) inner m) x u z sheltered
  | safe {inner m x u z sheltered} (h : Meets inner x u z sheltered) :
    Meets (.decorated .safe inner m) x u z true
  | default {d inner m x u z sheltered} (hdef : x.isUndefined = false)
    (h : Meets inner x u z sheltered) : Meets (.decorated (.default d) inner m) x u z sheltered
  | maybe {inner m x u z sheltered} (hx : x.isAbsent = false) (h : Meets inner x u z sheltered) :
    Meets (.decorated .maybe inner m) x u z sheltered
  | right {left right m x u z sheltered} (hopt : (Ty.sum left right m).isOptional = true)
    (hl : left.Rejects x) (h : Meets right x u z sheltered) :
    Meets (.sum left right m) x u z sheltered

/-- The result `v` comes from the left side of an optional sum that a further rule comes by. -/
def PassesLeft (t : Ty) (x v : Value) : Prop :=
  ∃ left right m z sheltered, t.Meets x (.sum left right m) z sheltered ∧
    (Ty.sum left right m).isOptional = true ∧ left.Accepts z v

variable {m : Metadata} {inner t u : Ty} {x y z v : Value} {trying sheltered : Bool} {rule : Rule}

namespace Meets

/-- A rule that was added leaves the way of the next one as it is. -/
theorem constrainedBy (h : t.Meets x u z sheltered) (rule : Rule) :
    (t.constrainedBy rule).Meets x (u.constrainedBy rule) z sheltered := by
  induction h with
  | here => exact .here
  | constructor hy hdef _ ih => exact .constructor hy hdef ih
  | enumeration _ ih => exact .enumeration ih
  | safe _ ih => exact .safe ih
  | default hdef _ ih => exact .default hdef ih
  | maybe hx _ ih => exact .maybe hx ih
  | right hopt hl _ ih =>
    rw [Ty.constrainedBy, if_pos hopt]
    exact .right hopt hl ih

/-- What a part gives is handed outwards as it is, unless it is absent.  Inside a safe type the
parts are tried. -/
theorem gives (ht : t.generators = []) (h : t.Meets x u z sheltered) (hv : v.isAbsent = false)
    (hu : u.Gives (trying || sheltered) z v) : t.Gives trying x v := by
  induction h generalizing trying with
  | here => rwa [Bool.or_false] at hu
  | constructor hy hdef _ ih =>
    refine (gives_constructor hy).2 ?_
    rw [if_neg (Bool.eq_false_iff.1 hdef)]
    exact ih (generators_inner ht) hu
  | enumeration _ ih => exact gives_enumeration.2 (ih (generators_inner ht) hu)
  | safe _ ih =>
    have hi := generators_inner ht
    rw [Bool.or_true] at hu
    have hinner : Ty.Gives _ true _ v := ih hi (by rwa [Bool.true_or])
    cases trying with
    | true => exact accepts_safe.2 hinner
    | false => exact (applies_safe hi).2 (.inl hinner)
  | default hdef _ ih =>
    have hi := generators_inner ht
    obtain ⟨w, hw⟩ := exists_steady_default ht
    refine (gives_default hw hi).2 ?_
    rw [if_neg (Bool.eq_false_iff.1 hdef)]
    exact ⟨v, ih hi hu, (if_neg (Bool.eq_false_iff.1 hv)).symm⟩
  | maybe hx _ ih =>
    refine gives_maybe.2 ?_
    rw [if_neg (Bool.eq_false_iff.1 hx)]
    exact ih (generators_inner ht) hu
  | right _ hl _ ih =>
    obtain ⟨hgl, hgr⟩ := generators_sides ht
    exact (gives_sum hgl hgr).2 (.inr ⟨hl, ih hgr hu⟩)

end Meets

namespace PassesLeft

/-- What the inner type passes on the left, the type does. -/
theorem inward
    (hmeets : ∀ u z sheltered, inner.Meets y u z sheltered → ∃ sheltered', t.Meets x u z sheltered')
    (h : inner.PassesLeft y v) : t.PassesLeft x v := by
  obtain ⟨left, right, m, z, sheltered, hmeet, hopt, hleft⟩ := h
  obtain ⟨sheltered', hmeet⟩ := hmeets _ _ _ hmeet
  exact ⟨left, right, m, z, sheltered', hmeet, hopt, hleft⟩

/-- No rule is asked about what a left side gives. -/
theorem accepts (ht : t.generators = []) (h : t.PassesLeft x v) (hv : v.isAbsent = false)
    (rule : Rule) : (t.constrainedBy rule).Accepts x v := by
  obtain ⟨left, right, m, z, sheltered, hmeet, hopt, hleft⟩ := h
  have ht' : (t.constrainedBy rule).generators = [] := by rw [generators_constrainedBy, ht]
  show (t.constrainedBy rule).Gives true x v
  refine (hmeet.constrainedBy rule).gives ht' hv ?_
  rw [Bool.true_or, Ty.constrainedBy, if_pos hopt]
  simp only [Gives, if_true, Accepts, tryApply]
  exact hleft.recover_ok _

end PassesLeft

/-! ## Results under a further rule -/

/-- A type without defaults draws on no generator. -/
theorem generators_eq_nil (ht : t.Throughout fun u => u.default? = none) : t.generators = [] := by
  induction t with
  | definition p m => rfl
  | decorated d inner m ih =>
    have hi := ih ht.2
    have hd : d.generators = [] := by
      cases d with
      | default d => cases ht.1
      | _ => rfl
    simp only [generators] at hi
    simp only [generators, gather, hi, hd, List.append_nil]
  | sum left right m ihl ihr =>
    have hl := ihl ht.2.1
    have hr := ihr ht.2.2
    simp only [generators] at hl hr
    simp only [generators, gather, hl, hr, List.append_nil]
  | schema policy transform members m ih =>
    refine List.eq_nil_iff_forall_not_mem.2 fun g hg => ?_
    simp only [generators, gather, List.nil_append, mem_gatherMembers] at hg
    obtain ⟨e, he, hg | hg⟩ := hg
    · cases hg
    · have hnil := ih e he (membersThroughout_iff.1 ht.2 e he)
      simp only [generators] at hnil
      rw [hnil] at hg
      cases hg
  | array item m ih =>
    have hi := ih ht.2
    simp only [generators] at hi
    simp only [generators, gather, hi, List.append_nil]
  | map key value m ihk ihv =>
    have hk := ihk ht.2.1
    have hv := ihv ht.2.2
    simp only [generators] at hk hv
    simp only [generators, gather, hk, hv, List.append_nil]

/-- A type that takes a rule itself asks it about all results. -/
theorem passed_of_takesRule (ht : t.generators = []) (htakes : t.takesRule = true)
    (h : (t.constrainedBy rule).Accepts x v) : rule.evaluate v = .ok () := by
  rw [constrainedBy_of_takesRule rule htakes] at h
  have hgives : (decorate (.constrained rule) t).Gives true x v := h
  exact ((gives_constrained ht).1 hgives).2

/-- A result is absent, or has passed the rule, or was given on a left side.  The induction is on
the type: the rule goes inwards as the value does. -/
theorem absent_or_passed_or_passesLeft (ht : t.Throughout fun u => u.default? = none)
    (h : (t.constrainedBy rule).Accepts x v) :
    v.isAbsent = true ∨ rule.evaluate v = .ok () ∨ t.PassesLeft x v := by
  induction t generalizing x with
  | decorated d inner m ih =>
    replace ih := fun {x} => ih (x := x) ht.2
    cases d with
    | constructor fns =>
      obtain ⟨y, hy⟩ := runAll_of_accepts h
      have hgives : (decorated (.constructor fns) (inner.constrainedBy rule) m).Gives true x v := h
      rw [gives_constructor hy] at hgives
      split at hgives
      case isTrue hdef =>
        exact .inl (Value.isAbsent_of_isUndefined (hgives ▸ hdef))
      case isFalse hdef =>
        refine (ih hgives).imp_right (.imp_right (.inward fun u z s hmeet => ⟨s, ?_⟩))
        exact .constructor hy (Bool.eq_false_iff.2 hdef) hmeet
    | constrained r =>
      have hgives : (decorated (.constrained (.and r rule)) inner m).Gives true x v := h
      obtain ⟨-, hpassed⟩ := (gives_constrained (generators_eq_nil ht.2)).1 hgives
      exact .inr (.inl (Rule.evaluate_and_iff.1 hpassed).2)
    | enumeration mapping =>
      exact (ih (accepts_enumeration.1 h)).imp_right
        (.imp_right (.inward fun u z s hmeet => ⟨s, .enumeration hmeet⟩))
    | safe =>
      exact (ih (accepts_safe.1 h)).imp_right
        (.imp_right (.inward fun u z s hmeet => ⟨true, .safe hmeet⟩))
    | default d => cases ht.1
    | maybe =>
      have hgives := accepts_maybe.1 h
      split at hgives
      case isTrue => exact .inl (hgives ▸ rfl)
      case isFalse hx =>
        refine (ih hgives).imp_right (.imp_right (.inward fun u z s hmeet => ⟨s, ?_⟩))
        exact .maybe (Bool.eq_false_iff.2 hx) hmeet
  | sum left right m ihl ihr =>
    cases hopt : (sum left right m).isOptional with
    | true =>
      have hl := generators_eq_nil ht.2.1
      have hr : (right.constrainedBy rule).generators = [] := by
        rw [generators_constrainedBy, generators_eq_nil ht.2.2]
      rw [constrainedBy, if_pos hopt] at h
      rcases (accepts_sum hl hr).1 h with hleft | ⟨hrej, hright⟩
      · exact .inr (.inr ⟨left, right, m, x, false, .here, hopt, hleft⟩)
      · refine (ihr ht.2.2 hright).imp_right (.imp_right (.inward fun u z s hmeet => ⟨s, ?_⟩))
        exact .right hopt hrej hmeet
    | false =>
      exact .inr (.inl (passed_of_takesRule (generators_eq_nil ht) (by simp [takesRule, hopt]) h))
  | _ => exact .inr (.inl (passed_of_takesRule (generators_eq_nil ht) rfl h))

/-- **A further rule is enforced on exactly the results that no left side gave**: a result other
than `nil` and `undefined` has passed every rule under which the type gives it, unless the left side
of an optional sum on the way of the rule gave it. -/
theorem enforced_iff_not_passesLeft (t : Ty) (ht : t.Throughout fun u => u.default? = none)
    (x v : Value) (hnil : v ≠ .nil) (hdef : v ≠ .undefined) :
    (∀ rule, (t.constrainedBy rule).Accepts x v → rule.evaluate v = .ok ()) ↔
      ¬t.PassesLeft x v := by
  have hv : v.isAbsent = false := by
    cases v with
    | nil => exact absurd rfl hnil
    | undefined => exact absurd rfl hdef
    | _ => rfl
  constructor
  · intro henforced hleft
    have hpassed := henforced (.typeOf .nil) (hleft.accepts (generators_eq_nil ht) hv _)
    cases v with
    | nil => exact hnil rfl
    | _ => cases hpassed
  · intro hleft rule h
    rcases absent_or_passed_or_passesLeft ht h with habsent | hpassed | hpasses
    · rw [hv] at habsent
      cases habsent
    · exact hpassed
    · exact absurd hpasses hleft

/-- Strings, or `nil`. -/
def texts : Ty :=
  optional (strict .string)

/-- The left side of `texts` gives `nil` only, so that every rule is enforced on the text `abc`. -/
theorem enforced_iff_not_passesLeft_texts :
    (texts.Throughout fun u => u.default? = none) ∧ Value.string "abc" ≠ .nil ∧
      Value.string "abc" ≠ .undefined ∧
      (texts.constrainedBy (.predicate (.minSize (.integer 3)))).Accepts (.string "abc")
        (.string "abc") ∧
      ∀ rule, (texts.constrainedBy rule).Accepts (.string "abc") (.string "abc") →
        rule.evaluate (.string "abc") = .ok () := by
  have hplain : texts.Throughout fun u => u.default? = none := ⟨rfl, ⟨rfl, rfl⟩, rfl, rfl⟩
  refine ⟨hplain, nofun, nofun, fun _ => rfl,
    (enforced_iff_not_passesLeft texts hplain (.string "abc") (.string "abc") nofun nofun).2 ?_⟩
  rintro ⟨left, right, m, z, sheltered, hmeet, -, hleft⟩
  cases hmeet with
  | here =>
    have hgives : (strict .nil).Gives true (.string "abc") (.string "abc") := hleft
    cases ((gives_constrained rfl).1 hgives).2
  | right _ _ h => cases h

/-- `nil` or a string on the left, an array on the right. -/
def sized : Ty :=
  ((strict .nil).orElse (strict .string)).orElse (strict .array)

/-- A rule is not always enforced: the sum is optional, the text is accepted on its left side, and
the least size that the rule asks for is not looked at.  The same alternatives bracketed the other
way refuse the text. -/
theorem rule_not_always_enforced :
    (sized.Throughout fun u => u.default? = none ∧ ∀ inner m, u ≠ .decorated .safe inner m) ∧
      (sized.constrainedBy (.predicate (.minSize (.integer 3)))).Accepts (.string "ab")
        (.string "ab") ∧
      (Rule.predicate (.minSize (.integer 3))).evaluate (.string "ab") =
        .error (.predicate (.minSize (.integer 3)) (.string "ab")) ∧
      ((optional ((strict .string).orElse (strict .array))).constrainedBy
        (.predicate (.minSize (.integer 3)))).Rejects (.string "ab") :=
  ⟨by simp [sized, strict, orElse, ofPrimitive, constrainedBy, decorate, Throughout, default?],
    fun _ => rfl, rfl, _, fun _ => rfl⟩

end Ty

end Conform
