import Conform.Proofs.Enforcement

/-!
# A satisfied rule changes nothing

Where the result of a type passes a further rule, the type with the rule gives the same result.
That would be immediate if the rule were put around the type.  It is put inside the decorators
instead, and two of them make their result of something else than what the inner type gives.  A
default stands in for an absent value, so that the rule can be asked about a value that is not the
result.  A safe type gives back an input that is refused when it is tried; with a rule inside, the
input can be accepted, as a rule is tried by applying the type inside it.

* `Ty.holdsRule` — the types that hold a further rule themselves, the only ones that ask it.
* `Ty.Undisturbed` — the rule passes whenever it is asked, and no safe type gives another result.
* `Ty.satisfied_rule_is_transparent` — **a rule that the result passes changes nothing**, unless it
  refuses an absent value that a default replaces, or lets a safe type accept what was given back.
* `Ty.rule_not_always_transparent` — one input for each of the two.
-/

namespace Conform.Ty

/-- A further rule is put around the type, or joined to the rule that it has. -/
def holdsRule : Ty → Bool
  | .decorated (.constrained _) _ _ => true
  | t => t.takesRule

/-- The rule disturbs nothing on its way into the type, for the input `x`:
* every value that it is asked about passes;
* what the outermost safe type gives back, its inner type does not accept with another result
  because of the rule. -/
structure Undisturbed (t : Ty) (trying : Bool) (rule : Rule) (x : Value) : Prop where
  passes : ∀ c z w sheltered, t.Meets x c z sheltered → c.holdsRule = true →
    c.Gives (trying || sheltered) z w → rule.evaluate w = .ok ()
  givesBack : trying = false → ∀ inner m z w, t.Meets x (.decorated .safe inner m) z false →
    inner.Rejects z → (inner.constrainedBy rule).Accepts z w → w = z

variable {trying : Bool} {m : Metadata} {inner t : Ty} {x y v w : Value} {rule : Rule}

namespace Undisturbed

/-- What does not disturb a type does not disturb the type inside. -/
theorem inward (hu : t.Undisturbed trying rule x)
    (hmeets : ∀ u z sheltered, inner.Meets y u z sheltered → t.Meets x u z sheltered) :
    inner.Undisturbed trying rule y where
  passes := fun _ _ _ _ hmeet => hu.passes _ _ _ _ (hmeets _ _ _ hmeet)
  givesBack := fun htry _ _ _ _ hmeet => hu.givesBack htry _ _ _ _ (hmeets _ _ _ hmeet)

/-- Inside a safe type everything is tried. -/
theorem inside (hu : (decorated .safe inner m).Undisturbed trying rule x) :
    inner.Undisturbed true rule x where
  passes := by
    intro c z w sheltered hmeet
    have h := hu.passes c z w true (.safe hmeet)
    rwa [Bool.or_true] at h
  givesBack := nofun

/-- A type that holds the rule asks it about its result. -/
theorem passes_here (hu : t.Undisturbed trying rule x) (hholds : t.holdsRule = true)
    (h : t.Gives trying x v) : rule.evaluate v = .ok () := by
  refine hu.passes t x v false .here hholds ?_
  rwa [Bool.or_false]

end Undisturbed

/-! ## Results under a rule that passes whenever it is asked -/

/-- A type that holds its rules itself gives the same under a rule that is passed. -/
theorem gives_of_holdsRule (ht : t.generators = []) (hholds : t.holdsRule = true)
    (h : t.Gives trying x v) (hrule : rule.evaluate v = .ok ()) :
    (t.constrainedBy rule).Gives trying x v := by
  have htakes : t.takesRule = true → (t.constrainedBy rule).Gives trying x v := by
    intro htakes
    rw [constrainedBy_of_takesRule rule htakes]
    exact (gives_constrained ht).2 ⟨h.applies ht, hrule⟩
  cases t with
  | decorated d inner m =>
    cases d with
    | constrained r =>
      have hi := generators_inner ht
      obtain ⟨hinner, hr⟩ := (gives_constrained hi).1 h
      exact (gives_constrained hi).2 ⟨hinner, Rule.evaluate_and_iff.2 ⟨hr, hrule⟩⟩
    | _ => cases hholds
  | _ => exact htakes hholds

/-- A safe type with the rule gives back what it gave back before. -/
theorem applies_safe_of_rejects (hi : inner.generators = [])
    (hu : (decorated .safe inner m).Undisturbed false rule x) (hrej : inner.Rejects x) :
    ((decorated .safe inner m).constrainedBy rule).Applies x x := by
  have hi' : (inner.constrainedBy rule).generators = [] := by rw [generators_constrainedBy, hi]
  refine (applies_safe hi').2 ?_
  rcases accepts_or_rejects hi' x with ⟨w, hacc⟩ | hrej'
  · rw [hu.givesBack rfl inner m x w .here hrej hacc] at hacc
    exact .inl hacc
  · exact .inr ⟨hrej', rfl⟩

/-- Whatever the type gives, it gives under a rule that disturbs nothing.  The induction is on the
type, with the input and the way of evaluation general: the rule goes inwards as the value does, and
inside a safe type everything is tried. -/
theorem gives_constrainedBy (ht : t.generators = []) (hu : t.Undisturbed trying rule x)
    (h : t.Gives trying x v) : (t.constrainedBy rule).Gives trying x v := by
  induction t generalizing trying x v with
  | decorated d inner m ih =>
    have hi := generators_inner ht
    have hi' : (inner.constrainedBy rule).generators = [] := by rw [generators_constrainedBy, hi]
    replace ih := fun {trying x v} hu h => @ih trying x v hi hu h
    cases d with
    | constructor fns =>
      obtain ⟨y, hy⟩ := runAll_of_gives h
      refine (gives_constructor hy).2 ?_
      rw [gives_constructor hy] at h
      split at h
      case isTrue hdef => rwa [if_pos hdef]
      case isFalse hdef =>
        rw [if_neg hdef]
        exact ih (hu.inward fun u z s => .constructor hy (Bool.eq_false_iff.2 hdef)) h
    | constrained r => exact gives_of_holdsRule ht rfl h (hu.passes_here rfl h)
    | enumeration mapping =>
      refine gives_enumeration.2 (ih (hu.inward fun u z s => .enumeration) ?_)
      exact gives_enumeration.1 h
    | safe =>
      cases trying with
      | true => exact accepts_safe.2 (ih hu.inside (accepts_safe.1 h))
      | false =>
        rcases (applies_safe hi).1 h with hacc | ⟨hrej, rfl⟩
        · exact (applies_safe hi').2 (.inl (ih hu.inside hacc))
        · exact applies_safe_of_rejects hi hu hrej
    | default d =>
      obtain ⟨w, hw⟩ := exists_steady_default ht
      refine (gives_default hw hi').2 ?_
      rw [gives_default hw hi] at h
      split at h
      case isTrue hdef => rwa [if_pos hdef]
      case isFalse hdef =>
        rw [if_neg hdef]
        obtain ⟨u, hinner, hv⟩ := h
        exact ⟨u, ih (hu.inward fun u z s => .default (Bool.eq_false_iff.2 hdef)) hinner, hv⟩
    | maybe =>
      refine gives_maybe.2 ?_
      rw [gives_maybe] at h
      split at h
      case isTrue hx => rwa [if_pos hx]
      case isFalse hx =>
        rw [if_neg hx]
        exact ih (hu.inward fun u z s => .maybe (Bool.eq_false_iff.2 hx)) h
  | sum left right m ihl ihr =>
    cases hopt : (sum left right m).isOptional with
    | true =>
      obtain ⟨hl, hr⟩ := generators_sides ht
      have hr' : (right.constrainedBy rule).generators = [] := by rw [generators_constrainedBy, hr]
      rw [constrainedBy, if_pos hopt]
      refine (gives_sum hl hr').2 ?_
      rcases (gives_sum hl hr).1 h with hleft | ⟨hrej, hright⟩
      · exact .inl hleft
      · exact .inr ⟨hrej, ihr hr (hu.inward fun u z s => .right hopt hrej) hright⟩
    | false =>
      have hholds : (sum left right m).holdsRule = true := by simp [holdsRule, takesRule, hopt]
      exact gives_of_holdsRule ht hholds h (hu.passes_here hholds h)
  | _ => exact gives_of_holdsRule ht rfl h (hu.passes_here rfl h)

/-! ## Results that pass the rule -/

/-- A type gives one value only. -/
theorem Gives.unique (h : t.Gives trying x v) (h' : t.Gives trying x w) : v = w := by
  cases trying with
  | true => exact Except.ok.inj (Eval.Yields.unique h h')
  | false => exact Except.ok.inj (Eval.Yields.unique h h')

/-- **A rule that the result passes changes nothing**, with two exceptions: the rule is asked about
an absent value, which a default around it replaces, and refuses that; or the outermost safe type
gives back what its inner type refuses, and with the rule the inner type accepts that with another
result. -/
theorem satisfied_rule_is_transparent (t : Ty) (ht : t.generators = []) (rule : Rule) (x v : Value)
    (h : t.Applies x v) (hrule : rule.evaluate v = .ok ())
    (habsent : ∀ c z w sheltered, t.Meets x c z sheltered → c.holdsRule = true →
      c.Gives sheltered z w → w.isAbsent = true → rule.evaluate w = .ok ())
    (hsafe : ∀ inner m z w, t.Meets x (.decorated .safe inner m) z false → inner.Rejects z →
      (inner.constrainedBy rule).Accepts z w → w = z) :
    (t.constrainedBy rule).Applies x v := by
  have hgives : t.Gives false x v := h
  show (t.constrainedBy rule).Gives false x v
  refine gives_constrainedBy ht ⟨?_, fun _ => hsafe⟩ hgives
  intro c z w sheltered hmeet hholds hpart
  rw [Bool.false_or] at hpart
  cases hw : w.isAbsent with
  | true => exact habsent c z w sheltered hmeet hholds hpart hw
  | false =>
    -- a value that is there is handed outwards, so that it is the result
    have hresult : t.Gives false x w := hmeet.gives ht hw (by rwa [Bool.false_or])
    rw [← hgives.unique hresult]
    exact hrule

/-- Integers, with `nil` for absent inputs and five for `nil`. -/
def fives : Ty :=
  .decorated (.default (.fixed (.integer 5))) (.decorated .maybe (.definition .integer []) []) []

/-- A rule on its way into this type is held by the integers inside, which get what is there. -/
theorem eq_of_meets_fives {c : Ty} {z : Value} {sheltered : Bool} (h : fives.Meets x c z sheltered)
    (hholds : c.holdsRule = true) : c = .definition .integer [] ∧ z.isAbsent = false := by
  cases h with
  | here => cases hholds
  | default _ h =>
    cases h with
    | here => cases hholds
    | maybe hx h =>
      cases h with
      | here => exact ⟨rfl, hx⟩

theorem not_meets_safe_fives {c : Ty} {z : Value} {sheltered : Bool} :
    ¬ fives.Meets x (.decorated .safe c m) z sheltered := by
  intro h
  cases h with
  | default _ h =>
    cases h with
    | maybe _ h => cases h

/-- The rule refuses `nil`, but it is not asked about the `nil` for which five stands in.  It is
asked about a seven, which passes. -/
theorem satisfied_rule_is_transparent_fives :
    fives.generators = [] ∧ fives.Applies .nil (.integer 5) ∧
    fives.Applies (.integer 7) (.integer 7) ∧
      fives.Meets (.integer 7) (.definition .integer []) (.integer 7) false ∧
      (Rule.predicate (.gt (.integer 3))).evaluate (.integer 5) = .ok () ∧
      (Rule.predicate (.gt (.integer 3))).evaluate (.integer 7) = .ok () ∧
      (∀ x c z w sheltered, fives.Meets x c z sheltered → c.holdsRule = true →
        c.Gives sheltered z w → w.isAbsent = true →
        (Rule.predicate (.gt (.integer 3))).evaluate w = .ok ()) ∧
      (∀ x inner m z w, fives.Meets x (.decorated .safe inner m) z false → inner.Rejects z →
        (inner.constrainedBy (.predicate (.gt (.integer 3)))).Accepts z w → w = z) ∧
      (fives.constrainedBy (.predicate (.gt (.integer 3)))).Applies .nil (.integer 5) ∧
      (fives.constrainedBy (.predicate (.gt (.integer 3)))).Applies (.integer 7) (.integer 7) := by
  have hnil : fives.Applies .nil (.integer 5) := fun _ => rfl
  have hseven : fives.Applies (.integer 7) (.integer 7) := fun _ => rfl
  have hruleNil : (Rule.predicate (.gt (.integer 3))).evaluate (.integer 5) = .ok () := rfl
  have hruleSeven : (Rule.predicate (.gt (.integer 3))).evaluate (.integer 7) = .ok () := rfl
  have habsent : ∀ x c z w sheltered, fives.Meets x c z sheltered → c.holdsRule = true →
      c.Gives sheltered z w → w.isAbsent = true →
      (Rule.predicate (.gt (.integer 3))).evaluate w = .ok () := by
    intro x c z w sheltered hmeet hholds hpart hw
    obtain ⟨rfl, hz⟩ := eq_of_meets_fives hmeet hholds
    -- what the integers give is what they get
    obtain rfl : w = z := Except.ok.inj ((hpart.applies rfl).unique (Eval.yields_pure z))
    cases hz.symm.trans hw
  have hsafe : ∀ x inner m z w, fives.Meets x (.decorated .safe inner m) z false →
      inner.Rejects z → (inner.constrainedBy (.predicate (.gt (.integer 3)))).Accepts z w →
      w = z :=
    fun x inner m z w hmeet => absurd hmeet not_meets_safe_fives
  exact ⟨rfl, hnil, hseven, .default rfl (.maybe rfl .here), hruleNil, hruleSeven, habsent, hsafe,
    satisfied_rule_is_transparent fives rfl _ _ _ hnil hruleNil (habsent _) (hsafe _),
    satisfied_rule_is_transparent fives rfl _ _ _ hseven hruleSeven (habsent _) (hsafe _)⟩

/-- Integers, and five for what is absent. -/
def orFive : Ty :=
  decorate (.default (.fixed (.integer 5))) (ofPrimitive .integer)

/-- The text of the input is no integer, so that everything is given back. -/
def givenBack : Ty :=
  safe (constructed .integer Builtin.kernelString.toCoercion)

/-- A rule that the result passes can change it.  Five stands in for `nil`, until the rule refuses
the `nil`; and an integer is given back, until a rule inside the safe type has its text accepted. -/
theorem rule_not_always_transparent :
    (orFive.generators = [] ∧ orFive.Applies .nil (.integer 5) ∧
      (Rule.predicate (.gt (.integer 3))).evaluate (.integer 5) = .ok () ∧
      (orFive.constrainedBy (.predicate (.gt (.integer 3)))).apply .nil =
        throw (.constraint .nil (.predicate (.gt (.integer 3)) .nil))) ∧
    (givenBack.generators = [] ∧ givenBack.Applies (.integer 5) (.integer 5) ∧
      (Rule.predicate .filled).evaluate (.integer 5) = .ok () ∧
      (givenBack.constrainedBy (.predicate .filled)).Applies (.integer 5) (.string "5")) :=
  ⟨⟨rfl, fun _ => rfl, rfl, rfl⟩, rfl, fun _ => rfl, rfl, fun _ => rfl⟩

end Conform.Ty
