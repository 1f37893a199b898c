import Conform.Proofs.Defaults

/-!
# Options add up in order

Options can be given to a type all at once or in two steps.  The types that come out differ in form:
at once the predicates are joined from left to right and put into the type together; in two steps
the second rule is joined to the first where that one has been put.  A conjunction is checked from
left to right and stops at the first predicate that fails, however it is bracketed, so that the two
types do the same.

* `Rule.evaluate_foldl_and` — a conjunction checks its predicates in order.
* `Rule.ofOptions_append` — the rule of two lists of options, or the first faulty option.
* `Ty.EvaluatesAs` — types that evaluate every input alike, with a lemma for each part that a rule
  is put into.
* `Ty.constrained_append` — **options given in two steps add up to the same as given at once**.
-/

namespace Conform

/-! ## Rules -/

namespace Rule

/-- The checks of some predicates one after the other. -/
def evaluateAll (ps : List Predicate) (v : Value) : Except RuleFailure Unit :=
  ps.forM fun p => (predicate p).evaluate v

/-- A conjunction that is joined from left to right checks its parts in that order. -/
theorem evaluate_foldl_and (r : Rule) (ps : List Predicate) (v : Value) :
    (ps.foldl (fun r p => and r (.predicate p)) r).evaluate v =
      r.evaluate v >>= fun _ => evaluateAll ps v := by
  induction ps generalizing r with
  | nil => exact (bind_pure (r.evaluate v)).symm
  | cons p ps ih => exact (ih (and r (predicate p))).trans (bind_assoc (r.evaluate v) _ _)

/-- The conjunction of two lists of predicates checks the first list and then the second. -/
theorem evaluate_conjunction_append (p q : Predicate) (ps qs : List Predicate) (v : Value) :
    (conjunction p (ps ++ q :: qs)).evaluate v =
      (and (conjunction p ps) (conjunction q qs)).evaluate v := by
  have hsecond : (conjunction q qs).evaluate v = evaluateAll (q :: qs) v :=
    evaluate_foldl_and _ qs v
  calc (conjunction p (ps ++ q :: qs)).evaluate v
      = (conjunction p ps).evaluate v >>= fun _ => evaluateAll (q :: qs) v := by
        rw [conjunction, List.foldl_append, evaluate_foldl_and]
        rfl
    _ = (and (conjunction p ps) (conjunction q qs)).evaluate v := by
        rw [← hsecond]
        rfl

/-- The rule of some options is the conjunction of their predicates, which are looked up in
order. -/
theorem ofOptions_cons (o : String × Value) (options : List (String × Value)) :
    ofOptions (o :: options) =
      Predicate.ofOption o.1 o.2 >>= fun p =>
        (options.mapM fun o => Predicate.ofOption o.1 o.2) >>= fun ps => .ok
        (conjunction p ps) := by
  rw [ofOptions, List.mapM_cons, bind_assoc]
  refine bind_congr fun p => ?_
  rw [bind_assoc]
  rfl

/-- Two lists of options either have the same first faulty option together as one after the other,
or rules of their own and a rule together, which is their conjunction. -/
theorem ofOptions_append {first second : List (String × Value)} (hfirst : first ≠ [])
    (hsecond : second ≠ []) :
    (∃ fault, ofOptions (first ++ second) = .error fault ∧
        (ofOptions first >>= fun _ => ofOptions second) = .error fault) ∨
      ∃ r q rule, ofOptions first = .ok r ∧ ofOptions second = .ok q ∧
        ofOptions (first ++ second) = .ok rule ∧ ∀ v, rule.evaluate v = (and r q).evaluate v := by
  obtain ⟨o, first, rfl⟩ := List.exists_cons_of_ne_nil hfirst
  obtain ⟨o', second, rfl⟩ := List.exists_cons_of_ne_nil hsecond
  rw [List.cons_append, ofOptions_cons, ofOptions_cons, ofOptions_cons, List.mapM_append,
    List.mapM_cons]
  -- the four look-ups, in the order in which they are made
  cases Predicate.ofOption o.1 o.2 with
  | error fault => exact .inl ⟨fault, rfl, rfl⟩
  | ok p =>
    cases first.mapM fun o => Predicate.ofOption o.1 o.2 with
    | error fault => exact .inl ⟨fault, rfl, rfl⟩
    | ok ps =>
      cases Predicate.ofOption o'.1 o'.2 with
      | error fault => exact .inl ⟨fault, rfl, rfl⟩
      | ok q =>
        cases second.mapM fun o => Predicate.ofOption o.1 o.2 with
        | error fault => exact .inl ⟨fault, rfl, rfl⟩
        | ok qs => exact .inr ⟨_, _, _, rfl, rfl, rfl, evaluate_conjunction_append p q ps qs⟩

/-- Rules that evaluate alike check alike. -/
theorem check_eq_check {r q : Rule} {v : Value} (h : r.evaluate v = q.evaluate v) :
    r.check v = q.check v := by
  rw [check, check, h]

end Rule

/-! ## Types -/

namespace Ty

/-- The types give the same result, outcome and verdict for every input, and draw the same on the
way. -/
structure EvaluatesAs (t u : Ty) : Prop where
  apply : ∀ x, t.apply x = u.apply x
  tryApply : ∀ x, t.tryApply x = u.tryApply x
  isValid : ∀ x, t.isValid x = u.isValid x

variable {inner left t u : Ty} {m k : Metadata}

namespace EvaluatesAs

/-- Types without a default of their own are valid as they are tried. -/
theorem of_tried (ht : t.default? = none) (hu : u.default? = none)
    (happly : ∀ x, t.apply x = u.apply x) (htry : ∀ x, t.tryApply x = u.tryApply x) :
    t.EvaluatesAs u where
  apply := happly
  tryApply := htry
  isValid x := by rw [isValid_eq_succeeds ht, isValid_eq_succeeds hu, htry]

/-- A decorator makes the same of types that evaluate alike. -/
theorem decorated (d : Decorator) (h : t.EvaluatesAs u) :
    (decorated d t m).EvaluatesAs (.decorated d u k) := by
  have happly x : (Ty.decorated d t m).apply x = (Ty.decorated d u k).apply x := by
    cases d <;> simp only [Ty.apply, h.apply, h.tryApply]
  have htry x : (Ty.decorated d t m).tryApply x = (Ty.decorated d u k).tryApply x := by
    cases d <;> simp only [Ty.tryApply, h.apply, h.tryApply]
  cases d with
  | default d => exact ⟨happly, htry, fun x => by rw [Ty.isValid, Ty.isValid, h.isValid]⟩
  | _ => exact of_tried rfl rfl happly htry

/-- A sum whose right sides evaluate alike. -/
theorem right (h : t.EvaluatesAs u) : (sum left t m).EvaluatesAs (.sum left u k) := by
  refine of_tried rfl rfl (fun x => ?_) fun x => ?_
  · simp only [Ty.apply, h.apply]
  · simp only [Ty.tryApply, h.tryApply]

/-- One type with rules that evaluate alike. -/
theorem of_rules {r q : Rule} (h : ∀ v, r.evaluate v = q.evaluate v) :
    (Ty.decorated (.constrained r) inner m).EvaluatesAs (.decorated (.constrained q) inner k) := by
  have hcheck v : r.check v = q.check v := Rule.check_eq_check (h v)
  refine of_tried rfl rfl (fun x => ?_) fun x => ?_
  · simp only [Ty.apply, hcheck]
  · simp only [Ty.tryApply, hcheck]

end EvaluatesAs

/-- **Two rules put into a type one after the other** do what one rule does that evaluates as their
conjunction.  The induction follows the way of the rules into the type, which is one and the same
for all three: where a rule has been put or joined, the next one is joined to it. -/
theorem evaluatesAs_constrainedBy {r q rule : Rule}
    (hrule : ∀ v, rule.evaluate v = (Rule.and r q).evaluate v) (t : Ty) :
    ((t.constrainedBy r).constrainedBy q).EvaluatesAs (t.constrainedBy rule) := by
  have hsymm v := (hrule v).symm
  induction t with
  | decorated d inner m ih =>
    cases d with
    | constrained r₀ =>
      refine .of_rules fun v => ?_
      calc (Rule.and (.and r₀ r) q).evaluate v
          = r₀.evaluate v >>= fun _ => (Rule.and r q).evaluate v :=
            bind_assoc (r₀.evaluate v) _ _
        _ = (Rule.and r₀ rule).evaluate v := by
            rw [← hrule v]
            rfl
    | _ => exact ih.decorated _
  | sum left right m ihl ihr =>
    -- whether a sum is optional depends on its left side, which stays
    have hopt (right' : Ty) : (sum left right' m).isOptional = (sum left right m).isOptional := by
      cases left <;> rfl
    cases ho : (sum left right m).isOptional with
    | true =>
      have hput (right' : Ty) (rule' : Rule) :
          (sum left right' m).constrainedBy rule' = sum left (right'.constrainedBy rule') m := by
        rw [constrainedBy, if_pos ((hopt right').trans ho)]
      rw [hput, hput, hput]
      exact ihr.right
    | false =>
      have hput (rule' : Rule) : (sum left right m).constrainedBy rule' =
          decorate (.constrained rule') (sum left right m) := by
        rw [constrainedBy, if_neg (Bool.eq_false_iff.1 ho)]
      rw [hput, hput]
      exact .of_rules hsymm
  | _ => exact .of_rules hsymm

/-- Options that spell a rule add that rule. -/
theorem constrained_ok {options : List (String × Value)} {rule : Rule}
    (h : Rule.ofOptions options = .ok rule) :
    t.constrained options = .ok (t.constrainedBy rule) := by
  rw [constrained, h]

/-- Options that spell no rule are refused for their fault. -/
theorem constrained_error {options : List (String × Value)} {fault : RuleFault}
    (h : Rule.ofOptions options = .error fault) : t.constrained options = refuse (.rule fault) := by
  rw [constrained, h]

/-- **Options given in two steps add up to the same as given at once**: they are refused together
with the same first fault, and otherwise the two types evaluate alike, failures included. -/
theorem constrained_append (t : Ty) {first second : List (String × Value)} (hfirst : first ≠ [])
    (hsecond : second ≠ []) :
    (∀ e, t.constrained (first ++ second) = .error e ↔
        (t.constrained first >>= fun u => u.constrained second) = .error e) ∧
      ∀ u w, (t.constrained first >>= fun u => u.constrained second) = .ok u →
        t.constrained (first ++ second) = .ok w → u.EvaluatesAs w := by
  obtain ⟨fault, hboth, hsteps⟩ | ⟨r, q, rule, hr, hq, hboth, hrule⟩ :=
    Rule.ofOptions_append hfirst hsecond
  · have hrefused : (t.constrained first >>= fun u => u.constrained second) =
        refuse (.rule fault) := by
      cases hr : Rule.ofOptions first with
      | error fault' =>
        rw [hr] at hsteps
        obtain rfl : fault' = fault := Except.error.inj hsteps
        rw [constrained_error hr]
        rfl
      | ok r =>
        rw [hr] at hsteps
        rw [constrained_ok hr]
        exact constrained_error hsteps
    rw [constrained_error hboth, hrefused]
    exact ⟨fun _ => Iff.rfl, fun _ _ hu => nomatch hu⟩
  · have hsteps : (t.constrained first >>= fun u => u.constrained second) =
        .ok ((t.constrainedBy r).constrainedBy q) := by
      rw [constrained_ok hr]
      exact constrained_ok hq
    rw [constrained_ok hboth, hsteps]
    refine ⟨fun e => iff_of_false nofun nofun, fun u w hu hw => ?_⟩
    obtain rfl := Except.ok.inj hu
    obtain rfl := Except.ok.inj hw
    exact evaluatesAs_constrainedBy hrule t

/-- Two bounds on small integers, in two steps and at once: seven passes both, and three is refused
by the first one either way. -/
theorem constrained_append_small :
    [("gt", Value.number (.integer 3))] ≠ [] ∧ [("lt", Value.number (.integer 8))] ≠ [] ∧
      ∃ u w, (small.constrained [("gt", .number (.integer 3))] >>= fun u =>
            u.constrained [("lt", .number (.integer 8))]) = .ok u ∧
          small.constrained [("gt", .number (.integer 3)), ("lt", .number (.integer 8))] = .ok w ∧
          u.EvaluatesAs w ∧ w.apply (.integer 7) = pure (.integer 7) ∧
          u.apply (.integer 3) = throw (.constraint (.integer 3)
            (.predicate (.gt (.integer 3)) (.integer 3))) := by
  have hfirst : [("gt", Value.number (.integer 3))] ≠ [] := List.cons_ne_nil _ _
  have hsecond : [("lt", Value.number (.integer 8))] ≠ [] := List.cons_ne_nil _ _
  refine ⟨hfirst, hsecond, _, _, rfl, rfl, ?_, rfl, rfl⟩
  exact (constrained_append small hfirst hsecond).2 _ _ rfl rfl

end Ty

end Conform
