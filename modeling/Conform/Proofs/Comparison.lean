import Conform.Proofs.Monotone
import Conform.Proofs.Order
import Mathlib.Order.WithBot

/-!
# The order on values is total

Of three values free of NaN, none greater than the next, the first and the last compare as the first
difference on the way says.  For numbers this holds because rounding keeps the order: their
comparison looks at the places they are rounded to, then at the exact values, then at the kinds.

* `Composes` — comparisons of neighbours decide that of the outer two.
* `Number.compare_eq` — the comparison of numbers, of whatever kinds, in three stages.
* `Value.Everywhere`, `Value.NoNaN` — properties that hold at every position of a value.
* `Value.composes_compare` — **values without NaN are compared transitively**.
* `Value.compare_eq_iff` — values tie when all their pieces are equal.
* `Value.totally_ordered` — the two put together: a total order that agrees with equality.
-/

namespace Conform

open Std (TransOrd TransCmp LawfulEqCmp)

/-! ## Comparisons in a row -/

/-- Where neither of two comparisons in a row goes down, the outer two compare as the first
difference says. -/
def Composes (ab bc ac : Ordering) : Prop :=
  ab ≠ .gt → bc ≠ .gt → ac = ab.then bc

/-- Comparisons in a lawful order compose. -/
theorem composes_compare {α : Type} [Ord α] [TransOrd α] (a b c : α) :
    Composes (compare a b) (compare b c) (compare a c) := by
  intro hab hbc
  cases h : compare a b with
  | gt => exact absurd h hab
  | eq => exact TransCmp.congr_left h
  | lt =>
    cases h' : compare b c with
    | gt => exact absurd h' hbc
    | eq => exact TransCmp.lt_of_lt_of_eq h h'
    | lt => exact TransCmp.lt_trans h h'

/-- Comparing in two stages composes when both stages do, the second among what ties in the
first. -/
theorem Composes.then {ab bc ac ab' bc' ac' : Ordering} (h : Composes ab bc ac)
    (h' : ab = .eq → bc = .eq → Composes ab' bc' ac') :
    Composes (ab.then ab') (bc.then bc') (ac.then ac') := by
  cases ab with
  | gt => exact fun hgt => absurd rfl hgt
  | lt =>
    intro _ hbc
    rw [h nofun fun hgt => hbc (by rw [hgt]; rfl)]
    rfl
  | eq =>
    cases bc with
    | gt => exact fun _ hgt => absurd rfl hgt
    | lt =>
      intro hab _
      rw [h nofun nofun]
      cases ab' with
      | gt => exact absurd rfl hab
      | _ => rfl
    | eq =>
      rw [h nofun nofun]
      exact h' rfl rfl

/-! ## Dates and moments -/

theorem Date.composes_compare (a b c : Date) :
    Composes (a.compare b) (b.compare c) (a.compare c) :=
  (Conform.composes_compare _ _ _).then fun _ _ =>
    (Conform.composes_compare _ _ _).then fun _ _ => Conform.composes_compare _ _ _

theorem Timestamp.composes_compare (a b c : Timestamp) :
    Composes (a.compare b) (b.compare c) (a.compare c) :=
  (Date.composes_compare _ _ _).then fun _ _ =>
    (Conform.composes_compare _ _ _).then fun _ _ => Conform.composes_compare _ _ _

/-- Dates compare equal only if they are the same. -/
theorem Date.compare_eq_iff (a b : Date) : a.compare b = .eq ↔ a = b := by
  constructor
  · intro h
    obtain ⟨hyear, h⟩ := Ordering.then_eq_eq.1 h
    obtain ⟨hmonth, hday⟩ := Ordering.then_eq_eq.1 h
    obtain ⟨year, month, day, valid⟩ := a
    obtain rfl := LawfulEqCmp.eq_of_compare hyear
    obtain rfl := LawfulEqCmp.eq_of_compare hmonth
    obtain rfl := LawfulEqCmp.eq_of_compare hday
    rfl
  · rintro rfl
    exact Ordering.eq_eq_of_eq_swap (Date.swap_compare a a).symm

/-- Readings compare equal only if they are the same. -/
theorem Timestamp.compare_eq_iff (a b : Timestamp) : a.compare b = .eq ↔ a = b := by
  constructor
  · intro h
    obtain ⟨hdate, h⟩ := Ordering.then_eq_eq.1 h
    obtain ⟨hsecond, hnano⟩ := Ordering.then_eq_eq.1 h
    obtain ⟨date, second, nano, hs, hn⟩ := a
    obtain rfl := (Date.compare_eq_iff _ _).1 hdate
    obtain rfl := LawfulEqCmp.eq_of_compare hsecond
    obtain rfl := LawfulEqCmp.eq_of_compare hnano
    rfl
  · rintro rfl
    exact Ordering.eq_eq_of_eq_swap (Timestamp.swap_compare a a).symm

/-! ## Numbers -/

/-- An integer as a decimal has the value of the integer. -/
theorem Decimal.value_ofInt (z : Int) : (ofInt z).value = z := by
  rw [value, ofInt, pow_zero, div_one]

namespace Number

/-- Whether the number is one: a float can be none. -/
def HasValue (n : Number) : Prop :=
  n ≠ .float .nan

theorem hasValue_integer (z : Int) : HasValue (.integer z) :=
  Number.noConfusion

theorem hasValue_decimal (d : Decimal) : HasValue (.decimal d) :=
  Number.noConfusion

/-- Where the number lies once it is rounded. -/
def place (n : Number) : ℚ :=
  n.toBinary64.place

/-- The exact value of an integer or a decimal.  A float, which stands for all that is rounded to
it, comes after them. -/
def limit : Number → WithTop ℚ
  | .integer z => ((z : ℚ) : WithTop ℚ)
  | .decimal d => d.value
  | .float _ => ⊤

theorem hasValue_ofInt (z : Int) : HasValue (.float (.ofInt z)) :=
  fun h => (Binary64.roundsTo_ofInt z).1 (float.inj h)

/-- A number with a value is no NaN as a float. -/
theorem toBinary64_ne_nan {n : Number} (h : n.HasValue) : n.toBinary64 ≠ .nan := by
  cases n with
  | integer z => exact (Binary64.roundsTo_ofInt z).1
  | decimal d => exact d.roundsTo_toBinary64.1
  | float x => exact fun hx => h (congrArg float hx)

/-- The order of exact values refines the order of the places they are rounded to. -/
theorem then_cmp_of_roundsTo {v w p q : ℚ} (hv : Binary64.RoundsTo v p)
    (hw : Binary64.RoundsTo w q) :
    (cmp p q).then (cmp v w) = cmp v w := by
  rcases lt_trichotomy v w with h | rfl | h
  · rw [(cmp_eq_lt_iff v w).2 h]
    rcases (hv.mono hw h.le).lt_or_eq with h' | rfl
    · rw [(cmp_eq_lt_iff p q).2 h']
      rfl
    · rw [cmp_self_eq_eq]
      rfl
  · rw [le_antisymm (hv.mono hw le_rfl) (hw.mono hv le_rfl), cmp_self_eq_eq]
    rfl
  · rw [(cmp_eq_gt_iff v w).2 h]
    rcases (hw.mono hv h.le).lt_or_eq with h' | rfl
    · rw [(cmp_eq_gt_iff p q).2 h']
      rfl
    · rw [cmp_self_eq_eq]
      rfl

/-- **Numbers are compared in three stages**: by the places they are rounded to, by their exact
values, and by their kinds. -/
theorem compare_eq {a b : Number} (ha : a.HasValue) (hb : b.HasValue) :
    a.compare b = (Ord.compare a.place b.place).then
      ((Ord.compare a.limit b.limit).then (Ord.compare a.rank b.rank)) := by
  rw [← cmp_eq_compare a.place b.place, ← cmp_eq_compare a.limit b.limit]
  have hexact {v w : ℚ} (hva : Binary64.RoundsTo v a.place) (hwb : Binary64.RoundsTo w b.place)
      (hv : a.limit = v) (hw : b.limit = w) (h : a.compareValue b = cmp v w) :
      a.compare b = (cmp a.place b.place).then
        ((cmp a.limit b.limit).then (Ord.compare a.rank b.rank)) := by
    have hlimit : cmp a.limit b.limit = cmp v w := by
      rw [hv, hw]
      exact WithTop.coe_strictMono.cmp_map_eq v w
    rw [hlimit, ← Ordering.then_assoc, then_cmp_of_roundsTo hva hwb, ← h]
    rfl
  have hrounded (h : a.compareValue b = (a.toBinary64.compare? b.toBinary64).getD .eq)
      (hlimit : (cmp a.limit b.limit).then (Ord.compare a.rank b.rank) =
        Ord.compare a.rank b.rank) :
      a.compare b = (cmp a.place b.place).then
        ((cmp a.limit b.limit).then (Ord.compare a.rank b.rank)) := by
    rw [hlimit, compare, h, Binary64.compare?_eq (toBinary64_ne_nan ha) (toBinary64_ne_nan hb)]
    rfl
  cases a with
  | integer z =>
    cases b with
    | integer w =>
      refine hexact (Binary64.roundsTo_ofInt z).2 (Binary64.roundsTo_ofInt w).2 rfl rfl ?_
      rw [Int.cast_strictMono.cmp_map_eq]
      exact (cmp_eq_compare z w).symm
    | decimal d =>
      refine hexact (Binary64.roundsTo_ofInt z).2 d.roundsTo_toBinary64.2 rfl rfl ?_
      rw [← Decimal.value_ofInt]
      exact Decimal.compare_eq _ _
    | float y => exact hrounded rfl rfl
  | decimal d =>
    cases b with
    | integer w =>
      refine hexact d.roundsTo_toBinary64.2 (Binary64.roundsTo_ofInt w).2 rfl rfl ?_
      rw [← Decimal.value_ofInt]
      exact Decimal.compare_eq _ _
    | decimal e =>
      exact hexact d.roundsTo_toBinary64.2 e.roundsTo_toBinary64.2 rfl rfl (Decimal.compare_eq d e)
    | float y => exact hrounded rfl rfl
  | float x => cases b <;> exact hrounded rfl rfl

/-- Equal numbers are of one kind. -/
theorem rank_eq_of_beq {a b : Number} (h : (a == b) = true) : a.rank = b.rank :=
  Nat.compare_eq_eq.1 (Ordering.then_eq_eq.1 (beq_iff_eq.1 h)).2

/-- Numbers with values are in a lawful order. -/
theorem composes_compare {a b c : Number} (ha : a.HasValue) (hb : b.HasValue) (hc : c.HasValue) :
    Composes (a.compare b) (b.compare c) (a.compare c) := by
  rw [compare_eq ha hb, compare_eq hb hc, compare_eq ha hc]
  exact (Conform.composes_compare _ _ _).then fun _ _ =>
    (Conform.composes_compare _ _ _).then fun _ _ => Conform.composes_compare _ _ _

end Number

/-! ## Markers -/

theorem Primitive.getElem?_all_index (p : Primitive) : all[p.index]? = some p := by
  cases p <;> rfl

/-- Primitives compare equal only if they are the same. -/
theorem Primitive.compare_index_eq_iff (p q : Primitive) :
    Ord.compare p.index q.index = .eq ↔ p = q := by
  rw [Nat.compare_eq_eq]
  refine ⟨fun h => ?_, congrArg index⟩
  rw [← Option.some_inj, ← getElem?_all_index, h, getElem?_all_index]

/-! ## Every position of a value -/

namespace Value

mutual

/-- A property that a value has and everything that it holds, at whatever depth. -/
def Everywhere (P : Value → Prop) : Value → Prop
  | .array items => P (.array items) ∧ EverywhereIn P items
  | .set items => P (.set items) ∧ EverywhereIn P items
  | .hash entries => P (.hash entries) ∧ EverywhereAmong P entries
  | v => P v

/-- The same for the items of a collection. -/
def EverywhereIn (P : Value → Prop) : List Value → Prop
  | [] => True
  | v :: vs => Everywhere P v ∧ EverywhereIn P vs

/-- The same for the entries of a hash. -/
def EverywhereAmong (P : Value → Prop) : List (Value × Value) → Prop
  | [] => True
  | (k, v) :: rest => Everywhere P k ∧ Everywhere P v ∧ EverywhereAmong P rest

end

/-- Everywhere in a list means everywhere in each of its items. -/
theorem everywhereIn_iff {P : Value → Prop} {vs : List Value} :
    EverywhereIn P vs ↔ ∀ v ∈ vs, v.Everywhere P := by
  induction vs with
  | nil => exact ⟨fun _ => nofun, fun _ => trivial⟩
  | cons v vs ih => rw [EverywhereIn, ih, List.forall_mem_cons]

/-- Everywhere among entries means everywhere in each key and each value. -/
theorem everywhereAmong_iff {P : Value → Prop} {es : List (Value × Value)} :
    EverywhereAmong P es ↔ ∀ e ∈ es, e.1.Everywhere P ∧ e.2.Everywhere P := by
  induction es with
  | nil => exact ⟨fun _ => nofun, fun _ => trivial⟩
  | cons e es ih => rw [EverywhereAmong, ih, List.forall_mem_cons, and_assoc]

/-- A number that is one; of a range both ends. -/
def NumbersHaveValue : Value → Prop
  | .number n => n.HasValue
  | .range a b => a.HasValue ∧ b.HasValue
  | _ => True

/-- A value that contains no NaN anywhere. -/
def NoNaN (v : Value) : Prop :=
  v.Everywhere NumbersHaveValue

/-! ## The order -/

/-- Values of different kinds are compared by kind. -/
theorem compare_of_rank_ne {a b : Value} (h : a.rank ≠ b.rank) :
    a.compare b = Ord.compare a.rank b.rank := by
  cases a <;> cases b <;> first | rfl | exact absurd rfl h

/-- Comparing the kinds first makes no difference. -/
theorem then_compare_rank (a b : Value) :
    (Ord.compare a.rank b.rank).then (a.compare b) = a.compare b := by
  by_cases h : a.rank = b.rank
  · rw [Nat.compare_eq_eq.2 h]
    rfl
  · rw [compare_of_rank_ne h]
    cases Ord.compare a.rank b.rank <;> rfl

/-- The kinds decide unless all three values are of one kind. -/
theorem composes_of_rank {a b c : Value}
    (h : a.rank = b.rank → b.rank = c.rank → Composes (a.compare b) (b.compare c) (a.compare c)) :
    Composes (a.compare b) (b.compare c) (a.compare c) := by
  rw [← then_compare_rank a b, ← then_compare_rank b c, ← then_compare_rank a c]
  exact (Conform.composes_compare _ _ _).then fun hab hbc =>
    h (Nat.compare_eq_eq.1 hab) (Nat.compare_eq_eq.1 hbc)

/-- Lists compare lawfully if their items do. -/
theorem composes_compareItems {as : List Value}
    (h : ∀ a ∈ as, ∀ b c : Value, a.NoNaN → b.NoNaN → c.NoNaN →
      Composes (a.compare b) (b.compare c) (a.compare c)) (bs cs : List Value)
    (ha : EverywhereIn NumbersHaveValue as) (hb : EverywhereIn NumbersHaveValue bs)
    (hc : EverywhereIn NumbersHaveValue cs) :
    Composes (compareItems as bs) (compareItems bs cs) (compareItems as cs) := by
  induction as generalizing bs cs with
  | nil =>
    cases bs with
    | nil => exact fun _ _ => rfl
    | cons b bs => cases cs with
      | nil => exact fun _ hgt => absurd rfl hgt
      | cons c cs => exact fun _ _ => rfl
  | cons a as ih =>
    cases bs with
    | nil => exact fun hgt => absurd rfl hgt
    | cons b bs => cases cs with
      | nil => exact fun _ hgt => absurd rfl hgt
      | cons c cs =>
        refine (h a List.mem_cons_self b c ha.1 hb.1 hc.1).then fun _ _ => ?_
        exact ih (fun d hd => h d (List.mem_cons_of_mem _ hd)) bs cs ha.2 hb.2 hc.2

/-- Lists of entries compare lawfully if their keys and values do. -/
theorem composes_compareEntries {as : List (Value × Value)}
    (h : ∀ e ∈ as, (∀ b c : Value, e.1.NoNaN → b.NoNaN → c.NoNaN →
      Composes (e.1.compare b) (b.compare c) (e.1.compare c)) ∧
      ∀ b c : Value, e.2.NoNaN → b.NoNaN → c.NoNaN →
        Composes (e.2.compare b) (b.compare c) (e.2.compare c)) (bs cs : List (Value × Value))
    (ha : EverywhereAmong NumbersHaveValue as) (hb : EverywhereAmong NumbersHaveValue bs)
    (hc : EverywhereAmong NumbersHaveValue cs) :
    Composes (compareEntries as bs) (compareEntries bs cs) (compareEntries as cs) := by
  induction as generalizing bs cs with
  | nil =>
    cases bs with
    | nil => exact fun _ _ => rfl
    | cons f bs => cases cs with
      | nil => exact fun _ hgt => absurd rfl hgt
      | cons g cs => exact fun _ _ => rfl
  | cons e as ih =>
    cases bs with
    | nil => exact fun hgt => absurd rfl hgt
    | cons f bs => cases cs with
      | nil => exact fun _ hgt => absurd rfl hgt
      | cons g cs =>
        obtain ⟨hkey, hvalue⟩ := h e List.mem_cons_self
        refine (hkey f.1 g.1 ha.1 hb.1 hc.1).then fun _ _ => ?_
        refine (hvalue f.2 g.2 ha.2.1 hb.2.1 hc.2.1).then fun _ _ => ?_
        exact ih (fun d hd => h d (List.mem_cons_of_mem _ hd)) bs cs ha.2.2 hb.2.2 hc.2.2

/-- **Values without NaN are compared transitively.** -/
theorem composes_compare (a b c : Value) (ha : a.NoNaN) (hb : b.NoNaN) (hc : c.NoNaN) :
    Composes (a.compare b) (b.compare c) (a.compare c) := by
  induction a generalizing b c with refine composes_of_rank fun hab hbc => ?_
  | number n =>
    cases b <;> cases hab
    cases c <;> cases hbc
    exact Number.composes_compare ha hb hc
  | date d =>
    cases b <;> cases hab
    cases c <;> cases hbc
    exact Date.composes_compare _ _ _
  | dateTime t =>
    cases b <;> cases hab
    cases c <;> cases hbc
    exact Timestamp.composes_compare _ _ _
  | time t =>
    cases b <;> cases hab
    cases c <;> cases hbc
    exact Timestamp.composes_compare _ _ _
  | range p q =>
    cases b <;> cases hab
    cases c <;> cases hbc
    exact (Number.composes_compare ha.1 hb.1 hc.1).then fun _ _ =>
      Number.composes_compare ha.2 hb.2 hc.2
  | array items ih =>
    cases b <;> cases hab
    cases c <;> cases hbc
    exact composes_compareItems ih _ _ ha.2 hb.2 hc.2
  | set items ih =>
    cases b <;> cases hab
    cases c <;> cases hbc
    exact composes_compareItems ih _ _ ha.2 hb.2 hc.2
  | hash entries ih =>
    cases b <;> cases hab
    cases c <;> cases hbc
    exact composes_compareEntries ih _ _ ha.2 hb.2 hc.2
  | _ =>
    cases b <;> cases hab
    cases c <;> cases hbc
    exact Conform.composes_compare _ _ _

/-! ## Equality -/

/-- Values of different kinds neither tie nor are equal. -/
theorem compare_eq_iff_of_rank {a b : Value}
    (h : a.rank = b.rank → (a.compare b = .eq ↔ a.equals b = true)) :
    a.compare b = .eq ↔ a.equals b = true := by
  by_cases hrank : a.rank = b.rank
  · exact h hrank
  · have hequals : a.equals b = false := by
      cases a <;> cases b <;> first | rfl | exact absurd rfl hrank
    rw [compare_of_rank_ne hrank, hequals]
    exact iff_of_false (fun heq => hrank (Nat.compare_eq_eq.1 heq)) Bool.false_ne_true

/-- Lists compare equal exactly if they are equal, when it is so for their items. -/
theorem compareItems_eq_iff {as : List Value}
    (h : ∀ a ∈ as, ∀ b : Value, a.compare b = .eq ↔ a.equals b = true) (bs : List Value) :
    compareItems as bs = .eq ↔ equalItems as bs = true := by
  induction as generalizing bs with
  | nil =>
    cases bs with
    | nil => exact ⟨fun _ => rfl, fun _ => rfl⟩
    | cons b bs => exact ⟨nofun, nofun⟩
  | cons a as ih =>
    cases bs with
    | nil => exact ⟨nofun, nofun⟩
    | cons b bs =>
      rw [compareItems, equalItems, Ordering.then_eq_eq, Bool.and_eq_true, h a List.mem_cons_self b,
        ih fun c hc => h c (List.mem_cons_of_mem _ hc)]

theorem compareEntries_eq_iff {as : List (Value × Value)}
    (h : ∀ e ∈ as, (∀ b : Value, e.1.compare b = .eq ↔ e.1.equals b = true) ∧
      ∀ b : Value, e.2.compare b = .eq ↔ e.2.equals b = true) (bs : List (Value × Value)) :
    compareEntries as bs = .eq ↔ equalEntries as bs = true := by
  induction as generalizing bs with
  | nil =>
    cases bs with
    | nil => exact ⟨fun _ => rfl, fun _ => rfl⟩
    | cons b bs => exact ⟨nofun, nofun⟩
  | cons e as ih =>
    cases bs with
    | nil => exact ⟨nofun, nofun⟩
    | cons f bs =>
      obtain ⟨hkey, hvalue⟩ := h e List.mem_cons_self
      rw [compareEntries, equalEntries, Ordering.then_eq_eq, Ordering.then_eq_eq, Bool.and_eq_true,
        Bool.and_eq_true, and_assoc, hkey f.1, hvalue f.2,
        ih fun c hc => h c (List.mem_cons_of_mem _ hc)]

/-- Values compare equal exactly if they are equal, NaN included. -/
theorem compare_eq_iff (a b : Value) : a.compare b = .eq ↔ a.equals b = true := by
  induction a generalizing b with refine compare_eq_iff_of_rank fun hab => ?_
  | nil => cases b <;> cases hab; exact ⟨fun _ => rfl, fun _ => rfl⟩
  | bool p =>
    cases b <;> cases hab
    rename_i q
    cases p <;> cases q <;> decide
  | number n => cases b <;> cases hab; exact beq_iff_eq.symm
  | symbol s => cases b <;> cases hab; exact Std.compare_eq_iff_eq.trans beq_iff_eq.symm
  | string s => cases b <;> cases hab; exact Std.compare_eq_iff_eq.trans beq_iff_eq.symm
  | date d => cases b <;> cases hab; exact (Date.compare_eq_iff _ _).trans beq_iff_eq.symm
  | dateTime t => cases b <;> cases hab; exact (Timestamp.compare_eq_iff _ _).trans beq_iff_eq.symm
  | time t => cases b <;> cases hab; exact (Timestamp.compare_eq_iff _ _).trans beq_iff_eq.symm
  | range p q =>
    cases b <;> cases hab
    exact Ordering.then_eq_eq.trans ((and_congr beq_iff_eq.symm beq_iff_eq.symm).trans
      Bool.and_eq_true_iff.symm)
  | marker p =>
    cases b <;> cases hab; exact (Primitive.compare_index_eq_iff _ _).trans beq_iff_eq.symm
  | array items ih => cases b <;> cases hab; exact compareItems_eq_iff ih _
  | set items ih => cases b <;> cases hab; exact compareItems_eq_iff ih _
  | hash entries ih => cases b <;> cases hab; exact compareEntries_eq_iff ih _
  | undefined => cases b <;> cases hab; exact ⟨fun _ => rfl, fun _ => rfl⟩

/-- The equality that goes by the order is equality piece by piece. -/
theorem beq_eq_equals (a b : Value) : (a == b) = a.equals b := by
  show (a.compare b == .eq) = a.equals b
  rw [Bool.eq_iff_iff, beq_iff_eq, compare_eq_iff]

/-! ## The total order -/

/-- Of any two values exactly one comes before the other or they are equal. -/
theorem trichotomy (a b : Value) :
    (a.isLess b ∧ ¬a.equals b ∧ ¬b.isLess a) ∨ (¬a.isLess b ∧ a.equals b ∧ ¬b.isLess a) ∨
      (¬a.isLess b ∧ ¬a.equals b ∧ b.isLess a) := by
  rw [← beq_eq_equals]
  show ((a.compare b == .lt) ∧ ¬(a.compare b == .eq) ∧ ¬(b.compare a == .lt)) ∨
    (¬(a.compare b == .lt) ∧ (a.compare b == .eq) ∧ ¬(b.compare a == .lt)) ∨
    (¬(a.compare b == .lt) ∧ ¬(a.compare b == .eq) ∧ (b.compare a == .lt))
  rw [← swap_compare a b]
  cases a.compare b <;> decide

/-- **Values without NaN are totally ordered**, and those that tie are the equal ones.  Exactly one
of less, equal and greater holds; the order turned round gives the opposite answer; and among three
values of which none is greater than the next, the first is less than the last as soon as one step
is strict and ties with it otherwise. -/
theorem totally_ordered (a b c : Value) (ha : a.NoNaN) (hb : b.NoNaN) (hc : c.NoNaN) :
    ((a.isLess b ∧ ¬a.equals b ∧ ¬b.isLess a) ∨ (¬a.isLess b ∧ a.equals b ∧ ¬b.isLess a) ∨
      (¬a.isLess b ∧ ¬a.equals b ∧ b.isLess a)) ∧
    b.compare a = (a.compare b).swap ∧
    (a.compare b ≠ .gt → b.compare c ≠ .gt →
      a.compare c ≠ .gt ∧ a.compare c = (a.compare b).then (b.compare c)) ∧
    (a.compare b = .eq ↔ a.equals b = true) := by
  refine ⟨trichotomy a b, (swap_compare a b).symm, fun hab hbc => ?_, compare_eq_iff a b⟩
  have hac := composes_compare a b c ha hb hc hab hbc
  refine ⟨?_, hac⟩
  rw [hac]
  cases h : a.compare b with
  | lt => nofun
  | eq => exact hbc
  | gt => exact absurd h hab

/-- An integer and a decimal that are rounded to the same float, next to that float. -/
theorem totally_ordered_beyond_floats :
    (integer 9007199254740993).compare (.number (.decimal (.ofInt 9007199254740993))) = .lt ∧
      Value.compare (.number (.decimal (.ofInt 9007199254740993)))
        (.number (.float (.ofInt 9007199254740992))) = .lt ∧
      (integer 9007199254740993).compare (.number (.float (.ofInt 9007199254740992))) = .lt := by
  have hab : (integer 9007199254740993).compare
      (.number (.decimal (.ofInt 9007199254740993))) = .lt := by decide +kernel
  have hbc : Value.compare (.number (.decimal (.ofInt 9007199254740993)))
      (.number (.float (.ofInt 9007199254740992))) = .lt := by decide +kernel
  obtain ⟨-, -, htrans, -⟩ := totally_ordered (integer 9007199254740993)
    (.number (.decimal (.ofInt 9007199254740993))) (.number (.float (.ofInt 9007199254740992)))
    (Number.hasValue_integer _) (Number.hasValue_decimal _) (Number.hasValue_ofInt _)
  refine ⟨hab, hbc, ?_⟩
  rw [(htrans (by rw [hab]; nofun) (by rw [hbc]; nofun)).2, hab]
  rfl

end Value

end Conform
