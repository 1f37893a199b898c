import Conform.Value.Table
import Mathlib.Data.List.Chain

/-!
# The order on values is oriented

Comparing two values the other way round gives the opposite answer, whatever the values are: what is
not a number ties with every float in both directions.  So every value equals itself, and a list
whose neighbours ascend is its own table.

* `Value.induct` — induction over values; what a collection holds is reached by membership.
* `Value.swap_compare`, `Value.beq_self` — the order turned round, and equality with itself.
* `Table.ofItems_of_ascending`, `Table.ofEntries_of_ascending` — tables of ascending lists.
-/

namespace Conform

open Std

/-- The common orders turned round. -/
theorem swap_compare {α : Type} [Ord α] [OrientedOrd α] (a b : α) :
    (compare a b).swap = compare b a :=
  OrientedOrd.eq_swap.symm

/-! ## Dates and moments -/

theorem Date.swap_compare (a b : Date) : (a.compare b).swap = b.compare a := by
  simp only [Date.compare, Ordering.swap_then, Conform.swap_compare]

theorem Timestamp.swap_compare (a b : Timestamp) : (a.compare b).swap = b.compare a := by
  simp only [Timestamp.compare, Ordering.swap_then, Date.swap_compare, Conform.swap_compare]

theorem DateTime.swap_compare (a b : DateTime) : (a.compare b).swap = b.compare a :=
  Timestamp.swap_compare a.utc b.utc

/-! ## Numbers -/

theorem Decimal.swap_compare (a b : Decimal) : (a.compare b).swap = b.compare a := by
  simp only [Decimal.compare, Conform.swap_compare, Nat.max_comm b.scale a.scale]

/-- Where floats compare at all they compare both ways. -/
theorem Binary64.swap_compare? (x y : Binary64) :
    (x.compare? y).map Ordering.swap = y.compare? x := by
  cases x with
  | nan => cases y <;> rfl
  | infinite a =>
    cases y with
    | nan => rfl
    | infinite b => simp only [compare?, Option.map_some, Conform.swap_compare]
    | finite b n f hf => cases a <;> rfl
  | finite a m e he =>
    cases y with
    | nan => rfl
    | infinite b => cases b <;> rfl
    | finite b n f hf => simp only [compare?, Option.map_some, Conform.swap_compare]

/-- Comparing numbers the other way round swaps the outcome. -/
theorem Number.swap_compareValue (a b : Number) : (a.compareValue b).swap = b.compareValue a := by
  have float : ∀ x y : Binary64, ((x.compare? y).getD .eq).swap = (y.compare? x).getD .eq := by
    intro x y
    rw [← Binary64.swap_compare? x y]
    cases x.compare? y <;> rfl
  cases a with
  | integer z =>
    cases b with
    | integer w => exact Conform.swap_compare z w
    | decimal d => exact Decimal.swap_compare (.ofInt z) d
    | float y => exact float _ y
  | decimal d =>
    cases b with
    | integer w => exact Decimal.swap_compare d (.ofInt w)
    | decimal e => exact Decimal.swap_compare d e
    | float y => exact float _ y
  | float x => cases b <;> exact float x _

theorem Number.swap_compare (a b : Number) : (a.compare b).swap = b.compare a := by
  simp only [Number.compare, Ordering.swap_then, Number.swap_compareValue, Conform.swap_compare]

/-! ## Values -/

/-- **Induction over values.**  The hypothesis for a collection speaks of all that it holds at
once. -/
@[elab_as_elim, induction_eliminator]
theorem Value.induct {P : Value → Prop} (nil : P .nil) (bool : ∀ b, P (.bool b))
    (number : ∀ n, P (.number n)) (symbol : ∀ s, P (.symbol s)) (string : ∀ s, P (.string s))
    (date : ∀ d, P (.date d)) (dateTime : ∀ t, P (.dateTime t)) (time : ∀ t, P (.time t))
    (range : ∀ a b, P (.range a b)) (marker : ∀ p, P (.marker p))
    (array : ∀ items, (∀ v ∈ items, P v) → P (.array items))
    (set : ∀ items, (∀ v ∈ items, P v) → P (.set items))
    (hash : ∀ entries, (∀ e ∈ entries, P e.1 ∧ P e.2) → P (.hash entries))
    (undefined : P .undefined) (v : Value) : P v := by
  refine Value.rec (motive_1 := P) (motive_2 := fun vs => ∀ v ∈ vs, P v)
    (motive_3 := fun es => ∀ e ∈ es, P e.1 ∧ P e.2) (motive_4 := fun e => P e.1 ∧ P e.2)
    nil bool number symbol string date dateTime time range marker array set hash undefined
    ?_ ?_ ?_ ?_ ?_ v
  · intro v hv
    cases hv
  · intro v vs hv hvs w hw
    rcases List.mem_cons.1 hw with rfl | hw
    · exact hv
    · exact hvs w hw
  · intro e he
    cases he
  · intro e es he hes f hf
    rcases List.mem_cons.1 hf with rfl | hf
    · exact he
    · exact hes f hf
  · intro k v hk hv
    exact ⟨hk, hv⟩

namespace Value

theorem swap_compareItems {as : List Value}
    (h : ∀ a ∈ as, ∀ b : Value, (a.compare b).swap = b.compare a) (bs : List Value) :
    (compareItems as bs).swap = compareItems bs as := by
  induction as generalizing bs with
  | nil => cases bs <;> rfl
  | cons a as ih =>
    cases bs with
    | nil => rfl
    | cons b bs =>
      simp only [compareItems, Ordering.swap_then, h a List.mem_cons_self b]
      rw [ih (fun c hc => h c (List.mem_cons_of_mem _ hc)) bs]

theorem swap_compareEntries {as : List (Value × Value)}
    (h : ∀ e ∈ as, (∀ b : Value, (e.1.compare b).swap = b.compare e.1) ∧
      ∀ b : Value, (e.2.compare b).swap = b.compare e.2)
    (bs : List (Value × Value)) : (compareEntries as bs).swap = compareEntries bs as := by
  induction as generalizing bs with
  | nil => cases bs <;> rfl
  | cons e as ih =>
    obtain ⟨k, v⟩ := e
    cases bs with
    | nil => rfl
    | cons f bs =>
      obtain ⟨l, w⟩ := f
      obtain ⟨hk, hv⟩ := h (k, v) List.mem_cons_self
      simp only [compareEntries, Ordering.swap_then, hk l, hv w]
      rw [ih (fun c hc => h c (List.mem_cons_of_mem _ hc)) bs]

/-- **The order on values is oriented.** -/
theorem swap_compare (a b : Value) : (a.compare b).swap = b.compare a := by
  induction a generalizing b with
  | bool p => cases b <;> simp only [compare, Conform.swap_compare, rank]
  | number n => cases b <;> simp only [compare, Conform.swap_compare, Number.swap_compare, rank]
  | date d => cases b <;> simp only [compare, Conform.swap_compare, Date.swap_compare, rank]
  | dateTime t => cases b <;> simp only [compare, Conform.swap_compare, DateTime.swap_compare, rank]
  | time t => cases b <;> simp only [compare, Conform.swap_compare, Timestamp.swap_compare, rank]
  | range p q =>
    cases b <;> simp only [compare, Conform.swap_compare, Ordering.swap_then, Number.swap_compare,
      rank]
  | array items ih =>
    cases b <;> simp only [compare, Conform.swap_compare, swap_compareItems ih, rank]
  | set items ih =>
    cases b <;> simp only [compare, Conform.swap_compare, swap_compareItems ih, rank]
  | hash entries ih =>
    cases b <;> simp only [compare, Conform.swap_compare, swap_compareEntries ih, rank]
  | _ => cases b <;> simp only [compare, Conform.swap_compare, rank]

/-- Every value ties with itself. -/
theorem compare_self (v : Value) : v.compare v = .eq :=
  Ordering.eq_eq_of_eq_swap (swap_compare v v).symm

/-- Every value equals itself. -/
theorem beq_self (v : Value) : (v == v) = true := by
  show (v.compare v == .eq) = true
  rw [compare_self]
  rfl

/-- What comes after a value does not come before it. -/
theorem isLess_of_compare_lt {a b : Value} (h : a.compare b = .lt) : b.isLess a = false := by
  rw [isLess, ← swap_compare, h]
  rfl

theorem beq_of_compare_lt {a b : Value} (h : a.compare b = .lt) : (a == b) = false := by
  show (a.compare b == .eq) = false
  rw [h]
  rfl

end Value

/-! ## Tables -/

namespace Table

variable {α : Type}

/-- Sorting what is in order reverses it onto the sorted part. -/
theorem foldl_placeDescending {less : α → α → Bool} {b : α} {l : List α}
    (h : (b :: l).IsChain fun a c => less c a = false) (bs : List α) :
    l.foldl (fun sorted a => placeDescending less a sorted) (b :: bs) = l.reverse ++ b :: bs := by
  induction l generalizing b bs with
  | nil => rfl
  | cons a l ih =>
    obtain ⟨hba, hl⟩ := List.isChain_cons_cons.1 h
    have hplace : placeDescending less a (b :: bs) = a :: b :: bs := by
      simp [placeDescending, hba]
    rw [List.foldl_cons, hplace, ih hl, List.reverse_cons, List.append_assoc]
    rfl

/-- Sorting leaves a list alone in which nothing comes before its predecessor. -/
theorem sort_of_isChain {less : α → α → Bool} {l : List α}
    (h : l.IsChain fun a c => less c a = false) : sort less l = l := by
  cases l with
  | nil => rfl
  | cons b l =>
    have hfold : (b :: l).foldl (fun sorted a => placeDescending less a sorted) [] =
        l.reverse ++ [b] := foldl_placeDescending h []
    rw [sort, hfold]
    simp

/-- Where no two in a row are the same, all of them are kept. -/
theorem keepLast_of_isChain {same : α → α → Bool} {l : List α}
    (h : l.IsChain fun a b => same a b = false) : keepLast same l = l := by
  induction l with
  | nil => rfl
  | cons a l ih =>
    cases l with
    | nil => rfl
    | cons b l =>
      obtain ⟨hab, hl⟩ := List.isChain_cons_cons.1 h
      rw [keepLast, if_neg (by simp [hab]), ih hl]

/-- Each element comes before the next one. -/
def Ascending (items : List Value) : Prop :=
  items.IsChain fun a b => a.compare b = .lt

/-- A set of items in ascending order has these items as they are. -/
theorem ofItems_of_ascending {items : List Value} (h : Ascending items) :
    ofItems items = items := by
  rw [ofItems, sort_of_isChain (h.imp fun _ _ => Value.isLess_of_compare_lt)]
  exact keepLast_of_isChain (h.imp fun _ _ => Value.beq_of_compare_lt)

/-- A table of entries in ascending order has these entries as they are. -/
theorem ofEntries_of_ascending {entries : List (Value × α)} (h : Ascending (entries.map (·.1))) :
    ofEntries entries = entries := by
  have hkeys : entries.IsChain fun e f => e.1.compare f.1 = .lt := (List.isChain_map _).1 h
  rw [ofEntries, sort_of_isChain (hkeys.imp fun _ _ => Value.isLess_of_compare_lt)]
  exact keepLast_of_isChain (hkeys.imp fun _ _ => Value.beq_of_compare_lt)

end Table

end Conform
