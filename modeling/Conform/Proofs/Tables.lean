import Conform.Proofs.Comparison
import Mathlib.Data.List.Sort

/-!
# Tables without NaN are in order

Sorting leaves no element before its predecessor, whatever the elements are.  Dropping equal
neighbours then leaves each element before the next one only if ties are transitive, so the elements
or keys must be free of NaN, or at least such that comparing them is transitive.

* `Value.Comparable`, `Value.comparable_noNaN` — values among which comparing is transitive.
* `Table.isChain_sort`, `Table.filter_sort` — what sorting gives, and that it moves no ties.
* `Table.InOrder`, `Table.LastWith` — keys that strictly ascend; the last element with its key.
* `Table.inOrder_keepLast`, `Table.mem_keepLast` — of sorted elements the last with each key stays.
* `Table.ascending_ofItems`, `Table.ascending_ofEntries` — **tables of what is free of NaN ascend**.
* `Table.mem_ofEntries` — a table of entries holds the last entry with each key.
* `Table.subset_ofItems`, `Table.subset_ofEntries` — a table holds nothing new.
-/

namespace Conform

namespace Value

/-! ## Comparisons in a row -/

/-- Values are equal exactly if they tie. -/
theorem beq_eq_true_iff {a b : Value} : (a == b) = true ↔ a.compare b = .eq :=
  beq_iff_eq (a := a.compare b) (b := .eq)

/-- Equality goes both ways, NaN included. -/
theorem beq_comm (a b : Value) : (a == b) = (b == a) := by
  show (a.compare b == .eq) = (b.compare a == .eq)
  rw [← swap_compare a b]
  cases a.compare b <;> rfl

/-- Comparing is transitive among the values with the property. -/
def Comparable (P : Value → Prop) : Prop :=
  ∀ a b c, P a → P b → P c → Composes (a.compare b) (b.compare c) (a.compare c)

/-- Values without NaN compare lawfully. -/
theorem comparable_noNaN : Comparable NoNaN :=
  composes_compare

namespace Comparable

variable {P : Value → Prop} (hP : Comparable P) {a b c : Value}

include hP

theorem eq_trans (ha : P a) (hb : P b) (hc : P c) (hab : a.compare b = .eq)
    (hbc : b.compare c = .eq) : a.compare c = .eq := by
  rw [hP a b c ha hb hc (by rw [hab]; nofun) (by rw [hbc]; nofun), hab, hbc]
  rfl

/-- What is equal is equal to the same values. -/
theorem beq_congr_right (ha : P a) (hb : P b) (hc : P c) (hbc : (b == c) = true) :
    (a == b) = (a == c) := by
  have hcb : (c == b) = true := by rw [beq_comm, hbc]
  rw [Bool.eq_iff_iff, beq_eq_true_iff, beq_eq_true_iff]
  exact ⟨fun hab => hP.eq_trans ha hb hc hab (beq_eq_true_iff.1 hbc),
    fun hac => hP.eq_trans ha hc hb hac (beq_eq_true_iff.1 hcb)⟩

theorem lt_of_lt_of_le (ha : P a) (hb : P b) (hc : P c) (hab : a.compare b = .lt)
    (hbc : b.compare c ≠ .gt) : a.compare c = .lt := by
  rw [hP a b c ha hb hc (by rw [hab]; nofun) hbc, hab]
  rfl

theorem lt_of_le_of_lt (ha : P a) (hb : P b) (hc : P c) (hab : a.compare b ≠ .gt)
    (hbc : b.compare c = .lt) : a.compare c = .lt := by
  rw [hP a b c ha hb hc hab (by rw [hbc]; nofun), hbc]
  cases h : a.compare b with
  | lt => rfl
  | eq => rfl
  | gt => exact absurd h hab

theorem le_trans (ha : P a) (hb : P b) (hc : P c) (hab : a.compare b ≠ .gt)
    (hbc : b.compare c ≠ .gt) : a.compare c ≠ .gt := by
  rw [hP a b c ha hb hc hab hbc]
  cases h : a.compare b with
  | lt => nofun
  | eq => exact hbc
  | gt => exact absurd h hab

end Comparable

theorem compare_trans_eq {a b c : Value} (ha : a.NoNaN) (hb : b.NoNaN) (hc : c.NoNaN)
    (hab : a.compare b = .eq) (hbc : b.compare c = .eq) : a.compare c = .eq :=
  comparable_noNaN.eq_trans ha hb hc hab hbc

/-- What ties with the sides of a comparison is compared in the same way. -/
theorem compare_lt_congr {a b a' b' : Value} (ha : a.NoNaN) (hb : b.NoNaN) (ha' : a'.NoNaN)
    (hb' : b'.NoNaN) (heqa : a.compare a' = .eq) (heqb : b.compare b' = .eq)
    (h : a.compare b = .lt) :
    a'.compare b' = .lt := by
  have heqa' : a'.compare a = .eq := by
    rw [← swap_compare, heqa]
    rfl
  have hab' : a.compare b' = .lt :=
    comparable_noNaN.lt_of_lt_of_le ha hb hb' h (by rw [heqb]; nofun)
  exact comparable_noNaN.lt_of_le_of_lt ha' ha hb' (by rw [heqa']; nofun) hab'

theorem compare_ne_gt_of_not_isLess {a b : Value} (h : b.isLess a = false) : a.compare b ≠ .gt := by
  intro hgt
  rw [isLess, ← swap_compare, hgt] at h
  cases h

/-- A float and an integer, side by side.  A NaN there ties with every float, so that the integers
beside them decide and comparing is not transitive. -/
def floatBeside (x : Binary64) (z : Int) : Value :=
  .array [.number (.float x), integer z]

end Value

namespace Table

variable {α : Type}

/-! ## Sorting -/

/-- Placing an item leaves a list in order. -/
theorem isChain_placeDescending {less : α → α → Bool} (hasymm : ∀ a b, less a b → less b a = false)
    (a : α) {l : List α} (h : l.IsChain fun b c => less b c = false) :
    (placeDescending less a l).IsChain fun b c => less b c = false := by
  induction l with
  | nil => exact .singleton a
  | cons b bs ih =>
    rw [placeDescending]
    split
    case isTrue hlt =>
      cases bs with
      | nil => exact .cons_cons (hasymm a b hlt) (.singleton a)
      | cons c cs =>
        obtain ⟨hbc, hcs⟩ := List.isChain_cons_cons.1 h
        have htail := ih hcs
        rw [placeDescending] at htail ⊢
        split at htail
        case isTrue hlt' => rw [if_pos hlt']; exact .cons_cons hbc htail
        case isFalse hlt' => rw [if_neg hlt']; exact .cons_cons (hasymm a b hlt) htail
    case isFalse hle => exact .cons_cons (Bool.eq_false_iff.2 hle) h

theorem isChain_sort {less : α → α → Bool} (hasymm : ∀ a b, less a b → less b a = false)
    (as : List α) : (sort less as).IsChain fun a b => less b a = false := by
  have hfold : ∀ l : List α, l.IsChain (fun b c => less b c = false) →
      (as.foldl (fun sorted a => placeDescending less a sorted) l).IsChain
        fun b c => less b c = false := by
    induction as with
    | nil => exact fun l h => h
    | cons a as ih => exact fun l h => ih _ (isChain_placeDescending hasymm a h)
  exact List.isChain_reverse.2 (hfold [] .nil)

theorem mem_placeDescending {less : α → α → Bool} {a b : α} {l : List α} :
    b ∈ placeDescending less a l ↔ b = a ∨ b ∈ l := by
  induction l with
  | nil => rw [placeDescending, List.mem_cons]
  | cons c cs ih =>
    rw [placeDescending]
    split
    · rw [List.mem_cons, ih, List.mem_cons, or_left_comm]
    · rw [List.mem_cons]

theorem mem_sort {less : α → α → Bool} {b : α} {as : List α} : b ∈ sort less as ↔ b ∈ as := by
  have hfold : ∀ l : List α,
      b ∈ as.foldl (fun sorted a => placeDescending less a sorted) l ↔ b ∈ as ∨ b ∈ l := by
    induction as with
    | nil => exact fun l => by rw [List.foldl_nil, or_iff_right List.not_mem_nil]
    | cons a as ih =>
      intro l
      rw [List.foldl_cons, ih, mem_placeDescending, List.mem_cons, or_left_comm, or_assoc]
  rw [sort, List.mem_reverse, hfold, or_iff_left List.not_mem_nil]

/-- An element is put past no element that it is not less than. -/
theorem filter_placeDescending {less : α → α → Bool} {p : α → Bool} {a : α} {l : List α}
    (h : ∀ b ∈ l, p a → p b → less a b = false) :
    (placeDescending less a l).filter p = if p a then a :: l.filter p else l.filter p := by
  induction l with
  | nil => rw [placeDescending, List.filter_cons]
  | cons b bs ih =>
    rw [placeDescending]
    split
    case isTrue hlt =>
      rw [List.filter_cons, ih fun c hc => h c (.tail _ hc)]
      by_cases ha : p a
      · have hb : ¬p b := fun hb => by rw [h b (.head _) ha hb] at hlt; cases hlt
        rw [if_neg hb, if_pos ha, List.filter_cons_of_neg hb, if_pos ha]
      · rw [if_neg ha, if_neg ha, List.filter_cons]
    case isFalse => rw [List.filter_cons]

/-- **Sorting is stable**: elements of which none is less than another keep their order. -/
theorem filter_sort {less : α → α → Bool} {p : α → Bool} {P : α → Prop}
    (hp : ∀ a b, P a → P b → p a → p b → less a b = false) {as : List α} (has : ∀ a ∈ as, P a) :
    (sort less as).filter p = as.filter p := by
  have hfold : ∀ l : List α, (∀ b ∈ l, P b) →
      (as.foldl (fun sorted a => placeDescending less a sorted) l).filter p =
        (as.filter p).reverse ++ l.filter p := by
    induction as with
    | nil => exact fun l _ => rfl
    | cons a as ih =>
      intro l hl
      obtain ⟨ha, has⟩ := List.forall_mem_cons.1 has
      have hplace : ∀ b ∈ placeDescending less a l, P b := fun b hb => by
        rcases mem_placeDescending.1 hb with rfl | hb
        · exact ha
        · exact hl b hb
      rw [List.foldl_cons, ih has _ hplace,
        filter_placeDescending fun b hb => hp a b ha (hl b hb), List.filter_cons]
      split
      · rw [List.reverse_cons, List.append_assoc, List.singleton_append]
      · rfl
  rw [sort, List.filter_reverse, hfold [] (fun b hb => absurd hb List.not_mem_nil), List.filter_nil,
    List.append_nil, List.reverse_reverse]

theorem isLess_asymm (key : α → Value) (a b : α) (h : (key a).isLess (key b)) :
    (key b).isLess (key a) = false :=
  Value.isLess_of_compare_lt (beq_iff_eq.1 h)

/-- A chain of a relation that is transitive among its elements relates each of them to all later
ones. -/
theorem pairwise_of_isChain {R : α → α → Prop} {l : List α}
    (htrans : ∀ a ∈ l, ∀ b ∈ l, ∀ c ∈ l, R a b → R b c → R a c) (h : l.IsChain R) :
    l.Pairwise R := by
  induction l with
  | nil => exact .nil
  | cons a l ih =>
    have hl := ih (fun b hb c hc d hd => htrans b (.tail _ hb) c (.tail _ hc) d (.tail _ hd)) h.tail
    refine List.pairwise_cons.2 ⟨fun c hc => ?_, hl⟩
    cases l with
    | nil => cases hc
    | cons b l =>
      have hab := (List.isChain_cons_cons.1 h).1
      rcases List.mem_cons.1 hc with rfl | hcl
      · exact hab
      · exact htrans a (.head _) b (.tail _ (.head _)) c (.tail _ hc) hab
          ((List.pairwise_cons.1 hl).1 c hcl)

/-! ## Dropping equal neighbours -/

theorem keepLast_sublist (same : α → α → Bool) (l : List α) : (keepLast same l).Sublist l := by
  fun_induction keepLast same l with
  | case1 => exact .slnil
  | case2 a => exact .refl _
  | case3 a b rest h ih => exact ih.cons a
  | case4 a b rest h ih => exact ih.cons_cons a

/-- The element is in the list, and none of those after it has an equal key. -/
def LastWith (key : α → Value) (l : List α) (e : α) : Prop :=
  ∃ before after, l = before ++ e :: after ∧ ∀ x ∈ after, (key x == key e) = false

theorem LastWith.mem {key : α → Value} {l : List α} {e : α} (h : LastWith key l e) : e ∈ l := by
  obtain ⟨before, after, rfl, -⟩ := h
  exact List.mem_append_right _ List.mem_cons_self

/-- An entry is the last of its key if it is so among the rest, or the rest has none of that key. -/
theorem lastWith_cons {key : α → Value} {l : List α} {a e : α} :
    LastWith key (a :: l) e ↔
      (a = e ∧ ∀ x ∈ l, (key x == key e) = false) ∨ LastWith key l e := by
  constructor
  · rintro ⟨before, after, hl, hlast⟩
    rcases List.cons_eq_append_iff.1 hl with ⟨-, hcons⟩ | ⟨before', -, hrest⟩
    · obtain ⟨rfl, rfl⟩ := List.cons_eq_cons.1 hcons
      exact .inl ⟨rfl, hlast⟩
    · exact .inr ⟨before', after, hrest, hlast⟩
  · rintro (⟨rfl, hlast⟩ | ⟨before, after, rfl, hlast⟩)
    · exact ⟨[], l, rfl, hlast⟩
    · exact ⟨a :: before, after, rfl, hlast⟩

/-- Where no keys tie, every element is the last with its key. -/
theorem lastWith_iff_mem {key : α → Value} {l : List α}
    (h : l.Pairwise fun a b => (key a == key b) = false) {e : α} : LastWith key l e ↔ e ∈ l := by
  refine ⟨LastWith.mem, fun he => ?_⟩
  obtain ⟨before, after, rfl⟩ := List.append_of_mem he
  refine ⟨before, after, rfl, fun x hx => ?_⟩
  rw [Value.beq_comm]
  exact (List.pairwise_cons.1 (List.pairwise_append.1 h).2.1).1 x hx

/-- Whether an element is the last with its key shows in the elements with that key alone. -/
theorem lastWith_iff_getLast? {key : α → Value} {l : List α} {e : α} :
    LastWith key l e ↔ (l.filter fun x => key x == key e).getLast? = some e := by
  have hself : (key e == key e) = true := Value.beq_eq_true_iff.2 (Value.compare_self _)
  constructor
  · rintro ⟨before, after, rfl, hlast⟩
    have hafter : after.filter (fun x => key x == key e) = [] :=
      List.filter_eq_nil_iff.2 fun x hx => Bool.eq_false_iff.1 (hlast x hx)
    rw [List.filter_append, List.filter_cons, if_pos hself, hafter, List.getLast?_concat]
  · intro h
    obtain ⟨ys, hys⟩ := List.getLast?_eq_some_iff.1 h
    obtain ⟨l₁, l₂, rfl, -, hl₂⟩ := List.filter_eq_append_iff.1 hys
    obtain ⟨before, after, rfl, -, -, hafter⟩ := List.filter_eq_cons_iff.1 hl₂
    refine ⟨l₁ ++ before, after, (List.append_assoc _ _ _).symm, fun x hx => ?_⟩
    exact Bool.eq_false_iff.2 (List.filter_eq_nil_iff.1 hafter x hx)

/-- The keys strictly ascend, each of them less than all later ones. -/
def InOrder (key : α → Value) (l : List α) : Prop :=
  l.Pairwise fun a b => (key a).compare (key b) = .lt

/-- Lists in order are equal when they have the same elements. -/
theorem InOrder.eq_of_mem_iff {key : α → Value} {l l' : List α} (h : InOrder key l)
    (h' : InOrder key l') (hmem : ∀ e, e ∈ l ↔ e ∈ l') : l = l' := by
  have hirrefl : Std.Irrefl fun a b : α => (key a).compare (key b) = .lt :=
    ⟨fun a ha => by rw [Value.compare_self] at ha; cases ha⟩
  have hantisymm : Std.Antisymm fun a b : α => (key a).compare (key b) = .lt :=
    ⟨fun a b hab hba => by rw [← Value.swap_compare, hab] at hba; cases hba⟩
  exact List.Pairwise.eq_of_mem_iff h h' hmem

section Comparable

variable {P : Value → Prop} (hP : Value.Comparable P) (key : α → Value)

include hP

/-- Sorting leaves every element no greater than all later ones. -/
theorem pairwise_sort {l : List α} (h : ∀ a ∈ l, P (key a)) :
    (sort (fun a b => (key a).isLess (key b)) l).Pairwise
      fun a b => (key a).compare (key b) ≠ .gt := by
  have hchain := isChain_sort (isLess_asymm key) l
  refine pairwise_of_isChain (fun a ha b hb c hc => ?_)
    (hchain.imp fun a b => Value.compare_ne_gt_of_not_isLess)
  exact hP.le_trans (h a (mem_sort.1 ha)) (h b (mem_sort.1 hb)) (h c (mem_sort.1 hc))

/-- What does not tie with its neighbour in a sorted list comes before all later elements. -/
theorem compare_lt_of_neighbour {a b c : α} {rest : List α} (h : ∀ x ∈ a :: b :: rest, P (key x))
    (hl : (a :: b :: rest).Pairwise fun a b => (key a).compare (key b) ≠ .gt)
    (hne : ¬(key a == key b) = true) (hc : c ∈ b :: rest) : (key a).compare (key c) = .lt := by
  obtain ⟨hle, htail⟩ := List.pairwise_cons.1 hl
  have hab : (key a).compare (key b) = .lt := by
    cases hcmp : (key a).compare (key b) with
    | lt => rfl
    | eq => exact absurd (Value.beq_eq_true_iff.2 hcmp) hne
    | gt => exact absurd hcmp (hle b List.mem_cons_self)
  rcases List.mem_cons.1 hc with rfl | hrest
  · exact hab
  · exact hP.lt_of_lt_of_le (h a (.head _)) (h b (.tail _ (.head _))) (h c (.tail _ hc)) hab
      ((List.pairwise_cons.1 htail).1 c hrest)

/-- Some element is the last with the key of a given one. -/
theorem exists_lastWith {l : List α} (h : ∀ a ∈ l, P (key a)) {x : α} (hx : x ∈ l) :
    ∃ e, LastWith key l e ∧ (key e == key x) = true := by
  have hxself : (key x == key x) = true := Value.beq_eq_true_iff.2 (Value.compare_self _)
  have hne : l.filter (fun y => key y == key x) ≠ [] :=
    List.ne_nil_of_mem (List.mem_filter.2 ⟨hx, hxself⟩)
  obtain ⟨he, htie⟩ := List.mem_filter.1 (List.getLast_mem hne)
  refine ⟨_, lastWith_iff_getLast?.2 ?_, htie⟩
  rw [← List.getLast?_eq_some_getLast hne]
  refine congrArg List.getLast? (List.filter_congr fun y hy => ?_)
  exact hP.beq_congr_right (h y hy) (h _ he) (h x hx) htie

/-- Of sorted elements the kept ones have different keys. -/
theorem inOrder_keepLast {l : List α} (h : ∀ a ∈ l, P (key a))
    (hl : l.Pairwise fun a b => (key a).compare (key b) ≠ .gt) :
    InOrder key (keepLast (fun a b => key a == key b) l) := by
  fun_induction keepLast (fun a b => key a == key b) l with
  | case1 => exact .nil
  | case2 a => exact List.pairwise_singleton _ a
  | case3 a b rest heq ih => exact ih (fun c hc => h c (.tail _ hc)) hl.tail
  | case4 a b rest hne ih =>
    refine List.pairwise_cons.2 ⟨fun c hc => ?_, ih (fun c hc => h c (.tail _ hc)) hl.tail⟩
    exact compare_lt_of_neighbour hP key h hl hne ((keepLast_sublist _ _).subset hc)

/-- **Of sorted elements the last one with each key is kept.** -/
theorem mem_keepLast {l : List α} (h : ∀ a ∈ l, P (key a))
    (hl : l.Pairwise fun a b => (key a).compare (key b) ≠ .gt) {e : α} :
    e ∈ keepLast (fun a b => key a == key b) l ↔ LastWith key l e := by
  fun_induction keepLast (fun a b => key a == key b) l with
  | case1 => exact iff_of_false List.not_mem_nil fun h => List.not_mem_nil h.mem
  | case2 a =>
    rw [List.mem_singleton, lastWith_cons, or_iff_left fun h => List.not_mem_nil h.mem, eq_comm]
    exact (and_iff_left fun x hx => absurd hx List.not_mem_nil).symm
  | case3 a b rest heq ih =>
    rw [ih (fun c hc => h c (.tail _ hc)) hl.tail, lastWith_cons (a := a)]
    refine (or_iff_right ?_).symm
    rintro ⟨rfl, hlast⟩
    rw [Value.beq_comm, hlast b (.head _)] at heq
    cases heq
  | case4 a b rest hne ih =>
    rw [List.mem_cons, ih (fun c hc => h c (.tail _ hc)) hl.tail, lastWith_cons (a := a),
      eq_comm (a := e)]
    refine or_congr_left (and_iff_left_of_imp ?_).symm
    rintro rfl x hx
    rw [Value.beq_comm]
    exact Value.beq_of_compare_lt (compare_lt_of_neighbour hP key h hl hne hx)

end Comparable

/-! ## Tables -/

/-- A table of entries is in order. -/
theorem inOrder_ofEntries {P : Value → Prop} (hP : Value.Comparable P) {entries : List (Value × α)}
    (h : ∀ e ∈ entries, P e.1) : InOrder Prod.fst (ofEntries entries) :=
  inOrder_keepLast hP Prod.fst (fun e he => h e (mem_sort.1 he)) (pairwise_sort hP Prod.fst h)

/-- **A table of entries holds the last entry with each key.** -/
theorem mem_ofEntries {P : Value → Prop} (hP : Value.Comparable P) {entries : List (Value × α)}
    (h : ∀ e ∈ entries, P e.1) {e : Value × α} :
    e ∈ ofEntries entries ↔ LastWith Prod.fst entries e := by
  have hsorted : ∀ a ∈ sort (fun a b => a.1.isLess b.1) entries, P a.1 :=
    fun a ha => h a (mem_sort.1 ha)
  rw [ofEntries, mem_keepLast hP Prod.fst hsorted (pairwise_sort hP Prod.fst h)]
  by_cases he : P e.1
  case pos =>
    -- The entries with the key of `e` tie with each other, so that sorting keeps their order.
    rw [lastWith_iff_getLast?, lastWith_iff_getLast?, filter_sort (P := fun a => P a.1) ?_ h]
    intro a b ha hb hae hbe
    rw [Value.beq_comm] at hbe
    have hab := hP.eq_trans ha he hb (Value.beq_eq_true_iff.1 hae) (Value.beq_eq_true_iff.1 hbe)
    rw [Value.isLess, hab]
    rfl
  case neg => exact iff_of_false (fun hl => he (hsorted e hl.mem)) fun hl => he (h e hl.mem)

/-- **The table of elements without NaN ascends.** -/
theorem ascending_ofItems {items : List Value} (h : ∀ v ∈ items, v.NoNaN) :
    Ascending (ofItems items) :=
  (inOrder_keepLast Value.comparable_noNaN id (fun v hv => h v (mem_sort.1 hv))
    (pairwise_sort Value.comparable_noNaN id h)).isChain

/-- **The table of entries whose keys are free of NaN ascends.** -/
theorem ascending_ofEntries {entries : List (Value × α)} (h : ∀ e ∈ entries, e.1.NoNaN) :
    Ascending ((ofEntries entries).map (·.1)) :=
  (List.isChain_map _).2 (inOrder_ofEntries Value.comparable_noNaN h).isChain

/-- Ascending keys without NaN put their entries in order. -/
theorem inOrder_of_ascending {entries : List (Value × α)} (hkeys : ∀ e ∈ entries, e.1.NoNaN)
    (h : Ascending (entries.map (·.1))) : InOrder Prod.fst entries := by
  refine pairwise_of_isChain (fun a ha b hb c hc hab hbc => ?_) ((List.isChain_map _).1 h)
  refine Value.comparable_noNaN.lt_of_lt_of_le (hkeys a ha) (hkeys b hb) (hkeys c hc) hab ?_
  rw [hbc]
  nofun

/-- A set has no other items than it was made of. -/
theorem subset_ofItems (items : List Value) : ofItems items ⊆ items :=
  fun _ hv => mem_sort.1 ((keepLast_sublist _ _).subset hv)

/-- A table has no other entries than it was made of. -/
theorem subset_ofEntries (entries : List (Value × α)) : ofEntries entries ⊆ entries :=
  fun _ he => mem_sort.1 ((keepLast_sublist _ _).subset he)

end Table

end Conform
