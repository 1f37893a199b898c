import Conform.Proofs.Literals
import Conform.Proofs.Tables

/-!
# Values and their literals, position by position

The literal of a value without NaN has a value that is in order everywhere: the same one if all sets
and hashes within list their elements and keys in order, and otherwise one that differs.  A set or a
hash that is built from elements or keys without NaN is in order.  Beside a NaN others may be left
out of order, and they stay so when the NaN is dropped.

* `Value.Ordered` — order in every set and hash.
* `Value.SameKinds` — two values have parts of one kind at every position, as equal ones do.
* `Value.ordered_reread`, `Value.reread_beq_iff` — without NaN, what is read is in order, and it
  equals what was written exactly if that was in order.
* `Value.read_back` — the same for the value of the literal.
* `Value.not_always_read_back` — a set without NaN that is not in order.
-/

namespace Conform

namespace Value

/-! ## What is asked of a value -/

/-- A set or a hash whose elements or keys ascend. -/
def ListsInOrder : Value → Prop
  | .set items => Table.Ascending items
  | .hash entries => Table.Ascending (entries.map (·.1))
  | _ => True

/-- A value all of whose sets and hashes are in order. -/
def Ordered (v : Value) : Prop :=
  v.Everywhere ListsInOrder

mutual

/-- Two values of one kind, with parts of one kind at every position.  Integers, decimals and floats
are kinds of their own. -/
def SameKinds : Value → Value → Prop
  | .number a, .number b => a.rank = b.rank
  | .range a c, .range b d => a.rank = b.rank ∧ c.rank = d.rank
  | .array as, .array bs => ItemsSameKinds as bs
  | .set as, .set bs => ItemsSameKinds as bs
  | .hash as, .hash bs => EntriesSameKinds as bs
  | a, b => a.rank = b.rank

/-- The same for two lists, item by item. -/
def ItemsSameKinds : List Value → List Value → Prop
  | [], [] => True
  | a :: as, b :: bs => SameKinds a b ∧ ItemsSameKinds as bs
  | _, _ => False

/-- The same for two lists of entries. -/
def EntriesSameKinds : List (Value × Value) → List (Value × Value) → Prop
  | [], [] => True
  | (k, v) :: as, (l, w) :: bs => SameKinds k l ∧ SameKinds v w ∧ EntriesSameKinds as bs
  | _, _ => False

end

/-! ## Equal values -/

/-- Equal values are of one kind. -/
theorem rank_eq_of_equals {a b : Value} (h : a.equals b = true) : a.rank = b.rank := by
  by_contra hne
  have heq := (compare_eq_iff a b).2 h
  rw [compare_of_rank_ne hne] at heq
  exact hne (Nat.compare_eq_eq.1 heq)

theorem forall₂_of_equalItems {as bs : List Value} (h : equalItems as bs = true) :
    List.Forall₂ (fun a b => a.equals b = true) as bs := by
  induction as generalizing bs with
  | nil => cases bs with
    | nil => exact .nil
    | cons b bs => nomatch h
  | cons a as ih => cases bs with
    | nil => nomatch h
    | cons b bs =>
      obtain ⟨hab, h⟩ := Bool.and_eq_true_iff.1 h
      exact .cons hab (ih h)

/-- Equal lists of entries are equal key by key and value by value. -/
theorem forall₂_of_equalEntries {as bs : List (Value × Value)} (h : equalEntries as bs = true) :
    List.Forall₂ (fun e f => e.1.equals f.1 = true ∧ e.2.equals f.2 = true) as bs := by
  induction as generalizing bs with
  | nil => cases bs with
    | nil => exact .nil
    | cons f bs => nomatch h
  | cons e as ih => cases bs with
    | nil => nomatch h
    | cons f bs =>
      obtain ⟨hpair, h⟩ := Bool.and_eq_true_iff.1 h
      exact .cons (Bool.and_eq_true_iff.1 hpair) (ih h)

/-- Lists whose items are of the same kinds are of the same kinds. -/
theorem itemsSameKinds_of_forall₂ {as bs : List Value}
    (heq : List.Forall₂ (fun a b => a.equals b = true) as bs)
    (h : ∀ a ∈ as, ∀ {b : Value}, a.equals b = true → a.SameKinds b) : ItemsSameKinds as bs := by
  induction heq with
  | nil => trivial
  | cons hab _ ih =>
    exact ⟨h _ List.mem_cons_self hab, ih fun c hc => h c (List.mem_cons_of_mem _ hc)⟩

theorem entriesSameKinds_of_forall₂ {as bs : List (Value × Value)}
    (heq : List.Forall₂ (fun e f => e.1.equals f.1 = true ∧ e.2.equals f.2 = true) as bs)
    (h : ∀ e ∈ as, (∀ {b : Value}, e.1.equals b = true → e.1.SameKinds b) ∧
      ∀ {b : Value}, e.2.equals b = true → e.2.SameKinds b) : EntriesSameKinds as bs := by
  induction heq with
  | nil => trivial
  | cons hef _ ih =>
    obtain ⟨hkey, hvalue⟩ := h _ List.mem_cons_self
    exact ⟨hkey hef.1, hvalue hef.2, ih fun c hc => h c (List.mem_cons_of_mem _ hc)⟩

/-- **Equal values are of one kind at every position.** -/
theorem sameKinds_of_equals {a b : Value} (h : a.equals b = true) : a.SameKinds b := by
  induction a generalizing b with have hrank := rank_eq_of_equals h
  | number n => cases b <;> cases hrank; exact Number.rank_eq_of_beq h
  | range p q =>
    cases b <;> cases hrank
    obtain ⟨hfirst, hlast⟩ := Bool.and_eq_true_iff.1 h
    exact ⟨Number.rank_eq_of_beq hfirst, Number.rank_eq_of_beq hlast⟩
  | array items ih =>
    cases b <;> cases hrank
    exact itemsSameKinds_of_forall₂ (forall₂_of_equalItems h) ih
  | set items ih =>
    cases b <;> cases hrank
    exact itemsSameKinds_of_forall₂ (forall₂_of_equalItems h) ih
  | hash entries ih =>
    cases b <;> cases hrank
    exact entriesSameKinds_of_forall₂ (forall₂_of_equalEntries h) ih
  | _ =>
    cases b <;> cases hrank
    rfl

/-! ## Order is kept by equality -/

/-- Lists without NaN that are equal item by item are both in ascending order, or neither is. -/
theorem ascending_of_forall₂ {as bs : List Value}
    (heq : List.Forall₂ (fun a b => a.equals b = true) as bs) (ha : ∀ a ∈ as, a.NoNaN)
    (hb : ∀ b ∈ bs, b.NoNaN) (h : Table.Ascending as) : Table.Ascending bs := by
  induction heq with
  | nil => exact .nil
  | cons hab htail ih =>
    obtain ⟨hnana, hnanas⟩ := List.forall_mem_cons.1 ha
    obtain ⟨hnanb, hnanbs⟩ := List.forall_mem_cons.1 hb
    have hchain := ih hnanas hnanbs (List.IsChain.tail h)
    cases htail with
    | nil => exact .singleton _
    | cons hab' _ =>
      refine .cons_cons ?_ hchain
      exact compare_lt_congr hnana (hnanas _ List.mem_cons_self) hnanb (hnanbs _ List.mem_cons_self)
        ((compare_eq_iff _ _).2 hab) ((compare_eq_iff _ _).2 hab') (List.isChain_cons_cons.1 h).1

theorem forall₂_keys {as bs : List (Value × Value)}
    (heq : List.Forall₂ (fun e f => e.1.equals f.1 = true ∧ e.2.equals f.2 = true) as bs) :
    List.Forall₂ (fun a b => a.equals b = true) (as.map (·.1)) (bs.map (·.1)) :=
  List.forall₂_map_left_iff.2 (List.forall₂_map_right_iff.2 (heq.imp fun _ _ h => h.1))

theorem noNaN_keys {es : List (Value × Value)} (h : EverywhereAmong NumbersHaveValue es) :
    ∀ k ∈ es.map (·.1), k.NoNaN :=
  List.forall_mem_map.2 fun e he => (everywhereAmong_iff.1 h e he).1

/-- What is equal to a list in order is in order. -/
theorem everywhereIn_of_forall₂ {as bs : List Value}
    (heq : List.Forall₂ (fun a b => a.equals b = true) as bs)
    (h : ∀ a ∈ as, ∀ {b : Value}, a.equals b = true → a.NoNaN → b.NoNaN → a.Ordered → b.Ordered)
    (ha : EverywhereIn NumbersHaveValue as) (hb : EverywhereIn NumbersHaveValue bs)
    (ho : EverywhereIn ListsInOrder as) : EverywhereIn ListsInOrder bs := by
  induction heq with
  | nil => trivial
  | cons hab _ ih =>
    exact ⟨h _ List.mem_cons_self hab ha.1 hb.1 ho.1,
      ih (fun c hc => h c (List.mem_cons_of_mem _ hc)) ha.2 hb.2 ho.2⟩

/-- What is equal to entries in order is in order. -/
theorem everywhereAmong_of_forall₂ {as bs : List (Value × Value)}
    (heq : List.Forall₂ (fun e f => e.1.equals f.1 = true ∧ e.2.equals f.2 = true) as bs)
    (h : ∀ e ∈ as,
      (∀ {b : Value}, e.1.equals b = true → e.1.NoNaN → b.NoNaN → e.1.Ordered → b.Ordered) ∧
      ∀ {b : Value}, e.2.equals b = true → e.2.NoNaN → b.NoNaN → e.2.Ordered → b.Ordered)
    (ha : EverywhereAmong NumbersHaveValue as) (hb : EverywhereAmong NumbersHaveValue bs)
    (ho : EverywhereAmong ListsInOrder as) : EverywhereAmong ListsInOrder bs := by
  induction heq with
  | nil => trivial
  | cons hef _ ih =>
    obtain ⟨hkey, hvalue⟩ := h _ List.mem_cons_self
    exact ⟨hkey hef.1 ha.1 hb.1 ho.1, hvalue hef.2 ha.2.1 hb.2.1 ho.2.1,
      ih (fun c hc => h c (List.mem_cons_of_mem _ hc)) ha.2.2 hb.2.2 ho.2.2⟩

/-- What equals a value in order is in order. -/
theorem ordered_of_equals {a b : Value} (h : a.equals b = true) (ha : a.NoNaN) (hb : b.NoNaN)
    (ho : a.Ordered) : b.Ordered := by
  induction a generalizing b with have hrank := rank_eq_of_equals h
  | array items ih =>
    cases b <;> cases hrank
    exact ⟨trivial, everywhereIn_of_forall₂ (forall₂_of_equalItems h) ih ha.2 hb.2 ho.2⟩
  | set items ih =>
    cases b <;> cases hrank
    have heq := forall₂_of_equalItems h
    refine ⟨?_, everywhereIn_of_forall₂ heq ih ha.2 hb.2 ho.2⟩
    exact ascending_of_forall₂ heq (everywhereIn_iff.1 ha.2) (everywhereIn_iff.1 hb.2) ho.1
  | hash entries ih =>
    cases b <;> cases hrank
    have heq := forall₂_of_equalEntries h
    refine ⟨?_, everywhereAmong_of_forall₂ heq ih ha.2 hb.2 ho.2⟩
    exact ascending_of_forall₂ (forall₂_keys heq) (noNaN_keys ha.2) (noNaN_keys hb.2) ho.1
  | _ =>
    cases b <;> cases hrank
    trivial

/-! ## Put in order -/

mutual

/-- What is in order stays as it is. -/
theorem reread_of_ordered : (v : Value) → v.Ordered → v.reread = v
  | .nil, _ => rfl
  | .bool _, _ => rfl
  | .number _, _ => rfl
  | .symbol _, _ => rfl
  | .string _, _ => rfl
  | .date _, _ => rfl
  | .dateTime _, _ => rfl
  | .time _, _ => rfl
  | .range .., _ => rfl
  | .marker _, _ => rfl
  | .array items, ho => congrArg array (itemsReread_of_ordered items ho.2)
  | .set items, ho => by
    rw [reread, itemsReread_of_ordered items ho.2]
    exact congrArg set (Table.ofItems_of_ascending ho.1)
  | .hash entries, ho => by
    rw [reread, entriesReread_of_ordered entries ho.2]
    exact congrArg hash (Table.ofEntries_of_ascending ho.1)
  | .undefined, _ => rfl

theorem itemsReread_of_ordered :
    (vs : List Value) → EverywhereIn ListsInOrder vs → itemsReread vs = vs
  | [], _ => rfl
  | v :: vs, ho => by rw [itemsReread, reread_of_ordered v ho.1, itemsReread_of_ordered vs ho.2]

theorem entriesReread_of_ordered : (es : List (Value × Value)) → EverywhereAmong ListsInOrder es →
    entriesReread es = es
  | [], _ => rfl
  | (k, v) :: rest, ho => by
    rw [entriesReread, reread_of_ordered k ho.1, reread_of_ordered v ho.2.1,
      entriesReread_of_ordered rest ho.2.2]

end

/-- What a set of elements without NaN, in order themselves, is like. -/
theorem ordered_setOf {items : List Value} (hnan : EverywhereIn NumbersHaveValue items)
    (ho : EverywhereIn ListsInOrder items) : (setOf items).NoNaN ∧ (setOf items).Ordered := by
  have hsub := Table.subset_ofItems items
  rw [everywhereIn_iff] at hnan ho
  refine ⟨⟨trivial, everywhereIn_iff.2 fun v hv => hnan v (hsub hv)⟩, ?_, ?_⟩
  · exact Table.ascending_ofItems hnan
  · exact everywhereIn_iff.2 fun v hv => ho v (hsub hv)

/-- A hash of entries in order is in order. -/
theorem ordered_hashOf {entries : List (Value × Value)}
    (hnan : EverywhereAmong NumbersHaveValue entries) (ho : EverywhereAmong ListsInOrder entries) :
    (hashOf entries).NoNaN ∧ (hashOf entries).Ordered := by
  have hsub := Table.subset_ofEntries entries
  rw [everywhereAmong_iff] at hnan ho
  refine ⟨⟨trivial, everywhereAmong_iff.2 fun e he => hnan e (hsub he)⟩, ?_, ?_⟩
  · exact Table.ascending_ofEntries fun e he => (hnan e he).1
  · exact everywhereAmong_iff.2 fun e he => ho e (hsub he)

mutual

/-- **Without NaN everything is put in order.** -/
theorem ordered_reread : (v : Value) → v.NoNaN → v.reread.NoNaN ∧ v.reread.Ordered
  | .nil, _ => ⟨trivial, trivial⟩
  | .bool _, _ => ⟨trivial, trivial⟩
  | .number _, hn => ⟨hn, trivial⟩
  | .symbol _, _ => ⟨trivial, trivial⟩
  | .string _, _ => ⟨trivial, trivial⟩
  | .date _, _ => ⟨trivial, trivial⟩
  | .dateTime _, _ => ⟨trivial, trivial⟩
  | .time _, _ => ⟨trivial, trivial⟩
  | .range .., hn => ⟨hn, trivial⟩
  | .marker _, _ => ⟨trivial, trivial⟩
  | .array items, hn => by
    obtain ⟨hnan, ho⟩ := ordered_itemsReread items hn.2
    exact ⟨⟨trivial, hnan⟩, trivial, ho⟩
  | .set items, hn => by
    obtain ⟨hnan, ho⟩ := ordered_itemsReread items hn.2
    exact ordered_setOf hnan ho
  | .hash entries, hn => by
    obtain ⟨hnan, ho⟩ := ordered_entriesReread entries hn.2
    exact ordered_hashOf hnan ho
  | .undefined, _ => ⟨trivial, trivial⟩

/-- Items that are read back come in order, and without NaN if there was none. -/
theorem ordered_itemsReread : (vs : List Value) → EverywhereIn NumbersHaveValue vs →
    EverywhereIn NumbersHaveValue (itemsReread vs) ∧ EverywhereIn ListsInOrder (itemsReread vs)
  | [], _ => ⟨trivial, trivial⟩
  | v :: vs, hn => by
    obtain ⟨hnan, ho⟩ := ordered_reread v hn.1
    obtain ⟨hnans, hos⟩ := ordered_itemsReread vs hn.2
    exact ⟨⟨hnan, hnans⟩, ho, hos⟩

theorem ordered_entriesReread : (es : List (Value × Value)) → EverywhereAmong NumbersHaveValue es →
    EverywhereAmong NumbersHaveValue (entriesReread es) ∧
    EverywhereAmong ListsInOrder (entriesReread es)
  | [], _ => ⟨trivial, trivial⟩
  | (k, v) :: rest, hn => by
    obtain ⟨hnank, hok⟩ := ordered_reread k hn.1
    obtain ⟨hnanv, hov⟩ := ordered_reread v hn.2.1
    obtain ⟨hnans, hos⟩ := ordered_entriesReread rest hn.2.2
    exact ⟨⟨hnank, hnanv, hnans⟩, hok, hov, hos⟩

end

/-- **What was out of order shows**: put in order, it is another value. -/
theorem reread_beq_iff {v : Value} (hnan : v.NoNaN) : (v.reread == v) = true ↔ v.Ordered := by
  obtain ⟨hnan', ho⟩ := ordered_reread v hnan
  constructor
  · intro heq
    rw [beq_eq_equals] at heq
    exact ordered_of_equals heq hnan' hnan ho
  · intro hv
    rw [reread_of_ordered v hv]
    exact beq_self v

/-- **A value without NaN is read back from its literal if its sets and hashes are in order**, and
only then.  In any case the literal has a value, which is free of NaN and in order; if it equals the
one that was written, it is of the same kind at every position.  Moments are such that their texts
tell them: in their years, and in the offset and the leap second of their clocks. -/
theorem read_back (v : Value) (hnan : v.NoNaN) (hyears : v.PlainYears) (hclocks : v.PlainClocks) :
    ∃ w, v.toLiteral.toValue = .ok w ∧ w.NoNaN ∧ w.Ordered ∧ ((w == v) = true ↔ v.Ordered) ∧
      (v.Ordered → w.SameKinds v) := by
  obtain ⟨hnan', ho⟩ := ordered_reread v hnan
  have hiff := reread_beq_iff hnan
  refine ⟨v.reread, Literal.toValue_toLiteral v (writable_of_plain hyears hclocks), hnan', ho, hiff,
    ?_⟩
  intro hv
  have hequal := hiff.2 hv
  rw [beq_eq_equals] at hequal
  exact sameKinds_of_equals hequal

/-- The number two as an integer, a decimal and a float, beside a moment. -/
def twos : Value :=
  .hash [
    (.symbol "two", .set [integer 2, .number (.decimal (.ofInt 2)), .number (.float (.ofInt 2))]),
    (.string "two", .time default)]

theorem read_back_twos :
    ∃ w, twos.toLiteral.toValue = .ok w ∧ (w == twos) = true ∧ w.SameKinds twos := by
  have hnan : twos.NoNaN :=
    ⟨trivial, trivial, ⟨trivial, Number.hasValue_integer 2, Number.hasValue_decimal (.ofInt 2),
      Number.hasValue_ofInt 2, trivial⟩, trivial, trivial, trivial⟩
  have hyear : (default : Timestamp).HasPlainYear := by decide
  have hyears : twos.PlainYears :=
    ⟨trivial, trivial, ⟨trivial, trivial, trivial, trivial, trivial⟩, trivial, hyear, trivial⟩
  have hclock : (default : Timestamp).HasPlainClock := by decide
  have hclocks : twos.PlainClocks :=
    ⟨trivial, trivial, ⟨trivial, trivial, trivial, trivial, trivial⟩, trivial, hclock, trivial⟩
  have hset :
      Table.Ascending [integer 2, .number (.decimal (.ofInt 2)), .number (.float (.ofInt 2))] :=
    .cons_cons (by decide +kernel) (.cons_cons (by decide +kernel) (.singleton _))
  have hkeys : Table.Ascending [.symbol "two", .string "two"] := .cons_cons rfl (.singleton _)
  have hordered : twos.Ordered :=
    ⟨hkeys, trivial, ⟨hset, trivial, trivial, trivial, trivial⟩, trivial, trivial, trivial⟩
  obtain ⟨w, hw, -, -, hiff, hkinds⟩ := read_back twos hnan hyears hclocks
  exact ⟨w, hw, hiff.2 hordered, hkinds hordered⟩

/-! ## Out of order -/

/-- Two pairs in a set, in the order in which a NaN between them left them. -/
def disordered : Value :=
  .set [floatBeside (.ofInt 3) 1, floatBeside (.ofInt 1) 2]

theorem noNaN_disordered : disordered.NoNaN :=
  ⟨trivial, ⟨trivial, Number.hasValue_ofInt 3, Number.hasValue_integer 1, trivial⟩,
    ⟨trivial, Number.hasValue_ofInt 1, Number.hasValue_integer 2, trivial⟩, trivial⟩

theorem plainYears_disordered : disordered.PlainYears :=
  ⟨trivial, ⟨trivial, trivial, trivial, trivial⟩, ⟨trivial, trivial, trivial, trivial⟩, trivial⟩

theorem plainClocks_disordered : disordered.PlainClocks :=
  ⟨trivial, ⟨trivial, trivial, trivial, trivial⟩, ⟨trivial, trivial, trivial, trivial⟩, trivial⟩

theorem reread_disordered :
    disordered.reread = .set [floatBeside (.ofInt 1) 2, floatBeside (.ofInt 3) 1] := by
  have hless :
      (floatBeside (.ofInt 1) 2).isLess (floatBeside (.ofInt 3) 1) = true := by decide +kernel
  have hne : (floatBeside (.ofInt 1) 2 == floatBeside (.ofInt 3) 1) = false := by decide +kernel
  have hitems : disordered.reread = setOf [floatBeside (.ofInt 3) 1, floatBeside (.ofInt 1) 2] :=
    rfl
  rw [hitems]
  simp [setOf, Table.ofItems, Table.sort, Table.placeDescending, Table.keepLast, hless, hne]

theorem not_ordered_disordered : ¬disordered.Ordered := by
  rw [← reread_beq_iff noNaN_disordered, reread_disordered]
  decide +kernel

/-- A set that lost its NaN when it was built, yet not the disorder that the NaN brought about: it
is read back as another set. -/
theorem not_always_read_back :
    setOf [floatBeside (.ofInt 3) 1, floatBeside .nan 2, floatBeside (.ofInt 1) 2] = disordered ∧
    disordered.NoNaN ∧ disordered.PlainYears ∧ disordered.PlainClocks ∧
    disordered.toLiteral.toValue = .ok (.set [floatBeside (.ofInt 1) 2, floatBeside (.ofInt 3) 1]) ∧
    (Value.set [floatBeside (.ofInt 1) 2, floatBeside (.ofInt 3) 1] == disordered) = false := by
  -- the NaN ties with both floats, so the integers beside them decide
  have hle : (floatBeside .nan 2).isLess (floatBeside (.ofInt 3) 1) = false := by decide +kernel
  have hle' : (floatBeside (.ofInt 1) 2).isLess (floatBeside .nan 2) = false := by decide +kernel
  have hne : (floatBeside (.ofInt 3) 1 == floatBeside .nan 2) = false := by decide +kernel
  have heq : (floatBeside .nan 2 == floatBeside (.ofInt 1) 2) = true := by decide +kernel
  have hwritable := writable_of_plain plainYears_disordered plainClocks_disordered
  refine ⟨?_, noNaN_disordered, plainYears_disordered, plainClocks_disordered, ?_, ?_⟩
  · simp [disordered, setOf, Table.ofItems, Table.sort, Table.placeDescending, Table.keepLast, hle,
      hle', hne, heq]
  · rw [Literal.toValue_toLiteral disordered hwritable, reread_disordered]
  · decide +kernel

end Value

end Conform
