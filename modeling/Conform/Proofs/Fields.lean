import Conform.Proofs.Tables

/-!
# Looking up and inserting

The tables of schemas are searched from the front and left at the first greater key.  Where the keys
are in order and comparing them is transitive, nothing is missed: the search finds exactly the entry
whose key ties with the given one, and an insertion changes what is found under that key only.  Of
insertions in a row under one key it is the last that counts.

* `Table.Has`, `Table.Lacks` — what stands under a key, as membership.
* `Table.get?_eq_some_iff`, `Table.get?_eq_none_iff` — the search finds just that.
* `Table.mem_insert` — the entries after an insertion under a new key.
* `Table.inOrder_insert` — an insertion keeps the keys in order.
* `Table.foldl_insert_of_inOrder` — entries that come in order are put in one behind the other.
* `Table.has_insert`, `Table.has_foldl_insert` — what stands under a key after one insertion, and
  after many.
-/

namespace Conform

namespace Value

variable {a b : Value}

/-- One value is greater than another exactly if the other is less, NaN included. -/
theorem compare_eq_gt_iff : a.compare b = .gt ↔ b.compare a = .lt := by
  rw [← swap_compare a b]
  cases a.compare b <;> decide

theorem compare_ne_gt_of_beq (h : (a == b) = true) : a.compare b ≠ .gt := by
  rw [beq_eq_true_iff.1 h]
  nofun

end Value

namespace Table

variable {α : Type} {entries : List (Value × α)} {key : Value} {value : α}

/-! ## Looking up -/

/-- The value is there under a key that ties with the given one. -/
def Has (entries : List (Value × α)) (key : Value) (value : α) : Prop :=
  ∃ k, (k, value) ∈ entries ∧ (k == key) = true

/-- No key ties with the given one. -/
def Lacks (entries : List (Value × α)) (key : Value) : Prop :=
  ∀ e ∈ entries, (e.1 == key) = false

theorem not_has_nil : ¬Has ([] : List (Value × α)) key value :=
  fun ⟨_, hmem, _⟩ => List.not_mem_nil hmem

/-- An entry is the first one, if its key is the one asked for, or is among the rest. -/
theorem has_cons {k : Value} {v : α} :
    Has ((k, v) :: entries) key value ↔
      ((k == key) = true ∧ v = value) ∨ Has entries key value := by
  constructor
  · rintro ⟨k', hmem, htie⟩
    rcases List.mem_cons.1 hmem with heq | hrest
    · cases heq
      exact .inl ⟨htie, rfl⟩
    · exact .inr ⟨k', hrest, htie⟩
  · rintro (⟨htie, rfl⟩ | ⟨k', hmem, htie⟩)
    · exact ⟨k, List.mem_cons_self, htie⟩
    · exact ⟨k', .tail _ hmem, htie⟩

/-- A key is lacking exactly if there is no value for it. -/
theorem lacks_iff : Lacks entries key ↔ ∀ value, ¬Has entries key value := by
  constructor
  · rintro h value ⟨k, hmem, htie⟩
    exact absurd htie (Bool.eq_false_iff.1 (h _ hmem))
  · exact fun h e he => Bool.eq_false_iff.2 fun htie => h e.2 ⟨e.1, he, htie⟩

section Comparable

variable {P : Value → Prop} (hP : Value.Comparable P)

include hP

/-- Behind a key nothing ties with what is no greater. -/
theorem not_has_of_le {k₀ : Value} (hless : ∀ e ∈ entries, k₀.compare e.1 = .lt)
    (h : ∀ e ∈ entries, P e.1) (hk₀ : P k₀) (hkey : P key) (hle : key.compare k₀ ≠ .gt) :
    ¬Has entries key value :=
  lacks_iff.1 (fun e he => by
    rw [Value.beq_comm]
    exact Value.beq_of_compare_lt (hP.lt_of_le_of_lt hkey hk₀ (h e he) hle (hless e he))) value

/-- **The value under a key** is that of the entry whose key ties with it. -/
theorem get?_eq_some_iff (hs : InOrder Prod.fst entries) (h : ∀ e ∈ entries, P e.1) (hkey : P key) :
    get? key entries = some value ↔ Has entries key value := by
  induction entries with
  | nil => exact iff_of_false nofun not_has_nil
  | cons e rest ih =>
    obtain ⟨k₀, v₀⟩ := e
    obtain ⟨hless, hs⟩ := List.pairwise_cons.1 hs
    obtain ⟨hk₀, h⟩ := List.forall_mem_cons.1 h
    have hlater : key.compare k₀ ≠ .gt → ¬Has rest key value :=
      not_has_of_le hP hless h hk₀ hkey
    rw [get?, has_cons, Value.beq_comm k₀, Value.beq_eq_true_iff]
    cases hcmp : key.compare k₀ with
    | lt =>
      have hrest := hlater (by rw [hcmp]; nofun)
      exact iff_of_false nofun (not_or.2 ⟨(fun h => nomatch h.1), hrest⟩)
    | eq =>
      rw [or_iff_left (hlater (by rw [hcmp]; nofun)), and_iff_right rfl]
      exact Option.some_inj
    | gt => rw [ih hs h, or_iff_right fun h => nomatch h.1]

/-- In a table in order, a key is not found exactly if it is lacking. -/
theorem get?_eq_none_iff (hs : InOrder Prod.fst entries) (h : ∀ e ∈ entries, P e.1) (hkey : P key) :
    get? key entries = none ↔ Lacks entries key := by
  rw [Option.eq_none_iff_forall_ne_some, lacks_iff]
  exact forall_congr' fun v => not_congr (get?_eq_some_iff hP hs h hkey)

end Comparable

/-! ## Inserting -/

/-- Under a new key an insertion adds one entry. -/
theorem mem_insert (hnew : Lacks entries key) {e : Value × α} :
    e ∈ insert key value entries ↔ e = (key, value) ∨ e ∈ entries := by
  induction entries with
  | nil => rw [insert, List.mem_cons]
  | cons f rest ih =>
    obtain ⟨k₀, v₀⟩ := f
    obtain ⟨hnew₀, hnew⟩ := List.forall_mem_cons.1 hnew
    rw [insert]
    cases hcmp : key.compare k₀ with
    | lt => exact List.mem_cons
    | eq =>
      rw [Value.beq_comm, Value.beq_eq_true_iff.2 hcmp] at hnew₀
      cases hnew₀
    | gt => rw [List.mem_cons, ih hnew, List.mem_cons, or_left_comm]

/-- An insertion leaves its value behind. -/
theorem exists_mem_insert (key : Value) (value : α) (entries : List (Value × α)) :
    ∃ k, (k, value) ∈ insert key value entries := by
  induction entries with
  | nil => exact ⟨key, List.mem_singleton_self _⟩
  | cons f rest ih =>
    obtain ⟨k₀, v₀⟩ := f
    rw [insert]
    split
    · exact ⟨key, List.mem_cons_self⟩
    · exact ⟨k₀, List.mem_cons_self⟩
    · obtain ⟨k, hk⟩ := ih
      exact ⟨k, .tail _ hk⟩

/-- The keys after an insertion are those before it and the new one. -/
theorem key_of_mem_insert {e : Value × α} (he : e ∈ insert key value entries) :
    e.1 = key ∨ ∃ f ∈ entries, f.1 = e.1 := by
  induction entries with
  | nil => exact .inl (by rw [List.mem_singleton.1 he])
  | cons f rest ih =>
    obtain ⟨k₀, v₀⟩ := f
    rw [insert] at he
    split at he
    · rcases List.mem_cons.1 he with rfl | he
      · exact .inl rfl
      · exact .inr ⟨e, he, rfl⟩
    · rcases List.mem_cons.1 he with rfl | he
      · exact .inr ⟨_, List.mem_cons_self, rfl⟩
      · exact .inr ⟨e, .tail _ he, rfl⟩
    · rcases List.mem_cons.1 he with rfl | he
      · exact .inr ⟨_, List.mem_cons_self, rfl⟩
      · rcases ih he with hkey | ⟨f, hf, hkey⟩
        · exact .inl hkey
        · exact .inr ⟨f, .tail _ hf, hkey⟩

/-- A table holds the keys that it held and the one that is put in. -/
theorem forall_mem_insert {P : Value → Prop} (h : ∀ e ∈ entries, P e.1) (hkey : P key) :
    ∀ e ∈ insert key value entries, P e.1 := by
  intro e he
  rcases key_of_mem_insert he with hnew | ⟨f, hf, hold⟩
  · exact hnew ▸ hkey
  · exact hold ▸ h f hf

/-- The keys after insertions in a row are those before them and the new ones. -/
theorem forall_mem_foldl_insert {P : Value → Prop} {added : List (Value × α)}
    (h : ∀ e ∈ entries, P e.1) (hadded : ∀ e ∈ added, P e.1) :
    ∀ e ∈ added.foldl (fun t e => insert e.1 e.2 t) entries, P e.1 := by
  induction added generalizing entries with
  | nil => exact h
  | cons e added ih =>
    obtain ⟨hkey, hadded⟩ := List.forall_mem_cons.1 hadded
    exact ih (forall_mem_insert h hkey) hadded

/-- A table in order stays so when an entry is put in. -/
theorem inOrder_insert {P : Value → Prop} (hP : Value.Comparable P) (hs : InOrder Prod.fst entries)
    (h : ∀ e ∈ entries, P e.1) (hkey : P key) : InOrder Prod.fst (insert key value entries) := by
  induction entries with
  | nil => exact List.pairwise_singleton _ _
  | cons f rest ih =>
    obtain ⟨k₀, v₀⟩ := f
    obtain ⟨hless, hrest⟩ := List.pairwise_cons.1 hs
    obtain ⟨hk₀, h⟩ := List.forall_mem_cons.1 h
    rw [insert]
    cases hcmp : key.compare k₀ with
    | lt =>
      refine List.pairwise_cons.2 ⟨fun e he => ?_, hs⟩
      rcases List.mem_cons.1 he with rfl | he
      · exact hcmp
      · exact hP.lt_of_lt_of_le hkey hk₀ (h e he) hcmp (by rw [hless e he]; nofun)
    | eq => exact List.pairwise_cons.2 ⟨hless, hrest⟩
    | gt =>
      refine List.pairwise_cons.2 ⟨fun e he => ?_, ih hrest h⟩
      rcases key_of_mem_insert he with hnew | ⟨f, hf, hold⟩
      · rw [hnew]
        exact Value.compare_eq_gt_iff.1 hcmp
      · rw [← hold]
        exact hless f hf

/-- An entry whose key comes after all others is put at the end. -/
theorem insert_of_lt (h : ∀ e ∈ entries, e.1.compare key = .lt) :
    insert key value entries = entries ++ [(key, value)] := by
  induction entries with
  | nil => rfl
  | cons e rest ih =>
    obtain ⟨he, hrest⟩ := List.forall_mem_cons.1 h
    rw [insert, Value.compare_eq_gt_iff.2 he]
    dsimp only
    rw [ih hrest, List.cons_append]

/-- Entries that come in order are put one behind the other. -/
theorem foldl_insert_of_inOrder {added : List (Value × α)}
    (h : InOrder Prod.fst (entries ++ added)) :
    added.foldl (fun t e => insert e.1 e.2 t) entries = entries ++ added := by
  induction added generalizing entries with
  | nil => exact (List.append_nil entries).symm
  | cons e added ih =>
    have hlt : ∀ f ∈ entries, f.1.compare e.1 = .lt := fun f hf =>
      (List.pairwise_append.1 h).2.2 f hf e List.mem_cons_self
    rw [List.append_cons] at h ⊢
    rw [List.foldl_cons, insert_of_lt hlt, ih h]

/-! ## What stands under a key after insertions -/

section Insertions

variable {P : Value → Prop} (hP : Value.Comparable P) {k : Value} {v : α}

include hP

/-- An insertion puts its value under its key and leaves what is under other keys. -/
theorem has_insert (hs : InOrder Prod.fst entries) (h : ∀ e ∈ entries, P e.1) (hkey : P key)
    (hk : P k) :
    Has (insert key value entries) k v ↔
      ((key == k) = true ∧ value = v) ∨ ((key == k) = false ∧ Has entries k v) := by
  induction entries with
  | nil => rw [insert, has_cons, or_iff_left not_has_nil, or_iff_left fun h => not_has_nil h.2]
  | cons e rest ih =>
    obtain ⟨k₀, v₀⟩ := e
    obtain ⟨hless, hrest⟩ := List.pairwise_cons.1 hs
    obtain ⟨hk₀, hPrest⟩ := List.forall_mem_cons.1 h
    rw [insert, Value.beq_comm key]
    cases hcmp : key.compare k₀ with
    | lt =>
      -- the old keys are all greater, so that none of them ties where the new one does
      have hlt : ∀ e ∈ (k₀, v₀) :: rest, key.compare e.1 = .lt := List.forall_mem_cons.2
        ⟨hcmp, fun e he => hP.lt_of_lt_of_le hkey hk₀ (hPrest e he) hcmp
          (by rw [hless e he]; nofun)⟩
      dsimp only
      rw [has_cons, Value.beq_comm key]
      cases htie : k == key with
      | true => simp [not_has_of_le hP hlt h hkey hk (Value.compare_ne_gt_of_beq htie)]
      | false => simp
    | eq =>
      -- the old key stays, and ties with the same keys as the new one
      have hsame : (k == k₀) = (k == key) :=
        hP.beq_congr_right hk hk₀ hkey (Value.beq_comm k₀ key ▸ Value.beq_eq_true_iff.2 hcmp)
      dsimp only
      rw [has_cons, has_cons, Value.beq_comm k₀, hsame]
      cases htie : k == key with
      | true =>
        have hle := Value.compare_ne_gt_of_beq (hsame.trans htie)
        simp [not_has_of_le hP hless hPrest hk₀ hk hle]
      | false => simp
    | gt =>
      dsimp only
      rw [has_cons, ih hrest hPrest, has_cons, Value.beq_comm key]
      cases htie : k == key with
      | true =>
        have hne : (k₀ == k) = false := Value.beq_of_compare_lt (hP.lt_of_lt_of_le hk₀ hkey hk
          (Value.compare_eq_gt_iff.1 hcmp)
            (Value.compare_ne_gt_of_beq (Value.beq_comm k key ▸ htie)))
        simp [hne]
      | false => simp

section InARow

variable {added : List (Value × α)} (hs : InOrder Prod.fst entries) (h : ∀ e ∈ entries, P e.1)
  (hadded : ∀ e ∈ added, P e.1)

include hs h hadded

theorem inOrder_foldl_insert :
    InOrder Prod.fst (added.foldl (fun t e => insert e.1 e.2 t) entries) := by
  induction added generalizing entries with
  | nil => exact hs
  | cons e added ih =>
    obtain ⟨hkey, hadded⟩ := List.forall_mem_cons.1 hadded
    exact ih (inOrder_insert hP hs h hkey) (forall_mem_insert h hkey) hadded

/-- **Of insertions under one key the last counts.** -/
theorem has_foldl_insert (hk : P k) :
    Has (added.foldl (fun t e => insert e.1 e.2 t) entries) k v ↔
      (∃ l, LastWith Prod.fst added (l, v) ∧ (l == k) = true) ∨
      Lacks added k ∧ Has entries k v := by
  induction added generalizing entries with
  | nil =>
    rw [or_iff_right fun ⟨l, hlast, _⟩ => List.not_mem_nil hlast.mem]
    exact (and_iff_right fun e he => absurd he List.not_mem_nil).symm
  | cons e added ih =>
    obtain ⟨a, b⟩ := e
    obtain ⟨ha, hadded⟩ := List.forall_mem_cons.1 hadded
    have hlater (htie : (a == k) = true) : (∀ e ∈ added, (e.1 == a) = false) ↔ Lacks added k :=
      forall₂_congr fun e he => by rw [hP.beq_congr_right (hadded e he) ha hk htie]
    rw [List.foldl_cons, ih (inOrder_insert hP hs h ha) (forall_mem_insert h ha) hadded,
      has_insert hP hs h ha hk]
    simp only [lastWith_cons, Prod.mk.injEq, Lacks, List.forall_mem_cons]
    constructor
    · rintro (⟨l, hlast, htie⟩ | ⟨hlacks, ⟨htie, rfl⟩ | ⟨htie, hhas⟩⟩)
      · exact .inl ⟨l, .inr hlast, htie⟩
      · exact .inl ⟨a, .inl ⟨⟨rfl, rfl⟩, (hlater htie).2 hlacks⟩, htie⟩
      · exact .inr ⟨⟨htie, hlacks⟩, hhas⟩
    · rintro (⟨l, ⟨⟨rfl, rfl⟩, hlast⟩ | hlast, htie⟩ | ⟨⟨htie, hlacks⟩, hhas⟩)
      · exact .inr ⟨(hlater htie).1 hlast, .inl ⟨htie, rfl⟩⟩
      · exact .inl ⟨l, hlast, htie⟩
      · exact .inr ⟨hlacks, .inr ⟨htie, hhas⟩⟩

end InARow

end Insertions

end Table

end Conform
