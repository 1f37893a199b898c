import Conform.Named
import Mathlib.Data.String.Basic

/-!
# Laws of named lists

A named list holds the last thing that was placed under each name, in ascending order of the names.

* `Named.find?_ofList` — what a list of pairs gives for a name is its last pair with that name.
* `Named.Ascending` — the order of the names; `place` keeps it, and a list that is in order already
  is its own named list.
* `Named.Ascending.ext` — such a list is given by what is found in it.
-/

namespace Conform.Named

variable {α : Type}

/-- A name is found in the first list, or else in the second. -/
theorem find?_append (name : String) (l k : List (String × α)) :
    find? name (l ++ k) = (find? name l).or (find? name k) := by
  induction l with
  | nil => rfl
  | cons p l ih =>
    obtain ⟨n, a⟩ := p
    simp only [List.cons_append, find?]
    split
    · rfl
    · exact ih

/-- Of entries put in one after another, the last one of a name is found. -/
theorem find?_foldl_place (name : String) (pairs l : List (String × α)) :
    find? name (pairs.foldl (fun named p => place p.1 p.2 named) l) =
      (find? name pairs.reverse).or (find? name l) := by
  induction pairs generalizing l with
  | nil => rfl
  | cons p pairs ih =>
    obtain ⟨n, a⟩ := p
    rw [List.foldl_cons, ih, List.reverse_cons, find?_append, find?_place, Option.or_assoc]
    congr 1
    simp only [find?]
    split <;> rfl

/-- The last pair with a name is the one that is found. -/
theorem find?_ofList (name : String) (pairs : List (String × α)) :
    find? name (ofList pairs) = find? name pairs.reverse := by
  rw [ofList, find?_foldl_place]
  exact Option.or_none

theorem mem_of_find? {name : String} {l : List (String × α)} {a : α} (h : find? name l = some a) :
    (name, a) ∈ l := by
  induction l with
  | nil => cases h
  | cons p l ih =>
    obtain ⟨n, b⟩ := p
    simp only [find?] at h
    split at h
    · next hn =>
      cases h
      exact hn ▸ List.mem_cons_self
    · exact List.mem_cons_of_mem _ (ih h)

/-! ## Order -/

/-- The names are in ascending order, without repetition. -/
def Ascending (l : List (String × α)) : Prop :=
  l.Pairwise fun p q => p.1 < q.1

/-- Placing a thing keeps the names that were there and adds its own. -/
theorem mem_place {name : String} {a : α} {l : List (String × α)} {p : String × α}
    (hp : p ∈ place name a l) : p = (name, a) ∨ p ∈ l := by
  induction l with
  | nil => exact .inl (List.mem_singleton.1 hp)
  | cons q l ih =>
    obtain ⟨n, b⟩ := q
    simp only [place] at hp
    split at hp
    · rcases List.mem_cons.1 hp with h | h
      · exact .inl h
      · exact .inr (List.mem_cons_of_mem _ h)
    · split at hp
      · rcases List.mem_cons.1 hp with h | h
        · exact .inl h
        · exact .inr h
      · rcases List.mem_cons.1 hp with h | h
        · exact .inr (h ▸ List.mem_cons_self)
        · exact (ih h).imp_right (List.mem_cons_of_mem _)

/-- Names in ascending order stay so when one is put in. -/
theorem Ascending.place {l : List (String × α)} (hl : Ascending l) (name : String) (a : α) :
    Ascending (place name a l) := by
  induction l with
  | nil => exact List.pairwise_singleton _ _
  | cons q l ih =>
    obtain ⟨n, b⟩ := q
    obtain ⟨hq, hl'⟩ := List.pairwise_cons.1 hl
    simp only [Named.place]
    split
    · next h =>
      subst h
      exact List.pairwise_cons.2 ⟨hq, hl'⟩
    · next hne =>
      split
      · next hlt =>
        refine List.pairwise_cons.2 ⟨?_, hl⟩
        intro p hp
        rcases List.mem_cons.1 hp with rfl | hp
        · exact hlt
        · exact lt_trans hlt (hq p hp)
      · next hnlt =>
        refine List.pairwise_cons.2 ⟨?_, ih hl'⟩
        intro p hp
        rcases mem_place hp with rfl | hp
        · exact lt_of_le_of_ne (not_lt.1 hnlt) hne
        · exact hq p hp

theorem Ascending.foldl_place {l : List (String × α)} (hl : Ascending l) (k : List (String × α)) :
    Ascending (k.foldl (fun named p => Named.place p.1 p.2 named) l) := by
  induction k generalizing l with
  | nil => exact hl
  | cons p k ih => exact ih (hl.place p.1 p.2)

/-- A thing whose name comes after all others is placed at the end. -/
theorem place_of_lt {name : String} {a : α} {l : List (String × α)} (h : ∀ p ∈ l, p.1 < name) :
    place name a l = l ++ [(name, a)] := by
  induction l with
  | nil => rfl
  | cons q l ih =>
    obtain ⟨n, b⟩ := q
    have hn : n < name := h (n, b) List.mem_cons_self
    rw [place, if_neg hn.ne, if_neg hn.asymm, ih fun p hp => h p (List.mem_cons_of_mem _ hp)]
    rfl

/-- A list whose names ascend is its own named list. -/
theorem Ascending.ofList_eq {l : List (String × α)} (hl : Ascending l) : ofList l = l := by
  have step : ∀ (k m : List (String × α)), Ascending (m ++ k) →
      k.foldl (fun named p => Named.place p.1 p.2 named) m = m ++ k := by
    intro k
    induction k with
    | nil =>
      intro m _
      exact (List.append_nil m).symm
    | cons p k ih =>
      intro m hm
      have hlt : ∀ q ∈ m, q.1 < p.1 := fun q hq =>
        (List.pairwise_append.1 hm).2.2 q hq p List.mem_cons_self
      rw [List.foldl_cons, place_of_lt hlt]
      have happ : m ++ p :: k = (m ++ [p]) ++ k := by simp
      rw [happ] at hm ⊢
      exact ih _ hm
  exact step l [] hl

/-! ## What is found in ascending lists -/

/-- In an ascending list a name is found with the one thing that is under it. -/
theorem Ascending.find?_eq_some {l : List (String × α)} (hl : Ascending l) {name : String} {a : α} :
    find? name l = some a ↔ (name, a) ∈ l := by
  refine ⟨mem_of_find?, fun h => ?_⟩
  induction l with
  | nil => cases h
  | cons p l ih =>
    obtain ⟨n, b⟩ := p
    obtain ⟨hp, hl'⟩ := List.pairwise_cons.1 hl
    rcases List.mem_cons.1 h with h | h
    · cases h
      exact if_pos rfl
    · rw [find?, if_neg (hp _ h).ne]
      exact ih hl' h

/-- Ascending lists in which the same things are found are the same. -/
theorem Ascending.ext {l k : List (String × α)} (hl : Ascending l) (hk : Ascending k)
    (h : ∀ name, find? name l = find? name k) : l = k := by
  have hmem : ∀ p, p ∈ l ↔ p ∈ k := fun ⟨name, a⟩ => by
    rw [← hl.find?_eq_some, h name, hk.find?_eq_some]
  have hperm : l.Perm k :=
    (List.perm_ext_iff_of_nodup (hl.imp fun h => by rintro rfl; exact h.ne rfl)
      (hk.imp fun h => by rintro rfl; exact h.ne rfl)).2 hmem
  exact hperm.eq_of_pairwise (fun a b _ _ hab hba => absurd hba hab.asymm) hl hk

/-- A name is found exactly if it is one of the names. -/
theorem find?_isSome {name : String} {l : List (String × α)} :
    (find? name l).isSome ↔ name ∈ l.map (·.1) := by
  induction l with
  | nil => simp [find?]
  | cons p l ih =>
    obtain ⟨n, b⟩ := p
    rw [find?, List.map_cons, List.mem_cons, ← ih]
    split
    · next h => exact iff_of_true rfl (.inl h.symm)
    · next h => exact (or_iff_right (Ne.symm h)).symm

/-- Of entries with names in order, the only one of a name is found. -/
theorem find?_foldl_place_of_ascending (name : String) {l : List (String × α)} (hl : Ascending l)
    (k : List (String × α)) : find? name (l.foldl (fun named p => Named.place p.1 p.2 named) k) =
      (find? name l).or (find? name k) := by
  rw [find?_foldl_place, ← find?_ofList, hl.ofList_eq]

/-- Nothing is left of a list when things are placed under all its names. -/
theorem Ascending.foldl_place_eq {l k : List (String × α)} (hl : Ascending l) (hk : Ascending k)
    (h : k.map (·.1) ⊆ l.map (·.1)) : l.foldl (fun named p => Named.place p.1 p.2 named) k = l := by
  refine (hk.foldl_place l).ext hl fun name => ?_
  rw [find?_foldl_place_of_ascending name hl]
  cases hn : find? name l with
  | some a => rfl
  | none =>
    have hkn : find? name k = none := by
      rw [← Option.not_isSome_iff_eq_none, find?_isSome]
      intro hmem
      have hsome := find?_isSome.2 (h hmem)
      rw [hn] at hsome
      exact Bool.false_ne_true hsome
    rw [hkn]
    rfl

/-- Nothing that was there is lost. -/
theorem names_subset_foldl_place {l : List (String × α)} (hl : Ascending l)
    (k : List (String × α)) :
    k.map (·.1) ⊆ (l.foldl (fun named p => Named.place p.1 p.2 named) k).map (·.1) := by
  intro name hname
  rw [← find?_isSome, find?_foldl_place_of_ascending name hl, Option.isSome_or,
    find?_isSome.2 hname, Bool.or_true]

end Conform.Named
