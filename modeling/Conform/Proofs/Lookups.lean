import Conform.Proofs.Registered
import Mathlib.Logic.Relation

/-!
# Lookups give what resolving gives

A lookup stores the types that it puts together on its way, and later lookups take them from there.
Resolving never stores anything.  Both give the same, in whatever order identifiers are looked up.

* `TypeRegistry.Visits` — the identifiers on the way of an identifier.
* `TypeRegistry.Remembers` — the invariant: beside what was there from the beginning, a registry
  holds the visited identifiers that have a type, and under each the type that resolving gives.
* `TypeRegistry.Remembers.lookup` — one lookup keeps it; `remembers_afterLookups` — so do many.
* `TypeRegistry.lookups_give_resolved` — what follows for lookups in a row.
-/

namespace Conform.TypeRegistry

variable {s r : TypeRegistry} {identifier outer member rest name : String} {ids : List String}
  {t : Ty}

/-! ## The way of an identifier -/

/-- What resolving does with an identifier under which nothing is stored. -/
theorem resolve_unstored (hn : s.get? identifier = none) :
    s.resolve identifier = match Identifier.parse identifier with
      | .error fault => .error (.invalidIdentifier identifier fault)
      | .ok (.base name) => .error (.unknownType name)
      | .ok (.generic outer member) => (s.resolve outer).bind fun t =>
        (s.resolve member).bind (generic identifier t)
      | .ok (.qualified q rest) => (s.resolve rest).bind (qualify identifier q) := by
  rw [resolve]
  split
  · next hs => cases hn.symm.trans hs
  · split <;> next h => simp only [h] <;> rfl

/-- The parts of an identifier that resolving goes on to.  A stored identifier is not taken apart,
and the member of `outer<member>` is left aside when the outer part has no type. -/
def parts (s : TypeRegistry) (identifier : String) : List String :=
  match s.get? identifier with
  | some _ => []
  | none =>
    match Identifier.parse identifier with
    | .ok (.generic outer member) =>
      match s.resolve outer with
      | .ok _ => [member, outer]
      | .error _ => [outer]
    | .ok (.qualified _ rest) => [rest]
    | _ => []

/-- A qualified identifier that is not stored is looked up by what follows its qualifier. -/
theorem parts_qualified {q : Qualifier} {rest : String} (hn : s.get? identifier = none)
    (hp : Identifier.parse identifier = .ok (.qualified q rest)) : s.parts identifier = [rest] := by
  simp only [parts, hn, hp]

/-- The identifiers that are visited while an identifier is resolved: itself, and those that its
parts visit. -/
def Visits (s : TypeRegistry) : String → String → Prop :=
  Relation.ReflTransGen fun identifier part => part ∈ s.parts identifier

/-- A search gets to its own identifier and to what its parts get to. -/
theorem visits_iff : s.Visits identifier name ↔
    name = identifier ∨ ∃ part ∈ s.parts identifier, s.Visits part name := by
  rw [Visits, Relation.ReflTransGen.cases_head_iff, eq_comm]

/-- A stored identifier is where its way ends. -/
theorem Visits.eq_of_stored (h : s.Visits identifier name) (hs : s.get? identifier = some t) :
    name = identifier := by
  have hparts : s.parts identifier = [] := by rw [parts, hs]
  rw [visits_iff, hparts] at h
  simpa using h

/-! ## What a registry remembers -/

/-- The registry holds what `s` holds, and every identifier with a type that was visited from one of
the list, with the type that resolving in `s` gives; nothing else. -/
def Remembers (s : TypeRegistry) (ids : List String) (r : TypeRegistry) : Prop :=
  ∀ name t, r.get? name = some t ↔
    s.get? name = some t ∨ (∃ id ∈ ids, s.Visits id name) ∧ s.resolve name = .ok t

theorem remembers_nil (s : TypeRegistry) : Remembers s [] s := by
  intro name t
  simp

namespace Remembers

/-- What is stored after searches is what the searched registry gives for that name. -/
theorem resolve_eq (h : Remembers s ids r) (hr : r.get? name = some t) : s.resolve name = .ok t :=
  ((h name t).1 hr).elim resolve_registered And.right

/-- What is not stored after searches was not stored before. -/
theorem unstored (h : Remembers s ids r) (hr : r.get? name = none) : s.get? name = none := by
  cases hs : s.get? name with
  | none => rfl
  | some t => exact ((h name t).2 (.inl hs)).symm.trans hr

/-- What is stored has nothing on its way that would have to be stored yet. -/
theorem found (h : Remembers s ids r) (hr : r.get? identifier = some t) :
    Remembers s (identifier :: ids) r := by
  intro name u
  rw [h name u, List.exists_mem_cons_iff]
  constructor
  · exact Or.imp_right fun ⟨hv, hu⟩ => ⟨.inr hv, hu⟩
  · rintro (hu | ⟨hv | hv, hu⟩)
    · exact .inl hu
    · rcases (h identifier t).1 hr with hs | ⟨⟨id, hid, hvis⟩, -⟩
      · obtain rfl := hv.eq_of_stored hs
        cases (resolve_registered hs).symm.trans hu
        exact .inl hs
      · exact .inr ⟨⟨id, hid, hvis.trans hv⟩, hu⟩
    · exact .inr ⟨hv, hu⟩

/-- When the parts of an identifier have been looked up and its own type is stored, if it has one,
then the identifier has been looked up. -/
theorem remember {built : Except RegistryError Ty} {looked : List String}
    (h : Remembers s (looked ++ ids) r) (hlooked : s.parts identifier = looked)
    (hbuilt : s.resolve identifier = built) :
    (remember identifier built r).1 = s.resolve identifier ∧
      Remembers s (identifier :: ids) (remember identifier built r).2 := by
  -- the identifier itself apart, what it visits is visited by its parts
  have hway : ∀ name, (∃ id ∈ identifier :: ids, s.Visits id name) ↔
      name = identifier ∨ ∃ id ∈ looked ++ ids, s.Visits id name := by
    intro name
    rw [List.exists_mem_cons_iff, visits_iff, hlooked, or_assoc]
    simp only [List.mem_append, or_and_right, exists_or]
  subst hbuilt
  cases hres : s.resolve identifier with
  | error e =>
    refine ⟨rfl, fun name u => ?_⟩
    rw [hway]
    refine (h name u).trans (or_congr_right ?_)
    constructor
    · exact fun ⟨hv, hu⟩ => ⟨.inr hv, hu⟩
    · rintro ⟨rfl | hv, hu⟩
      · cases hres.symm.trans hu
      · exact ⟨hv, hu⟩
  | ok t =>
    simp only [TypeRegistry.remember, Registry.getOrInsert]
    split
    · next v hv =>
      obtain rfl := Except.ok.inj (hres.symm.trans (h.resolve_eq hv))
      refine ⟨rfl, fun name u => ?_⟩
      rw [hway, h name u]
      constructor
      · exact Or.imp_right fun ⟨hv, hu⟩ => ⟨.inr hv, hu⟩
      · rintro (hu | ⟨rfl | hv, hu⟩)
        · exact .inl hu
        · cases hres.symm.trans hu
          exact (h _ _).1 hv
        · exact .inr ⟨hv, hu⟩
    · next hn =>
      refine ⟨rfl, fun name u => ?_⟩
      rw [Registry.get?_put, hway]
      split
      · next heq =>
        subst heq
        simp [h.unstored hn, hres]
      · next hne =>
        rw [h name u]
        simp [Ne.symm hne]

/-- **A lookup gives what resolving gives**, and the registry remembers what it visited.  The
induction is the recursion of the lookup; a part that fails is the last one that is looked up. -/
theorem lookup (identifier : String) (h : Remembers s ids r) :
    (lookup identifier r).1 = s.resolve identifier ∧
      Remembers s (identifier :: ids) (lookup identifier r).2 := by
  fun_induction TypeRegistry.lookup identifier r generalizing ids with
  | case1 identifier r t hr => exact ⟨(h.resolve_eq hr).symm, h.found hr⟩
  | case2 identifier r hr _ hp | case3 identifier r hr _ hp =>
    have hn := h.unstored hr
    have hparts : s.parts identifier = [] := by simp only [parts, hn, hp]
    have hres := resolve_unstored hn
    rw [hp] at hres
    exact remember h hparts hres
  | case4 identifier r hr outer member hp _ e r' ho ih =>
    have hn := h.unstored hr
    obtain ⟨houter, hr'⟩ := ih h
    rw [ho] at houter hr'
    have hparts : s.parts identifier = [outer] := by simp only [parts, hn, hp, ← houter]
    have hres := resolve_unstored hn
    simp only [hp, ← houter] at hres
    exact remember hr' hparts hres
  | case5 identifier r hr outer member hp _ t r' ho _ r'' hm iho ihm
  | case6 identifier r hr outer member hp _ t r' ho _ r'' hm iho ihm =>
    have hn := h.unstored hr
    obtain ⟨houter, hr'⟩ := iho h
    rw [ho] at houter hr'
    obtain ⟨hmember, hr''⟩ := ihm hr'
    rw [hm] at hmember hr''
    have hparts : s.parts identifier = [member, outer] := by simp only [parts, hn, hp, ← houter]
    have hres := resolve_unstored hn
    simp only [hp, ← houter, ← hmember] at hres
    exact remember hr'' hparts hres
  | case7 identifier r hr q rest hp _ _ r' hb ih | case8 identifier r hr q rest hp _ _ r' hb ih =>
    have hn := h.unstored hr
    obtain ⟨hrest, hr'⟩ := ih h
    rw [hb] at hrest hr'
    have hparts : s.parts identifier = [rest] := parts_qualified hn hp
    have hres := resolve_unstored hn
    simp only [hp, ← hrest] at hres
    exact remember hr' hparts hres

end Remembers

/-! ## Lookups in a row -/

/-- The registry after looking up some identifiers, one after the other. -/
def afterLookups (s : TypeRegistry) (ids : List String) : TypeRegistry :=
  ids.foldl (fun r identifier => (lookup identifier r).2) s

/-- Searches store what the registry gives, and nothing else. -/
theorem remembers_afterLookups (s : TypeRegistry) (ids : List String) :
    Remembers s ids.reverse (s.afterLookups ids) := by
  have step : ∀ (ids looked : List String) (r : TypeRegistry), Remembers s looked r →
      Remembers s (ids.reverse ++ looked) (r.afterLookups ids) := by
    intro ids
    induction ids with
    | nil => exact fun _ _ h => h
    | cons identifier ids ih =>
      intro looked r h
      rw [List.reverse_cons, List.append_assoc]
      exact ih _ _ (h.lookup identifier).2
  have h := step ids [] s (remembers_nil s)
  rwa [List.append_nil] at h

/-- What is stored after some lookups: what was there before, and what they visited, each with the
type that resolving gives. -/
theorem get?_afterLookups : (s.afterLookups ids).get? name = some t ↔
    s.get? name = some t ∨ (∃ id ∈ ids, s.Visits id name) ∧ s.resolve name = .ok t := by
  simpa only [List.mem_reverse] using remembers_afterLookups s ids name t

/-- **Lookups give what resolving gives**, however many came before.  No entry is changed by them, a
lookup that fails stores nothing under its identifier, and what is added was visited on the way of
an identifier that was looked up and is what resolving gives.  So the order of lookups matters
neither for their results nor for what is stored in the end. -/
theorem lookups_give_resolved (s : TypeRegistry) (ids : List String) :
    (∀ id, (lookup id (s.afterLookups ids)).1 = s.resolve id) ∧
      (∀ name t, s.get? name = some t → (s.afterLookups ids).get? name = some t) ∧
      (∀ id e, (lookup id (s.afterLookups ids)).1 = .error e →
        (lookup id (s.afterLookups ids)).2.get? id = none) ∧
      (∀ name t, s.get? name = none → (s.afterLookups ids).get? name = some t →
        (∃ id ∈ ids, s.Visits id name) ∧ s.resolve name = .ok t) ∧
      ∀ ids', ids.Perm ids' → ∀ name,
        (s.afterLookups ids').get? name = (s.afterLookups ids).get? name := by
  have hids := remembers_afterLookups s ids
  refine ⟨fun id => (hids.lookup id).1, fun name t hs => get?_afterLookups.2 (.inl hs), ?failed,
    ?added, ?order⟩
  case failed =>
    intro id e he
    obtain ⟨hres, hafter⟩ := hids.lookup id
    cases hstored : (lookup id (s.afterLookups ids)).2.get? id with
    | none => rfl
    | some t => cases (he.symm.trans hres).trans (hafter.resolve_eq hstored)
  case added =>
    intro name t hs hstored
    refine (get?_afterLookups.1 hstored).resolve_left ?_
    rw [hs]
    exact nofun
  case order =>
    intro ids' hperm name
    refine Option.ext fun t => ?_
    rw [get?_afterLookups, get?_afterLookups]
    simp only [hperm.mem_iff]

end Conform.TypeRegistry
