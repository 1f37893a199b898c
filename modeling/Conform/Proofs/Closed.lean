import Conform.Proofs.Policies

/-!
# Closed policies ignore no entry

A schema that refuses unknown keys has a member for every entry of the inputs on which it succeeds.
Each such member is given the value of the last entry with its key, so that only entries whose key
comes up again are passed over.

* `Policy.TreatsAll.split`, `Policy.Treats.applied` — one member in the run of all of them.
* `Policy.Uses` — every member with a key was given a value.
* `Ty.closed_schema_uses_entry` — **every entry has a member, and the last with its key is used.**
* `Ty.entries_not_always_used` — an entry whose key comes up again, and a NaN among the keys.
-/

namespace Conform

open Eval Table

variable {policy : Policy} {transform : KeyTransform} {fields entries : List (Value × Value)}
  {members : List (Value × Ty)} {name : Value} {t : Ty} {s s' : Supply}

/-! ## One member in the run -/

namespace Policy

/-- Members in the middle are treated between those before and those after them. -/
theorem TreatsAll.split {first last : List (Value × Ty)} {results : List (Value × Value)}
    (h : policy.TreatsAll fields (first ++ (name, t) :: last) s results s') :
    ∃ results₁ s₁ w s₂ results₂, policy.TreatsAll fields first s results₁ s₁ ∧
      policy.Treats fields name t s₁ (.ok w) s₂ ∧ policy.TreatsAll fields last s₂ results₂ s' ∧
      results = results₁ ++ (name, w) :: results₂ := by
  induction first generalizing s results with
  | nil =>
    cases h with
    | cons hw hrest => exact ⟨[], s, _, _, _, .nil, hw, hrest, rfl⟩
  | cons m first ih =>
    cases h with
    | cons hfirst hrest =>
      obtain ⟨results₁, s₁, w, s₂, results₂, h₁, hw, h₂, rfl⟩ := ih hrest
      exact ⟨_ :: results₁, s₁, w, s₂, results₂, .cons hfirst h₁, hw, h₂, rfl⟩

/-- A closed policy applies the type of a member that is there. -/
theorem Treats.applied {raw w : Value} (h : policy.Treats fields name t s (.ok w) s')
    (hp : policy = .strict ∨ policy = .strictWithDefaults) (hf : Searches fields name)
    (hraw : Has fields name raw) : (t.apply raw).Runs s (.ok w) s' := by
  have hopen : ¬(policy = .weak ∨ policy = .symbolized) := by
    rcases hp with rfl | rfl <;> decide
  cases h with
  | coerced _ hraw' hrun =>
    rw [hf.unique hraw hraw'] at hrun
    exact hrun
  | tried hlenient | kept hlenient => exact absurd hlenient hopen
  | default _ hlacks | nil _ hlacks | leftOut _ hlacks =>
    exact absurd hraw (lacks_iff.1 hlacks raw)

/-- Every member with the key was given the value: applying its type to it is one step of the run,
and what that gives is part of the new hash. -/
def Uses (policy : Policy) (members : List (Value × Ty)) (fields : List (Value × Value))
    (s : Supply) (v : Value) (s' : Supply) (key raw : Value) : Prop :=
  ∀ first name t last, members = first ++ (name, t) :: last → (name == key) = true →
    ∃ results₁ s₁ w s₂ results₂, policy.TreatsAll fields first s results₁ s₁ ∧
      (t.apply raw).Runs s₁ (.ok w) s₂ ∧ policy.TreatsAll fields last s₂ results₂ s' ∧
      v = .hash (enterAll [] (results₁ ++ (name, w) :: results₂))

end Policy

/-! ## Schemas -/

namespace Ty

/-- A schema that succeeds has refused no key and has results for all members. -/
theorem apply_schema_ok {notes : Metadata} {v : Value}
    (hf : ∀ m ∈ members, Searches (transform.fields entries) m.1)
    (h : ((schema policy transform members notes).apply (.hash entries)).Runs s (.ok v) s') :
    policy.AllowsKeys members (transform.fields entries) ∧
      ∃ results, policy.TreatsAll (transform.fields entries) members s results s' ∧
        v = .hash (enterAll [] results) := by
  rw [apply] at h
  by_cases hknown : policy.AllowsKeys members (transform.fields entries)
  case pos =>
    rw [openFields_eq_ok hknown, liftM_ok, pure_bind, runs_bind_iff] at h
    rcases h with ⟨output, s₁, hresolve, hpure⟩ | ⟨e, -, he⟩
    · obtain ⟨hv, rfl⟩ := runs_pure_iff.1 hpure
      cases hv
      obtain ⟨results, hall, rfl⟩ := (resolve_ok_iff hf).1 hresolve
      exact ⟨hknown, results, hall, rfl⟩
    · cases he
  case neg =>
    simp only [Policy.AllowsKeys, not_forall, not_not] at hknown
    obtain ⟨hp, key, hkey⟩ := hknown
    rw [openFields_eq_error hp (List.ne_nil_of_mem (mem_unknownKeys.2 hkey)), liftM_error,
      throw_bind, runs_throw_iff] at h
    cases h.1

/-- **A closed policy ignores no entry**: the entry has a member, and unless a later entry gets the
same key it is the value of that entry that is coerced. -/
theorem closed_schema_uses_entry (policy : Policy)
    (hclosed : policy = .strict ∨ policy = .strictWithDefaults) (transform : KeyTransform)
    (members : List (Value × Ty)) (notes : Metadata) (before after : List (Value × Value))
    (k raw : Value) {P : Value → Prop} (hP : Value.Comparable P) (hmembers : ∀ m ∈ members, P m.1)
    (hentries : ∀ e ∈ before ++ (k, raw) :: after, P (transform.apply e.1)) {s s' : Supply}
    {v : Value} (hrun : ((schema policy transform members notes).apply
      (.hash (before ++ (k, raw) :: after))).Runs s (.ok v) s') :
    (∃ m ∈ members, (m.1 == transform.apply k) = true) ∧
      ((∀ e ∈ after, (transform.apply e.1 == transform.apply k) = false) →
        policy.Uses members (transform.fields (before ++ (k, raw) :: after)) s v s'
          (transform.apply k) raw) := by
  have hf : ∀ m ∈ members, Searches (transform.fields (before ++ (k, raw) :: after)) m.1 :=
    fun m hm => KeyTransform.searches_fields hP hentries (hmembers m hm)
  have hcollects := KeyTransform.collects_fields hP hentries
  have hrenamed :
      ∀ e ∈ (before ++ (k, raw) :: after).map fun e => (transform.apply e.1, e.2), P e.1 :=
    List.forall_mem_map.2 hentries
  have hk : P (transform.apply k) :=
    hentries (k, raw) (List.mem_append_right _ List.mem_cons_self)
  obtain ⟨hknown, results, hall, rfl⟩ := apply_schema_ok hf hrun
  constructor
  · obtain ⟨e, hlast, htie⟩ := exists_lastWith hP Prod.fst hrenamed
      (List.mem_map_of_mem (List.mem_append_right before List.mem_cons_self))
    have he := hrenamed e hlast.mem
    have hfield := List.mem_map_of_mem (f := Prod.fst) ((hcollects e).2 hlast)
    by_contra hnone
    refine hknown hclosed e.1 ⟨hfield, fun m hm => ?_⟩
    rw [hP.beq_congr_right (hmembers m hm) he hk htie]
    exact Bool.eq_false_iff.2 fun h => hnone ⟨m, hm, h⟩
  · rintro hlater first name t last rfl hname
    obtain ⟨results₁, s₁, w, s₂, results₂, h₁, hw, h₂, rfl⟩ := hall.split
    have hraw : Has (transform.fields (before ++ (k, raw) :: after)) name raw := by
      refine ⟨transform.apply k, (hcollects _).2 ⟨_, _, List.map_append, ?_⟩, ?_⟩
      · exact List.forall_mem_map.2 hlater
      · rw [Value.beq_comm, hname]
    have hmem : (name, t) ∈ first ++ (name, t) :: last :=
      List.mem_append_right _ List.mem_cons_self
    exact ⟨results₁, s₁, w, s₂, results₂, h₁, hw.applied hclosed (hf _ hmem) hraw, h₂, rfl⟩

/-- One name without a condition and one with a default. -/
def pair : List (Value × Ty) :=
  [(.symbol "a", .definition .any []),
    (.symbol "b", .decorated (.default (.fixed (.integer 7))) (.definition .integer []) [])]

/-- The later of two entries with the key `a` is the one that is used. -/
theorem closed_schema_uses_entry_pair :
    ((schema .strictWithDefaults .symbolize pair []).apply
        (.hash ([(.symbol "a", .integer 1)] ++ (.string "a", .integer 2) :: []))).Runs ⟨default, []⟩
        (.ok (.hash [(.symbol "a", .integer 2), (.symbol "b", .integer 7)])) ⟨default, []⟩ ∧
      Policy.strictWithDefaults.Uses pair
        (KeyTransform.symbolize.fields ([(.symbol "a", .integer 1)] ++
          (.string "a", .integer 2) :: []))
        ⟨default, []⟩ (.hash [(.symbol "a", .integer 2), (.symbol "b", .integer 7)]) ⟨default, []⟩
        (.symbol "a") (.integer 2) := by
  have hrun : ((schema .strictWithDefaults .symbolize pair []).apply
      (.hash ([(.symbol "a", .integer 1)] ++ (.string "a", .integer 2) :: []))).Runs ⟨default, []⟩
      (.ok (.hash [(.symbol "a", .integer 2), (.symbol "b", .integer 7)])) ⟨default, []⟩ := rfl
  have huses := closed_schema_uses_entry .strictWithDefaults (.inr rfl) .symbolize pair []
    [(.symbol "a", .integer 1)] [] (.string "a") (.integer 2) Value.comparable_noNaN
    (by simp [pair, Value.NoNaN, Value.Everywhere, Value.NumbersHaveValue])
    (by simp [KeyTransform.apply, Value.NoNaN, Value.Everywhere, Value.NumbersHaveValue]) hrun
  exact ⟨hrun, huses.2 fun e he => absurd he List.not_mem_nil⟩

/-- A value that is not in the new hash was not used for the last member. -/
theorem not_uses (first : List (Value × Ty)) {key raw : Value} {out : List (Value × Value)}
    (hkey : (name == key) = true) (hraw : raw ≠ .undefined) (hout : ∀ k, (k, raw) ∉ out)
    (ht : ∀ {s₁ w s₂}, (t.apply raw).Runs s₁ (.ok w) s₂ → w = raw) :
    ¬policy.Uses (first ++ [(name, t)]) fields s (.hash out) s' key raw := by
  intro huses
  obtain ⟨results₁, s₁, w, s₂, results₂, -, hw, hlast, hv⟩ := huses first name t [] rfl hkey
  cases hlast
  cases ht hw
  obtain ⟨k, hk⟩ := exists_mem_insert name raw (enterAll [] results₁)
  have hundef : ¬raw.isUndefined = true := fun h => hraw (Value.isUndefined_iff.1 h)
  refine hout k ?_
  rw [Value.hash.inj hv, enterAll, List.foldl_append, List.foldl_cons, if_neg hundef]
  exact hk

/-- Names for the keys around a NaN, the last with a default. -/
def aroundNames : List (Value × Ty) :=
  [(.floatBeside (.ofInt 3) 1, .definition .any []), (.floatBeside .nan 2, .definition .any []),
    (.floatBeside (.ofInt 1) 3,
      .decorated (.default (.fixed (.string "d"))) (.definition .any []) [])]

/-- The default stands in for the value that is missed. -/
def aroundOutput : List (Value × Value) :=
  [(.floatBeside (.ofInt 1) 3, .string "d"), (.floatBeside (.ofInt 3) 1, .string "a"),
    (.floatBeside .nan 2, .string "b")]

theorem apply_aroundNames :
    ((schema .strictWithDefaults .identity aroundNames []).apply (.hash aroundNaN)).Runs
      ⟨default, []⟩ (.ok (.hash aroundOutput)) ⟨default, []⟩ := by
  have hgt : (Value.floatBeside .nan 2).compare (.floatBeside (.ofInt 3) 1) = .gt := by
    decide +kernel
  have hlt : (Value.floatBeside (.ofInt 1) 3).compare (.floatBeside (.ofInt 3) 1) = .lt := by
    decide +kernel
  have hknown : ∀ key, ¬Policy.Unknown aroundNames aroundNaN key := by
    rintro key ⟨hkey, hlacks⟩
    obtain ⟨m, hm, rfl⟩ := List.mem_map.1 (show key ∈ aroundNames.map (·.1) from hkey)
    exact absurd (Value.beq_eq_true_iff.2 (Value.compare_self _))
      (Bool.eq_false_iff.1 (hlacks m hm))
  rw [← fields_aroundNaN] at hknown
  have ha : memberValue true .strictWithDefaults aroundNaN (.floatBeside (.ofInt 3) 1)
      (.definition .any []) = pure (.string "a") := by
    simp only [memberValue, aroundNaN, get?, Value.compare_self]
    rfl
  have hb : memberValue true .strictWithDefaults aroundNaN (.floatBeside .nan 2)
      (.definition .any []) = pure (.string "b") := by
    simp only [memberValue, aroundNaN, get?, hgt, Value.compare_self]
    rfl
  have hc : memberValue true .strictWithDefaults aroundNaN (.floatBeside (.ofInt 1) 3)
      (.decorated (.default (.fixed (.string "d"))) (.definition .any []) []) =
        pure (.string "d") := by
    rw [memberValue, get?_aroundNaN]
    rfl
  rw [apply, openFields_eq_ok fun _ => hknown, liftM_ok, pure_bind, fields_aroundNaN, aroundNames,
    resolve_cons, ha, pure_bind, resolve_cons, hb, pure_bind, resolve_cons, hc, pure_bind, resolve]
  simp only [Value.isUndefined, Bool.false_eq_true, if_false, Table.insert, hgt, hlt]
  rfl

/-- Not every entry is used: of two that get one key the earlier is not, and with a NaN among the
keys a default can stand in for a value that is there. -/
theorem entries_not_always_used :
    (((schema .strict .symbolize [(.symbol "a", .definition .any [])] []).apply
        (.hash [(.symbol "a", .integer 1), (.string "a", .integer 2)])).Runs ⟨default, []⟩
        (.ok (.hash [(.symbol "a", .integer 2)])) ⟨default, []⟩ ∧
      ¬Policy.strict.Uses [(.symbol "a", .definition .any [])]
        (KeyTransform.symbolize.fields [(.symbol "a", .integer 1), (.string "a", .integer 2)])
        ⟨default, []⟩ (.hash [(.symbol "a", .integer 2)]) ⟨default, []⟩ (.symbol "a")
          (.integer 1)) ∧
      ((schema .strictWithDefaults .identity aroundNames []).apply (.hash aroundNaN)).Runs
        ⟨default, []⟩ (.ok (.hash aroundOutput)) ⟨default, []⟩ ∧
      ¬Policy.strictWithDefaults.Uses aroundNames (KeyTransform.identity.fields aroundNaN)
        ⟨default, []⟩ (.hash aroundOutput) ⟨default, []⟩ (.floatBeside (.ofInt 1) 3)
        (.string "c") := by
  have hany : ∀ {raw w : Value} {s₁ s₂ : Supply},
      ((definition .any []).apply raw).Runs s₁ (.ok w) s₂ → w = raw := by
    intro raw w s₁ s₂ h
    rw [apply, runs_pure_iff] at h
    exact Except.ok.inj h.1
  have hdefault : ∀ {w : Value} {s₁ s₂ : Supply},
      ((decorated (.default (.fixed (.string "d"))) (definition .any []) []).apply
        (.string "c")).Runs s₁ (.ok w) s₂ → w = .string "c" :=
    fun h => (Except.ok.inj (congrArg Prod.fst h)).symm
  refine ⟨⟨rfl, not_uses [] rfl (by simp [Value.integer]) ?_ hany⟩, apply_aroundNames,
    not_uses (aroundNames.take 2) ?_ (by simp) ?_ hdefault⟩
  · intro k hk
    cases (Prod.ext_iff.1 (List.mem_singleton.1 hk)).2
  · exact Value.beq_eq_true_iff.2 (Value.compare_self _)
  · simp [aroundOutput]

end Ty

end Conform
