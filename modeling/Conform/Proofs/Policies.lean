import Conform.Proofs.Agreement
import Conform.Proofs.Fields

/-!
# What a schema makes of a hash

Applying a schema collects the fields of the input, refuses unknown keys, and goes through the
members with the output so far.  The table of policies says the same without a loop: what becomes of
one member depends on whether the fields have its name, and of all members either the first refusal
or all results count.  Here that table is a family of relations, and `apply` gives exactly what they
say.

The one condition is that comparing the names and the new keys is transitive, as it is without NaN.
Otherwise a field that is there may be missed.

* `Eval.Runs` — an evaluation against one supply: its outcome and the supply that it leaves.
* `KeyTransform.Collects` — the fields of an input: of entries that get one key, the last.
* `Policy.Treats`, `Policy.TreatsAll` — one member after the other, by policy.
* `Policy.Gives` — unknown keys, a refused member, or the new hash.
* `Ty.schema_meets_policy` — **applying a schema gives what its policy says.**
* `Ty.policy_not_always_met` — a NaN among the keys, and a field that is missed.
-/

namespace Conform

variable {δ ε α β : Type}

namespace Eval

/-! ## Runs -/

/-- The evaluation has the outcome `r` against the supply `s` and leaves `s'`. -/
def Runs (e : Eval ε α) (s : Supply) (r : Except ε α) (s' : Supply) : Prop :=
  e.run s = (r, s')

variable {e : Eval ε α} {s s' : Supply}

theorem runs_pure_iff {a : α} {r : Except ε α} :
    (pure a : Eval ε α).Runs s r s' ↔ r = .ok a ∧ s' = s :=
  Prod.ext_iff.trans (and_congr eq_comm eq_comm)

theorem runs_throw_iff {x : ε} {r : Except ε α} :
    (throw x : Eval ε α).Runs s r s' ↔ r = .error x ∧ s' = s :=
  Prod.ext_iff.trans (and_congr eq_comm eq_comm)

/-- A computation that only draws succeeds. -/
theorem runs_lift_iff {m : StateM Supply α} {r : Except ε α} :
    (liftM m : Eval ε α).Runs s r s' ↔ ∃ a, m s = (a, s') ∧ r = .ok a := by
  show (Except.ok (m s).1, (m s).2) = (r, s') ↔ _
  constructor
  · intro h
    cases h
    exact ⟨_, rfl, rfl⟩
  · rintro ⟨a, h, rfl⟩
    rw [h]

/-- A pure result used as an evaluation draws nothing. -/
theorem runs_liftExcept_iff {q r : Except ε α} :
    (liftM q : Eval ε α).Runs s r s' ↔ r = q ∧ s' = s := by
  cases q with
  | ok a => exact runs_pure_iff
  | error x => exact runs_throw_iff

/-- A sequence goes on with the result and the supply of its first part. -/
theorem run_bind_eq {m : StateM Supply α} {f : α → StateM Supply β} {a : α} {s₁ : Supply}
    (h : m s = (a, s₁)) : (m >>= f) s = f a s₁ := by
  show f (m s).1 (m s).2 = f a s₁
  rw [h]

/-- Two steps run in turn, and the second one only after a success. -/
theorem runs_bind_iff {f : α → Eval ε β} {r : Except ε β} :
    (e >>= f).Runs s r s' ↔
      (∃ a s₁, e.Runs s (.ok a) s₁ ∧ (f a).Runs s₁ r s') ∨
        ∃ x, e.Runs s (.error x) s' ∧ r = .error x := by
  unfold Runs
  rcases h : e.run s with ⟨x | a, s₁⟩
  · have hrun : (e >>= f).run s = (.error x, s₁) := run_bind_eq (f := ExceptT.bindCont f) h
    rw [hrun]
    refine ⟨fun h => by cases h; exact .inr ⟨x, rfl, rfl⟩, ?_⟩
    rintro (⟨a, s₂, h, -⟩ | ⟨y, h, rfl⟩)
    · cases h
    · cases h
      rfl
  · have hrun : (e >>= f).run s = (f a).run s₁ := run_bind_eq (f := ExceptT.bindCont f) h
    rw [hrun]
    refine ⟨fun h => .inl ⟨a, s₁, rfl, h⟩, ?_⟩
    rintro (⟨b, s₂, h, hf⟩ | ⟨y, h, -⟩)
    · cases h
      exact hf
    · cases h

/-- A handler runs only after a failure. -/
theorem runs_recover_iff {handle : ε → Eval δ α} {r : Except δ α} :
    (e.recover handle).Runs s r s' ↔
      (∃ a, e.Runs s (.ok a) s' ∧ r = .ok a) ∨
        ∃ x s₁, e.Runs s (.error x) s₁ ∧ (handle x).Runs s₁ r s' := by
  unfold Runs
  rcases h : e.run s with ⟨x | a, s₁⟩
  · have hrun : (e.recover handle).run s = (handle x).run s₁ := run_bind_eq h
    rw [hrun]
    refine ⟨fun h => .inr ⟨x, s₁, rfl, h⟩, ?_⟩
    rintro (⟨a, h, -⟩ | ⟨y, s₂, h, hh⟩)
    · cases h
    · cases h
      exact hh
  · have hrun : (e.recover handle).run s = (.ok a, s₁) := run_bind_eq h
    rw [hrun]
    refine ⟨fun h => by cases h; exact .inl ⟨a, rfl, rfl⟩, ?_⟩
    rintro (⟨b, h, rfl⟩ | ⟨y, s₂, h, -⟩)
    · cases h
      rfl
    · cases h

/-- What reports its failures for an input succeeds as before. -/
theorem runs_blame_ok_iff {e : Eval CoercionError α} {x : Value} {a : α} :
    (Eval.blame x e).Runs s (.ok a) s' ↔ e.Runs s (.ok a) s' := by
  rw [blame, runs_recover_iff]
  constructor
  · rintro (⟨b, hb, hab⟩ | ⟨y, s₁, -, h⟩)
    · cases hab
      exact hb
    · cases (runs_throw_iff.1 h).1
  · exact fun h => .inl ⟨a, h, rfl⟩

end Eval

open Eval Table

/-! ## The policy table -/

/-- The fields are the entries under their new keys; of entries that get one key, the last. -/
def KeyTransform.Collects (transform : KeyTransform)
    (entries fields : List (Value × Value)) : Prop :=
  ∀ e, e ∈ fields ↔ LastWith Prod.fst (entries.map fun e => (transform.apply e.1, e.2)) e

namespace Policy

/-- What becomes of one member.

| member            | `weak`, `symbolized`       | others                      |
|-------------------|----------------------------|-----------------------------|
| there, accepted   | `tried`: the coerced value | `coerced`: that of applying |
| there, refused    | `kept`: the raw value      | `refused`: the error        |

A member that is not there is filled by its `default`, or by `nil` if it is a maybe, unless the
policy is `strict`; what is not filled is `missing` under both closed policies and `leftOut`
otherwise. -/
inductive Treats (policy : Policy) (fields : List (Value × Value)) (name : Value) (t : Ty) :
    Supply → Except CoercionError Value → Supply → Prop
  | tried {s s' raw w} (hp : policy = .weak ∨ policy = .symbolized) (hraw : Has fields name raw)
    (hrun : (t.tryApply raw).Runs s (.ok w) s') : Treats policy fields name t s (.ok w) s'
  | kept {s s' raw f} (hp : policy = .weak ∨ policy = .symbolized) (hraw : Has fields name raw)
    (hrun : (t.tryApply raw).Runs s (.error f) s') : Treats policy fields name t s (.ok raw) s'
  | coerced {s s' raw w} (hp : ¬(policy = .weak ∨ policy = .symbolized))
    (hraw : Has fields name raw) (hrun : (t.apply raw).Runs s (.ok w) s') :
    Treats policy fields name t s (.ok w) s'
  | refused {s s' raw e} (hp : ¬(policy = .weak ∨ policy = .symbolized))
    (hraw : Has fields name raw) (hrun : (t.apply raw).Runs s (.error e) s') :
    Treats policy fields name t s (.error (.member name e)) s'
  | default {s s' d w} (hp : policy ≠ .strict) (hraw : Lacks fields name)
    (ht : t.default? = some d) (hdraw : d.evaluate s = (w, s')) :
    Treats policy fields name t s (.ok w) s'
  | nil {s} (hp : policy ≠ .strict) (hraw : Lacks fields name) (ht : t.default? = none)
    (hmaybe : t.isMaybe = true) : Treats policy fields name t s (.ok .nil) s
  | leftOut {s} (hp : ¬(policy = .strict ∨ policy = .strictWithDefaults)) (hraw : Lacks fields name)
    (ht : t.default? = none) (hmaybe : t.isMaybe = false) :
    Treats policy fields name t s (.ok .undefined) s
  | missing {s} (hraw : Lacks fields name)
    (hp : policy = .strict ∨
      policy = .strictWithDefaults ∧ t.default? = none ∧ t.isMaybe = false) :
    Treats policy fields name t s (.error (.missingKey name)) s

/-- The results of all members, none of which is refused, under their names. -/
inductive TreatsAll (policy : Policy) (fields : List (Value × Value)) :
    List (Value × Ty) → Supply → List (Value × Value) → Supply → Prop
  | nil {s} : TreatsAll policy fields [] s [] s
  | cons {name t members s w s₁ results s'} (hfirst : policy.Treats fields name t s (.ok w) s₁)
    (hrest : TreatsAll policy fields members s₁ results s') :
    TreatsAll policy fields ((name, t) :: members) s ((name, w) :: results) s'

/-- The key of a field that no member has. -/
def Unknown (members : List (Value × Ty)) (fields : List (Value × Value)) (key : Value) : Prop :=
  key ∈ fields.map (·.1) ∧ Lacks members key

/-- No key is refused: under a closed policy every key has a member. -/
def AllowsKeys (policy : Policy) (members : List (Value × Ty))
    (fields : List (Value × Value)) : Prop :=
  policy = .strict ∨ policy = .strictWithDefaults → ∀ key, ¬Unknown members fields key

/-- What a schema gives for its fields: all unknown keys, the first refusal, or the new hash.  An
undefined result is left out of the hash. -/
inductive Gives (policy : Policy) (members : List (Value × Ty)) (fields : List (Value × Value))
    (s : Supply) : Except CoercionError Value → Supply → Prop
  | unknown {keys} (hp : policy = .strict ∨ policy = .strictWithDefaults) (hne : keys ≠ [])
    (hkeys : InOrder id keys) (hmem : ∀ key, key ∈ keys ↔ Unknown members fields key) :
    Gives policy members fields s (.error (.unknownKeys keys)) s
  | refused {before name t after results s₁ e s'}
    (hkeys : policy.AllowsKeys members fields)
    (hmembers : members = before ++ (name, t) :: after)
    (hbefore : policy.TreatsAll fields before s results s₁)
    (he : policy.Treats fields name t s₁ (.error e) s') :
    Gives policy members fields s (.error e) s'
  | output {results output s'}
    (hkeys : policy.AllowsKeys members fields)
    (hresults : policy.TreatsAll fields members s results s') (hout : InOrder Prod.fst output)
    (hmem : ∀ e, e ∈ output ↔ e ∈ results ∧ e.2 ≠ .undefined) :
    Gives policy members fields s (.ok (.hash output)) s'

/-- The policies that know no further keys. -/
theorem isClosed_iff {policy : Policy} :
    policy.isClosed = true ↔ policy = .strict ∨ policy = .strictWithDefaults := by
  cases policy <;> decide

/-- The policies that leave out a member that fails. -/
theorem isLenient_iff {policy : Policy} :
    policy.isLenient = true ↔ policy = .weak ∨ policy = .symbolized := by
  cases policy <;> decide

/-- Every policy but the strict one fills in defaults. -/
theorem appliesDefaults_iff {policy : Policy} :
    policy.appliesDefaults = true ↔ policy ≠ .strict := by
  cases policy <;> decide

end Policy

variable {policy : Policy} {transform : KeyTransform} {fields entries output : List (Value × Value)}
  {members : List (Value × Ty)} {name : Value} {t : Ty} {s s' : Supply}

/-! ## The fields of an input -/

/-- The fields are searched for a name as if they were a set of entries. -/
structure Searches (fields : List (Value × Value)) (name : Value) : Prop where
  found : ∀ raw, get? name fields = some raw ↔ Has fields name raw
  missed : get? name fields = none ↔ Lacks fields name

/-- There is at most one value under a name. -/
theorem Searches.unique {fields : List (Value × Value)} {name raw raw' : Value}
    (hf : Searches fields name) (h : Has fields name raw) (h' : Has fields name raw') :
    raw' = raw :=
  Option.some_inj.1 (((hf.found raw').2 h').symm.trans ((hf.found raw).2 h))

namespace KeyTransform

variable {P : Value → Prop} (hP : Value.Comparable P)
  (hentries : ∀ e ∈ entries, P (transform.apply e.1))

include hP hentries

/-- The fields are the entries under their changed keys. -/
theorem collects_fields : transform.Collects entries (transform.fields entries) :=
  fun _ => mem_ofEntries hP (List.forall_mem_map.2 hentries)

/-- The fields are in order. -/
theorem inOrder_fields : InOrder Prod.fst (transform.fields entries) :=
  inOrder_ofEntries hP (List.forall_mem_map.2 hentries)

theorem searches_fields (hname : P name) : Searches (transform.fields entries) name := by
  have hs := inOrder_fields hP hentries
  have hfields : ∀ e ∈ transform.fields entries, P e.1 := fun e he =>
    List.forall_mem_map (P := fun e => P e.1).2 hentries e (subset_ofEntries _ he)
  exact ⟨fun raw => get?_eq_some_iff hP hs hfields hname, get?_eq_none_iff hP hs hfields hname⟩

end KeyTransform

/-! ## The hash of the results -/

namespace Policy

theorem TreatsAll.names {results : List (Value × Value)}
    (h : policy.TreatsAll fields members s results s') : results.map (·.1) = members.map (·.1) := by
  induction h with
  | nil => rfl
  | cons _ _ ih => exact congrArg (_ :: ·) ih

end Policy

/-- The table after some results; undefined ones are left out. -/
def Table.enterAll (table results : List (Value × Value)) : List (Value × Value) :=
  results.foldl (fun table e => if e.2.isUndefined then table else insert e.1 e.2 table) table

theorem Value.isUndefined_iff {v : Value} : v.isUndefined = true ↔ v = .undefined := by
  cases v <;> simp [isUndefined]

/-- Results under different and new names are entered as they are. -/
theorem Table.mem_enterAll {table results : List (Value × Value)}
    (hnames : results.Pairwise fun a b => (a.1 == b.1) = false)
    (hnew : ∀ e ∈ results, Lacks table e.1) {e : Value × Value} :
    e ∈ enterAll table results ↔ e ∈ table ∨ e ∈ results ∧ e.2 ≠ .undefined := by
  induction results generalizing table with
  | nil => exact ⟨.inl, fun h => h.resolve_right fun h => List.not_mem_nil h.1⟩
  | cons r rest ih =>
    obtain ⟨hr, hrest⟩ := List.forall_mem_cons.1 hnew
    obtain ⟨hlater, hnames⟩ := List.pairwise_cons.1 hnames
    show e ∈ enterAll (if r.2.isUndefined then table else insert r.1 r.2 table) rest ↔ _
    rw [List.mem_cons, or_and_right]
    split
    case isTrue hu =>
      have hr : ¬(e = r ∧ e.2 ≠ .undefined) := fun h =>
        h.2 (by rw [h.1]; exact Value.isUndefined_iff.1 hu)
      rw [ih hnames hrest, or_iff_right hr]
    case isFalse hu =>
      have hinsert : ∀ e ∈ rest, Lacks (insert r.1 r.2 table) e.1 := fun e he f hf => by
        rcases (mem_insert hr).1 hf with rfl | hf
        · exact hlater e he
        · exact hrest e he f hf
      have hdef : e = r ∧ e.2 ≠ .undefined ↔ e = r :=
        and_iff_left_of_imp fun h hundef => hu (Value.isUndefined_iff.2 (by rw [← h, hundef]))
      rw [ih hnames hinsert, mem_insert hr, hdef, or_assoc, or_left_comm]

/-- Entering results into a table in order leaves it in order. -/
theorem Table.inOrder_enterAll {P : Value → Prop} (hP : Value.Comparable P)
    {table results : List (Value × Value)} (hs : InOrder Prod.fst table)
    (htable : ∀ e ∈ table, P e.1) (hresults : ∀ e ∈ results, P e.1) :
    InOrder Prod.fst (enterAll table results) := by
  induction results generalizing table with
  | nil => exact hs
  | cons r rest ih =>
    obtain ⟨hr, hrest⟩ := List.forall_mem_cons.1 hresults
    show InOrder Prod.fst (enterAll (if r.2.isUndefined then table else insert r.1 r.2 table) rest)
    split
    case isTrue => exact ih hs htable hrest
    case isFalse =>
      refine ih (inOrder_insert hP hs htable hr) (fun e he => ?_) hrest
      rcases key_of_mem_insert he with hkey | ⟨f, hf, hkey⟩
      · rw [hkey]
        exact hr
      · rw [← hkey]
        exact htable f hf

/-- The hash that is put together from the results of all members, by its keys and entries. -/
theorem Policy.TreatsAll.enterAll_spec {P : Value → Prop} (hP : Value.Comparable P)
    (hmembers : ∀ m ∈ members, P m.1) (hnames : members.Pairwise fun m n => (m.1 == n.1) = false)
    {results : List (Value × Value)} (h : policy.TreatsAll fields members s results s') :
    InOrder Prod.fst (enterAll [] results) ∧
      ∀ e, e ∈ enterAll [] results ↔ e ∈ results ∧ e.2 ≠ .undefined := by
  have hresults : ∀ e ∈ results, P e.1 := by
    rw [← List.forall_mem_map (P := P) (f := Prod.fst), h.names]
    exact List.forall_mem_map.2 hmembers
  have hdistinct : results.Pairwise fun a b => (a.1 == b.1) = false := by
    rw [← List.pairwise_map (f := Prod.fst) (R := fun a b => (a == b) = false), h.names]
    exact List.pairwise_map.2 hnames
  refine ⟨inOrder_enterAll hP .nil (fun e he => absurd he List.not_mem_nil) hresults, fun e => ?_⟩
  rw [mem_enterAll hdistinct fun e _ f hf => absurd hf List.not_mem_nil]
  exact or_iff_right List.not_mem_nil

namespace Ty

/-! ## One member -/

/-- What fills a missing member is what the table says. -/
theorem fill_runs_iff (hraw : Lacks fields name) {r : Except CoercionError Value} :
    (fill policy name t).Runs s r s' ↔ policy.Treats fields name t s r s' := by
  have hnot := lacks_iff.1 hraw
  unfold fill
  constructor
  case mp =>
    split
    case h_1 d hdefaults hd =>
      rw [runs_lift_iff]
      rintro ⟨w, hdraw, rfl⟩
      exact .default (Policy.appliesDefaults_iff.1 hdefaults) hraw hd hdraw
    case h_2 hdefaults hd hmaybe =>
      rw [runs_pure_iff]
      rintro ⟨rfl, rfl⟩
      exact .nil (Policy.appliesDefaults_iff.1 hdefaults) hraw hd hmaybe
    case h_3 hdefault hnil =>
      have hempty : policy ≠ .strict → t.default? = none ∧ t.isMaybe = false := fun hne => by
        have hdefaults := Policy.appliesDefaults_iff.2 hne
        cases hd : t.default? with
        | some d => exact (hdefault d hdefaults hd).elim
        | none => exact ⟨rfl, Bool.eq_false_iff.2 (hnil hdefaults hd)⟩
      simp only [Policy.isClosed_iff]
      split
      case isTrue hp =>
        rw [runs_throw_iff]
        rintro ⟨rfl, rfl⟩
        exact .missing hraw (hp.imp_right fun h => ⟨h, hempty (by rw [h]; nofun)⟩)
      case isFalse hp =>
        obtain ⟨hd, hmaybe⟩ := hempty fun h => hp (.inl h)
        rw [runs_pure_iff]
        rintro ⟨rfl, rfl⟩
        exact .leftOut hp hraw hd hmaybe
  case mpr =>
    intro h
    cases h with
    | tried _ hhas | kept _ hhas | coerced _ hhas | refused _ hhas => exact absurd hhas (hnot _)
    | default hp _ ht hdraw =>
      simp only [Policy.appliesDefaults_iff.2 hp, ht]
      exact runs_lift_iff.2 ⟨_, hdraw, rfl⟩
    | nil hp _ ht hmaybe =>
      simp only [Policy.appliesDefaults_iff.2 hp, ht, hmaybe]
      rfl
    | leftOut hp _ ht hmaybe =>
      have hdefaults := Policy.appliesDefaults_iff.2 fun h => hp (.inl h)
      simp only [hdefaults, ht, hmaybe, Policy.isClosed_iff, if_neg hp]
      rfl
    | missing _ hp =>
      rcases hp with rfl | ⟨rfl, ht, hmaybe⟩
      · exact runs_throw_iff.2 ⟨rfl, rfl⟩
      · simp only [ht, hmaybe]
        exact runs_throw_iff.2 ⟨rfl, rfl⟩

/-- What becomes of the value of a member is what the table says. -/
theorem coerced_runs_iff (hf : Searches fields name) {raw : Value} (hraw : Has fields name raw)
    {r : Except CoercionError Value} :
    (if policy.isLenient then (t.tryApply raw).recover fun _ => pure raw
      else (t.apply raw).recover fun e => throw (.member name e) :
        Eval CoercionError Value).Runs s r s' ↔ policy.Treats fields name t s r s' := by
  have hnot : ¬Lacks fields name := fun h => lacks_iff.1 h raw hraw
  simp only [Policy.isLenient_iff]
  constructor
  case mp =>
    split
    case isTrue hp =>
      rw [runs_recover_iff]
      rintro (⟨w, hrun, rfl⟩ | ⟨f, s₁, hrun, hkept⟩)
      · exact .tried hp hraw hrun
      · obtain ⟨rfl, rfl⟩ := runs_pure_iff.1 hkept
        exact .kept hp hraw hrun
    case isFalse hp =>
      rw [runs_recover_iff]
      rintro (⟨w, hrun, rfl⟩ | ⟨e, s₁, hrun, hthrow⟩)
      · exact .coerced hp hraw hrun
      · obtain ⟨rfl, rfl⟩ := runs_throw_iff.1 hthrow
        exact .refused hp hraw hrun
  case mpr =>
    intro h
    cases h with
    | tried hp hraw' hrun =>
      rw [hf.unique hraw hraw'] at hrun
      rw [if_pos hp]
      exact runs_recover_iff.2 (.inl ⟨_, hrun, rfl⟩)
    | kept hp hraw' hrun =>
      rw [hf.unique hraw hraw'] at hrun ⊢
      rw [if_pos hp]
      exact runs_recover_iff.2 (.inr ⟨_, _, hrun, rfl⟩)
    | coerced hp hraw' hrun =>
      rw [hf.unique hraw hraw'] at hrun
      rw [if_neg hp]
      exact runs_recover_iff.2 (.inl ⟨_, hrun, rfl⟩)
    | refused hp hraw' hrun =>
      rw [hf.unique hraw hraw'] at hrun
      rw [if_neg hp]
      exact runs_recover_iff.2 (.inr ⟨_, _, hrun, rfl⟩)
    | default _ hlacks | nil _ hlacks | leftOut _ hlacks | missing hlacks =>
      exact absurd hlacks hnot

/-- What a member adds is what the table says. -/
theorem memberValue_runs_iff (hf : Searches fields name) {r : Except CoercionError Value} :
    (memberValue true policy fields name t).Runs s r s' ↔ policy.Treats fields name t s r s' := by
  unfold memberValue
  split
  case h_1 raw hget => exact coerced_runs_iff hf ((hf.found raw).1 hget)
  case h_2 hget => exact fill_runs_iff (hf.missed.1 hget)

/-! ## All members -/

/-- The members succeed exactly if none of them is refused; then all their results are entered. -/
theorem resolve_ok_iff (hf : ∀ m ∈ members, Searches fields m.1) {table : List (Value × Value)} :
    (resolve true policy fields members table).Runs s (.ok output) s' ↔
      ∃ results, policy.TreatsAll fields members s results s' ∧
      output = enterAll table results := by
  induction members generalizing table s with
  | nil =>
    rw [resolve, runs_pure_iff]
    constructor
    · rintro ⟨h, rfl⟩
      cases h
      exact ⟨[], .nil, rfl⟩
    · rintro ⟨_, ⟨⟩, rfl⟩
      exact ⟨rfl, rfl⟩
  | cons m rest ih =>
    obtain ⟨name, t⟩ := m
    obtain ⟨hfirst, hrest⟩ := List.forall_mem_cons.1 hf
    rw [resolve_cons, runs_bind_iff]
    constructor
    · rintro (⟨w, s₁, hw, hresolve⟩ | ⟨x, -, h⟩)
      · obtain ⟨results, hresults, rfl⟩ := (ih hrest).1 hresolve
        exact ⟨_, .cons ((memberValue_runs_iff hfirst).1 hw) hresults, rfl⟩
      · cases h
    · rintro ⟨_, hall, rfl⟩
      cases hall with
      | cons hw hresults =>
        exact .inl ⟨_, _, (memberValue_runs_iff hfirst).2 hw, (ih hrest).2 ⟨_, hresults, rfl⟩⟩

/-- The members fail exactly with the first refusal among them. -/
theorem resolve_error_iff (hf : ∀ m ∈ members, Searches fields m.1) {table : List (Value × Value)}
    {e : CoercionError} :
    (resolve true policy fields members table).Runs s (.error e) s' ↔
      ∃ before name t after results s₁, members = before ++ (name, t) :: after ∧
        policy.TreatsAll fields before s results s₁ ∧
        policy.Treats fields name t s₁ (.error e) s' := by
  induction members generalizing table s with
  | nil =>
    rw [resolve, runs_pure_iff]
    constructor
    · rintro ⟨h, -⟩
      cases h
    · rintro ⟨before, name, t, after, _, _, h, -⟩
      exact absurd h.symm (List.append_ne_nil_of_right_ne_nil _ (List.cons_ne_nil _ _))
  | cons m rest ih =>
    obtain ⟨name, t⟩ := m
    obtain ⟨hfirst, hrest⟩ := List.forall_mem_cons.1 hf
    rw [resolve_cons, runs_bind_iff]
    constructor
    · rintro (⟨w, s₁, hw, hresolve⟩ | ⟨x, hx, h⟩)
      · obtain ⟨before, name', t', after, results, s₂, rfl, hbefore, he⟩ := (ih hrest).1 hresolve
        exact ⟨(name, t) :: before, name', t', after, _, s₂, rfl,
          .cons ((memberValue_runs_iff hfirst).1 hw) hbefore, he⟩
      · cases h
        exact ⟨[], name, t, rest, [], s, rfl, .nil, (memberValue_runs_iff hfirst).1 hx⟩
    · rintro ⟨before, name', t', after, results, s₁, hmembers, hbefore, he⟩
      cases hbefore with
      | nil =>
        cases hmembers
        exact .inr ⟨e, (memberValue_runs_iff hfirst).2 he, rfl⟩
      | cons hw hbefore =>
        cases hmembers
        exact .inl ⟨_, _, (memberValue_runs_iff hfirst).2 hw,
          (ih hrest).2 ⟨_, _, _, _, _, _, rfl, hbefore, he⟩⟩

/-! ## Schemas -/

/-- The unknown keys are those of fields that no member names. -/
theorem mem_unknownKeys {key : Value} :
    key ∈ unknownKeys (members.map (·.1)) fields ↔ Policy.Unknown members fields key := by
  rw [unknownKeys, List.mem_filter, List.any_map, Bool.not_eq_true', List.any_eq_false]
  exact and_congr_right' (forall₂_congr fun m _ => .of_eq (Bool.not_eq_true _))

theorem inOrder_unknownKeys (names : List Value) (h : InOrder Prod.fst fields) :
    InOrder id (unknownKeys names fields) :=
  List.Pairwise.filter _ ((List.pairwise_map (f := Prod.fst)).2 h)

/-- Where no key is unknown, or none needs to be known, the fields are opened. -/
theorem openFields_eq_ok (hknown : policy.AllowsKeys members (transform.fields entries)) :
    openFields policy transform (members.map (·.1)) entries = .ok (transform.fields entries) := by
  rw [openFields, if_neg]
  intro h
  obtain ⟨hclosed, hne⟩ := Bool.and_eq_true_iff.1 h
  obtain ⟨key, hkey⟩ := List.exists_mem_of_ne_nil _ (by simpa using hne)
  exact hknown (Policy.isClosed_iff.1 hclosed) key (mem_unknownKeys.1 hkey)

/-- A closed policy refuses unknown keys and names them all. -/
theorem openFields_eq_error (hp : policy = .strict ∨ policy = .strictWithDefaults)
    (hne : unknownKeys (members.map (·.1)) (transform.fields entries) ≠ []) :
    openFields policy transform (members.map (·.1)) entries =
      .error (.unknownKeys (unknownKeys (members.map (·.1)) (transform.fields entries))) := by
  rw [openFields, if_pos]
  simpa [Policy.isClosed_iff.2 hp] using hne

/-- Under a closed policy unknown keys are all that counts. -/
theorem unknownKeys_gives_iff (hs : InOrder Prod.fst fields)
    (hp : policy = .strict ∨ policy = .strictWithDefaults)
    (hne : unknownKeys (members.map (·.1)) fields ≠ []) {r : Except CoercionError Value} :
    r = .error (.unknownKeys (unknownKeys (members.map (·.1)) fields)) ∧ s' = s ↔
      policy.Gives members fields s r s' := by
  obtain ⟨key, hkey⟩ := List.exists_mem_of_ne_nil _ hne
  constructor
  · rintro ⟨rfl, rfl⟩
    exact .unknown hp hne (inOrder_unknownKeys _ hs) fun key => mem_unknownKeys
  · intro h
    cases h with
    | unknown _ _ hkeys hmem =>
      rw [hkeys.eq_of_mem_iff (inOrder_unknownKeys _ hs)
        fun k => (hmem k).trans mem_unknownKeys.symm]
      exact ⟨rfl, rfl⟩
    | refused hknown => exact absurd (mem_unknownKeys.1 hkey) (hknown hp key)
    | output hknown => exact absurd (mem_unknownKeys.1 hkey) (hknown hp key)

/-- Once no unknown key is refused, the members decide. -/
theorem resolve_gives_iff {P : Value → Prop} (hP : Value.Comparable P)
    (hmembers : ∀ m ∈ members, P m.1) (hnames : members.Pairwise fun m n => (m.1 == n.1) = false)
    (hf : ∀ m ∈ members, Searches fields m.1)
    (hknown : policy.AllowsKeys members fields) {r : Except CoercionError Value} :
    (do
      let output ← resolve true policy fields members []
      pure (.hash output) : Eval CoercionError Value).Runs s r s' ↔
      policy.Gives members fields s r s' := by
  rw [runs_bind_iff]
  constructor
  · rintro (⟨output, s₁, hresolve, hpure⟩ | ⟨e, hresolve, rfl⟩)
    · obtain ⟨rfl, rfl⟩ := runs_pure_iff.1 hpure
      obtain ⟨results, hall, rfl⟩ := (resolve_ok_iff hf).1 hresolve
      obtain ⟨hout, hmem⟩ := hall.enterAll_spec hP hmembers hnames
      exact .output hknown hall hout hmem
    · obtain ⟨before, name, t, after, results, s₁, rfl, hbefore, he⟩ :=
        (resolve_error_iff hf).1 hresolve
      exact .refused hknown rfl hbefore he
  · intro h
    cases h with
    | unknown hp hne _ hmem =>
      obtain ⟨key, hkey⟩ := List.exists_mem_of_ne_nil _ hne
      exact absurd ((hmem key).1 hkey) (hknown hp key)
    | refused _ hsplit hbefore he =>
      exact .inr ⟨_, (resolve_error_iff hf).2 ⟨_, _, _, _, _, _, hsplit, hbefore, he⟩, rfl⟩
    | output _ hall hout hmem =>
      obtain ⟨hout', hmem'⟩ := hall.enterAll_spec hP hmembers hnames
      have heq := hout.eq_of_mem_iff hout' fun e => (hmem e).trans (hmem' e).symm
      exact .inl ⟨_, _, (resolve_ok_iff hf).2 ⟨_, hall, heq⟩, rfl⟩

/-- **Applying a schema gives what its policy says**: the unknown keys, the first refusal, or the
hash of all results, and nothing else. -/
theorem schema_meets_policy (policy : Policy) (transform : KeyTransform)
    (members : List (Value × Ty)) (notes : Metadata) (entries : List (Value × Value))
    {P : Value → Prop} (hP : Value.Comparable P) (hmembers : ∀ m ∈ members, P m.1)
    (hentries : ∀ e ∈ entries, P (transform.apply e.1))
    (hnames : members.Pairwise fun m n => (m.1 == n.1) = false) :
    transform.Collects entries (transform.fields entries) ∧
      ∀ s r s', ((schema policy transform members notes).apply (.hash entries)).Runs s r s' ↔
        policy.Gives members (transform.fields entries) s r s' := by
  refine ⟨KeyTransform.collects_fields hP hentries, fun s r s' => ?_⟩
  have hs := KeyTransform.inOrder_fields hP hentries
  have hf : ∀ m ∈ members, Searches (transform.fields entries) m.1 := fun m hm =>
    KeyTransform.searches_fields hP hentries (hmembers m hm)
  rw [apply]
  by_cases hknown : policy.AllowsKeys members (transform.fields entries)
  case pos =>
    rw [openFields_eq_ok hknown, liftM_ok, pure_bind]
    exact resolve_gives_iff hP hmembers hnames hf hknown
  case neg =>
    simp only [Policy.AllowsKeys, not_forall, not_not] at hknown
    obtain ⟨hp, key, hkey⟩ := hknown
    have hne := List.ne_nil_of_mem (mem_unknownKeys.2 hkey)
    rw [openFields_eq_error hp hne, liftM_error, throw_bind, runs_throw_iff]
    exact unknownKeys_gives_iff hs hp hne

/-- Two names with any value, a default, a maybe, and a string. -/
def mixed : List (Value × Ty) :=
  [(.symbol "a", .definition .any []),
    (.symbol "b", .decorated (.default (.fixed (.integer 7))) (.definition .integer []) []),
    (.symbol "c", .decorated .maybe (.definition .string []) []),
    (.symbol "d", .definition .string [])]

/-- Of two entries under the name `a` the later one counts, what is missing is filled, an integer is
kept where a string was wanted, and the key without a member is dropped. -/
theorem schema_meets_policy_mixed :
    (∀ m ∈ mixed, m.1.NoNaN) ∧ (mixed.Pairwise fun m n => (m.1 == n.1) = false) ∧
      Policy.symbolized.Gives mixed
        (KeyTransform.symbolize.fields [(.symbol "a", .integer 1), (.symbol "d", .integer 5),
          (.string "a", .integer 2), (.string "x", .integer 3)]) ⟨default, []⟩
        (.ok (.hash [(.symbol "a", .integer 2), (.symbol "b", .integer 7), (.symbol "c", .nil),
          (.symbol "d", .integer 5)])) ⟨default, []⟩ := by
  have hmembers : ∀ m ∈ mixed, m.1.NoNaN := by
    simp [mixed, Value.NoNaN, Value.Everywhere, Value.NumbersHaveValue]
  have hnames : mixed.Pairwise fun m n => (m.1 == n.1) = false := by
    decide
  have h := schema_meets_policy .symbolized .symbolize mixed [] [(.symbol "a", .integer 1),
    (.symbol "d", .integer 5), (.string "a", .integer 2), (.string "x", .integer 3)]
    Value.comparable_noNaN hmembers (by simp [KeyTransform.apply, Value.NoNaN, Value.Everywhere,
      Value.NumbersHaveValue]) hnames
  exact ⟨hmembers, hnames, (h.2 _ _ _).1 rfl⟩

/-- A NaN between two other keys. -/
def aroundNaN : List (Value × Value) :=
  [(.floatBeside (.ofInt 3) 1, .string "a"), (.floatBeside .nan 2, .string "b"),
    (.floatBeside (.ofInt 1) 3, .string "c")]

theorem fields_aroundNaN : KeyTransform.identity.fields aroundNaN = aroundNaN := by
  -- the NaN ties with both floats, so that the integers beside them decide
  have hle : (Value.floatBeside .nan 2).isLess (.floatBeside (.ofInt 3) 1) = false := by
    decide +kernel
  have hle' : (Value.floatBeside (.ofInt 1) 3).isLess (.floatBeside .nan 2) = false := by
    decide +kernel
  have hne : (Value.floatBeside (.ofInt 3) 1 == .floatBeside .nan 2) = false := by decide +kernel
  have hne' : (Value.floatBeside .nan 2 == .floatBeside (.ofInt 1) 3) = false := by decide +kernel
  simp [aroundNaN, KeyTransform.fields, KeyTransform.apply, ofEntries, sort, placeDescending,
    keepLast, hle, hle', hne, hne']

/-- The search is left at the first key, which is greater. -/
theorem get?_aroundNaN : get? (.floatBeside (.ofInt 1) 3) aroundNaN = none := by
  have hlt : (Value.floatBeside (.ofInt 1) 3).compare (.floatBeside (.ofInt 3) 1) = .lt := by
    decide +kernel
  simp only [aroundNaN, get?, hlt]

/-- The policy is not always met: with a NaN among the keys a field that is there can be missed. -/
theorem policy_not_always_met :
    KeyTransform.identity.Collects aroundNaN aroundNaN ∧
      Policy.schema.Gives [(.floatBeside (.ofInt 1) 3, .definition .any [])] aroundNaN ⟨default, []⟩
        (.ok (.hash [(.floatBeside (.ofInt 1) 3, .string "c")])) ⟨default, []⟩ ∧
      ((schema .schema .identity [(.floatBeside (.ofInt 1) 3, .definition .any [])] []).apply
        (.hash aroundNaN)).Runs ⟨default, []⟩ (.ok (.hash [])) ⟨default, []⟩ := by
  refine ⟨fun e => (lastWith_iff_mem ?_).symm, ?_, ?_⟩
  · decide +kernel
  · refine .output nofun (.cons (.coerced (by decide)
      ⟨_, .tail _ (.tail _ (.head _)), ?_⟩ rfl) .nil)
      (List.pairwise_singleton _ _) ?_
    · decide +kernel
    · exact fun e => (and_iff_left_of_imp fun he => by rw [List.mem_singleton.1 he]; nofun).symm
  · have hopen : ¬(Policy.schema = .strict ∨ Policy.schema = .strictWithDefaults) := by decide
    rw [apply, openFields_eq_ok fun h => absurd h hopen, liftM_ok, pure_bind, fields_aroundNaN,
      resolve_cons, memberValue, get?_aroundNaN]
    rfl

end Ty

end Conform
