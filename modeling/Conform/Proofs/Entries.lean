import Conform.Proofs.FirstError
import Conform.Proofs.Policies

/-!
# What a map makes of a hash

A map tries the key and the value of every entry, whatever became of the entries before it.  Either
all of them are accepted, and the new entries are inserted one after the other; or all faults are
reported, in the order of the entries and for each entry first that of the key.  Applying and trying
a map differ only in the input that a failure of trying carries.

Several keys can become one.  Under it stands the value of the last of their entries, provided that
comparing the new keys is transitive, as it is without NaN.

* `Ty.CoercesTo`, `Ty.EntryReport` — the new entry of an entry, and the faults that are reported for
  it.
* `Table.HoldsLast` — a table in which of pairs with one key the last counts.
* `Ty.map_reports_all` — **a map coerces all entries or reports every fault.**
* `Ty.last_not_always_held` — keys with a NaN among them.
-/

namespace Conform

open Eval Table

/-! ## Attempts -/

namespace Eval

variable {α : Type}

/-- What is reported for an input fails and succeeds as before. -/
theorem outcome_blame (x : Value) (e : Eval CoercionError α) (s : Supply) :
    (Eval.blame x e).outcome s = (e.outcome s).mapError (Failure.mk x) := by
  unfold outcome
  rcases h : e.run s with ⟨f | a, s'⟩
  · have hrun : (Eval.blame x e).run s = (.error ⟨x, f⟩, s') := run_bind_eq h
    rw [hrun]
    rfl
  · have hrun : (Eval.blame x e).run s = (.ok a, s') := run_bind_eq h
    rw [hrun]
    rfl

end Eval

namespace Attempt

variable {a : Attempt} {attempts : List Attempt}

/-- An entry without faults has both of its parts. -/
theorem faults_eq_nil_iff :
    a.faults = [] ↔ (∃ k, a.newKey = .ok k) ∧ ∃ v, a.newValue = .ok v := by
  rw [faults, List.append_eq_nil_iff]
  refine and_congr ?_ ?_
  · cases a.newKey with
    | ok k => exact iff_of_true rfl ⟨k, rfl⟩
    | error f => exact iff_of_false nofun nofun
  · cases a.newValue with
    | ok v => exact iff_of_true rfl ⟨v, rfl⟩
    | error f => exact iff_of_false nofun nofun

/-- Without faults the entries are put in one after another, so that the last of a key stays. -/
theorem assemble_of_faults_eq_nil (h : attempts.flatMap faults = []) :
    assemble attempts =
      .ok (.hash ((attempts.filterMap entry?).foldl (fun t e => Table.insert e.1 e.2 t) [])) := by
  rw [assemble, h]

theorem assemble_of_faults_ne_nil (h : attempts.flatMap faults ≠ []) :
    assemble attempts = .error (.entries (attempts.flatMap faults)) := by
  rw [assemble]
  cases hfaults : attempts.flatMap faults with
  | nil => exact absurd hfaults h
  | cons fault rest => rfl

end Attempt

/-- The texts of the faults of a map name each part and its reason. -/
theorem CoercionError.entryMessages_eq (faults : List (EntryPart × CoercionError)) :
    entryMessages faults = faults.map fun fault =>
      fault.1.text ++ " is invalid: " ++ fault.2.reason := by
  induction faults with
  | nil => rw [entryMessages, List.map_nil]
  | cons fault rest ih =>
    obtain ⟨part, e⟩ := fault
    rw [List.map_cons, ← ih]
    cases e <;> simp only [entryMessages, reason]

/-! ## Entries one by one -/

/-- Of pairs with one key the table holds the last; the keys are those of pairs, each once. -/
structure Table.HoldsLast (P : Value → Prop) (pairs table : List (Value × Value)) : Prop where
  inOrder : InOrder Prod.fst table
  keys : ∀ e ∈ table, ∃ p ∈ pairs, p.1 = e.1
  has : ∀ k, P k → ∀ v,
    Has table k v ↔ ∃ l, LastWith Prod.fst pairs (l, v) ∧ (l == k) = true

namespace Ty

/-- The types accept the key and the value of an entry, and give those of the pair. -/
def CoercesTo (key value : Ty) (e p : Value × Value) : Prop :=
  key.Accepts e.1 p.1 ∧ value.Accepts e.2 p.2

/-- An entry has one new entry. -/
theorem coercesTo_unique {key value : Ty} : Relator.RightUnique (key.CoercesTo value) :=
  fun _ _ _ h h' => Prod.ext (Except.ok.inj (h.1.unique h'.1)) (Except.ok.inj (h.2.unique h'.2))

/-- What is reported for a part of an entry: nothing if the type accepts it, and its error
otherwise. -/
inductive PartReport (t : Ty) (x : Value) (part : EntryPart) :
    List (EntryPart × CoercionError) → Prop
  | accepted {w} (h : t.Accepts x w) : PartReport t x part []
  | refused {e} (h : t.Refuses x e) : PartReport t x part [(part, e)]

/-- What is reported for an entry: the fault of the key before that of the value. -/
def EntryReport (key value : Ty) (e : Value × Value)
    (report : List (EntryPart × CoercionError)) : Prop :=
  ∃ forKey forValue, key.PartReport e.1 (.key e.1) forKey ∧
    value.PartReport e.2 (.value e.1 e.2) forValue ∧ report = forKey ++ forValue

section Entries

variable {key value : Ty} {entries : List (Value × Value)} {attempts : List Attempt}
  {e : Value × Value} {a : Attempt}

theorem partReport_of_yields {t : Ty} {x : Value} {r : Except Failure Value}
    (h : (t.tryApply x).Yields r) (part : EntryPart) :
    t.PartReport x part (Attempt.faultOf part r) := by
  cases r with
  | ok w => exact .accepted h
  | error f => exact .refused ⟨f.input, h⟩

/-- The faults of an attempt are what is reported for its entry. -/
theorem entryReport_of_tries (h : a.Tries key.tryApply value.tryApply e) :
    key.EntryReport value e a.faults := by
  refine ⟨_, _, ?_, ?_, rfl⟩
  · rw [h.key]
    exact partReport_of_yields h.newKey _
  · rw [h.key, h.value]
    exact partReport_of_yields h.newValue _

/-- An attempt without faults is one of an entry that is accepted. -/
theorem faults_eq_nil_iff_of_tries (h : a.Tries key.tryApply value.tryApply e) :
    a.faults = [] ↔ (∃ w, key.Accepts e.1 w) ∧ ∃ w, value.Accepts e.2 w := by
  rw [Attempt.faults_eq_nil_iff]
  exact and_congr (exists_congr fun w => h.newKey.eq_iff) (exists_congr fun w => h.newValue.eq_iff)

/-- Attempts without faults give the new entries in order. -/
theorem coercesTo_of_tries
    (h : List.Forall₂ (Attempt.Tries key.tryApply value.tryApply) entries attempts)
    (hfaults : ∀ a ∈ attempts, a.faults = []) :
    List.Forall₂ (key.CoercesTo value) entries (attempts.filterMap Attempt.entry?) := by
  induction h with
  | nil => exact .nil
  | @cons e a entries attempts ha _ ih =>
    obtain ⟨hfault, hfaults⟩ := List.forall_mem_cons.1 hfaults
    obtain ⟨⟨k, hk⟩, v, hv⟩ := Attempt.faults_eq_nil_iff.1 hfault
    have hentry : a.entry? = some (k, v) := by
      unfold Attempt.entry?
      rw [hk, hv]
    rw [List.filterMap_cons_some hentry]
    exact .cons ⟨ha.newKey.eq_iff.1 hk, ha.newValue.eq_iff.1 hv⟩ (ih hfaults)

/-- There are no faults exactly if every key and every value is accepted. -/
theorem forall_faults_eq_nil_iff
    (h : List.Forall₂ (Attempt.Tries key.tryApply value.tryApply) entries attempts) :
    (∀ a ∈ attempts, a.faults = []) ↔
      ∀ e ∈ entries, (∃ w, key.Accepts e.1 w) ∧ ∃ w, value.Accepts e.2 w := by
  induction h with
  | nil =>
    exact iff_of_true (fun a ha => absurd ha List.not_mem_nil)
      fun e he => absurd he List.not_mem_nil
  | cons ha _ ih =>
    rw [List.forall_mem_cons, List.forall_mem_cons, faults_eq_nil_iff_of_tries ha, ih]

end Entries

/-! ## The map -/

/-- Entries that are inserted one after the other stand under their keys, the last of those with
one. -/
theorem holdsLast_foldl_insert {P : Value → Prop} (hP : Value.Comparable P)
    {pairs : List (Value × Value)} (h : ∀ p ∈ pairs, P p.1) :
    HoldsLast P pairs (pairs.foldl (fun t e => insert e.1 e.2 t) []) where
  inOrder := inOrder_foldl_insert hP .nil (fun e he => absurd he List.not_mem_nil) h
  keys := forall_mem_foldl_insert (P := fun k => ∃ p ∈ pairs, p.1 = k)
    (fun e he => absurd he List.not_mem_nil) fun p hp => ⟨p, hp, rfl⟩
  has := fun k hk v => by
    rw [has_foldl_insert hP .nil (fun e he => absurd he List.not_mem_nil) h hk]
    exact or_iff_left fun h => not_has_nil h.2

/-- **A map coerces all entries or reports every fault.**  Applying and trying it agree.  They
succeed exactly if every key and every value is valid, and give a hash that holds the last of the
new entries under each new key.  Otherwise there is one fault for each invalid key and one for each
invalid value, in the order of the entries, each with its reason. -/
theorem map_reports_all (key value : Ty) (hkey : key.generators = [])
    (hvalue : value.generators = []) (m : Metadata) (entries : List (Value × Value)) (s : Supply) :
    ((map key value m).tryApply (.hash entries)).outcome s =
        (((map key value m).apply (.hash entries)).outcome s).mapError
          (Failure.mk (.hash entries)) ∧
    ((∃ w, ((map key value m).apply (.hash entries)).outcome s = .ok w) ↔
      ∀ e ∈ entries, ((key.isValid e.1).run s).1 = true ∧ ((value.isValid e.2).run s).1 = true) ∧
    (∀ w, ((map key value m).apply (.hash entries)).outcome s = .ok w →
      ∃ pairs table, w = .hash table ∧ List.Forall₂ (key.CoercesTo value) entries pairs ∧
        ∀ P, Value.Comparable P → (∀ p ∈ pairs, P p.1) → HoldsLast P pairs table) ∧
    ∀ f, ((map key value m).apply (.hash entries)).outcome s = .error f →
      ∃ reports, List.Forall₂ (key.EntryReport value) entries reports ∧
        f = .entries reports.flatten ∧
        CoercionError.entryMessages reports.flatten =
          reports.flatten.map fun fault => fault.1.text ++ " is invalid: " ++ fault.2.reason := by
  -- both evaluations try the entries, and what they find out is the same against any supply
  obtain ⟨attempts, hattempts, htries⟩ := exists_tries (settled_tryApply hkey)
    (settled_tryApply hvalue) entries
  have happly :
      ((map key value m).apply (.hash entries)).outcome s = Attempt.assemble attempts := by
    rw [apply]
    exact ((yields_lift hattempts).bind_ok (yields_liftExcept _)).outcome_eq s
  have hvalid : attempts.flatMap Attempt.faults = [] ↔
      ∀ e ∈ entries, ((key.isValid e.1).run s).1 = true ∧ ((value.isValid e.2).run s).1 = true := by
    simp only [List.flatMap_eq_nil_iff, forall_faults_eq_nil_iff htries, isValid_iff_accepts hkey,
      isValid_iff_accepts hvalue]
  refine ⟨?_, ?_⟩
  · rw [tryApply, apply]
    exact outcome_blame _ _ s
  rw [happly, ← hvalid]
  by_cases hfaults : attempts.flatMap Attempt.faults = []
  · rw [Attempt.assemble_of_faults_eq_nil hfaults]
    have hnew := coercesTo_of_tries htries (List.flatMap_eq_nil_iff.1 hfaults)
    refine ⟨iff_of_true ⟨_, rfl⟩ hfaults, fun w hw => ?_, fun f hf => ?_⟩
    · cases hw
      exact ⟨_, _, rfl, hnew, fun P hP h => holdsLast_foldl_insert hP h⟩
    · cases hf
  · rw [Attempt.assemble_of_faults_ne_nil hfaults]
    refine ⟨iff_of_false ?_ hfaults, fun w hw => ?_, fun f hf => ?_⟩
    · rintro ⟨w, hw⟩
      cases hw
    · cases hw
    · cases hf
      refine ⟨attempts.map Attempt.faults, ?_, congrArg _ List.flatMap_def,
        CoercionError.entryMessages_eq _⟩
      exact List.forall₂_map_right_iff.2 (htries.imp fun e a h => entryReport_of_tries h)

/-- Integers under texts, which are made of symbols too. -/
def countsByName : Ty :=
  maps ((strict .string).constructor Builtin.kernelString.toCoercion) (strict .integer)

/-- A symbol and a string become one key, under which the value of the string stands.  Values that
are no integers are reported. -/
theorem map_reports_all_names :
    (((strict .string).constructor Builtin.kernelString.toCoercion).generators = [] ∧
      (strict .integer).generators = []) ∧
    (∃ table,
      (countsByName.apply (.hash [(.symbol "a", .integer 1), (.string "a", .integer 2)])).outcome
        ⟨default, []⟩ = .ok (.hash table) ∧
      HoldsLast Value.NoNaN [(.string "a", .integer 1), (.string "a", .integer 2)] table) ∧
    ∃ e,
      (countsByName.apply (.hash [(.symbol "a", .string "x"), (.string "a", .integer 2)])).outcome
        ⟨default, []⟩ = .error e ∧
      (countsByName.tryApply
        (.hash [(.symbol "a", .string "x"), (.string "a", .integer 2)])).outcome
        ⟨default, []⟩ =
          .error ⟨.hash [(.symbol "a", .string "x"), (.string "a", .integer 2)], e⟩ := by
  have hreports (entries) := map_reports_all
    ((strict .string).constructor Builtin.kernelString.toCoercion) (strict .integer) rfl rfl []
      entries ⟨default, []⟩
  refine ⟨⟨rfl, rfl⟩, ?_, _, rfl, (hreports _).1⟩
  obtain ⟨pairs, table, htable, hpairs, hlast⟩ := (hreports
    [(.symbol "a", .integer 1), (.string "a", .integer 2)]).2.2.1 _ rfl
  have heq : pairs = [(.string "a", .integer 1), (.string "a", .integer 2)] :=
    List.right_unique_forall₂' coercesTo_unique hpairs
      (.cons ⟨fun _ => rfl, fun _ => rfl⟩ (.cons ⟨fun _ => rfl, fun _ => rfl⟩ .nil))
  subst heq
  refine ⟨table, congrArg Except.ok htable, hlast Value.NoNaN Value.comparable_noNaN ?_⟩
  simp [Value.NoNaN, Value.Everywhere, Value.NumbersHaveValue]

/-- Words for the infinities and for what is no number. -/
def floatWords : List (Value × Value) :=
  [(.number (.float (.infinite true)), .string "a"),
   (.number (.float (.infinite false)), .string "b"),
    (.number (.float .nan), .string "c")]

/-- The last entry with a key is not always held.  The NaN ties with both infinities, and its value
replaces that of the lesser one, but not that of the greater one. -/
theorem last_not_always_held :
    ∃ u, any.enumerateMapping floatWords = .ok u ∧ u.generators = [] ∧
      ∃ pairs table, List.Forall₂ (u.CoercesTo any)
        [(.string "a", .integer 1), (.string "b", .integer 2),
          (.string "c", .integer 3)] pairs ∧
        ((maps u any).apply (.hash [(.string "a", .integer 1), (.string "b", .integer 2),
          (.string "c", .integer 3)])).outcome ⟨default, []⟩ = .ok (.hash table) ∧
        (LastWith Prod.fst pairs (.number (.float .nan), .integer 3) ∧
          (Value.number (.float .nan) == .number (.float (.infinite false))) = true ∧
          ¬Has table (.number (.float (.infinite false))) (.integer 3)) ∧
        (.number (.float (.infinite true)), .integer 1) ∈ pairs ∧
          ¬Has table (.number (.float (.infinite true))) (.integer 1) := by
  refine ⟨_, rfl, rfl, [(.number (.float (.infinite true)), .integer 1),
      (.number (.float (.infinite false)), .integer 2), (.number (.float .nan), .integer 3)],
    [(.number (.float (.infinite true)), .integer 3),
     (.number (.float (.infinite false)), .integer 2)],
    ?_, rfl, ⟨?_, by decide, ?_⟩, List.mem_cons_self, ?_⟩
  · exact .cons ⟨fun _ => rfl, fun _ => rfl⟩ (.cons ⟨fun _ => rfl, fun _ => rfl⟩
      (.cons ⟨fun _ => rfl, fun _ => rfl⟩ .nil))
  · exact ⟨[_, _], [], rfl, fun x hx => absurd hx List.not_mem_nil⟩
  · have hne :
        (Value.number (.float (.infinite true)) == .number (.float (.infinite false))) = false := by
      decide
    simp [has_cons, not_has_nil, hne, Value.integer]
  · simp [has_cons, not_has_nil, Value.integer]

end Ty

end Conform
