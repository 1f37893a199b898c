import Conform.Coercion.Builtin
import Conform.Proofs.Cores
import Conform.Proofs.Equality

/-!
# Laws of replacement

The calls that give a type another core look at the core alone.  They put what they make of it back
into the very layers that were there, and what they make never gains a layer.  So what an earlier
call has put in is gone after a later one of the same kind, and the two parts of a map are put in
independently of each other.

Hashes of any entries can become a map, but only a map has parts to be replaced one by one: putting
in both parts at once succeeds on more types than putting in one after the other.

* `CoreChange` — the calls that put another core in, with what they `Makes` of a core.
* `CoreChange.run_eq_ok_iff` — what such a call gives: the old layers around the new core.
* `Ty.core_replacement_laws` — calls in a row, and calls under layers.
-/

namespace Conform

/-! ## Calls that replace the core -/

/-- A call that gives a type another core. -/
inductive CoreChange
  | arrayOf (item : Ty)
  | schemaWith (policy : Policy) (members : List (Value × Ty))
  | withKeyTransform (transform : KeyTransform)
  | mapOf (key value : Ty)
  | withKey (key : Ty)
  | withValue (value : Ty)

namespace CoreChange

/-- The result of the call. -/
def run : CoreChange → Ty → Except CoercionError Ty
  | arrayOf item, t => t.arrayOf item
  | schemaWith policy members, t => t.schemaWith policy members
  | withKeyTransform transform, t => t.withKeyTransform transform
  | mapOf key value, t => t.mapOf key value
  | withKey key, t => t.withKey key
  | withValue value, t => t.withValue value

/-- What the call makes of a core. -/
def onCore : CoreChange → Ty → Except CoercionError Ty
  | arrayOf item => Ty.itemCore item
  | schemaWith policy members => Ty.schemaCore policy members
  | withKeyTransform transform => Ty.transformCore transform
  | mapOf key value => Ty.mapCore key value
  | withKey key => Ty.keyCore key
  | withValue value => Ty.valueCore value

/-- The cores that a call takes, and the core that it makes of each: arrays are made of arrays,
schemas of hashes and schemas, maps of hashes and maps, and a part is put only where there is one.
The metadata of the core stays. -/
inductive Makes : CoreChange → Ty → Ty → Prop
  | arrayOf {item m} : Makes (.arrayOf item) (.definition .array m) (.array item m)
  | arrayOf_array {item old m} : Makes (.arrayOf item) (.array old m) (.array item m)
  | schemaWith {policy members m} : Makes (.schemaWith policy members) (.definition .hash m)
      (.schema policy policy.keyTransform members m)
  | schemaWith_schema {policy members p f ms m} :
      Makes (.schemaWith policy members) (.schema p f ms m)
      (.schema policy policy.keyTransform members m)
  | withKeyTransform {transform policy f members m} : Makes (.withKeyTransform transform)
      (.schema policy f members m) (.schema policy transform members m)
  | mapOf {key value m} : Makes (.mapOf key value) (.definition .hash m) (.map key value m)
  | mapOf_map {key value k v m} : Makes (.mapOf key value) (.map k v m) (.map key value m)
  | withKey {key k value m} : Makes (.withKey key) (.map k value m) (.map key value m)
  | withValue {value key v m} : Makes (.withValue value) (.map key v m) (.map key value m)

variable {c d e : CoreChange} {s t u v : Ty}

/-- A change of the core is a replacement of the core. -/
theorem run_eq (c : CoreChange) (t : Ty) : c.run t = t.replaceCore c.onCore := by
  cases c <;> rfl

/-- A change of the core succeeds exactly if it makes the type in question. -/
theorem onCore_eq_ok_iff : c.onCore t = .ok v ↔ c.Makes t v := by
  constructor
  · intro h
    cases c with
    | arrayOf item =>
      obtain ⟨m, rfl | ⟨old, rfl⟩, rfl⟩ := Ty.itemCore_eq_ok.1 h
      · exact .arrayOf
      · exact .arrayOf_array
    | schemaWith policy members =>
      obtain ⟨m, rfl | ⟨p, f, ms, rfl⟩, rfl⟩ := Ty.schemaCore_eq_ok.1 h
      · exact .schemaWith
      · exact .schemaWith_schema
    | withKeyTransform transform =>
      cases t with
      | schema => cases h; exact .withKeyTransform
      | _ => cases h
    | mapOf key value =>
      cases t with
      | definition p m =>
        cases p with
        | hash => cases h; exact .mapOf
        | _ => cases h
      | map => cases h; exact .mapOf_map
      | _ => cases h
    | withKey key =>
      cases t with
      | map => cases h; exact .withKey
      | _ => cases h
    | withValue value =>
      cases t with
      | map => cases h; exact .withValue
      | _ => cases h
  · intro h
    cases h <;> rfl

/-- A change of the core makes a core. -/
theorem Makes.isCore (h : c.Makes t v) : v.IsCore := by
  cases h <;> trivial

/-- **What a call gives**: the layers of the type around what it makes of the core. -/
theorem run_eq_ok_iff : c.run t = .ok u ↔ u.layers = t.layers ∧ c.Makes t.core u.core := by
  rw [run_eq, Ty.replaceCore_eq_ok_iff fun _ _ h => (onCore_eq_ok_iff.1 h).isCore, onCore_eq_ok_iff]

/-- Types with one core are taken or refused alike, whatever layers they have. -/
theorem isOk_run_congr (c : CoreChange) (h : s.core = t.core) :
    (c.run s).isOk = (c.run t).isOk := by
  have hmap : ∀ (x : Except CoercionError Ty) (f : Ty → Ty), (x.map f).isOk = x.isOk := by
    intro x f
    cases x <;> rfl
  rw [run_eq, run_eq, Ty.replaceCore_eq, Ty.replaceCore_eq, hmap, hmap, h]

/-- Two calls in a row are one change of the core. -/
theorem run_bind (c d : CoreChange) (t : Ty) :
    (c.run t >>= d.run) = t.replaceCore fun core => c.onCore core >>= d.onCore := by
  rw [run_eq, show d.run = fun u => u.replaceCore d.onCore from funext d.run_eq]
  exact Ty.replaceCore_bind (fun _ _ h => (onCore_eq_ok_iff.1 h).isCore) t

/-! ## Calls in a row -/

/-- A call after one whose work it does again. -/
theorem run_bind_eq (h : ∀ core, (c.onCore core >>= d.onCore) = e.onCore core) (t : Ty) :
    (c.run t >>= d.run) = e.run t := by
  rw [run_bind, run_eq]
  exact congrArg (Ty.replaceCore · t) (funext h)

/-- The items of an array replace those that were put in before. -/
theorem run_arrayOf_arrayOf (a b t : Ty) :
    ((arrayOf a).run t >>= (arrayOf b).run) = (arrayOf b).run t := by
  refine run_bind_eq (fun core => ?_) t
  cases core with
  | definition p m => cases p <;> rfl
  | _ => rfl

/-- A schema replaces the one that was put in before, its policy and key transform included. -/
theorem run_schemaWith_schemaWith (p q : Policy) (ms ns : List (Value × Ty)) (t : Ty) :
    ((schemaWith p ms).run t >>= (schemaWith q ns).run) = (schemaWith q ns).run t := by
  refine run_bind_eq (fun core => ?_) t
  cases core with
  | definition p m => cases p <;> rfl
  | _ => rfl

/-- The parts of a map are put in independently of each other. -/
theorem run_withKey_withValue (key value t : Ty) :
    ((withKey key).run t >>= (withValue value).run) =
      ((withValue value).run t >>= (withKey key).run) := by
  rw [run_bind, run_bind]
  refine congrArg (Ty.replaceCore · t) (funext fun core => ?_)
  cases core <;> rfl

/-- Where there are parts to be replaced, both at once are put in as one after the other. -/
theorem run_mapOf_of_withKey_withValue {key value : Ty}
    (h : ((withKey key).run t >>= (withValue value).run) = .ok u) :
    (mapOf key value).run t = .ok u := by
  rw [run_bind] at h
  rw [run_eq]
  refine Ty.replaceCore_mono (fun core v hv => ?_) h
  cases core with
  | map => exact hv
  | _ => cases hv

end CoreChange

namespace Ty

/-- Two calls come to the same: they give types that are equal, metadata included, or are refused
for the same reason. -/
inductive SameOutcome : Except CoercionError Ty → Except CoercionError Ty → Prop
  | given {t u : Ty} (h : t.equals true u = true) : SameOutcome (.ok t) (.ok u)
  | refused (e : CoercionError) : SameOutcome (.error e) (.error e)

theorem sameOutcome_of_eq {x y : Except CoercionError Ty} (h : x = y) : SameOutcome x y := by
  subst h
  cases x with
  | ok t => exact .given (t.equals_self true)
  | error e => exact .refused e

/-- **Replacing a core is like writing through a lens.**  The last items and the last schema count,
and the parts of a map are put in in either order, or at once.  Whether a call succeeds is up to the
core alone.  What it gives has the same functions, rules, safety nets and defaults around it, each
with the same metadata, and inside them what it makes of the core. -/
theorem core_replacement_laws (t : Ty) :
    (∀ a b, SameOutcome (t.arrayOf a >>= fun u => u.arrayOf b) (t.arrayOf b)) ∧
      (∀ p ms q ns, SameOutcome (t.schemaWith p ms >>= fun u => u.schemaWith q ns)
        (t.schemaWith q ns)) ∧
      (∀ k v, SameOutcome (t.withKey k >>= fun u => u.withValue v)
        (t.withValue v >>= fun u => u.withKey k)) ∧
      (∀ k v u, (t.withKey k >>= fun u => u.withValue v) = .ok u ∨
          (t.withValue v >>= fun u => u.withKey k) = .ok u →
        ∃ w, t.mapOf k v = .ok w ∧ u.equals true w = true) ∧
      (∀ (c : CoreChange) (s : Ty), s.core = t.core → (c.run s).isOk = (c.run t).isOk) ∧
      ∀ (c : CoreChange) (u : Ty),
        c.run t = .ok u ↔ u.layers = t.layers ∧ c.Makes t.core u.core := by
  have hcommute (k v : Ty) := CoreChange.run_withKey_withValue k v t
  refine ⟨fun a b => ?_, fun p ms q ns => ?_, fun k v => ?_, fun k v u hu => ?_, fun c s hs => ?_,
    fun c u => ?_⟩
  · exact sameOutcome_of_eq (CoreChange.run_arrayOf_arrayOf a b t)
  · exact sameOutcome_of_eq (CoreChange.run_schemaWith_schemaWith p q ms ns t)
  · exact sameOutcome_of_eq (hcommute k v)
  · have hparts : (t.withKey k >>= fun u => u.withValue v) = .ok u :=
      hu.elim id (hcommute k v).trans
    exact ⟨u, CoreChange.run_mapOf_of_withKey_withValue hparts, u.equals_self true⟩
  · exact c.isOk_run_congr hs
  · exact CoreChange.run_eq_ok_iff

/-- Switches by name in a described map, with all that can be around a core. -/
def switches : Ty :=
  decorate .safe <| decorate (.default (.fixed (.hash [(.symbol "power", .string "off")]))) <|
    ((Ty.map (ofPrimitive .symbol) (ofPrimitive .string)
      [("doc", .string "switches")]).constrainedBy
      (.predicate .filled)).constructor Builtin.kernelHash.toCoercion

/-- The parts of switches are replaced one by one as both at once, and nothing around the map makes
a difference to whether another core is taken. -/
theorem core_replacement_laws_switches :
    (∃ u, (switches.withKey any >>= fun u => u.withValue (ofPrimitive .integer)) = .ok u ∧
        ∃ w, switches.mapOf any (ofPrimitive .integer) = .ok w ∧ u.equals true w = true) ∧
      switches.core.core = switches.core ∧
        ∀ c : CoreChange, (c.run switches.core).isOk = (c.run switches).isOk := by
  obtain ⟨-, -, -, hparts, hcore, -⟩ := core_replacement_laws switches
  exact ⟨⟨_, rfl, hparts _ _ _ (.inl rfl)⟩, switches.core_core,
    fun c => hcore c _ switches.core_core⟩

end Ty

end Conform
