import Conform.Proofs.Contents
import Conform.Ty.Combinators

/-!
# Replacing the core of a type

A type is a core inside layers: the functions, rules, defaults and safety nets around it, each with
its metadata.  The functions that give a type another core walk through the layers around the old
one and put all of them around the new one.  So a result has its layers from the type, and only the
core is made anew.

* `bind_eq_ok`, `map_eq_ok`, `mapError_eq_ok` — when a computation that may fail succeeds.
* `Ty.core`, `Ty.layers`, `Ty.inside` — the parts of a type, and the way back.
* `Ty.replaceCore_eq` — **replacing the core is a matter of the core alone.**
* `Ty.replaceCore_eq_decorated`, `Ty.replaceCore_eq_core` — where a result comes from.
* `Ty.replaceCore_bind`, `Ty.schemaWith_bind` — two replacements in a row are one.
-/

namespace Conform

/-- Two steps succeed in a row exactly if both do. -/
theorem bind_eq_ok {ε α β : Type} {x : Except ε α} {f : α → Except ε β} {b : β} :
    (x >>= f) = .ok b ↔ ∃ a, x = .ok a ∧ f a = .ok b := by
  cases x <;> simp [bind, Except.bind]

theorem map_eq_ok {ε α β : Type} {x : Except ε α} {f : α → β} {b : β} :
    x.map f = .ok b ↔ ∃ a, x = .ok a ∧ f a = b := by
  cases x <;> simp [Except.map]

/-- Success does not depend on how failures are reported. -/
theorem mapError_eq_ok {ε δ α : Type} {x : Except ε α} {f : ε → δ} {a : α} :
    x.mapError f = .ok a ↔ x = .ok a := by
  cases x with
  | ok b => constructor <;> rintro ⟨⟩ <;> rfl
  | error e => exact ⟨nofun, nofun⟩

namespace Ty

/-! ## Cores and layers -/

/-- What is left of a type inside its functions, rules, safety nets and defaults. -/
def core : Ty → Ty
  | .decorated (.constructor _) inner _ => inner.core
  | .decorated (.constrained _) inner _ => inner.core
  | .decorated .safe inner _ => inner.core
  | .decorated (.default _) inner _ => inner.core
  | t => t

/-- Those functions, rules, safety nets and defaults, the outermost first, each with its
metadata. -/
def layers : Ty → List (Decorator × Metadata)
  | .decorated (.constructor fns) inner m => (.constructor fns, m) :: inner.layers
  | .decorated (.constrained rule) inner m => (.constrained rule, m) :: inner.layers
  | .decorated .safe inner m => (.safe, m) :: inner.layers
  | .decorated (.default d) inner m => (.default d, m) :: inner.layers
  | _ => []

/-- A type inside layers, the outermost first. -/
def inside (t : Ty) (layers : List (Decorator × Metadata)) : Ty :=
  layers.foldr (fun l u => .decorated l.1 u l.2) t

@[simp] theorem inside_cons (t : Ty) (d : Decorator) (m : Metadata)
    (layers : List (Decorator × Metadata)) :
    t.inside ((d, m) :: layers) = .decorated d (t.inside layers) m := rfl

/-- A type consists of its core and its layers. -/
theorem inside_layers (t : Ty) : t.core.inside t.layers = t := by
  induction t with
  | decorated d inner m ih =>
    cases d with
    | enumeration => rfl
    | maybe => rfl
    | _ => simp only [core, layers, inside_cons, ih]
  | _ => rfl

/-- A core has no layers of its own. -/
theorem layers_core (t : Ty) : t.core.layers = [] := by
  induction t with
  | decorated d inner m ih =>
    cases d with
    | enumeration => rfl
    | maybe => rfl
    | _ => exact ih
  | _ => rfl

/-- A core has nothing around its own core. -/
theorem core_core (t : Ty) : t.core.core = t.core := by
  have h := t.core.inside_layers
  rwa [layers_core] at h

/-- Whether a type is no decorated one. -/
def IsCore : Ty → Prop
  | .decorated _ _ _ => False
  | _ => True

section IsCore

variable {c : Ty} (hc : c.IsCore)

include hc

theorem IsCore.core_eq : c.core = c := by
  cases c with
  | decorated => exact hc.elim
  | _ => rfl

theorem IsCore.layers_eq : c.layers = [] := by
  cases c with
  | decorated => exact hc.elim
  | _ => rfl

/-- A core that is put into the layers of a type is the core of the result. -/
theorem IsCore.core_inside (t : Ty) : (c.inside t.layers).core = c := by
  induction t with
  | decorated d inner m ih =>
    cases d with
    | enumeration => exact hc.core_eq
    | maybe => exact hc.core_eq
    | _ => exact ih
  | _ => exact hc.core_eq

/-- The layers of the result are those of the type. -/
theorem IsCore.layers_inside (t : Ty) : (c.inside t.layers).layers = t.layers := by
  induction t with
  | decorated d inner m ih =>
    cases d with
    | enumeration => exact hc.layers_eq
    | maybe => exact hc.layers_eq
    | _ => simp only [layers, inside_cons, ih]
  | _ => exact hc.layers_eq

end IsCore

/-! ## Other cores inside the same layers -/

section ReplaceCore

variable {f g : Ty → Except CoercionError Ty}

/-- **Replacing the core of a type is a matter of the core alone**: what is made of it is put into
the layers of the type. -/
theorem replaceCore_eq (f : Ty → Except CoercionError Ty) (t : Ty) :
    t.replaceCore f = (f t.core).map (·.inside t.layers) := by
  have hnone : ∀ x : Except CoercionError Ty, x.map (·.inside []) = x := by
    intro x
    cases x <;> rfl
  induction t with
  | decorated d inner m ih =>
    cases d with
    | enumeration => exact (hnone _).symm
    | maybe => exact (hnone _).symm
    | _ =>
      simp only [replaceCore, Decorator.surroundsCore, if_true, ih, core, layers]
      cases f inner.core <;> rfl
  | _ => exact (hnone _).symm

/-- Replacing the core twice is replacing it once by what both steps make of it. -/
theorem replaceCore_bind (hf : ∀ c v, f c = .ok v → v.IsCore) (t : Ty) :
    (t.replaceCore f >>= fun u => u.replaceCore g) = t.replaceCore fun c => f c >>= g := by
  rw [replaceCore_eq f, replaceCore_eq fun c => f c >>= g]
  cases hc : f t.core with
  | error e => rfl
  | ok v =>
    have hv : v.IsCore := hf _ _ hc
    show (v.inside t.layers).replaceCore g = (g v).map _
    rw [replaceCore_eq, hv.core_inside, hv.layers_inside]

/-- What is made of the core shows in the result, and the layers stay. -/
theorem replaceCore_eq_ok_iff (hf : ∀ c v, f c = .ok v → v.IsCore) {t u : Ty} :
    t.replaceCore f = .ok u ↔ u.layers = t.layers ∧ f t.core = .ok u.core := by
  rw [replaceCore_eq, map_eq_ok]
  constructor
  · rintro ⟨c, hc, rfl⟩
    have hcore : c.IsCore := hf _ _ hc
    exact ⟨hcore.layers_inside t, hc.trans (congrArg _ (hcore.core_inside t).symm)⟩
  · rintro ⟨hlayers, hc⟩
    refine ⟨u.core, hc, ?_⟩
    rw [← hlayers, inside_layers]

/-- Where one change of a core succeeds only with the result of another, so it is around the
core. -/
theorem replaceCore_mono (h : ∀ c v, f c = .ok v → g c = .ok v) {t u : Ty}
    (hu : t.replaceCore f = .ok u) : t.replaceCore g = .ok u := by
  rw [replaceCore_eq, map_eq_ok] at hu ⊢
  obtain ⟨c, hc, hcu⟩ := hu
  exact ⟨c, h _ _ hc, hcu⟩

variable (hf : ∀ c v, f c = .ok v → c.IsCore ∧ v.IsCore) {t v : Ty}

include hf

/-- A decorated result has its decorator from the type. -/
theorem replaceCore_eq_decorated {d : Decorator} {k : Metadata} :
    t.replaceCore f = .ok (.decorated d v k) ↔
      ∃ inner, t = .decorated d inner k ∧ d.surroundsCore = true ∧ inner.replaceCore f = .ok v := by
  constructor
  · intro h
    cases t with
    | decorated e inner m =>
      rw [replaceCore] at h
      split at h
      · next he =>
        obtain ⟨core, hcore, heq⟩ := map_eq_ok.1 h
        cases heq
        exact ⟨inner, rfl, he, hcore⟩
      · exact (hf _ _ h).2.elim
    | _ => exact (hf _ _ h).2.elim
  · rintro ⟨inner, rfl, hd, hi⟩
    rw [replaceCore, if_pos hd, hi]
    rfl

/-- Any other result was made of the type itself. -/
theorem replaceCore_eq_core (hv : v.IsCore) : t.replaceCore f = .ok v ↔ f t = .ok v := by
  cases t with
  | decorated e inner m =>
    rw [replaceCore]
    split
    · constructor
      · intro h
        obtain ⟨core, -, rfl⟩ := map_eq_ok.1 h
        exact hv.elim
      · intro h
        exact (hf _ _ h).1.elim
    · rfl
  | _ => rfl

end ReplaceCore

/-! ## The cores of hashes, arrays and maps -/

/-- What a schema makes of the core of a type. -/
def schemaCore (policy : Policy) (members : List (Value × Ty)) : Ty → Except CoercionError Ty
  | .definition .hash m => .ok (.schema policy policy.keyTransform members m)
  | .schema _ _ _ m => .ok (.schema policy policy.keyTransform members m)
  | core => refuse (.notAHash core.name)

/-- What another key transform makes of it. -/
def transformCore (transform : KeyTransform) : Ty → Except CoercionError Ty
  | .schema policy _ members m => .ok (.schema policy transform members m)
  | core => refuse (.notASchema core.name)

/-- What another type of items makes of it. -/
def itemCore (item : Ty) : Ty → Except CoercionError Ty
  | .definition .array m => .ok (.array item m)
  | .array _ m => .ok (.array item m)
  | core => refuse (.notAnArray core.name)

/-- What two types of keys and values make of the core of a type. -/
def mapCore (key value : Ty) : Ty → Except CoercionError Ty
  | .definition .hash m => .ok (.map key value m)
  | .map _ _ m => .ok (.map key value m)
  | core => refuse (.notAHash core.name)

/-- What another type of keys makes of it. -/
def keyCore (key : Ty) : Ty → Except CoercionError Ty
  | .map _ value m => .ok (.map key value m)
  | core => refuse (.notAMap core.name)

/-- What another type of values makes of it. -/
def valueCore (value : Ty) : Ty → Except CoercionError Ty
  | .map key _ m => .ok (.map key value m)
  | core => refuse (.notAMap core.name)

/-- A schema can take the place of hashes and of other schemas, and of nothing else. -/
theorem schemaCore_eq_ok {policy : Policy} {members : List (Value × Ty)} {c v : Ty} :
    schemaCore policy members c = .ok v ↔
      ∃ m, (c = .definition .hash m ∨ ∃ q f ms, c = .schema q f ms m) ∧
        v = .schema policy policy.keyTransform members m := by
  unfold schemaCore
  split
  · simp [eq_comm]
  · simp [eq_comm]
  · next hd hs =>
    simp only [refuse, reduceCtorEq, false_iff]
    rintro ⟨m, rfl | ⟨q, f, ms, rfl⟩, -⟩
    · exact hd m rfl
    · exact hs q f ms m rfl

/-- An array can take the place of arrays only. -/
theorem itemCore_eq_ok {item c v : Ty} : itemCore item c = .ok v ↔
    ∃ m, (c = .definition .array m ∨ ∃ t, c = .array t m) ∧ v = .array item m := by
  unfold itemCore
  split
  · simp [eq_comm]
  · simp [eq_comm]
  · next hd ha =>
    simp only [refuse, reduceCtorEq, false_iff]
    rintro ⟨m, rfl | ⟨t, rfl⟩, -⟩
    · exact hd m rfl
    · exact ha t m rfl

/-- Giving a type other items is replacing its core. -/
theorem arrayOf_eq (t item : Ty) : t.arrayOf item = t.replaceCore (itemCore item) := rfl

/-- The members and the key transform are put into the core in one step. -/
theorem schemaWith_bind (t : Ty) (policy : Policy) (transform : KeyTransform)
    (members : List (Value × Ty)) :
    (t.schemaWith policy members >>= fun u => u.withKeyTransform transform) =
      t.replaceCore fun c => schemaCore policy members c >>= transformCore transform := by
  refine replaceCore_bind (fun c v h => ?_) t
  obtain ⟨m, -, rfl⟩ := schemaCore_eq_ok.1 h
  trivial

end Ty

end Conform
