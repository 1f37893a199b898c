import Conform.Proofs.Contents
import Conform.Proofs.Registered
import Conform.Proofs.Repeat

/-!
# Built-in functions and their targets

A built-in function aims at one primitive, and the standard type that runs it is about that
primitive.  A strict function gives instances of its target or refuses.  A lenient one gives its
input back or `nil` where it has no such instance to give.  Either leaves an instance of the target
as it is.

* `Builtin.family`, `Builtin.typeName` — the family of a function, and the standard type that runs
  it.
* `Conversion.Strict`, `Conversion.Lenient` — what the two kinds of conversion do, with one lemma
  for each way to put a conversion together.
* `Builtin.strict_run`, `Builtin.lenient_run` — which functions are which.
* `Builtin.conforms_to_target` — **every function keeps to its target**, and a second run changes
  nothing.
-/

namespace Conform

/-! ## Families -/

/-- The functions that refuse what they cannot convert, and those for form parameters and for
documents, which never refuse. -/
inductive Builtin.Family
  | kernel
  | params
  | json
  deriving DecidableEq

namespace Builtin

/-- The name of a family. -/
def Family.name : Family → String
  | .kernel => "kernel"
  | .params => "params"
  | .json => "json"

/-- The family of a function. -/
def family : Builtin → Family
  | .kernelString | .kernelInteger | .kernelFloat | .kernelDecimal | .kernelArray | .kernelHash
  | .kernelSymbol => .kernel
  | .jsonNil | .jsonDate | .jsonDateTime | .jsonTime | .jsonDecimal => .json
  | _ => .params

/-- The name of the standard type that runs the function. -/
def typeName (b : Builtin) : String :=
  match b.family with
  | .kernel => "coercible." ++ b.target.identifier
  | f => f.name ++ "." ++ b.target.identifier

/-- The standard type that runs a function runs nothing else, and is about the target. -/
theorem exists_type (b : Builtin) : ∃ t, TypeRegistry.standard.get? b.typeName = some t ∧
    t.coercions = [b.toCoercion] ∧ t.primitive? = some b.target := by
  simp only [TypeRegistry.get?_standard]
  cases b <;> exact ⟨_, rfl, rfl, rfl⟩

end Builtin

namespace Conversion

variable {p : Primitive}

/-! ## Strict conversions -/

/-- The conversion gives instances of the primitive only, and keeps them. -/
structure Strict (p : Primitive) (f : Value → Except CoercionError Value) : Prop where
  admits : ∀ {x y}, f x = .ok y → p.admits y
  keeps : ∀ {x}, p.admits x → f x = .ok x

theorem isInteger_of_truncate {n m : Number} (h : n.truncate = some m) : m.isInteger := by
  cases n with
  | integer z => cases h; rfl
  | decimal d => cases h; rfl
  | float x =>
    obtain ⟨z, -, hz⟩ := Option.bind_eq_some_iff.1 h
    split at hz
    · cases hz; rfl
    · cases hz

theorem isInteger_of_readInteger? {cs : List Char} {m : Number}
    (h : Number.readInteger? cs = some m) :
    m.isInteger :=
  isInteger_of_truncate (truncate_of_readInteger? h)

theorem isFloat_of_readFloat? {cs : List Char} {m : Number} (h : Number.readFloat? cs = some m) :
    m.isFloat :=
  toFloat_of_readFloat? h ▸ rfl

theorem isDecimal_of_toDecimal? {n m : Number} (h : n.toDecimal? = some m) : m.isDecimal := by
  cases n with
  | integer z => cases h; rfl
  | decimal d => cases h; rfl
  | float x =>
    obtain ⟨d, -, rfl⟩ := Option.map_eq_some_iff.1 h
    rfl

theorem isDecimal_of_readDecimal? {cs : List Char} {m : Number}
    (h : Number.readDecimal? cs = some m) :
    m.isDecimal :=
  isDecimal_of_toDecimal? (toDecimal?_of_readDecimal? h)

theorem truncate_of_isInteger {n : Number} (h : n.isInteger) : n.truncate = some n := by
  cases n with
  | integer z => rfl
  | _ => cases h

theorem toFloat_of_isFloat {n : Number} (h : n.isFloat) : n.toFloat = n := by
  cases n with
  | float x => rfl
  | _ => cases h

theorem toDecimal?_of_isDecimal {n : Number} (h : n.isDecimal) : n.toDecimal? = some n := by
  cases n with
  | decimal d => rfl
  | _ => cases h

theorem strict_toText : Strict .string toText where
  admits h := by
    obtain ⟨s, rfl⟩ := toText_isString h
    rfl
  keeps {x} h := by
    cases x <;> cases h
    rfl

theorem strict_toInteger : Strict .integer toInteger where
  admits {x y} h := by
    cases x with
    | number n =>
      obtain ⟨m, hm, rfl⟩ := orFault_map_number h
      exact isInteger_of_truncate hm
    | string s =>
      obtain ⟨m, hm, rfl⟩ := orFault_map_number h
      exact isInteger_of_readInteger? hm
    | _ => cases h
  keeps {x} h := by
    cases x with
    | number n => rw [toInteger, truncate_of_isInteger h]; rfl
    | _ => cases h

theorem strict_toFloat : Strict .float toFloat where
  admits {x y} h := by
    cases x with
    | number n => cases h; rfl
    | string s =>
      obtain ⟨m, hm, rfl⟩ := orFault_map_number h
      exact isFloat_of_readFloat? hm
    | _ => cases h
  keeps {x} h := by
    cases x with
    | number n => rw [toFloat, toFloat_of_isFloat h]
    | _ => cases h

theorem strict_toDecimal : Strict .decimal toDecimal where
  admits {x y} h := by
    cases x with
    | number n =>
      obtain ⟨m, hm, rfl⟩ := orFault_map_number h
      exact isDecimal_of_toDecimal? hm
    | string s =>
      obtain ⟨m, hm, rfl⟩ := orFault_map_number h
      exact isDecimal_of_readDecimal? hm
    | _ => cases h
  keeps {x} h := by
    cases x with
    | number n => rw [toDecimal, toDecimal?_of_isDecimal h]; rfl
    | _ => cases h

theorem strict_toItems : Strict .array toItems where
  admits h := by
    obtain ⟨items, rfl⟩ := toItems_isArray h
    rfl
  keeps {x} h := by
    cases x <;> cases h
    rfl

theorem strict_toHash : Strict .hash toHash where
  admits h := by
    obtain ⟨entries, rfl⟩ := toHash_isHash h
    rfl
  keeps {x} h := by
    cases x <;> cases h
    rfl

theorem strict_toSymbol : Strict .symbol toSymbol where
  admits h := by
    obtain ⟨s, rfl⟩ := toSymbol_isSymbol h
    rfl
  keeps {x} h := by
    cases x <;> cases h
    rfl

/-! ## Lenient conversions -/

/-- The conversion gives its input back, `nil` or an instance of the primitive, and keeps the
latter. -/
structure Lenient (p : Primitive) (f : Value → Value) : Prop where
  admits : ∀ x, f x = x ∨ f x = .nil ∨ p.admits (f x)
  keeps : ∀ {x}, p.admits x → f x = x

/-- No text is an instance of the primitive. -/
def NoText (p : Primitive) : Prop :=
  ∀ s, p.admits (.string s) = false

theorem lenient_id : Lenient p id where
  admits _ := .inl rfl
  keeps _ := rfl

/-- Reading a text gives what the reader makes of it. -/
theorem lenient_readOr (hp : NoText p) {α : Type} (read? : List Char → Option α) {make : α → Value}
    (hm : ∀ a, p.admits (make a)) : Lenient p (readOr fun cs => (read? cs).map make) where
  admits x := by
    cases x with
    | string s =>
      cases h : read? s.toList with
      | none => exact .inl (by rw [readOr, h]; rfl)
      | some a => exact .inr (.inr (by rw [readOr, h]; exact hm a))
    | _ => exact .inl rfl
  keeps {x} h := by
    cases x with
    | string s => rw [hp] at h; cases h
    | _ => rfl

/-- A conversion of numbers is lenient if it gives the kind in question and leaves that kind
alone. -/
theorem lenient_numberOr (hp : NoText p) {convert? : Number → Option Number}
    {read? : List Char → Option Number} (hc : ∀ n m, convert? n = some m → p.admits (.number m))
    (hk : ∀ n, p.admits (.number n) → convert? n = some n)
    (hr : ∀ cs m, read? cs = some m → p.admits (.number m)) :
    Lenient p (numberOr convert? read?) where
  admits x := by
    cases x with
    | number n =>
      cases h : convert? n with
      | none => exact .inl (by rw [numberOr, h]; rfl)
      | some m => exact .inr (.inr (by rw [numberOr, h]; exact hc _ _ h))
    | string s =>
      cases h : read? s.toList with
      | none => exact .inl (by rw [numberOr, h]; rfl)
      | some m => exact .inr (.inr (by rw [numberOr, h]; exact hr _ _ h))
    | _ => exact .inl rfl
  keeps {x} h := by
    cases x with
    | number n => rw [numberOr, hk n h]; rfl
    | string s => rw [hp] at h; cases h
    | _ => rfl

/-- A value of a kind without texts is no empty text. -/
theorem isEmptyString_of_admits (hp : NoText p) {x : Value} (h : p.admits x) :
    x.isEmptyString = false := by
  cases x with
  | string s => rw [hp] at h; cases h
  | _ => rfl

/-- Taking blank texts for nil does not change that a function is lenient. -/
theorem Lenient.blankIsNil (hp : NoText p) {f : Value → Value} (hf : Lenient p f) :
    Lenient p (blankIsNil f) where
  admits x := by
    unfold Conversion.blankIsNil
    split
    · exact .inr (.inl rfl)
    · exact hf.admits x
  keeps {x} h := by
    rw [Conversion.blankIsNil, isEmptyString_of_admits hp h]
    exact hf.keeps h

theorem lenient_integerOr : Lenient .integer integerOr :=
  lenient_numberOr (fun _ => rfl) (fun _ _ => isInteger_of_truncate)
    (fun _ => truncate_of_isInteger) (fun _ _ => isInteger_of_readInteger?)

theorem lenient_floatOr : Lenient .float floatOr := by
  refine lenient_numberOr (fun _ => rfl) ?_ ?_ (fun _ _ => isFloat_of_readFloat?)
  · intro n m h
    cases h
    rfl
  · intro n h
    rw [toFloat_of_isFloat h]

theorem lenient_decimalOr : Lenient .decimal decimalOr :=
  lenient_numberOr (fun _ => rfl) (fun _ _ => isDecimal_of_toDecimal?)
    (fun _ => toDecimal?_of_isDecimal) (fun _ _ => isDecimal_of_readDecimal?)

theorem lenient_dateOr : Lenient .date dateOr :=
  lenient_readOr (fun _ => rfl) _ fun _ => rfl

theorem lenient_dateTimeOr : Lenient .dateTime dateTimeOr :=
  lenient_readOr (fun _ => rfl) _ fun _ => rfl

theorem lenient_timeOr : Lenient .time timeOr :=
  lenient_readOr (fun _ => rfl) _ fun _ => rfl

theorem lenient_wordOr (hp : NoText p) (words : List String) {b : Bool} (hb : p.admits (.bool b)) :
    Lenient p (wordOr words b) where
  admits x := by
    cases x with
    | string s =>
      simp only [wordOr]
      split
      · exact .inr (.inr hb)
      · exact .inl rfl
    | _ => exact .inl rfl
  keeps {x} h := by
    cases x with
    | string s => rw [hp] at h; cases h
    | _ => rfl

theorem lenient_itemsOr : Lenient .array itemsOr where
  admits x := by
    unfold itemsOr
    split
    · exact .inr (.inr rfl)
    · exact .inl rfl
  keeps {x} h := by
    cases x <;> cases h
    rfl

theorem lenient_hashOr : Lenient .hash hashOr where
  admits x := by
    unfold hashOr
    split
    · exact .inr (.inr rfl)
    · exact .inl rfl
  keeps {x} h := by
    cases x <;> cases h
    rfl

theorem lenient_absentIsNil : Lenient .nil absentIsNil where
  admits x := by
    unfold absentIsNil
    split
    · exact .inr (.inl rfl)
    · exact .inl rfl
  keeps {x} h := by
    cases x <;> cases h
    rfl

end Conversion

namespace Builtin

open Conversion

/-- The functions of the kernel give their target, or fail. -/
theorem strict_run {b : Builtin} (hb : b.family = .kernel) : Strict b.target b.run := by
  cases b with
  | kernelString => exact strict_toText
  | kernelInteger => exact strict_toInteger
  | kernelFloat => exact strict_toFloat
  | kernelDecimal => exact strict_toDecimal
  | kernelArray => exact strict_toItems
  | kernelHash => exact strict_toHash
  | kernelSymbol => exact strict_toSymbol
  | _ => cases hb

/-- All other built-in functions give their target or the input, and never fail. -/
theorem lenient_run {b : Builtin} (hb : b.family ≠ .kernel) :
    ∃ f, Lenient b.target f ∧ ∀ x, b.run x = .ok (f x) := by
  cases b with
  | paramsNil => exact ⟨_, lenient_id.blankIsNil (fun _ => rfl), fun _ => rfl⟩
  | paramsTrue => exact ⟨_, lenient_wordOr (fun _ => rfl) trueWords rfl, fun _ => rfl⟩
  | paramsFalse => exact ⟨_, lenient_wordOr (fun _ => rfl) falseWords rfl, fun _ => rfl⟩
  | paramsInteger => exact ⟨_, lenient_integerOr.blankIsNil (fun _ => rfl), fun _ => rfl⟩
  | paramsFloat => exact ⟨_, lenient_floatOr.blankIsNil (fun _ => rfl), fun _ => rfl⟩
  | paramsDecimal => exact ⟨_, lenient_decimalOr.blankIsNil (fun _ => rfl), fun _ => rfl⟩
  | paramsDate => exact ⟨_, lenient_dateOr.blankIsNil (fun _ => rfl), fun _ => rfl⟩
  | paramsDateTime => exact ⟨_, lenient_dateTimeOr.blankIsNil (fun _ => rfl), fun _ => rfl⟩
  | paramsTime => exact ⟨_, lenient_timeOr.blankIsNil (fun _ => rfl), fun _ => rfl⟩
  | paramsArray => exact ⟨_, lenient_itemsOr, fun _ => rfl⟩
  | paramsHash => exact ⟨_, lenient_hashOr, fun _ => rfl⟩
  | jsonNil => exact ⟨_, lenient_absentIsNil, fun _ => rfl⟩
  | jsonDate => exact ⟨_, lenient_dateOr, fun _ => rfl⟩
  | jsonDateTime => exact ⟨_, lenient_dateTimeOr, fun _ => rfl⟩
  | jsonTime => exact ⟨_, lenient_timeOr, fun _ => rfl⟩
  | jsonDecimal => exact ⟨_, lenient_decimalOr, fun _ => rfl⟩
  | _ => exact absurd rfl hb

/-- **Every built-in function keeps to its target**, the primitive that the standard type with the
function is about.  A strict function gives instances of it only; a lenient one never refuses, and
gives its input back, `nil` or such an instance.  An instance comes back as it is, and so does every
result. -/
theorem conforms_to_target (b : Builtin) :
    (∃ t, TypeRegistry.standard.get? b.typeName = some t ∧ t.coercions = [b.toCoercion] ∧
      t.primitive? = some b.target) ∧
    ∀ x, (b.family = .kernel → ∀ y, b.run x = .ok y → b.target.admits y) ∧
      (b.family ≠ .kernel → ∃ y, b.run x = .ok y ∧ (y = x ∨ y = .nil ∨ b.target.admits y)) ∧
      (b.target.admits x → b.run x = .ok x) ∧
      ∀ y, b.run x = .ok y → b.run y = .ok y := by
  refine ⟨b.exists_type, fun x => ?_⟩
  by_cases hb : b.family = .kernel
  · have hstrict := strict_run hb
    exact ⟨fun _ _ => hstrict.admits, fun h => absurd hb h, hstrict.keeps,
      fun _ h => (run_again h).1⟩
  · obtain ⟨f, hf, hrun⟩ := lenient_run hb
    refine ⟨fun h => absurd h hb, fun _ => ⟨f x, hrun x, hf.admits x⟩, fun h => ?_,
      fun _ h => (run_again h).1⟩
    rw [hrun, hf.keeps h]

end Builtin
end Conform
