import Conform.Coercion.Builtin

/-!
# Running a built-in function again

A built-in function changes an input at most once: what it returns it returns again.  The lenient
conversions share one reason for this.  Where such a conversion changes its input it arrives at a
value of another class, and of that class it keeps every value.

* `Conversion.Settling` — what all lenient conversions do.
* `Builtin.run_again` — running a function on its own result changes nothing, and only an undefined
  input has an undefined result.
-/

namespace Conform

namespace Conversion

/-- The conversion keeps its input, or gives a value that it keeps and that is not blank. -/
def Settling (f : Value → Value) : Prop :=
  ∀ x, f x = x ∨ (f (f x) = f x ∧ (f x).isEmptyString = false ∧ (f x).isUndefined = false)

/-- A function that settles gives the same on its own results. -/
theorem Settling.again {f : Value → Value} (hf : Settling f) (x : Value) : f (f x) = f x := by
  rcases hf x with h | ⟨h, -, -⟩
  · rw [h, h]
  · exact h

/-- Such a function makes nothing undefined that was not so. -/
theorem Settling.eq_undefined {f : Value → Value} (hf : Settling f) {x : Value}
    (h : f x = .undefined) : x = .undefined := by
  rcases hf x with hx | ⟨-, -, hx⟩
  · rw [← hx, h]
  · rw [h] at hx
    cases hx

theorem settling_id : Settling id := fun _ => .inl rfl

/-- Reading a text settles when no text is read off as a text. -/
theorem settling_readOr {read? : List Char → Option Value}
    (hr : ∀ cs v, read? cs = some v → readOr read? v = v ∧ v.isEmptyString = false ∧
      v.isUndefined = false) : Settling (readOr read?) := by
  intro x
  cases x with
  | string s =>
    cases h : read? s.toList with
    | none => exact .inl (by simp [readOr, h])
    | some v =>
      have hv : readOr read? (.string s) = v := by simp [readOr, h]
      rw [hv]
      exact .inr (hr _ _ h)
  | _ => exact .inl rfl

/-- Converting numbers settles when every number that comes out of it is kept. -/
theorem settling_numberOr {convert? : Number → Option Number} {read? : List Char → Option Number}
    (hc : ∀ n m, convert? n = some m → convert? m = some m)
    (hr : ∀ cs m, read? cs = some m → convert? m = some m) :
    Settling (numberOr convert? read?) := by
  have keep : ∀ m, convert? m = some m → numberOr convert? read? (.number m) = .number m := by
    intro m hm
    simp [numberOr, hm]
  intro x
  cases x with
  | number n =>
    cases h : convert? n with
    | none => exact .inl (by simp [numberOr, h])
    | some m =>
      have hm : numberOr convert? read? (.number n) = .number m := by simp [numberOr, h]
      rw [hm]
      exact .inr ⟨keep m (hc n m h), rfl, rfl⟩
  | string s =>
    cases h : read? s.toList with
    | none => exact .inl (by simp [numberOr, h])
    | some m =>
      have hm : numberOr convert? read? (.string s) = .number m := by simp [numberOr, h]
      rw [hm]
      exact .inr ⟨keep m (hr _ m h), rfl, rfl⟩
  | _ => exact .inl rfl

/-- With `nil` for the empty string a conversion that keeps `nil` still settles. -/
theorem Settling.blankIsNil {f : Value → Value} (hf : Settling f) (hn : f .nil = .nil) :
    Settling (blankIsNil f) := by
  have hnil : Conversion.blankIsNil f .nil = .nil := by
    simpa [Conversion.blankIsNil, Value.isEmptyString] using hn
  intro x
  cases hx : x.isEmptyString with
  | true =>
    have hb : Conversion.blankIsNil f x = .nil := by simp [Conversion.blankIsNil, hx]
    rw [hb]
    exact .inr ⟨hnil, rfl, rfl⟩
  | false =>
    have hb : Conversion.blankIsNil f x = f x := by simp [Conversion.blankIsNil, hx]
    rw [hb]
    rcases hf x with h | ⟨h, he, hu⟩
    · exact .inl h
    · refine .inr ⟨?_, he, hu⟩
      simpa [Conversion.blankIsNil, he] using h

/-! ## Numbers -/

/-- A truncated number is truncated to itself. -/
theorem truncate_truncate {n m : Number} (h : n.truncate = some m) : m.truncate = some m := by
  cases n with
  | integer z => cases h; rfl
  | decimal d => cases h; rfl
  | float x =>
    obtain ⟨z, -, hz⟩ := Option.bind_eq_some_iff.1 h
    split at hz
    · cases hz; rfl
    · cases hz

theorem toDecimal?_toDecimal? {n m : Number} (h : n.toDecimal? = some m) :
    m.toDecimal? = some m := by
  cases n with
  | integer z => cases h; rfl
  | decimal d => cases h; rfl
  | float x =>
    obtain ⟨d, -, hd⟩ := Option.map_eq_some_iff.1 h
    cases hd
    rfl

/-- An integer that is read is truncated to itself. -/
theorem truncate_of_readInteger? {cs : List Char} {m : Number}
    (h : Number.readInteger? cs = some m) :
    m.truncate = some m := by
  obtain ⟨z, -, hz⟩ := Option.map_eq_some_iff.1 h
  cases hz
  rfl

/-- A float that is read is converted to itself. -/
theorem toFloat_of_readFloat? {cs : List Char} {m : Number} (h : Number.readFloat? cs = some m) :
    m.toFloat = m := by
  unfold Number.readFloat? at h
  simp only at h
  split at h
  · obtain ⟨x, -, hx⟩ := Option.map_eq_some_iff.1 h
    cases hx
    rfl
  · cases h

/-- A decimal that is read is converted to itself. -/
theorem toDecimal?_of_readDecimal? {cs : List Char} {m : Number}
    (h : Number.readDecimal? cs = some m) : m.toDecimal? = some m := by
  obtain ⟨d, -, hd⟩ := Option.map_eq_some_iff.1 h
  cases hd
  rfl

/-! ## The lenient conversions settle -/

theorem settling_integerOr : Settling integerOr :=
  settling_numberOr (fun _ _ => truncate_truncate) (fun _ _ => truncate_of_readInteger?)

theorem settling_floatOr : Settling floatOr := by
  refine settling_numberOr ?_ ?_
  · intro n m h
    cases h
    rfl
  · intro cs m h
    rw [toFloat_of_readFloat? h]

theorem settling_decimalOr : Settling decimalOr :=
  settling_numberOr (fun _ _ => toDecimal?_toDecimal?) (fun _ _ => toDecimal?_of_readDecimal?)

theorem settling_dateOr : Settling dateOr := by
  refine settling_readOr fun cs v h => ?_
  obtain ⟨d, -, rfl⟩ := Option.map_eq_some_iff.1 h
  exact ⟨rfl, rfl, rfl⟩

theorem settling_dateTimeOr : Settling dateTimeOr := by
  refine settling_readOr fun cs v h => ?_
  obtain ⟨d, -, rfl⟩ := Option.map_eq_some_iff.1 h
  exact ⟨rfl, rfl, rfl⟩

theorem settling_timeOr : Settling timeOr := by
  refine settling_readOr fun cs v h => ?_
  obtain ⟨d, -, rfl⟩ := Option.map_eq_some_iff.1 h
  exact ⟨rfl, rfl, rfl⟩

theorem settling_wordOr (words : List String) (b : Bool) : Settling (wordOr words b) := by
  intro x
  cases x with
  | string s =>
    simp only [wordOr]
    split
    · exact .inr ⟨rfl, rfl, rfl⟩
    · exact .inl rfl
  | _ => exact .inl rfl

theorem settling_itemsOr : Settling itemsOr := by
  intro x
  cases hx : x.isEmptyString with
  | true =>
    have h : itemsOr x = .array [] := by simp [itemsOr, hx]
    rw [h]
    exact .inr ⟨rfl, rfl, rfl⟩
  | false => exact .inl (by simp [itemsOr, hx])

theorem settling_hashOr : Settling hashOr := by
  intro x
  cases hx : x.isEmptyString || x.isNil with
  | true =>
    have h : hashOr x = .hash [] := by simp [hashOr, hx]
    rw [h]
    exact .inr ⟨rfl, rfl, rfl⟩
  | false => exact .inl (by simp [hashOr, hx])

theorem settling_absentIsNil : Settling absentIsNil := by
  intro x
  cases hx : x.isAbsent with
  | true =>
    have h : absentIsNil x = .nil := by simp [absentIsNil, hx]
    rw [h]
    exact .inr ⟨rfl, rfl, rfl⟩
  | false => exact .inl (by simp [absentIsNil, hx])

/-! ## The strict conversions -/

theorem toText_isString {x y : Value} (h : toText x = .ok y) : ∃ s, y = .string s := by
  cases x <;> cases h <;> exact ⟨_, rfl⟩

/-- A conversion by way of an optional number gives that number. -/
theorem orFault_map_number {x y : Value} {fault : ConversionFault} {n? : Option Number}
    (h : orFault x fault (n?.map .number) = .ok y) : ∃ m, n? = some m ∧ y = .number m := by
  cases n? with
  | none => cases h
  | some m =>
    cases h
    exact ⟨m, rfl, rfl⟩

/-- Making an integer gives a number that makes itself. -/
theorem toInteger_again {x y : Value} (h : toInteger x = .ok y) :
    toInteger y = .ok y ∧ ∃ m, y = .number m := by
  have keep : ∀ m : Number, m.truncate = some m → toInteger (.number m) = .ok (.number m) := by
    intro m hm
    simp [toInteger, hm, orFault]
  cases x with
  | number n =>
    obtain ⟨m, hm, rfl⟩ := orFault_map_number h
    exact ⟨keep m (truncate_truncate hm), m, rfl⟩
  | string s =>
    obtain ⟨m, hm, rfl⟩ := orFault_map_number h
    exact ⟨keep m (truncate_of_readInteger? hm), m, rfl⟩
  | _ => cases h

theorem toFloat_again {x y : Value} (h : toFloat x = .ok y) :
    toFloat y = .ok y ∧ ∃ m, y = .number m := by
  cases x with
  | number n =>
    cases h
    exact ⟨rfl, _, rfl⟩
  | string s =>
    obtain ⟨m, hm, rfl⟩ := orFault_map_number h
    refine ⟨?_, m, rfl⟩
    simp only [toFloat, toFloat_of_readFloat? hm]
  | _ => cases h

theorem toDecimal_again {x y : Value} (h : toDecimal x = .ok y) :
    toDecimal y = .ok y ∧ ∃ m, y = .number m := by
  have keep : ∀ m : Number, m.toDecimal? = some m → toDecimal (.number m) = .ok (.number m) := by
    intro m hm
    simp [toDecimal, hm, orFault]
  cases x with
  | number n =>
    obtain ⟨m, hm, rfl⟩ := orFault_map_number h
    exact ⟨keep m (toDecimal?_toDecimal? hm), m, rfl⟩
  | string s =>
    obtain ⟨m, hm, rfl⟩ := orFault_map_number h
    exact ⟨keep m (toDecimal?_of_readDecimal? hm), m, rfl⟩
  | _ => cases h

theorem toItems_isArray {x y : Value} (h : toItems x = .ok y) : ∃ items, y = .array items := by
  cases x <;> cases h <;> exact ⟨_, rfl⟩

theorem toHash_isHash {x y : Value} (h : toHash x = .ok y) : ∃ entries, y = .hash entries := by
  cases x with
  | array items =>
    simp only [toHash] at h
    split at h
    · cases h
      exact ⟨_, rfl⟩
    · cases h
  | nil => cases h; exact ⟨_, rfl⟩
  | hash entries => cases h; exact ⟨_, rfl⟩
  | _ => cases h

theorem toSymbol_isSymbol {x y : Value} (h : toSymbol x = .ok y) : ∃ s, y = .symbol s := by
  cases x <;> cases h <;> exact ⟨_, rfl⟩

end Conversion

namespace Builtin

open Conversion in
/-- **A second run changes nothing.**  A function of a lenient family never refuses, and settles;
one of the family `kernel` gives a value of its target and keeps that. -/
theorem run_again {b : Builtin} {x y : Value} (h : b.run x = .ok y) :
    b.run y = .ok y ∧ (y = .undefined → x = .undefined) := by
  have lenient : ∀ {f : Value → Value}, Settling f →
    (.ok (f x) : Except CoercionError Value) = .ok y →
      (.ok (f y) : Except CoercionError Value) = .ok y ∧ (y = .undefined → x = .undefined) := by
    intro f hf hxy
    cases hxy
    exact ⟨by rw [hf.again], hf.eq_undefined⟩
  have ofNumber : ∀ {e : Except CoercionError Value}, (e = .ok y ∧ ∃ m, y = .number m) →
      e = .ok y ∧ (y = .undefined → x = .undefined) := by
    rintro e ⟨he, m, rfl⟩
    exact ⟨he, nofun⟩
  cases b with
  | kernelString =>
    obtain ⟨s, rfl⟩ := toText_isString h
    exact ⟨rfl, nofun⟩
  | kernelInteger => exact ofNumber (toInteger_again h)
  | kernelFloat => exact ofNumber (toFloat_again h)
  | kernelDecimal => exact ofNumber (toDecimal_again h)
  | kernelArray =>
    obtain ⟨items, rfl⟩ := toItems_isArray h
    exact ⟨rfl, nofun⟩
  | kernelHash =>
    obtain ⟨entries, rfl⟩ := toHash_isHash h
    exact ⟨rfl, nofun⟩
  | kernelSymbol =>
    obtain ⟨s, rfl⟩ := toSymbol_isSymbol h
    exact ⟨rfl, nofun⟩
  | paramsNil => exact lenient (settling_id.blankIsNil rfl) h
  | paramsTrue => exact lenient (settling_wordOr _ _) h
  | paramsFalse => exact lenient (settling_wordOr _ _) h
  | paramsInteger => exact lenient (settling_integerOr.blankIsNil rfl) h
  | paramsFloat => exact lenient (settling_floatOr.blankIsNil rfl) h
  | paramsDecimal => exact lenient (settling_decimalOr.blankIsNil rfl) h
  | paramsDate => exact lenient (settling_dateOr.blankIsNil rfl) h
  | paramsDateTime => exact lenient (settling_dateTimeOr.blankIsNil rfl) h
  | paramsTime => exact lenient (settling_timeOr.blankIsNil rfl) h
  | paramsArray => exact lenient settling_itemsOr h
  | paramsHash => exact lenient settling_hashOr h
  | jsonNil => exact lenient settling_absentIsNil h
  | jsonDate => exact lenient settling_dateOr h
  | jsonDateTime => exact lenient settling_dateTimeOr h
  | jsonTime => exact lenient settling_timeOr h
  | jsonDecimal => exact lenient settling_decimalOr h

/-- The two functions that aim at arrays keep every array. -/
theorem run_array {b : Builtin} (hb : b.target = .array) (items : List Value) :
    b.run (.array items) = .ok (.array items) := by
  cases b <;> cases hb <;> rfl

/-- What is read off as `false` is no word for `true`; all else is given back. -/
theorem run_paramsFalse (x : Value) :
    paramsFalse.run x = .ok x ∨ paramsFalse.run x = .ok (.bool false) := by
  cases x with
  | string s =>
    simp only [run, Conversion.wordOr]
    split
    · exact .inr rfl
    · exact .inl rfl
  | _ => exact .inl rfl

end Builtin

end Conform
