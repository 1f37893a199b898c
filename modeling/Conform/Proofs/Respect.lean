import Conform.Coercion.Builtin
import Conform.Proofs.Contents
import Conform.Proofs.Same

/-!
# Functions and rules respect sameness

Values that are the same are handled alike: a predicate has one answer for both, and a built-in
function refuses both or turns them into values that are the same.  The one exception is the
conversion of a value into the text that messages show, which tells the zeros apart and gives the
clock of a moment.

* `Parallel` — two results are both successes, with related values, or both failures.
* `Conversion.Respectful` — what all lenient conversions do.
* `Builtin.parallel_run` — **a built-in function respects sameness**, `kernel.string` apart.
* `Rule.parallel_evaluate` — equal rules agree on values that are the same.
-/

namespace Conform

open Value (Same)

/-- Two results that are both successes, with related values, or both failures. -/
inductive Parallel {δ ε α β : Type} (R : α → β → Prop) : Except δ α → Except ε β → Prop
  | ok {a : α} {b : β} (h : R a b) : Parallel R (.ok a) (.ok b)
  | error (x : δ) (y : ε) : Parallel R (.error x) (.error y)

/-! ## Shape -/

namespace Value.Same

variable {v w : Value}

theorem isUndefined (h : v.Same w) : v.isUndefined = w.isUndefined := by
  cases h.form <;> rfl

theorem isNil (h : v.Same w) : v.isNil = w.isNil := by
  cases h.form <;> rfl

theorem isAbsent (h : v.Same w) : v.isAbsent = w.isAbsent := by
  cases h.form <;> rfl

theorem isEmptyString (h : v.Same w) : v.isEmptyString = w.isEmptyString := by
  cases h.form <;> rfl

/-- Same values have the same size. -/
theorem size? (h : v.Same w) : v.size? = w.size? := by
  cases h.form with
  | array hs | set hs | hash hs => exact congrArg some hs.length_eq
  | _ => rfl

theorem admits (h : v.Same w) (p : Primitive) : p.admits v = p.admits w := by
  cases h.form with
  | number hn => exact hn.congr (f := fun k => p.admits (.number k)) fun b c => by cases p <;> rfl
  | _ => cases p <;> rfl

end Value.Same

/-! ## Numbers -/

namespace Number

/-- A number with a value is the same as itself. -/
theorem same_self {n : Number} (h : n.HasValue) : n.Same n :=
  Value.same_number_iff.1 (Value.same_self h)

/-- What computes numbers, and does not tell zeros apart, turns the same into the same. -/
theorem rel_of_congr {f : Number → Option Number}
    (hf : ∀ b c, f (.float (.zero b)) = f (.float (.zero c)))
    (hvalue : ∀ n k, f n = some k → k.HasValue) {m n : Number} (h : m.Same n) :
    Option.Rel Same (f m) (f n) := by
  rw [h.congr hf]
  cases hk : f n with
  | none => exact .none
  | some k => exact .some (same_self (hvalue n k hk))

/-- Same numbers are truncated to same ones. -/
theorem rel_truncate {m n : Number} (h : m.Same n) : Option.Rel Same m.truncate n.truncate := by
  refine rel_of_congr (fun b c => ?_) (fun n k hk => ?_) h
  · cases b <;> cases c <;> decide +kernel
  · cases n with
    | integer z => cases hk; exact hasValue_integer _
    | decimal d => cases hk; exact hasValue_integer _
    | float x =>
      obtain ⟨z, -, hz⟩ := Option.bind_eq_some_iff.1 hk
      split at hz
      · cases hz; exact hasValue_integer z
      · cases hz

/-- Same numbers are converted to same decimals. -/
theorem rel_toDecimal? {m n : Number} (h : m.Same n) :
    Option.Rel Same m.toDecimal? n.toDecimal? := by
  refine rel_of_congr (fun b c => ?_) (fun n k hk => ?_) h
  · cases b <;> cases c <;> decide +kernel
  · cases n with
    | integer z => cases hk; exact hasValue_decimal _
    | decimal d => cases hk; exact hasValue_decimal _
    | float x =>
      obtain ⟨d, -, rfl⟩ := Option.map_eq_some_iff.1 hk
      exact hasValue_decimal d

theorem Same.toFloat {m n : Number} (h : m.Same n) : m.toFloat.Same n.toFloat := by
  rcases h.eq_or_zeros with rfl | ⟨b, c, rfl, rfl⟩
  · exact same_self fun hnan => toBinary64_ne_nan h.left (float.inj hnan)
  · exact h

theorem toLower_ne_of_isFloatChar {c : Char} (h : isFloatChar c = true) : c.toLower ≠ 'n' := by
  simp only [isFloatChar, Bool.or_eq_true, decide_eq_true_eq] at h
  rcases h with ((((hdigit | rfl) | rfl) | rfl) | rfl) | rfl
  · rw [Binary64.toLower_of_isDigit hdigit]
    rintro rfl
    cases hdigit
  all_goals decide

theorem eq_ofDecimal_of_readMagnitude? {negative : Bool} {cs : List Char} {x : Binary64}
    (h : Binary64.readMagnitude? negative cs = some x) :
    ∃ n e, x = Binary64.ofDecimal negative n e := by
  simp only [Binary64.readMagnitude?] at h
  -- with a point among the digits or without
  split at h <;> split at h
  all_goals
    first
    | cases h
    | obtain ⟨e, -, rfl⟩ := Option.map_eq_some_iff.1 h
      exact ⟨_, _, rfl⟩

/-- The word for what is no number is not among the texts of floats. -/
theorem ofText?_ne_nan {cs : List Char} (h : ∀ c ∈ cs, isFloatChar c = true) :
    Binary64.ofText? cs ≠ some .nan := by
  have hsign : (Text.splitSign cs).2 ⊆ cs := by
    unfold Text.splitSign
    split <;> simp
  have hword : (Text.splitSign cs).2.map Char.toLower ≠ "nan".toList := by
    intro hnan
    have hmem : 'n' ∈ (Text.splitSign cs).2.map Char.toLower := by
      rw [hnan]
      decide
    obtain ⟨c, hc, hlower⟩ := List.mem_map.1 hmem
    exact toLower_ne_of_isFloatChar (h c (hsign hc)) hlower
  simp only [Binary64.ofText?, if_neg hword]
  split
  · exact nofun
  · intro hnan
    obtain ⟨n, e, he⟩ := eq_ofDecimal_of_readMagnitude? hnan
    exact (Binary64.rounds_ofDecimal _ n e).1 he.symm

theorem hasValue_of_readFloat? {cs : List Char} {n : Number} (h : readFloat? cs = some n) :
    n.HasValue := by
  simp only [readFloat?] at h
  split at h
  · next hchars =>
    obtain ⟨x, hx, rfl⟩ := Option.map_eq_some_iff.1 h
    rintro ⟨⟩
    exact ofText?_ne_nan (List.all_eq_true.1 hchars.2) hx
  · cases h

theorem hasValue_of_readInteger? {cs : List Char} {n : Number} (h : readInteger? cs = some n) :
    n.HasValue := by
  obtain ⟨z, -, rfl⟩ := Option.map_eq_some_iff.1 h
  exact hasValue_integer z

theorem hasValue_of_readDecimal? {cs : List Char} {n : Number} (h : readDecimal? cs = some n) :
    n.HasValue := by
  obtain ⟨d, -, rfl⟩ := Option.map_eq_some_iff.1 h
  exact hasValue_decimal d

end Number

/-! ## Lenient conversions -/

namespace Conversion

/-- The conversion turns values that are the same into values that are the same. -/
def Respectful (f : Value → Value) : Prop :=
  ∀ ⦃v w : Value⦄, v.Same w → (f v).Same (f w)

theorem respectful_id : Respectful id := fun _ _ h => h

/-- A reader of texts respects sameness if what it reads is free of NaN. -/
theorem respectful_readOr {read? : List Char → Option Value}
    (hr : ∀ cs v, read? cs = some v → v.NoNaN) : Respectful (readOr read?) := by
  intro v w h
  cases h.form with
  | string s =>
    simp only [readOr]
    cases hs : read? s.toList with
    | none => exact h
    | some u => exact Value.same_self (hr _ u hs)
  | _ => exact h

/-- A conversion of numbers respects it if it takes same numbers to same ones. -/
theorem respectful_numberOr {convert? : Number → Option Number} {read? : List Char → Option Number}
    (hc : ∀ {m n : Number}, m.Same n → Option.Rel Number.Same (convert? m) (convert? n))
    (hr : ∀ {cs n}, read? cs = some n → n.HasValue) : Respectful (numberOr convert? read?) := by
  intro v w h
  cases h.form with
  | @number m n hmn =>
    have hrel := hc hmn
    simp only [numberOr]
    generalize convert? m = k?, convert? n = l? at hrel ⊢
    cases hrel with
    | none => exact h
    | some hkl => exact Value.same_number_iff.2 hkl
  | string s =>
    simp only [numberOr]
    cases hs : read? s.toList with
    | none => exact h
    | some k => exact Value.same_self (hr hs)
  | _ => exact h

theorem Respectful.blankIsNil {f : Value → Value} (hf : Respectful f) :
    Respectful (blankIsNil f) := by
  intro v w h
  rw [Conversion.blankIsNil, Conversion.blankIsNil, h.isEmptyString]
  split
  · exact Value.same_self trivial
  · exact hf h

theorem respectful_integerOr : Respectful integerOr :=
  respectful_numberOr Number.rel_truncate Number.hasValue_of_readInteger?

theorem respectful_floatOr : Respectful floatOr :=
  respectful_numberOr (fun h => .some h.toFloat) Number.hasValue_of_readFloat?

theorem respectful_decimalOr : Respectful decimalOr :=
  respectful_numberOr Number.rel_toDecimal? Number.hasValue_of_readDecimal?

theorem respectful_dateOr : Respectful dateOr := by
  refine respectful_readOr fun cs v h => ?_
  obtain ⟨d, -, rfl⟩ := Option.map_eq_some_iff.1 h
  exact trivial

theorem respectful_dateTimeOr : Respectful dateTimeOr := by
  refine respectful_readOr fun cs v h => ?_
  obtain ⟨t, -, rfl⟩ := Option.map_eq_some_iff.1 h
  exact trivial

theorem respectful_timeOr : Respectful timeOr := by
  refine respectful_readOr fun cs v h => ?_
  obtain ⟨t, -, rfl⟩ := Option.map_eq_some_iff.1 h
  exact trivial

theorem respectful_wordOr (words : List String) (b : Bool) : Respectful (wordOr words b) := by
  intro v w h
  cases h.form with
  | string s =>
    simp only [wordOr]
    split
    · exact Value.same_self trivial
    · exact h
  | _ => exact h

theorem respectful_itemsOr : Respectful itemsOr := by
  intro v w h
  rw [itemsOr, itemsOr, h.isEmptyString]
  split
  · exact Value.same_array_iff.2 .nil
  · exact h

theorem respectful_hashOr : Respectful hashOr := by
  intro v w h
  rw [hashOr, hashOr, h.isEmptyString, h.isNil]
  split
  · exact Value.same_hash_iff.2 .nil
  · exact h

theorem respectful_absentIsNil : Respectful absentIsNil := by
  intro v w h
  rw [absentIsNil, absentIsNil, h.isAbsent]
  split
  · exact Value.same_self trivial
  · exact h

/-! ## Strict conversions -/

/-- Conversions of same numbers succeed alike, or fail alike. -/
theorem parallel_orFault {v w : Value} {fault : ConversionFault} {a b : Option Number}
    (h : Option.Rel Number.Same a b) :
    Parallel Same (orFault v fault (a.map .number)) (orFault w fault (b.map .number)) := by
  cases h with
  | none => exact .error _ _
  | some hmn => exact .ok (Value.same_number_iff.2 hmn)

/-- A text that is read at all is read as one number. -/
theorem parallel_read {v w : Value} {fault : ConversionFault} {a : Option Number}
    (hvalue : ∀ {n}, a = some n → n.HasValue) :
    Parallel Same (orFault v fault (a.map .number)) (orFault w fault (a.map .number)) := by
  refine parallel_orFault ?_
  cases a with
  | none => exact .none
  | some n => exact .some (Number.same_self (hvalue rfl))

section Strict

variable {v w : Value}

/-- Same values make same integers, or fail alike. -/
theorem parallel_toInteger (h : v.Same w) : Parallel Same (toInteger v) (toInteger w) := by
  cases h.form with
  | number hn => exact parallel_orFault (Number.rel_truncate hn)
  | string s => exact parallel_read Number.hasValue_of_readInteger?
  | _ => exact .error _ _

theorem parallel_toFloat (h : v.Same w) : Parallel Same (toFloat v) (toFloat w) := by
  cases h.form with
  | number hn => exact .ok (Value.same_number_iff.2 hn.toFloat)
  | string s => exact parallel_read Number.hasValue_of_readFloat?
  | _ => exact .error _ _

theorem parallel_toDecimal (h : v.Same w) : Parallel Same (toDecimal v) (toDecimal w) := by
  cases h.form with
  | number hn => exact parallel_orFault (Number.rel_toDecimal? hn)
  | string s => exact parallel_read Number.hasValue_of_readDecimal?
  | _ => exact .error _ _

theorem parallel_toItems (h : v.Same w) : Parallel Same (toItems v) (toItems w) := by
  cases h.form with
  | array => exact .ok h
  | set hs => exact .ok (Value.same_array_iff.2 hs)
  | nil => exact .ok (Value.same_array_iff.2 .nil)
  | hash hs =>
    refine .ok (Value.same_array_iff.2 ?_)
    refine List.forall₂_map_left_iff.2 (List.forall₂_map_right_iff.2 (hs.imp fun e f hef => ?_))
    exact Value.same_array_iff.2 (.cons hef.1 (.cons hef.2 .nil))
  | undefined => exact .error _ _
  | _ => exact .ok (Value.same_array_iff.2 (.cons h .nil))

theorem rel_entry (h : v.Same w) :
    Option.Rel (fun e f => e.1.Same f.1 ∧ e.2.Same f.2) ( entry? v) ( entry? w) := by
  cases h.form with
  | array hs =>
    -- only an array of two items is a pair
    cases hs with
    | nil => exact .none
    | cons hk hrest =>
      cases hrest with
      | nil => exact .none
      | cons hv hrest =>
        cases hrest with
        | nil => exact .some ⟨hk, hv⟩
        | cons _ _ => exact .none
  | _ => exact .none

/-- Lists of same values hold tables that are alike, or neither holds one. -/
theorem rel_mapM_entry {xs ys : List Value} (h : List.Forall₂ Same xs ys) :
    Option.Rel (Table.Alike Same) (xs.mapM entry?) (ys.mapM entry?) := by
  induction h with
  | nil => exact .some .nil
  | @cons x y xs ys hxy _ ih =>
    have hrel := rel_entry hxy
    rw [List.mapM_cons, List.mapM_cons]
    generalize entry? x = e?, entry? y = f?, xs.mapM entry? = es?, ys.mapM entry? = fs?
      at hrel ih ⊢
    cases hrel with
    | none => exact .none
    | some hef =>
      cases ih with
      | none => exact .none
      | some hrest => exact .some (.cons hef hrest)

/-- Tables that are alike stay so when alike entries are put in. -/
theorem alike_foldl_insert {es fs ts us : List (Value × Value)} (h : Table.Alike Same es fs)
    (ht : Table.Alike Same ts us) :
    Table.Alike Same (es.foldl (fun table e => Table.insert e.1 e.2 table) ts)
      (fs.foldl (fun table e => Table.insert e.1 e.2 table) us) :=
  List.rel_foldl (fun _ _ htable _ _ hef => Table.alike_insert hef.1 hef.2 htable) ht h

theorem parallel_toHash (h : v.Same w) : Parallel Same (toHash v) (toHash w) := by
  cases h.form with
  | hash => exact .ok h
  | nil => exact .ok (Value.same_hash_iff.2 .nil)
  | @array xs ys hs =>
    have hrel := rel_mapM_entry hs
    simp only [toHash]
    generalize xs.mapM entry? = es?, ys.mapM entry? = fs? at hrel ⊢
    cases hrel with
    | none => exact .error _ _
    | some hentries => exact .ok (Value.same_hash_iff.2 (alike_foldl_insert hentries .nil))
  | _ => exact .error _ _

theorem parallel_toSymbol (h : v.Same w) : Parallel Same (toSymbol v) (toSymbol w) := by
  cases h.form with
  | symbol s | string s => exact .ok (Value.same_self trivial)
  | _ => exact .error _ _

/-- The text of a value is one text, not one for all values that are the same. -/
theorem parallel_toText (v : Value) : Parallel Same (toText v) (toText v) := by
  cases v with
  | undefined => exact .error _ _
  | _ => exact .ok (Value.same_self trivial)

end Strict

end Conversion

namespace Builtin

open Conversion in
/-- **A built-in function respects sameness**, the conversion into text only on one and the same
value. -/
theorem parallel_run (b : Builtin) {v w : Value} (h : v.Same w)
    (htext : b = .kernelString → v = w) :
    Parallel Same (b.run v) (b.run w) := by
  cases b with
  | kernelString =>
    obtain rfl := htext rfl
    exact parallel_toText v
  | kernelInteger => exact parallel_toInteger h
  | kernelFloat => exact parallel_toFloat h
  | kernelDecimal => exact parallel_toDecimal h
  | kernelArray => exact parallel_toItems h
  | kernelHash => exact parallel_toHash h
  | kernelSymbol => exact parallel_toSymbol h
  | paramsNil => exact .ok (respectful_id.blankIsNil h)
  | paramsTrue => exact .ok (respectful_wordOr _ _ h)
  | paramsFalse => exact .ok (respectful_wordOr _ _ h)
  | paramsInteger => exact .ok (respectful_integerOr.blankIsNil h)
  | paramsFloat => exact .ok (respectful_floatOr.blankIsNil h)
  | paramsDecimal => exact .ok (respectful_decimalOr.blankIsNil h)
  | paramsDate => exact .ok (respectful_dateOr.blankIsNil h)
  | paramsDateTime => exact .ok (respectful_dateTimeOr.blankIsNil h)
  | paramsTime => exact .ok (respectful_timeOr.blankIsNil h)
  | paramsArray => exact .ok (respectful_itemsOr h)
  | paramsHash => exact .ok (respectful_hashOr h)
  | jsonNil => exact .ok (respectful_absentIsNil h)
  | jsonDate => exact .ok (respectful_dateOr h)
  | jsonDateTime => exact .ok (respectful_dateTimeOr h)
  | jsonTime => exact .ok (respectful_timeOr h)
  | jsonDecimal => exact .ok (respectful_decimalOr h)

end Builtin

/-! ## Predicates -/

namespace Predicate

section Tests

variable {v w : Value}

/-- Same values measure the same. -/
theorem measure?_congr (h : v.Same w) : measure? v = measure? w := by
  cases h.form with
  | symbol s => rfl
  | _ => exact h.size?

/-- Same values have sizes that compare alike. -/
theorem hasSize_congr (h : v.Same w) {m n : Number} (hn : m.Same n) (accepts : Ordering → Bool) :
    hasSize v m accepts = hasSize w n accepts := by
  have hsize (z : Int) : (Number.integer z).compareValue m = (Number.integer z).compareValue n :=
    (Number.same_self (Number.hasValue_integer z)).compareValue hn
  simp only [hasSize, measure?_congr h, hsize]

/-- Same values compare alike to same numbers. -/
theorem comparesTo_congr (h : v.Same w) {m n : Number} (hn : m.Same n) (accepts : Ordering → Bool) :
    comparesTo v m accepts = comparesTo w n accepts := by
  cases h.form with
  | number hk => exact congrArg accepts (hk.compareValue hn)
  | _ => rfl

/-- Same values are both among same values, or neither is. -/
theorem any_beq_congr (h : v.Same w) {xs ys : List Value} (hs : List.Forall₂ Same xs ys) :
    xs.any (· == v) = ys.any (· == w) := by
  induction hs with
  | nil => rfl
  | cons hxy _ ih => rw [List.any_cons, List.any_cons, hxy.beq h, ih]

/-- Same numbers are both in the range between same bounds, or neither is. -/
theorem inRange_congr {a b c d m n : Number} (hab : a.Same b) (hcd : c.Same d) (hn : m.Same n) :
    inRange a c m = inRange b d n := by
  rw [inRange, inRange, hab.compare hn, hn.compare hcd]

theorem contains_congr {c d : Value} (hc : c.Same d) (h : v.Same w) :
    contains c v = contains d w := by
  cases hc.form with
  | array hs => exact any_beq_congr h hs
  | set hs => exact Table.isSome_find?_congr h hs
  | @hash es fs hs =>
    have hrel := Table.alike_get? h hs
    simp only [contains]
    generalize Table.get? v es = x?, Table.get? w fs = y? at hrel ⊢
    cases hrel <;> rfl
  | range hfirst hlast =>
    cases h.form with
    | number hn => exact inRange_congr hfirst hlast hn
    | _ => rfl
  | string whole => cases h.form <;> rfl
  | _ => rfl

theorem isBare_congr (h : v.Same w) : isBare v = isBare w := by
  rw [isBare, isBare, h.isAbsent, h.size?]

end Tests

/-- The values among the operands of a predicate are free of NaN. -/
def NoNaN (p : Predicate) : Prop :=
  ∀ x ∈ (Rule.predicate p).values, x.NoNaN

/-- The operands of equal predicates are the same. -/
theorem same_operand {p q : Predicate} {x y : Value} (h : p.equals q = .true) (hp : p.NoNaN)
    (hq : q.NoNaN) (hx : p.operands = [.value x]) (hy : q.operands = [.value y]) : x.Same y := by
  have hxnan : x.NoNaN := hp x (by simp [Rule.values, hx])
  have hynan : y.NoNaN := hq y (by simp [Rule.values, hy])
  have hops := (Bool.and_eq_true_iff.1 h).2
  rw [hx, hy] at hops
  have hxy : (Operand.value x == .value y) = .true := by simpa using hops
  exact Value.same_of_beq hxnan hynan hxy

/-- **Equal predicates have one answer for values that are the same.** -/
theorem test_congr {p q : Predicate} (h : p.equals q = .true) (hp : p.NoNaN) (hq : q.NoNaN)
    {v w : Value} (hv : v.Same w) : p.test v = q.test w := by
  have hname := beq_iff_eq.1 (Bool.and_eq_true_iff.1 h).1
  cases p with
  | type t =>
    cases q <;> cases hname
    cases (same_operand h hp hq rfl rfl).form
    exact hv.admits t
  | eql x | is x => cases q <;> cases hname; exact (same_operand h hp hq rfl rfl).beq hv
  | size b =>
    cases q <;> cases hname
    next c =>
    have hbound : b.toValue.Same c.toValue := same_operand h hp hq rfl rfl
    cases b with
    | exactly m =>
      cases c <;> cases hbound.rank_eq
      simp only [test, hasSize_congr hv (Value.same_number_iff.1 hbound)]
    | between a b =>
      cases c <;> cases hbound.rank_eq
      obtain ⟨hfirst, hlast⟩ := Value.same_range_iff.1 hbound
      simp only [test, hasSize_congr hv hfirst, hasSize_congr hv hlast]
  | minSize n | maxSize n =>
    cases q <;> cases hname
    have hn := Value.same_number_iff.1 (same_operand h hp hq rfl rfl)
    simp only [test, hasSize_congr hv hn]
  | gt n | gteq n | lt n | lteq n =>
    cases q <;> cases hname
    have hn := Value.same_number_iff.1 (same_operand h hp hq rfl rfl)
    simp only [test, comparesTo_congr hv hn]
  | includedIn c => cases q <;> cases hname; exact contains_congr (same_operand h hp hq rfl rfl) hv
  | excludedFrom c =>
    cases q <;> cases hname
    exact congrArg not (contains_congr (same_operand h hp hq rfl rfl) hv)
  | includes x => cases q <;> cases hname; exact contains_congr hv (same_operand h hp hq rfl rfl)
  | excludes x =>
    cases q <;> cases hname
    exact congrArg not (contains_congr hv (same_operand h hp hq rfl rfl))
  | format r =>
    cases q <;> cases hname
    next r' =>
    have hops : (Operand.pattern r == .pattern r') = .true := by
      simpa [operands] using (Bool.and_eq_true_iff.1 h).2
    obtain rfl : r = r' := beq_iff_eq.1 hops
    cases hv.form <;> rfl
  | filled => cases q <;> cases hname; exact congrArg not (isBare_congr hv)
  | empty => cases q <;> cases hname; exact isBare_congr hv
  | nil => cases q <;> cases hname; exact hv.isNil
  | true | false => cases q <;> cases hname; cases hv.form <;> rfl
  | odd =>
    cases q <;> cases hname
    cases hv.form with
    | number hn => exact hn.congr (f := Number.isOdd) fun _ _ => rfl
    | _ => rfl
  | even =>
    cases q <;> cases hname
    cases hv.form with
    | number hn => exact hn.congr (f := Number.isEven) fun _ _ => rfl
    | _ => rfl

end Predicate

/-! ## Rules -/

namespace Rule

/-- **Equal rules accept both or neither of two values that are the same.** -/
theorem parallel_evaluate {r s : Rule} (h : r.equals s = true) (hr : ∀ x ∈ r.values, x.NoNaN)
    (hs : ∀ x ∈ s.values, x.NoNaN) {v w : Value} (hv : v.Same w) :
    Parallel (fun _ _ => True) (r.evaluate v) (s.evaluate w) := by
  induction r generalizing s with
  | predicate p =>
    cases s with
    | predicate q =>
      rw [evaluate, evaluate, Predicate.test_congr h hr hs hv]
      split
      · exact .ok trivial
      · exact .error _ _
    | _ => cases h
  | and a b iha ihb =>
    cases s with
    | and c d =>
      obtain ⟨hac, hbd⟩ := Bool.and_eq_true_iff.1 h
      have hleft := iha hac (fun x hx => hr x (List.mem_append_left _ hx))
        fun x hx => hs x (List.mem_append_left _ hx)
      have hright := ihb hbd (fun x hx => hr x (List.mem_append_right _ hx))
        fun x hx => hs x (List.mem_append_right _ hx)
      rw [evaluate, evaluate]
      generalize a.evaluate v = x, c.evaluate w = y at hleft ⊢
      cases hleft with
      | ok _ => exact hright
      | error _ _ => exact .error _ _
    | _ => cases h
  | or a b iha ihb =>
    cases s with
    | or c d =>
      obtain ⟨hac, hbd⟩ := Bool.and_eq_true_iff.1 h
      have hleft := iha hac (fun x hx => hr x (List.mem_append_left _ hx))
        fun x hx => hs x (List.mem_append_left _ hx)
      have hright := ihb hbd (fun x hx => hr x (List.mem_append_right _ hx))
        fun x hx => hs x (List.mem_append_right _ hx)
      rw [evaluate, evaluate]
      generalize a.evaluate v = x, c.evaluate w = y, b.evaluate v = x', d.evaluate w = y'
        at hleft hright ⊢
      cases hleft with
      | ok _ => exact .ok trivial
      | error _ _ =>
        cases hright with
        | ok _ => exact .ok trivial
        | error _ _ => exact .error _ _
    | _ => cases h

end Rule

end Conform
