import Conform.Proofs.CalendarText
import Conform.Proofs.Comparison
import Conform.Proofs.DecimalText
import Conform.Proofs.FloatText
import Conform.Value.Literal

/-!
# Literals are read

A literal keeps numbers and moments as text and everything else as it is.  Its value is the one that
was written, but for the order of its sets and hashes, which reading puts right.

* `Value.reread` — the value with all its sets and hashes put in order.
* `Value.Writable` — the moments are such that their texts tell them: four digits for the year,
  whole minutes for the offset, and no leap second but second 60.
* `Literal.toValue_toLiteral` — **the literal of such a value has the value `reread`**.
* `Literal.ofJson?_toJson` — every literal is read back from its document.
-/

namespace Conform

namespace Value

/-! ## What a literal tells -/

mutual

/-- The value with the elements of every set and the entries of every hash put in order. -/
def reread : Value → Value
  | .array items => .array (itemsReread items)
  | .set items => setOf (itemsReread items)
  | .hash entries => hashOf (entriesReread entries)
  | v => v

/-- The same for the items of a collection. -/
def itemsReread : List Value → List Value
  | [] => []
  | v :: vs => v.reread :: itemsReread vs

/-- The same for the entries of a hash. -/
def entriesReread : List (Value × Value) → List (Value × Value)
  | [] => []
  | (k, v) :: rest => (k.reread, v.reread) :: entriesReread rest

end

/-- A moment whose year has four digits and no sign. -/
def YearIsPlain : Value → Prop
  | .dateTime t => t.wall.HasPlainYear
  | .time t => t.HasPlainYear
  | _ => True

/-- A moment whose clock the text tells: no seconds in its offset, no leap second but second 60. -/
def ClockIsPlain : Value → Prop
  | .dateTime t => t.HasPlainClock
  | .time t => t.HasPlainClock
  | _ => True

/-- A value with plain years only: those of local readings, and of UTC readings for times. -/
def PlainYears (v : Value) : Prop :=
  v.Everywhere YearIsPlain

/-- A value with plain clocks only. -/
def PlainClocks (v : Value) : Prop :=
  v.Everywhere ClockIsPlain

/-- A value that its literal tells, the order in sets and hashes aside. -/
def Writable (v : Value) : Prop :=
  v.Everywhere fun u => u.YearIsPlain ∧ u.ClockIsPlain

section Everywhere

variable {P Q : Value → Prop}

mutual

/-- Two properties hold everywhere if each of them does. -/
theorem Everywhere.and : {v : Value} → v.Everywhere P → v.Everywhere Q →
    v.Everywhere fun u => P u ∧ Q u
  | .array _, hp, hq => ⟨⟨hp.1, hq.1⟩, everywhereIn_and hp.2 hq.2⟩
  | .set _, hp, hq => ⟨⟨hp.1, hq.1⟩, everywhereIn_and hp.2 hq.2⟩
  | .hash _, hp, hq => ⟨⟨hp.1, hq.1⟩, everywhereAmong_and hp.2 hq.2⟩
  | .nil, hp, hq => ⟨hp, hq⟩
  | .bool _, hp, hq => ⟨hp, hq⟩
  | .number _, hp, hq => ⟨hp, hq⟩
  | .symbol _, hp, hq => ⟨hp, hq⟩
  | .string _, hp, hq => ⟨hp, hq⟩
  | .date _, hp, hq => ⟨hp, hq⟩
  | .dateTime _, hp, hq => ⟨hp, hq⟩
  | .time _, hp, hq => ⟨hp, hq⟩
  | .range .., hp, hq => ⟨hp, hq⟩
  | .marker _, hp, hq => ⟨hp, hq⟩
  | .undefined, hp, hq => ⟨hp, hq⟩

/-- What holds twice everywhere in a list holds at once. -/
theorem everywhereIn_and : {vs : List Value} → EverywhereIn P vs → EverywhereIn Q vs →
    EverywhereIn (fun u => P u ∧ Q u) vs
  | [], _, _ => trivial
  | _ :: _, hp, hq => ⟨hp.1.and hq.1, everywhereIn_and hp.2 hq.2⟩

theorem everywhereAmong_and : {es : List (Value × Value)} → EverywhereAmong P es →
    EverywhereAmong Q es → EverywhereAmong (fun u => P u ∧ Q u) es
  | [], _, _ => trivial
  | _ :: _, hp, hq => ⟨hp.1.and hq.1, hp.2.1.and hq.2.1, everywhereAmong_and hp.2.2 hq.2.2⟩

end

end Everywhere

theorem writable_of_plain {v : Value} (hyears : v.PlainYears) (hclocks : v.PlainClocks) :
    v.Writable :=
  hyears.and hclocks

end Value

namespace Literal

/-- A number is read back from its literal. -/
theorem toNumber_toLiteral (n : Number) : toNumber n.toLiteral = .ok n := by
  cases n with
  | integer z =>
    simp only [Number.toLiteral, toNumber, String.toList_ofList, Number.readInteger?_signed]
  | decimal d =>
    simp only [Number.toLiteral, toNumber, Number.readDecimal?, String.toList_ofList,
      Decimal.ofText?_text, Option.map_some]
  | float x =>
    simp only [Number.toLiteral, toNumber, String.toList_ofList, Binary64.ofText?_text,
      Option.map_some]

theorem toValue_number (n : Number) : n.toLiteral.toValue = .ok (.number n) := by
  have h := toNumber_toLiteral n
  cases n <;> simp only [Number.toLiteral] at h ⊢ <;> rw [toValue, h] <;> rfl

mutual

/-- **The literal of a value has that value**, put in order. -/
theorem toValue_toLiteral : (v : Value) → v.Writable → v.toLiteral.toValue = .ok v.reread
  | .nil, _ => rfl
  | .bool _, _ => rfl
  | .number n, _ => toValue_number n
  | .symbol _, _ => rfl
  | .string _, _ => rfl
  | .date d, _ => by
    rw [Value.toLiteral, toValue, String.toList_ofList, Date.ofText?_text]
    rfl
  | .dateTime t, h => by
    rw [Value.toLiteral, toValue, String.toList_ofList, DateTime.ofRfc3339?_text t h.1 h.2]
    rfl
  | .time t, h => by
    obtain ⟨moment, hread, hutc⟩ :=
      Option.map_eq_some_iff.1 (Timestamp.ofRfc3339?_textUtc t h.1 h.2)
    rw [Value.toLiteral, toValue, String.toList_ofList, hread]
    exact congrArg (fun t => Except.ok (Value.time t)) hutc
  | .range a b, _ => by
    rw [Value.toLiteral, toValue, toNumber_toLiteral, toNumber_toLiteral]
    rfl
  | .marker _, _ => rfl
  | .array items, h => by
    rw [Value.toLiteral, toValue, itemsToValue_itemsToLiteral items h.2]
    rfl
  | .set items, h => by
    rw [Value.toLiteral, toValue, itemsToValue_itemsToLiteral items h.2]
    rfl
  | .hash entries, h => by
    rw [Value.toLiteral, toValue, entriesToValue_entriesToLiteral entries h.2]
    rfl
  | .undefined, _ => rfl

/-- Items are read back one by one, each put in order. -/
theorem itemsToValue_itemsToLiteral : (vs : List Value) →
    Value.EverywhereIn (fun u => u.YearIsPlain ∧ u.ClockIsPlain) vs →
    itemsToValue (Value.itemsToLiteral vs) = .ok (Value.itemsReread vs)
  | [], _ => rfl
  | v :: vs, h => by
    rw [Value.itemsToLiteral, itemsToValue, toValue_toLiteral v h.1,
      itemsToValue_itemsToLiteral vs h.2]
    rfl

/-- Entries are read back one by one, each put in order. -/
theorem entriesToValue_entriesToLiteral : (es : List (Value × Value)) →
    Value.EverywhereAmong (fun u => u.YearIsPlain ∧ u.ClockIsPlain) es →
    entriesToValue (Value.entriesToLiteral es) = .ok (Value.entriesReread es)
  | [], _ => rfl
  | (k, v) :: rest, h => by
    rw [Value.entriesToLiteral, entriesToValue, toValue_toLiteral k h.1, toValue_toLiteral v h.2.1,
      entriesToValue_entriesToLiteral rest h.2.2]
    rfl

end

/-! ## Documents -/

mutual

/-- **A literal is read back from its document**, inside a node and elsewhere. -/
theorem ofJson?_toJson (inNode : Bool) : (l : Literal) → ofJson? inNode l.toJson = some l
  | .nil => rfl
  | .undefined => rfl
  | .bool _ => rfl
  | .integer _ => rfl
  | .float _ => rfl
  | .decimal _ => rfl
  | .symbol _ => rfl
  | .string _ => rfl
  | .date _ => rfl
  | .dateTime _ => rfl
  | .time _ => rfl
  | .range a b => by
    simp [toJson, single, ofJson?, ofJson?_toJson inNode a, ofJson?_toJson inNode b]
  | .marker p => by
    simp [toJson, single, ofJson?, primitiveOfJson?, bareTag?, Primitive.ofName?_name]
  | .array items => by
    simp [toJson, single, ofJson?, itemsOfJson?_itemsToJson inNode items]
  | .set items => by
    simp [toJson, single, ofJson?, itemsOfJson?_itemsToJson inNode items]
  | .hash entries => by
    simp [toJson, single, ofJson?, entriesOfJson?_entriesToJson inNode entries]

/-- The literals of a list are read back from JSON. -/
theorem itemsOfJson?_itemsToJson (inNode : Bool) : (ls : List Literal) →
    itemsOfJson? inNode (itemsToJson ls) = some ls
  | [] => rfl
  | l :: ls => by
    simp [itemsToJson, itemsOfJson?, ofJson?_toJson inNode l, itemsOfJson?_itemsToJson inNode ls]

/-- The literals of entries are read back from JSON. -/
theorem entriesOfJson?_entriesToJson (inNode : Bool) : (ls : List (Literal × Literal)) →
    entriesOfJson? inNode (entriesToJson ls) = some ls
  | [] => rfl
  | (k, v) :: rest => by
    simp [entriesToJson, entriesOfJson?, ofJson?_toJson inNode k, ofJson?_toJson inNode v,
      entriesOfJson?_entriesToJson inNode rest]

end

end Literal

end Conform
