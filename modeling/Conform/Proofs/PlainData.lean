import Conform.Proofs.Fields
import Conform.Proofs.JsonText
import Conform.Value.Document

/-!
# Plain data is read back from its document

Values that a document has words for come back from their text: `nil`, truth values, integers of 64
bits, strings, arrays, and hashes with strings as keys.  One object is excepted.  The reader takes
an object whose first field has the number tag as its name and a string as its value for the number
with that text, so a hash that is written as such an object is lost, and with it everything around
it.

* `Value.IsPlainData` — what the values are like; `Value.nesting` — how deep they are nested.
* `Value.Untagged` — a hash that is not written as a tagged number.
* `Value.Document` — a value and its document; one lemma for each way to put documents together.
* `Value.survives_json` — **plain data is read back from its text exactly if it holds no hash that
  looks like a tagged number.**
* `Value.not_always_survives_json` — such a hash, read as an integer.
-/

namespace Conform

namespace Value

/-! ## Plain data -/

/-- What documents have words for.  The integer fits 64 bits, signed or not, and a hash has strings
as keys, in their order. -/
def IsPlainPart : Value → Prop
  | .nil | .bool _ | .string _ | .array _ => True
  | .number (.integer z) => Json.FitsWord z
  | .hash entries => Table.Ascending (entries.map (·.1)) ∧ ∀ e ∈ entries, ∃ s, e.1 = .string s
  | _ => False

/-- A value that is made of nothing else. -/
def IsPlainData (v : Value) : Prop :=
  v.Everywhere IsPlainPart

mutual

/-- How many collections stand inside each other, keys left aside. -/
def nesting : Value → Nat
  | .array items => itemsNesting items + 1
  | .set items => itemsNesting items + 1
  | .hash entries => entriesNesting entries + 1
  | _ => 0

/-- The nesting of the deepest item. -/
def itemsNesting : List Value → Nat
  | [] => 0
  | v :: vs => max v.nesting (itemsNesting vs)

/-- The nesting of the deepest value. -/
def entriesNesting : List (Value × Value) → Nat
  | [] => 0
  | (_, v) :: rest => max v.nesting (entriesNesting rest)

end

/-- The value is no hash that has the number tag as its first key and a string under it. -/
def Untagged : Value → Prop
  | .hash ((.string name, .string _) :: _) => name ≠ numberTag
  | _ => True

/-! ## Documents of plain data -/

/-- The value has the document, which is plain, as deep as the value, and read as that value unless
it holds a hash that looks like a tagged number. -/
structure Document (v : Value) (j : Json) : Prop where
  written : v.toJson? = some j
  plain : j.IsPlain
  depth : j.depth = v.nesting
  read_iff : ofJson? j = some v ↔ v.Everywhere Untagged
  string_iff : ∀ s, v = .string s ↔ j = .string s

/-- A string as key, with a value and its document. -/
def Field (e : Value × Value) (f : String × Json) : Prop :=
  e.1 = .string f.1 ∧ Document e.2 f.2

section Items

variable {vs : List Value} {js : List Json} (h : List.Forall₂ Document vs js)

include h

theorem itemsToJson?_of_documents : itemsToJson? vs = some js := by
  induction h with
  | nil => rfl
  | cons hd _ ih =>
    rw [itemsToJson?, hd.written, ih]
    rfl

theorem allPlain_of_documents : Json.AllPlain js := by
  induction h with
  | nil => trivial
  | cons hd _ ih => exact ⟨hd.plain, ih⟩

theorem itemsDepth_of_documents : Json.itemsDepth js = itemsNesting vs := by
  induction h with
  | nil => rfl
  | cons hd _ ih => rw [Json.itemsDepth, itemsNesting, hd.depth, ih]

/-- The items are read as the values exactly if no value looks like a tag. -/
theorem itemsOfJson?_iff : itemsOfJson? js = some vs ↔ EverywhereIn Untagged vs := by
  induction h with
  | nil => exact iff_of_true rfl trivial
  | cons hd _ ih =>
    rw [EverywhereIn, ← hd.read_iff, ← ih, itemsOfJson?]
    simp [Option.bind_eq_some_iff]

end Items

/-- The entry of a field. -/
def entryOf (f : String × Value) : Value × Value :=
  (.string f.1, f.2)

section Fields

variable {entries : List (Value × Value)} {fields : List (String × Json)}
  (h : List.Forall₂ Field entries fields)

include h

theorem entriesToJson?_of_fields : entriesToJson? entries = some fields := by
  induction h with
  | nil => rfl
  | @cons e f _ _ hf _ ih =>
    obtain ⟨k, v⟩ := e
    obtain ⟨name, j⟩ := f
    obtain ⟨rfl, hd⟩ := hf
    rw [entriesToJson?, hd.written, ih]
    rfl

theorem fieldsPlain_of_fields : Json.FieldsPlain fields := by
  induction h with
  | nil => trivial
  | cons hf _ ih => exact ⟨hf.2.plain, ih⟩

theorem fieldsDepth_of_fields : Json.fieldsDepth fields = entriesNesting entries := by
  induction h with
  | nil => rfl
  | cons hf _ ih => rw [Json.fieldsDepth, entriesNesting, hf.2.depth, ih]

theorem keys_of_fields : entries.map (·.1) = fields.map fun f => .string f.1 := by
  induction h with
  | nil => rfl
  | cons hf _ ih => rw [List.map_cons, List.map_cons, hf.1, ih]

/-- The fields are read as the entries exactly if no value looks like a tag. -/
theorem fieldsOfJson?_iff :
    (∃ fs, fieldsOfJson? fields = some fs ∧ fs.map entryOf = entries) ↔
      EverywhereAmong Untagged entries := by
  induction h with
  | nil => exact iff_of_true ⟨[], rfl, rfl⟩ trivial
  | @cons e f _ _ hf _ ih =>
    obtain ⟨k, v⟩ := e
    obtain ⟨name, j⟩ := f
    obtain ⟨rfl, hd⟩ := hf
    rw [EverywhereAmong, ← hd.read_iff, ← ih, fieldsOfJson?]
    constructor
    · rintro ⟨fs, hfs, heq⟩
      obtain ⟨v', hv, hfs⟩ := Option.bind_eq_some_iff.1 hfs
      obtain ⟨gs, hgs, hfs⟩ := Option.bind_eq_some_iff.1 hfs
      cases hfs
      obtain ⟨hentry, hrest⟩ := List.cons.inj heq
      cases hentry
      exact ⟨trivial, hv, gs, hgs, hrest⟩
    · rintro ⟨-, hv, gs, hgs, rfl⟩
      refine ⟨(name, v) :: gs, ?_, rfl⟩
      rw [hv, hgs]
      rfl

/-- The reader finds a tagged number where the hash looks like one. -/
theorem taggedNumber?_eq_none_iff : taggedNumber? fields = none ↔ Untagged (.hash entries) := by
  cases h with
  | nil => exact iff_of_true rfl trivial
  | @cons e f _ _ hf _ =>
    obtain ⟨k, v⟩ := e
    obtain ⟨name, j⟩ := f
    obtain ⟨rfl, hd⟩ := hf
    cases j with
    | string s =>
      obtain rfl := (hd.string_iff s).2 rfl
      simp [taggedNumber?, Untagged]
    | _ =>
      refine iff_of_true rfl ?_
      cases v with
      | string s => cases (hd.string_iff s).1 rfl
      | _ => trivial

end Fields

theorem names_of_fieldsOfJson? {fields : List (String × Json)} {fs : List (String × Value)}
    (h : fieldsOfJson? fields = some fs) : fs.map (·.1) = fields.map (·.1) := by
  induction fields generalizing fs with
  | nil => cases h; rfl
  | cons f fields ih =>
    obtain ⟨v, -, h⟩ := Option.bind_eq_some_iff.1 h
    obtain ⟨gs, hgs, h⟩ := Option.bind_eq_some_iff.1 h
    cases h
    rw [List.map_cons, List.map_cons, ih hgs]

/-- Fields whose names are in order are put into a hash as they are. -/
theorem entriesOf_eq {fs : List (String × Value)}
    (h : Table.Ascending (fs.map fun f => .string f.1)) :
    entriesOf fs = fs.map entryOf := by
  have hkeys : (fs.map entryOf).map (·.1) = fs.map fun f => .string f.1 := by
    rw [List.map_map]
    rfl
  have horder : Table.InOrder Prod.fst ([] ++ fs.map entryOf) := by
    refine Table.inOrder_of_ascending (List.forall_mem_map.2 fun f _ => trivial) ?_
    rw [List.nil_append, hkeys]
    exact h
  have hfold := Table.foldl_insert_of_inOrder horder
  rw [List.foldl_map] at hfold
  exact hfold

/-! ### Every plain value has a document -/

theorem document_array {vs : List Value} {js : List Json} (h : List.Forall₂ Document vs js) :
    Document (.array vs) (.array js) where
  written := by
    rw [toJson?, itemsToJson?_of_documents h]
    rfl
  plain := allPlain_of_documents h
  depth := by rw [Json.depth, nesting, itemsDepth_of_documents h]
  read_iff := by
    rw [ofJson?, Everywhere, ← itemsOfJson?_iff h]
    simp [Untagged]
  string_iff := by simp

theorem document_hash {entries : List (Value × Value)} {fields : List (String × Json)}
    (hascending : Table.Ascending (entries.map (·.1))) (h : List.Forall₂ Field entries fields) :
    Document (.hash entries) (.object fields) where
  written := by
    rw [toJson?, entriesToJson?_of_fields h]
    rfl
  plain := fieldsPlain_of_fields h
  depth := by rw [Json.depth, nesting, fieldsDepth_of_fields h]
  read_iff := by
    rw [ofJson?, Everywhere, ← taggedNumber?_eq_none_iff h, ← fieldsOfJson?_iff h]
    cases taggedNumber? fields with
    | some text =>
      -- a number or nothing is read, but no hash
      refine iff_of_false (fun hread => ?_) (fun h => nomatch h.1)
      dsimp only at hread
      split at hread
      · obtain ⟨n, -, hn⟩ := Option.map_eq_some_iff.1 hread
        cases hn
      · cases hread
    | none =>
      have hentries : ∀ fs, fieldsOfJson? fields = some fs → entriesOf fs = fs.map entryOf := by
        intro fs hfs
        refine entriesOf_eq ?_
        have hnames := congrArg (List.map Value.string) (names_of_fieldsOfJson? hfs)
        rw [List.map_map, List.map_map] at hnames
        rw [keys_of_fields h] at hascending
        exact hnames ▸ hascending
      dsimp only
      rw [Option.map_eq_some_iff, and_iff_right rfl]
      constructor
      · rintro ⟨fs, hfs, heq⟩
        exact ⟨fs, hfs, hentries fs hfs ▸ Value.hash.inj heq⟩
      · rintro ⟨fs, hfs, heq⟩
        exact ⟨fs, hfs, by rw [hentries fs hfs, heq]⟩
  string_iff := by simp

theorem exists_forall₂ {α β : Type} {R : α → β → Prop} {as : List α} (h : ∀ a ∈ as, ∃ b, R a b) :
    ∃ bs, List.Forall₂ R as bs := by
  induction as with
  | nil => exact ⟨[], .nil⟩
  | cons a as ih =>
    obtain ⟨hhead, htail⟩ := List.forall_mem_cons.1 h
    obtain ⟨b, hb⟩ := hhead
    obtain ⟨bs, hbs⟩ := ih htail
    exact ⟨b :: bs, .cons hb hbs⟩

/-- **Plain data has a document.** -/
theorem exists_document (v : Value) (hv : v.IsPlainData) : ∃ j, Document v j := by
  induction v with
  | nil => exact ⟨.null, rfl, trivial, rfl, iff_of_true rfl trivial, by simp⟩
  | bool b => exact ⟨.bool b, rfl, trivial, rfl, iff_of_true rfl trivial, by simp⟩
  | string s => exact ⟨.string s, rfl, trivial, rfl, iff_of_true rfl trivial, by simp⟩
  | number n =>
    cases n with
    | integer z =>
      exact ⟨.integer z, Json.ofNumberText?_signed hv, hv, rfl, iff_of_true rfl trivial, by simp⟩
    | _ => exact hv.elim
  | array items ih =>
    have hitems := everywhereIn_iff.1 hv.2
    obtain ⟨js, hjs⟩ := exists_forall₂ fun v hmem => ih v hmem (hitems v hmem)
    exact ⟨.array js, document_array hjs⟩
  | hash entries ih =>
    obtain ⟨⟨hascending, hkeys⟩, hentries⟩ := hv
    have hfields : ∀ e ∈ entries, ∃ f, Field e f := by
      intro e he
      obtain ⟨s, hs⟩ := hkeys e he
      obtain ⟨j, hj⟩ := (ih e he).2 (everywhereAmong_iff.1 hentries e he).2
      exact ⟨(s, j), hs, hj⟩
    obtain ⟨fields, hfields⟩ := exists_forall₂ hfields
    exact ⟨.object fields, document_hash hascending hfields⟩
  | set items => exact hv.1.elim
  | _ => exact hv.elim

/-! ## Texts -/

/-- **Plain data has a text, and is read back from it exactly if it is untagged throughout**,
provided that the reader takes values that are nested so deep. -/
theorem survives_json {v : Value} (hv : v.IsPlainData) (hdepth : v.nesting ≤ Json.maxDepth) :
    ∃ text, v.toJsonText? = some text ∧ (ofJsonText? text = some v ↔ v.Everywhere Untagged) := by
  obtain ⟨j, hj⟩ := exists_document v hv
  have hread : Json.ofText? j.pretty = some j := Json.ofText?_pretty hj.plain (hj.depth ▸ hdepth)
  refine ⟨j.pretty, ?_, ?_⟩
  · rw [toJsonText?, hj.written]
    rfl
  · rw [ofJsonText?, hread, Option.bind_some, hj.read_iff]

/-- Both ends of the integers, an escape, and the number tag as a key with an integer under it and
as a later key with a string. -/
def plainSample : Value :=
  .array [.nil, .bool true, integer (-9223372036854775808), integer 18446744073709551615,
    .string "a\n\"b\"", .hash [(.string numberTag, integer 12)],
    .hash [(.string "", .hash []), (.string numberTag, .string "12")]]

theorem survives_json_sample :
    ∃ text, plainSample.toJsonText? = some text ∧ ofJsonText? text = some plainSample := by
  have hleast : Json.FitsWord (-9223372036854775808) := .inl (by decide)
  have hgreatest : Json.FitsWord 18446744073709551615 := .inr (by decide)
  have htwelve : Json.FitsWord 12 := .inl (by decide)
  have hone : (hash [(.string numberTag, integer 12)]).IsPlainData :=
    ⟨⟨.singleton _, List.forall_mem_singleton.2 ⟨numberTag, rfl⟩⟩, trivial, htwelve, trivial⟩
  have hempty : (hash []).IsPlainData := ⟨⟨.nil, List.forall_mem_nil _⟩, trivial⟩
  have htwo : (hash [(.string "", .hash []), (.string numberTag, .string "12")]).IsPlainData := by
    refine ⟨⟨.cons_cons (by decide +kernel) (.singleton _), ?_⟩, trivial, hempty, trivial, trivial,
      trivial⟩
    exact List.forall_mem_cons.2 ⟨⟨"", rfl⟩, List.forall_mem_singleton.2 ⟨numberTag, rfl⟩⟩
  have hplain : plainSample.IsPlainData :=
    ⟨trivial, trivial, trivial, hleast, hgreatest, trivial, hone, htwo, trivial⟩
  have huntagged : plainSample.Everywhere Untagged :=
    ⟨trivial, trivial, trivial, trivial, trivial, trivial, ⟨trivial, trivial, trivial, trivial⟩,
      ⟨trivial, trivial, ⟨trivial, trivial⟩, trivial, trivial, trivial⟩, trivial⟩
  obtain ⟨text, htext, hiff⟩ := survives_json hplain (by decide)
  exact ⟨text, htext, hiff.2 huntagged⟩

/-- A hash that looks like a tagged number. -/
def taggedTwelve : Value :=
  .hash [(.string numberTag, .string "12")]

theorem not_always_survives_json :
    taggedTwelve.IsPlainData ∧ ∃ text, taggedTwelve.toJsonText? = some text ∧
      ofJsonText? text = some (integer 12) ∧ (integer 12 == taggedTwelve) = false := by
  have hplain : (Json.object [(numberTag, .string "12")]).IsPlain := ⟨trivial, trivial⟩
  have hread := Json.ofText?_pretty hplain (by decide)
  refine ⟨⟨⟨.singleton _, List.forall_mem_singleton.2 ⟨numberTag, rfl⟩⟩, trivial, trivial, trivial⟩,
    _, rfl, ?_, rfl⟩
  show (Json.ofText? (Json.object [(numberTag, .string "12")]).pretty).bind ofJson? =
    some (integer 12)
  rw [hread]
  rfl

end Value
end Conform
