import Conform.Identifier.Cut
import Conform.Proofs.Lookups
import Mathlib.Data.List.TakeWhile

/-!
# The grammar of identifiers

An identifier has a qualifier in front, or is of the form `outer<member>`, or is a plain name.  The
forms overlap: `optional.array<string>` is of the first two, `strict.array<string>` of the second
only.  They are told apart by the first point, the first `<` and the last `>`, and a qualifier comes
first.

* `Identifier.IsQualified`, `Identifier.IsGeneric`, `Identifier.IsBase` — the forms, said of whole
  texts and without a search; `Identifier.Form` puts them in order.
* `Identifier.parse_eq_ok_iff` — the step of a text is its form; `parse_eq_error_iff` — a text
  without a form is refused.
* `Identifier.Form.text_eq`, `Identifier.parts_shorter` — a step keeps its text, and its parts are
  shorter.
* `TypeRegistry.lookupWithin_eq` — a look-up needs no more depth than its identifier has characters.
* `TypeRegistry.identifiers_read_exactly` — **identifiers are read exactly**, and every look-up
  ends.
-/

namespace Conform

namespace Text

/-- A text without a visible character. -/
def Blank (s : String) : Prop :=
  ∀ c ∈ s.toList, isBlank c = true

/-- Trimming leaves nothing exactly if everything is blank. -/
theorem trimStart_eq_nil_iff {cs : List Char} : trimStart cs = [] ↔ ∀ c ∈ cs, isBlank c = true :=
  List.dropWhile_eq_nil_iff

/-- Trimming leaves nothing of blank texts only. -/
theorem trim_eq_nil_iff {cs : List Char} : trim cs = [] ↔ ∀ c ∈ cs, isBlank c = true := by
  rw [trim, List.reverse_eq_nil_iff, trimStart_eq_nil_iff]
  simp only [List.mem_reverse]
  constructor
  · intro h
    -- the first character that trimming the start leaves is not blank
    rw [← trimStart_eq_nil_iff]
    by_contra hne
    have hhead : isBlank ((trimStart cs).head hne) = false := List.head_dropWhile_not isBlank hne
    exact Bool.false_ne_true (hhead.symm.trans (h _ (List.head_mem hne)))
  · exact fun h c hc => h c ((List.dropWhile_suffix _).subset hc)

end Text

/-! ## The forms -/

namespace Qualifier

theorem ofName?_eq_some_iff {s : String} {q : Qualifier} : ofName? s = some q ↔ s = q.name := by
  constructor
  · intro h
    have hfound := List.find?_some h
    exact (eq_of_beq hfound).symm
  · rintro rfl
    cases q <;> rfl

/-- `optional` and `maybe` are the qualifiers that stand around a whole generic identifier. -/
theorem wrapsGeneric_iff {q : Qualifier} : q.wrapsGeneric = true ↔ q = .optional ∨ q = .maybe := by
  cases q <;> simp [wrapsGeneric]

/-- The words have no points of their own. -/
theorem point_notMem_name (q : Qualifier) : '.' ∉ q.name.toList := by
  cases q <;> decide

end Qualifier

namespace Identifier

/-- A qualifier in front: its word, a point, and something behind it.  Brackets stand behind
`optional` and `maybe` only. -/
structure IsQualified (s : String) (q : Qualifier) (rest : String) : Prop where
  text : s = q.name ++ "." ++ rest
  rest_ne : rest ≠ ""
  wraps : q = .optional ∨ q = .maybe ∨ '<' ∉ rest.toList

/-- The form `outer<member>`, taken apart at the first `<` and at a `>` that is the last
character. -/
structure IsGeneric (s outer member : String) : Prop where
  text : s = outer ++ "<" ++ member ++ ">"
  outer_ne : outer ≠ ""
  first : '<' ∉ outer.toList
  member_visible : ¬Text.Blank member

/-- A name: visible, without brackets, and not just a qualifier with its point. -/
structure IsBase (s : String) : Prop where
  visible : ¬Text.Blank s
  no_open : '<' ∉ s.toList
  no_close : '>' ∉ s.toList
  not_bare : ∀ q : Qualifier, s ≠ q.name ++ "."

/-- The form of a text.  A qualifier in front comes before the other forms, which exclude each
other. -/
inductive Form (s : String) : Identifier → Prop
  | qualified {q rest} (h : IsQualified s q rest) : Form s (.qualified q rest)
  | generic {outer member} (hq : ∀ q rest, ¬IsQualified s q rest) (h : IsGeneric s outer member) :
    Form s (.generic outer member)
  | base (hq : ∀ q rest, ¬IsQualified s q rest) (h : IsBase s) : Form s (.base s)

variable {s rest outer member name : String} {q : Qualifier} {cs back : List Char}
  {i : Identifier}

/-- A qualified identifier is one by its form. -/
theorem form_qualified_iff : Form s (.qualified q rest) ↔ IsQualified s q rest := by
  constructor
  · intro h
    cases h with
    | qualified h => exact h
  · exact .qualified

/-- What has no qualifier is generic exactly if it has the form of one. -/
theorem form_generic_iff (hq : ∀ q rest, ¬IsQualified s q rest) :
    Form s (.generic outer member) ↔ IsGeneric s outer member := by
  constructor
  · intro h
    cases h with
    | generic _ h => exact h
  · exact .generic hq

/-- What has neither qualifier nor brackets is a name. -/
theorem form_base_iff (hq : ∀ q rest, ¬IsQualified s q rest) :
    Form s (.base name) ↔ name = s ∧ IsBase s := by
  constructor
  · intro h
    cases h with
    | base _ h => exact ⟨rfl, h⟩
  · rintro ⟨rfl, h⟩
    exact .base hq h

theorem IsQualified.visible (h : IsQualified s q rest) : ¬Text.Blank s := by
  intro hb
  have hpoint : Text.isBlank '.' = true := hb '.' (by simp [h.text])
  exact absurd hpoint (by decide)

theorem IsGeneric.visible (h : IsGeneric s outer member) : ¬Text.Blank s := by
  intro hb
  have hopen : Text.isBlank '<' = true := hb '<' (by simp [h.text])
  exact absurd hopen (by decide)

/-! ## Qualifiers in front -/

/-- A text is split at its first point. -/
theorem splitQualifier?_append {front back : List Char} (h : '.' ∉ front) :
    splitQualifier? (front ++ '.' :: back) = (Qualifier.ofName? (String.ofList front)).bind fun q =>
      if q.wrapsGeneric || !back.contains '<' then some (q, back) else none := by
  simp only [splitQualifier?, dropWhile_ne_append h, takeWhile_ne_append h]

/-- A qualifier is split off up to its point, unless it belongs to the name inside brackets. -/
theorem splitQualifier?_eq_some_iff : splitQualifier? cs = some (q, back) ↔
    cs = q.name.toList ++ '.' :: back ∧ (q = .optional ∨ q = .maybe ∨ '<' ∉ back) := by
  have hwraps : (q.wrapsGeneric || !back.contains '<') = true ↔
      q = .optional ∨ q = .maybe ∨ '<' ∉ back := by
    simp [Qualifier.wrapsGeneric_iff, or_assoc]
  constructor
  · intro h
    by_cases hpoint : '.' ∈ cs
    case pos =>
      obtain ⟨front, tail, rfl, hfront⟩ := List.eq_append_cons_of_mem hpoint
      rw [splitQualifier?_append hfront] at h
      obtain ⟨q', hq', h⟩ := Option.bind_eq_some_iff.1 h
      split at h
      case isTrue hw =>
        cases h
        rw [← Qualifier.ofName?_eq_some_iff.1 hq', String.toList_ofList]
        exact ⟨rfl, hwraps.1 hw⟩
      case isFalse => cases h
    case neg =>
      rw [splitQualifier?, dropWhile_ne_eq_nil hpoint] at h
      cases h
  · rintro ⟨rfl, hw⟩
    rw [splitQualifier?_append q.point_notMem_name, String.ofList_toList,
      Qualifier.ofName?_eq_some_iff.2 rfl, Option.bind_some, if_pos (hwraps.2 hw)]

/-- A text of the qualified form is split at its qualifier. -/
theorem isQualified_iff : IsQualified s q rest ↔
    splitQualifier? s.toList = some (q, rest.toList) ∧ rest.toList ≠ [] := by
  rw [splitQualifier?_eq_some_iff]
  constructor
  · rintro ⟨rfl, hne, hw⟩
    exact ⟨⟨by simp, hw⟩, by simpa using hne⟩
  · rintro ⟨⟨hs, hw⟩, hne⟩
    exact ⟨String.toList_injective (by simp [hs]), by simpa using hne, hw⟩

/-! ## Brackets -/

/-- The parts of `outer<member>` are parts of its text. -/
theorem isGeneric_iff : IsGeneric s outer member ↔
    s.toList = outer.toList ++ '<' :: (member.toList ++ ['>']) ∧ '<' ∉ outer.toList ∧
      (outer.toList.isEmpty || (Text.trim member.toList).isEmpty) = false := by
  rw [Bool.or_eq_false_iff, List.isEmpty_eq_false_iff, List.isEmpty_eq_false_iff, ne_eq, ne_eq,
    Text.trim_eq_nil_iff]
  constructor
  · rintro ⟨rfl, hne, hfirst, hvisible⟩
    exact ⟨by simp, hfirst, by simpa using hne, hvisible⟩
  · rintro ⟨hs, hfirst, hne, hvisible⟩
    exact ⟨String.toList_injective (by simp [hs]), by simpa using hne, hfirst, hvisible⟩

/-- Without a qualifier in front, a text is `outer<member>` or has no brackets. -/
theorem parseUnqualified_eq_ok_iff : parseUnqualified s.toList = .ok i ↔
    (∃ outer member, IsGeneric s outer member ∧ i = .generic outer member) ∨
      ('<' ∉ s.toList ∧ '>' ∉ s.toList) ∧ i = .base s := by
  constructor
  · intro h
    by_cases hopen : '<' ∈ s.toList
    case pos =>
      obtain ⟨front, back, hs, hfront⟩ := List.eq_append_cons_of_mem hopen
      rw [hs] at h
      by_cases hlast : (front ++ '<' :: back).getLast? = some '>'
      case pos =>
        obtain ⟨member, rfl⟩ := exists_member hlast
        rw [parseUnqualified_closed hfront] at h
        split at h
        case isTrue => cases h
        case isFalse hparts =>
          refine .inl ⟨_, _, isGeneric_iff.2 ?_, (Except.ok.inj h).symm⟩
          simp only [String.toList_ofList]
          exact ⟨hs, hfront, Bool.eq_false_iff.2 hparts⟩
      case neg =>
        rw [parseUnqualified_open hfront hlast] at h
        cases h
    case neg =>
      rw [parseUnqualified_bare hopen, String.ofList_toList] at h
      split at h
      case isTrue => cases h
      case isFalse hclose =>
        exact .inr ⟨⟨hopen, fun hmem => hclose (List.contains_iff_mem.2 hmem)⟩,
          (Except.ok.inj h).symm⟩
  · rintro (⟨outer, member, h, rfl⟩ | ⟨⟨hopen, hclose⟩, rfl⟩)
    · obtain ⟨hs, hfirst, hparts⟩ := isGeneric_iff.1 h
      rw [hs, parseUnqualified_closed hfirst, hparts, if_neg Bool.false_ne_true,
        String.ofList_toList, String.ofList_toList]
    · rw [parseUnqualified_bare hopen, String.ofList_toList,
        if_neg fun h => hclose (List.contains_iff_mem.1 h)]

/-! ## The step of a text -/

/-- A blank text is refused as empty. -/
theorem parse_blank (h : Text.Blank s) : parse s = .error .empty := by
  rw [parse, if_pos (List.isEmpty_iff.2 (Text.trim_eq_nil_iff.2 h))]

/-- Any other text is read by its qualifier if it has one, and by its brackets if not. -/
theorem parse_visible (h : ¬Text.Blank s) : parse s = match splitQualifier? s.toList with
    | some (q, rest) =>
      if rest.isEmpty then .error .missingBase else .ok (.qualified q (String.ofList rest))
    | none => parseUnqualified s.toList := by
  rw [parse]
  exact if_neg fun hempty => h (Text.trim_eq_nil_iff.1 (List.isEmpty_iff.1 hempty))

/-- A qualifier with its point alone has no form. -/
theorem not_form_of_bare (hs : s.toList = q.name.toList ++ ['.']) : ¬Form s i := by
  have hsplit : splitQualifier? s.toList = some (q, []) :=
    splitQualifier?_eq_some_iff.2 ⟨hs, .inr (.inr List.not_mem_nil)⟩
  intro h
  cases h with
  | @qualified q' rest h =>
    obtain ⟨hq, hne⟩ := isQualified_iff.1 h
    rw [hsplit, Option.some.injEq, Prod.mk.injEq] at hq
    exact hne hq.2.symm
  | @generic outer member _ h =>
    have hlast : s.toList.getLast? = some '>' :=
      List.getLast?_eq_some_iff.2 ⟨(outer ++ "<" ++ member).toList, by simp [h.text]⟩
    rw [hs, List.getLast?_concat] at hlast
    cases hlast
  | base _ h => exact h.not_bare q (String.toList_injective (by simp [hs]))

/-- **The step of a text is its form.** -/
theorem parse_eq_ok_iff : parse s = .ok i ↔ Form s i := by
  by_cases hblank : Text.Blank s
  case pos =>
    rw [parse_blank hblank]
    refine iff_of_false nofun fun h => ?_
    cases h with
    | qualified h => exact h.visible hblank
    | generic _ h => exact h.visible hblank
    | base _ h => exact h.visible hblank
  case neg =>
    rw [parse_visible hblank]
    cases hsplit : splitQualifier? s.toList with
    | some found =>
      obtain ⟨q, back⟩ := found
      cases back with
      | nil =>
        obtain ⟨hs, -⟩ := splitQualifier?_eq_some_iff.1 hsplit
        exact iff_of_false nofun (not_form_of_bare hs)
      | cons c back =>
        have hq : IsQualified s q (String.ofList (c :: back)) :=
          isQualified_iff.2 ⟨by rw [hsplit, String.toList_ofList], by simp⟩
        constructor
        · intro h
          cases h
          exact .qualified hq
        · intro h
          cases h with
          | @qualified q' rest h =>
            have heq := hsplit.symm.trans (isQualified_iff.1 h).1
            rw [Option.some.injEq, Prod.mk.injEq] at heq
            show Except.ok _ = _
            rw [heq.1, heq.2, String.ofList_toList]
          | generic hn _ => exact absurd hq (hn _ _)
          | base hn _ => exact absurd hq (hn _ _)
    | none =>
      have hq : ∀ q rest, ¬IsQualified s q rest := fun q rest h =>
        nomatch hsplit.symm.trans (isQualified_iff.1 h).1
      refine parseUnqualified_eq_ok_iff.trans ⟨?_, fun h => ?_⟩
      · rintro (⟨outer, member, h, rfl⟩ | ⟨⟨hopen, hclose⟩, rfl⟩)
        · exact .generic hq h
        · refine .base hq ⟨hblank, hopen, hclose, fun q hs => ?_⟩
          have hbare : splitQualifier? s.toList = some (q, []) :=
            splitQualifier?_eq_some_iff.2 ⟨by simp [hs], .inr (.inr List.not_mem_nil)⟩
          cases hsplit.symm.trans hbare
      · cases h with
        | qualified h => exact absurd h (hq _ _)
        | generic _ h => exact .inl ⟨_, _, h, rfl⟩
        | base _ h => exact .inr ⟨⟨h.no_open, h.no_close⟩, rfl⟩

/-- Of two forms with brackets, `optional` stands in front of the whole and `strict` is part of
`outer`. -/
example : parse "optional.array<string>" = .ok (.qualified .optional "array<string>") ∧
    parse "strict.array<string>" = .ok (.generic "strict.array" "string") :=
  ⟨rfl, rfl⟩

/-- Every other text is refused. -/
theorem parse_eq_error_iff : (∃ fault, parse s = .error fault) ↔
    (∀ q rest, ¬IsQualified s q rest) ∧ (∀ outer member, ¬IsGeneric s outer member) ∧
    ¬IsBase s := by
  constructor
  · rintro ⟨fault, hfault⟩
    have hform : ∀ i, ¬Form s i := fun i hi => nomatch hfault.symm.trans (parse_eq_ok_iff.2 hi)
    have hq : ∀ q rest, ¬IsQualified s q rest := fun q rest h => hform _ (.qualified h)
    exact ⟨hq, fun outer member h => hform _ (.generic hq h), fun h => hform _ (.base hq h)⟩
  · rintro ⟨hq, hg, hb⟩
    cases hp : parse s with
    | error fault => exact ⟨fault, rfl⟩
    | ok i =>
      cases parse_eq_ok_iff.1 hp with
      | qualified h => exact absurd h (hq _ _)
      | generic _ h => exact absurd h (hg _ _)
      | base _ h => exact absurd h hb

/-! ## Nothing is lost, and every part is shorter -/

/-- The text that a step was read from. -/
def text : Identifier → String
  | .generic outer member => outer ++ "<" ++ member ++ ">"
  | .qualified q rest => q.name ++ "." ++ rest
  | .base name => name

/-- The texts that are looked up next. -/
def parts : Identifier → List String
  | .generic outer member => [outer, member]
  | .qualified _ rest => [rest]
  | .base _ => []

theorem Form.text_eq (h : Form s i) : i.text = s := by
  cases h with
  | qualified h => exact h.text.symm
  | generic _ h => exact h.text.symm
  | base => rfl

/-- A part of an identifier is shorter than the whole, in bytes and in characters. -/
theorem parts_shorter {part : String} (h : part ∈ i.parts) :
    part.utf8ByteSize < i.text.utf8ByteSize ∧ part.length < i.text.length := by
  have hsize : "<".utf8ByteSize = 1 ∧ ">".utf8ByteSize = 1 ∧ ".".utf8ByteSize = 1 := by decide
  have hlength : "<".length = 1 ∧ ">".length = 1 ∧ ".".length = 1 := by decide
  cases i with
  | generic outer member =>
    simp only [text, String.utf8ByteSize_append, String.length_append]
    rcases List.mem_pair.1 h with rfl | rfl <;> omega
  | qualified q rest =>
    simp only [text, String.utf8ByteSize_append, String.length_append]
    obtain rfl := List.mem_singleton.1 h
    omega
  | base name => cases h

end Identifier

/-! ## The look-up, carried out -/

namespace TypeRegistry

/-- The look-up as a machine carries it out: identifiers are cut by position, and it is left without
a result where a cut misses the text, or where it would have to go deeper than `depth`. -/
def lookupWithin : Nat → String → TypeRegistry → Option (Except RegistryError Ty × TypeRegistry)
  | 0, _, _ => none
  | depth + 1, identifier, r =>
    match r.get? identifier with
    | some t => some (.ok t, r)
    | none =>
      match Identifier.cut? identifier with
      | none => none
      | some (.error fault) => some (.error (.invalidIdentifier identifier fault), r)
      | some (.ok (.base name)) => some (.error (.unknownType name), r)
      | some (.ok (.generic outer member)) =>
        match lookupWithin depth outer r with
        | none => none
        | some (.error e, r) => some (.error e, r)
        | some (.ok outer, r) =>
          match lookupWithin depth member r with
          | none => none
          | some (.error e, r) => some (.error e, r)
          | some (.ok member, r) => some (remember identifier (generic identifier outer member) r)
      | some (.ok (.qualified q rest)) =>
        match lookupWithin depth rest r with
        | none => none
        | some (.error e, r) => some (.error e, r)
        | some (.ok base, r) => some (remember identifier (qualify identifier q base) r)

/-- What a look-up does with an identifier under which nothing is stored. -/
theorem lookup_unstored {identifier : String} {r : TypeRegistry} (hn : r.get? identifier = none) :
    lookup identifier r = match Identifier.parse identifier with
      | .error fault => (.error (.invalidIdentifier identifier fault), r)
      | .ok (.base name) => (.error (.unknownType name), r)
      | .ok (.generic outer member) =>
        match lookup outer r with
        | (.error e, r) => (.error e, r)
        | (.ok outer, r) =>
          match lookup member r with
          | (.error e, r) => (.error e, r)
          | (.ok member, r) => remember identifier (generic identifier outer member) r
      | .ok (.qualified q rest) =>
        match lookup rest r with
        | (.error e, r) => (.error e, r)
        | (.ok base, r) => remember identifier (qualify identifier q base) r := by
  rw [lookup]
  split
  case h_1 t hs => cases hn.symm.trans hs
  case h_2 =>
    split
    case h_1 fault hp => rw [hp]
    case h_2 name hp => rw [hp]
    case h_3 outer member hp =>
      dsimp only
      exact hp ▸ rfl
    case h_4 q rest hp =>
      dsimp only
      exact hp ▸ rfl

/-- **A look-up comes to an end**, at most as deep as its identifier is long, and every cut on its
way is one that can be made. -/
theorem lookupWithin_eq {depth : Nat} {s : String} {r : TypeRegistry} (h : s.length < depth) :
    lookupWithin depth s r = some (lookup s r) := by
  induction depth generalizing s r with
  | zero => exact absurd h (Nat.not_lt_zero _)
  | succ depth ih =>
    rw [lookupWithin]
    cases hr : r.get? s with
    | some t => rw [lookup_registered hr]
    | none =>
      rw [lookup_unstored hr, Identifier.cut?_eq]
      cases hp : Identifier.parse s with
      | error fault => rfl
      | ok step =>
        cases step with
        | base name => rfl
        | generic outer member =>
          obtain ⟨houter, hmember⟩ := Identifier.length_lt_of_generic hp
          simp only [ih (show outer.length < depth by omega)]
          rcases lookup outer r with ⟨_ | t, r'⟩
          · rfl
          · simp only [ih (show member.length < depth by omega)]
            rcases lookup member r' with ⟨_ | u, r''⟩ <;> rfl
        | qualified q rest =>
          have hrest := Identifier.length_lt_of_qualified hp
          simp only [ih (show rest.length < depth by omega)]
          rcases lookup rest r with ⟨_ | t, r'⟩ <;> rfl

open Identifier in
/-- **Identifiers are read exactly.**  The step of a text is a qualified form when the text has one.
Otherwise it is `outer<member>` when the text is of that form, or the name that the text is, and it
is an error when the text has no form at all; then a look-up refuses the text, unless something is
stored under it.  The text can be put together again from its step, whose parts are shorter than it.
So a look-up comes to an end for every text, and no position that is cut at lies outside of it. -/
theorem identifiers_read_exactly (s : String) :
    (∀ q rest, parse s = .ok (.qualified q rest) ↔ IsQualified s q rest) ∧
      ((∀ q rest, ¬IsQualified s q rest) →
        (∀ outer member, parse s = .ok (.generic outer member) ↔ IsGeneric s outer member) ∧
        ∀ name, parse s = .ok (.base name) ↔ name = s ∧ IsBase s) ∧
      ((∃ fault, parse s = .error fault) ↔
        (∀ q rest, ¬IsQualified s q rest) ∧ (∀ outer member, ¬IsGeneric s outer member) ∧
        ¬IsBase s) ∧
      (∀ fault, parse s = .error fault → ∀ r : TypeRegistry, r.get? s = none →
        lookup s r = (.error (.invalidIdentifier s fault), r)) ∧
      (∀ i, parse s = .ok i → i.text = s ∧
        ∀ part ∈ i.parts, part.utf8ByteSize < s.utf8ByteSize ∧ part.length < s.length) ∧
      cut? s = some (parse s) ∧
      ∀ r depth, s.length < depth → lookupWithin depth s r = some (lookup s r) := by
  refine ⟨fun q rest => parse_eq_ok_iff.trans form_qualified_iff, fun hq => ⟨fun outer member =>
    parse_eq_ok_iff.trans (form_generic_iff hq),
    fun name => parse_eq_ok_iff.trans (form_base_iff hq)⟩, parse_eq_error_iff, ?refused, ?parts,
    cut?_eq s, fun r depth => lookupWithin_eq⟩
  case refused =>
    intro fault hp r hr
    rw [lookup_unstored hr, hp]
  case parts =>
    intro i hi
    have htext := (parse_eq_ok_iff.1 hi).text_eq
    exact ⟨htext, fun part hpart => htext ▸ parts_shorter hpart⟩

end TypeRegistry

end Conform
