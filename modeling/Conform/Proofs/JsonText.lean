import Conform.Json.Reader
import Conform.Json.Writer
import Conform.Number.Word
import Conform.Proofs.Digits

/-!
# Documents are read back from their texts

A text over several lines differs from the row of its tokens by blanks only, and the tokens of a
document lead the reader from any place where a value is expected to the place after that value.
Numbers other than integers of 64 bits are left aside: they are read in binary64 arithmetic and need
not come back.

* `Json.FitsWord` — integers of 64 bits; `Json.ofNumberText?_signed` — they are read back from their
  digits.
* `Json.IsPlain` — a document without other numbers; `Json.depth` — how deep it is nested.
* `Json.tokens` — the tokens of a document.
* `Json.scan_prettyFrom` — the text is cut into them.
* `Json.run?_tokens` — the reader makes the document of them.
* `Json.ofText?_pretty` — the round trip.
-/

namespace Conform.Json

/-- Whether the integer fits a word of 64 bits, signed or not. -/
def FitsWord (z : Int) : Prop :=
  (Word.toInt64? z).isSome ∨ (Word.toUInt64? z).isSome

mutual

/-- Whether all numbers of the document are integers that fit a word. -/
def IsPlain : Json → Prop
  | .integer z => FitsWord z
  | .float _ => False
  | .array items => AllPlain items
  | .object fields => FieldsPlain fields
  | _ => True

/-- The same for the items of an array. -/
def AllPlain : List Json → Prop
  | [] => True
  | j :: rest => j.IsPlain ∧ AllPlain rest

/-- The same for the fields of an object. -/
def FieldsPlain : List (String × Json) → Prop
  | [] => True
  | (_, j) :: rest => j.IsPlain ∧ FieldsPlain rest

end

theorem allPlain_iff {items : List Json} : AllPlain items ↔ ∀ j ∈ items, j.IsPlain := by
  induction items with
  | nil => simp [AllPlain]
  | cons j rest ih => simp [AllPlain, ih]

theorem fieldsPlain_iff {fields : List (String × Json)} :
    FieldsPlain fields ↔ ∀ f ∈ fields, f.2.IsPlain := by
  induction fields with
  | nil => simp [FieldsPlain]
  | cons f rest ih =>
    obtain ⟨name, j⟩ := f
    simp [FieldsPlain, ih]

mutual

/-- How many arrays and objects stand inside each other. -/
def depth : Json → Nat
  | .array items => itemsDepth items + 1
  | .object fields => fieldsDepth fields + 1
  | _ => 0

/-- The depth of the deepest item. -/
def itemsDepth : List Json → Nat
  | [] => 0
  | j :: rest => max j.depth (itemsDepth rest)

/-- The depth of the deepest field. -/
def fieldsDepth : List (String × Json) → Nat
  | [] => 0
  | (_, j) :: rest => max j.depth (fieldsDepth rest)

end

mutual

/-- The tokens of a document. -/
def tokens : Json → List Token
  | .array [] => [.openArray, .closeArray]
  | .array (j :: rest) => .openArray :: (j.tokens ++ moreItems rest)
  | .object [] => [.openObject, .closeObject]
  | .object ((name, j) :: rest) =>
    .openObject :: .scalar (.string name) :: .colon :: (j.tokens ++ moreFields rest)
  | j => [.scalar j]

/-- The tokens of the further items, up to the bracket that closes the array. -/
def moreItems : List Json → List Token
  | [] => [.closeArray]
  | j :: rest => .comma :: (j.tokens ++ moreItems rest)

/-- The tokens of the further fields, up to the bracket that closes the object. -/
def moreFields : List (String × Json) → List Token
  | [] => [.closeObject]
  | (name, j) :: rest =>
    .comma :: .scalar (.string name) :: .colon :: (j.tokens ++ moreFields rest)

end

/-! ## From tokens to documents -/

/-- Where an item or the end of an array is expected, an item may come as anywhere else. -/
theorem run?_itemOrClose (limit : Nat) (stack : List Frame) (j : Json) (ts : List Token) :
    run? limit (.itemOrClose stack) (j.tokens ++ ts) =
      run? limit (.value (.items [] :: stack)) (j.tokens ++ ts) := by
  cases j with
  | array items => cases items <;> simp [tokens, run?, step?]
  | object fields => cases fields <;> simp [tokens, run?, step?]
  | _ => simp [tokens, run?, step?]

mutual

/-- **The tokens of a document lead past the document**, if it is not nested too deep. -/
theorem run?_tokens (limit : Nat) : (j : Json) → (stack : List Frame) → (ts : List Token) →
    j.depth + stack.length ≤ limit →
    run? limit (.value stack) (j.tokens ++ ts) = run? limit (finish j stack) ts
  | .null, _, _, _ => rfl
  | .bool _, _, _, _ => rfl
  | .integer _, _, _, _ => rfl
  | .float _, _, _, _ => rfl
  | .string _, _, _, _ => rfl
  | .array [], stack, ts, h => by
    have hlt : stack.length < limit := by
      simp only [depth, itemsDepth] at h
      omega
    simp [tokens, run?, step?, begin?, hlt]
  | .array (j :: rest), stack, ts, h => by
    simp only [depth, itemsDepth] at h
    have hlt : stack.length < limit := by omega
    have hopen : run? limit (.value stack) (tokens (.array (j :: rest)) ++ ts) =
        run? limit (.itemOrClose stack) (j.tokens ++ (moreItems rest ++ ts)) := by
      simp [tokens, run?, step?, begin?, hlt]
    rw [hopen, run?_itemOrClose, run?_tokens limit j _ _ (by simp only [List.length_cons]; omega)]
    exact run?_moreItems limit rest [j] stack ts (by omega)
  | .object [], stack, ts, h => by
    have hlt : stack.length < limit := by
      simp only [depth, fieldsDepth] at h
      omega
    simp [tokens, run?, step?, begin?, hlt]
  | .object ((name, j) :: rest), stack, ts, h => by
    simp only [depth, fieldsDepth] at h
    have hlt : stack.length < limit := by omega
    have hopen : run? limit (.value stack) (tokens (.object ((name, j) :: rest)) ++ ts) =
        run? limit (.value (.fields [] name :: stack)) (j.tokens ++ (moreFields rest ++ ts)) := by
      simp [tokens, run?, step?, begin?, hlt]
    rw [hopen, run?_tokens limit j _ _ (by simp only [List.length_cons]; omega)]
    exact run?_moreFields limit rest [(name, j)] stack ts (by omega)

/-- Past an item, the reader takes the other items and closes the array. -/
theorem run?_moreItems (limit : Nat) : (rest done : List Json) → (stack : List Frame) →
    (ts : List Token) → itemsDepth rest + stack.length + 1 ≤ limit →
    run? limit (.afterItem done stack) (moreItems rest ++ ts) =
      run? limit (finish (.array (done.reverse ++ rest)) stack) ts
  | [], done, stack, ts, _ => by simp [moreItems, run?, step?]
  | j :: rest, done, stack, ts, h => by
    simp only [itemsDepth] at h
    have hcomma : run? limit (.afterItem done stack) (moreItems (j :: rest) ++ ts) =
        run? limit (.value (.items done :: stack)) (j.tokens ++ (moreItems rest ++ ts)) := by
      simp [moreItems, run?, step?]
    rw [hcomma, run?_tokens limit j _ _ (by simp only [List.length_cons]; omega)]
    have hrest := run?_moreItems limit rest (j :: done) stack ts (by omega)
    rw [List.reverse_cons, List.append_assoc] at hrest
    exact hrest

/-- Past a field, the reader takes the other fields and closes the object. -/
theorem run?_moreFields (limit : Nat) : (rest done : List (String × Json)) → (stack : List Frame) →
    (ts : List Token) → fieldsDepth rest + stack.length + 1 ≤ limit →
    run? limit (.afterField done stack) (moreFields rest ++ ts) =
      run? limit (finish (.object (done.reverse ++ rest)) stack) ts
  | [], done, stack, ts, _ => by simp [moreFields, run?, step?]
  | (name, j) :: rest, done, stack, ts, h => by
    simp only [fieldsDepth] at h
    have hcomma : run? limit (.afterField done stack) (moreFields ((name, j) :: rest) ++ ts) =
        run? limit (.value (.fields done name :: stack)) (j.tokens ++ (moreFields rest ++ ts)) := by
      simp [moreFields, run?, step?]
    rw [hcomma, run?_tokens limit j _ _ (by simp only [List.length_cons]; omega)]
    have hrest := run?_moreFields limit rest ((name, j) :: done) stack ts (by omega)
    rw [List.reverse_cons, List.append_assoc] at hrest
    exact hrest

end

/-- The tokens of a document make the document. -/
theorem ofTokens?_tokens {limit : Nat} {j : Json} (h : j.depth ≤ limit) :
    ofTokens? limit j.tokens = some j := by
  have hrun := run?_tokens limit j [] [] (by simpa using h)
  rw [List.append_nil] at hrun
  rw [ofTokens?, hrun]
  rfl

/-! ## Numbers -/

/-- A number fits if it is one of 64 bits, with a sign or without. -/
theorem fitsWord_iff {z : Int} : FitsWord z ↔ -(twoPow 63 : Int) ≤ z ∧ z < twoPow 64 := by
  have hsigned : (twoPow 63 : Int) = 9223372036854775808 := rfl
  have hunsigned : (twoPow 64 : Int) = 18446744073709551616 := rfl
  simp only [FitsWord, Word.toInt64?, Word.toUInt64?, Option.isSome_ite]
  omega

/-- What follows the sign of an integer is its digits up to the end, without a leading zero. -/
theorem digits_alone (n : Nat) :
    (Text.digits n).takeWhile Text.isDigit = Text.digits n ∧
      (Text.digits n).dropWhile Text.isDigit = [] ∧
      ((Text.digits n).isEmpty ||
        ((Text.digits n).head? == some '0' && (Text.digits n).length != 1)) =
        false := by
  have htake := Text.takeWhile_digital (Text.digital_digits n) Text.stops_nil
  have hdrop := Text.dropWhile_digital (Text.digital_digits n) Text.stops_nil
  rw [List.append_nil] at htake hdrop
  refine ⟨htake, hdrop, ?_⟩
  rw [Bool.or_eq_false_iff, List.isEmpty_eq_false_iff, Bool.and_eq_false_imp]
  refine ⟨Text.digits_ne_nil n, fun h => ?_⟩
  obtain rfl := Text.eq_zero_of_head?_digits (beq_iff_eq.1 h)
  rfl

/-- **An integer that fits a word is read back from its digits.** -/
theorem ofNumberText?_signed {z : Int} (h : FitsWord z) :
    ofNumberText? (Text.signed z) = some (.integer z) := by
  rw [fitsWord_iff] at h
  obtain ⟨htake, hdrop, hlead⟩ := digits_alone z.natAbs
  have hvalue : Nat.ofDigitChars 10 (Text.digits z.natAbs) 0 = z.natAbs :=
    Nat.ofDigitChars_ten_toDigits
  unfold Text.signed
  split
  · next hneg =>
    have hsize : 0 < z.natAbs ∧ z.natAbs ≤ twoPow 63 := by omega
    have hz : -(z.natAbs : Int) = z := by omega
    generalize z.natAbs = n at *
    simp [ofNumberText?, htake, hdrop, hlead, splitFraction?, ofInteger?, hvalue, hsize, hz]
  · next hnonneg =>
    have hsize : z.natAbs < twoPow 64 := by omega
    have hz : (z.natAbs : Int) = z := by omega
    -- decides how the reader splits the sign off
    have hsign : ∀ rest, Text.digits z.natAbs = '-' :: rest → False := by
      intro rest hds
      cases Text.digital_digits z.natAbs '-' (hds ▸ List.mem_cons_self)
    generalize z.natAbs = n at *
    simp [ofNumberText?, htake, hdrop, hlead, splitFraction?, ofInteger?, hvalue, hsize, hz]

/-! ## From texts to tokens -/

theorem scan_blank {c : Char} (hc : c = ' ' ∨ c = '\n') (rest : List Char) :
    scan (c :: rest) = scan rest := by
  rcases hc with rfl | rfl
  · simp [scan, delimiter?]
  · simp [scan, delimiter?]

/-- Blanks are skipped, however many there are. -/
theorem scan_blanks {blanks : List Char} (h : ∀ c ∈ blanks, c = ' ' ∨ c = '\n')
    (rest : List Char) : scan (blanks ++ rest) = scan rest := by
  induction blanks with
  | nil => rfl
  | cons c blanks ih =>
    rw [List.cons_append, scan_blank (h c List.mem_cons_self),
      ih fun d hd => h d (List.mem_cons_of_mem c hd)]

/-- The code unit that the four digits after `u` spell. -/
def unitOf? : List Char → Option (Nat ⊕ Char)
  | [a, b, c, d] => (hex4? a b c d).bind (unit? none)
  | _ => none

/-- A control character is read from its four hexadecimal digits. -/
theorem unitOf?_padLeft :
    ∀ n : Fin 32, unitOf? (Text.padLeft 4 (Nat.toDigits 16 n)) = some (.inr (Char.ofNat n)) := by
  decide

/-- Inside a text an escaped character counts as the character. -/
theorem scanString_unit {read ds : List Char} {c : Char} (h : unitOf? ds = some (.inr c))
    (rest : List Char) :
    scanString none read ('\\' :: 'u' :: (ds ++ rest)) = scanString none (c :: read) rest := by
  unfold unitOf? at h
  split at h
  · simp only [List.cons_append, List.nil_append, scanString, h]
  · cases h

/-- A character of a string is read from its escape or from itself. -/
theorem scanString_quoteChar (read : List Char) (c : Char) (rest : List Char) :
    scanString none read (quoteChar c ++ rest) = scanString none (c :: read) rest := by
  unfold quoteChar
  split
  · next h => subst h; simp [scanString, escaped?]
  split
  · next h => subst h; simp [scanString, escaped?]
  split
  · next h => subst h; simp [scanString, escaped?]
  split
  · next h => subst h; simp [scanString, escaped?]
  split
  · next h => subst h; simp [scanString, escaped?]
  split
  · next h =>
    obtain rfl : c = '\x08' := Char.toNat_inj.1 h
    simp [scanString, escaped?]
  split
  · next h =>
    obtain rfl : c = '\x0c' := Char.toNat_inj.1 h
    simp [scanString, escaped?]
  split
  · next h =>
    have hunit := unitOf?_padLeft ⟨c.toNat, h⟩
    rw [Char.ofNat_toNat] at hunit
    exact scanString_unit hunit rest
  · next hq hb _ _ _ _ _ hctl =>
    rw [List.singleton_append, scanString]
    · rw [if_neg (by simp), if_neg hq, if_neg (by simp [hb, hctl])]
    · exact fun _ _ _ _ _ h => absurd h hb
    · exact fun _ _ h => absurd h hb

/-- A quoted text is read up to its closing quote. -/
theorem scanString_flatMap (read cs rest : List Char) :
    scanString none read (cs.flatMap quoteChar ++ '"' :: rest) =
      (scan rest).map (.scalar (.string (String.ofList (read.reverse ++ cs))) :: ·) := by
  induction cs generalizing read with
  | nil => simp [scanString]
  | cons c cs ih =>
    rw [List.flatMap_cons, List.append_assoc, scanString_quoteChar, ih, List.reverse_cons,
      List.append_assoc]
    rfl

/-- **A string is read back from its quoted form.** -/
theorem scan_quote (s : String) (rest : List Char) :
    scan ((quote s).toList ++ rest) = (scan rest).map (.scalar (.string s) :: ·) := by
  have hquote : (quote s).toList ++ rest = '"' :: (s.toList.flatMap quoteChar ++ '"' :: rest) := by
    simp [quote]
  rw [hquote, scan, scanString_flatMap]
  simp

theorem map_append_map (as bs : List Token) (o : Option (List Token)) :
    (o.map (bs ++ ·)).map (as ++ ·) = o.map (as ++ bs ++ ·) := by
  simp [Option.map_map, Function.comp_def]

theorem toList_intercalate (sep s : String) (l : List String) :
    (String.intercalate sep (s :: l)).toList =
      s.toList ++ l.flatMap fun t => sep.toList ++ t.toList := by
  induction l generalizing s with
  | nil => simp
  | cons t l ih => simp [String.intercalate_cons_cons, ih]

/-- The lines between two brackets. -/
theorem toList_bracket (opening closing indent s : String) (l : List String) :
    (bracket opening closing indent (s :: l)).toList =
      opening.toList ++ '\n' :: ((indent ++ "  ").toList ++ (s.toList ++
        (l.flatMap (fun t => ',' :: '\n' :: ((indent ++ "  ").toList ++ t.toList)) ++
          '\n' :: (indent.toList ++ closing.toList)))) := by
  simp only [bracket, List.map_cons, String.toList_append, toList_intercalate, List.flatMap_map]
  simp

/-- Indentation is blank. -/
def IsIndent (indent : String) : Prop :=
  ∀ c ∈ indent.toList, c = ' ' ∨ c = '\n'

theorem IsIndent.deeper {indent : String} (h : IsIndent indent) : IsIndent (indent ++ "  ") := by
  intro c hc
  rw [String.toList_append, List.mem_append] at hc
  rcases hc with hc | hc
  · exact h c hc
  · left
    simpa using hc

/-- A line starts with blanks, which are passed over. -/
theorem scan_line {indent : String} (hi : IsIndent indent) (rest : List Char) :
    scan ('\n' :: (indent.toList ++ rest)) = scan rest := by
  rw [scan_blank (.inr rfl), scan_blanks hi]

theorem scan_delimiter {c : Char} {t : Token} (rest : List Char)
    (h : scan (c :: rest) = (scan rest).map ([t] ++ ·) := by simp [scan, delimiter?]) :
    scan (c :: rest) = (scan rest).map (t :: ·) :=
  h

/-! ### Numbers between delimiters -/

/-- What may follow a document in a text over several lines: nothing, a comma or the end of the
line. -/
def Follows (rest : List Char) : Prop :=
  ∀ c ∈ rest.head?, c = ',' ∨ c = '\n'

theorem ne_of_isNumberChar {c d : Char} (hc : isNumberChar c = true) (hd : isNumberChar d = false) :
    c ≠ d := by
  rintro rfl
  rw [hc] at hd
  cases hd

/-- A number starts with a character that starts nothing else. -/
theorem scan_numberChar {c : Char} (hc : isNumberChar c = true) (rest : List Char) :
    scan (c :: rest) = scanNumber [c] rest := by
  have hne (d : Char) (hd : isNumberChar d = false) : c ≠ d := ne_of_isNumberChar hc hd
  have hdelimiter : delimiter? c = none := by
    simp [delimiter?, hne ' ' rfl, hne '\n' rfl, hne '\t' rfl, hne '\r' rfl, hne ',' rfl,
      hne ':' rfl, hne '[' rfl, hne ']' rfl, hne '\x7b' rfl, hne '\x7d' rfl]
  rw [scan, hdelimiter]
  · exact if_pos hc
  · exact hne '"' rfl
  · exact fun _ h _ => hne 'n' rfl h
  · exact fun _ h _ => hne 't' rfl h
  · exact fun _ h _ => hne 'f' rfl h

/-- The characters of a number are gathered up to the first other one. -/
theorem scanNumber_append {cs : List Char} (hcs : ∀ c ∈ cs, isNumberChar c = true)
    (read rest : List Char) :
    scanNumber read (cs ++ rest) = scanNumber (cs.reverse ++ read) rest := by
  induction cs generalizing read with
  | nil => rfl
  | cons c cs ih =>
    obtain ⟨hc, hcs⟩ := List.forall_mem_cons.1 hcs
    rw [List.cons_append, scanNumber, if_pos hc, ih hcs, List.reverse_cons, List.append_assoc]
    rfl

/-- A number ends where no character of it may follow. -/
theorem scanNumber_follows {read rest : List Char} (hr : Follows rest) :
    scanNumber read rest =
      (ofNumberText? read.reverse).bind fun j => (scan rest).map (.scalar j :: ·) := by
  cases rest with
  | nil =>
    rw [scanNumber]
    cases ofNumberText? read.reverse <;> rfl
  | cons c rest =>
    have hstop : isNumberChar c = false ∧ ∃ ts, delimiter? c = some ts ∧
        scan (c :: rest) = (scan rest).map (ts ++ ·) := by
      rcases hr c rfl with rfl | rfl
      · exact ⟨rfl, [.comma], rfl, by simp [scan, delimiter?]⟩
      · exact ⟨rfl, [], rfl, by simp [scan, delimiter?]⟩
    obtain ⟨hc, ts, hts, hscan⟩ := hstop
    rw [scanNumber, if_neg (by simp [hc]), hts, hscan]
    cases ofNumberText? read.reverse with
    | none => rfl
    | some j => rw [Option.bind_some, Option.map_map]; rfl

/-! ### Documents without parts -/

section Bare

variable (indent : String) (rest : List Char)

theorem scan_null : scan ((prettyFrom indent .null).toList ++ rest) =
    (scan rest).map (null.tokens ++ ·) := by
  have htext : prettyFrom indent .null = "null" := rfl
  rw [htext]
  simp [scan]
  rfl

theorem scan_bool (b : Bool) : scan ((prettyFrom indent (.bool b)).toList ++ rest) =
    (scan rest).map ((bool b).tokens ++ ·) := by
  have htext : prettyFrom indent (.bool b) = if b then "true" else "false" := rfl
  rw [htext]
  cases b
  · simp [scan]
    rfl
  · simp [scan]
    rfl

theorem scan_string (s : String) : scan ((prettyFrom indent (.string s)).toList ++ rest) =
    (scan rest).map ((string s).tokens ++ ·) := by
  have htext : prettyFrom indent (.string s) = quote s := rfl
  rw [htext, scan_quote]
  rfl

/-- An integer that fits is read as its token, as long as no digit follows. -/
theorem scan_integer {z : Int} (h : FitsWord z) (hr : Follows rest) :
    scan ((prettyFrom indent (.integer z)).toList ++ rest) =
      (scan rest).map ((integer z).tokens ++ ·) := by
  have htext : (prettyFrom indent (.integer z)).toList = Text.signed z := String.toList_ofList
  have hchars : ∀ c ∈ Text.signed z, isNumberChar c = true := by
    intro c hc
    rcases Text.mem_signed hc with rfl | hdigit
    · rfl
    · simp [isNumberChar, hdigit]
  obtain ⟨c, cs, hcs⟩ : ∃ c cs, Text.signed z = c :: cs := by
    unfold Text.signed
    split
    · exact ⟨_, _, rfl⟩
    · exact List.exists_cons_of_ne_nil (Text.digits_ne_nil _)
  have hnumber : ofNumberText? (cs.reverse ++ [c]).reverse = some (.integer z) := by
    rw [List.reverse_append, List.reverse_reverse, List.reverse_singleton, List.singleton_append,
      ← hcs, ofNumberText?_signed h]
  rw [hcs] at hchars
  obtain ⟨hc, hchars⟩ := List.forall_mem_cons.1 hchars
  rw [htext, hcs, List.cons_append, scan_numberChar hc, scanNumber_append hchars,
    scanNumber_follows hr, hnumber]
  rfl

/-- An empty array is read as its two brackets. -/
theorem scan_emptyArray : scan ((prettyFrom indent (.array [])).toList ++ rest) =
    (scan rest).map ((array []).tokens ++ ·) := by
  have htext : prettyFrom indent (.array []) = "[]" := rfl
  rw [htext]
  simp [scan, delimiter?, tokens, Option.map_map, Function.comp_def]

/-- An empty object is read as its two braces. -/
theorem scan_emptyObject : scan ((prettyFrom indent (.object [])).toList ++ rest) =
    (scan rest).map ((object []).tokens ++ ·) := by
  have htext : prettyFrom indent (.object []) = "\x7b\x7d" := rfl
  rw [htext]
  simp [scan, delimiter?, tokens, Option.map_map, Function.comp_def]

end Bare

/-! ### Documents with parts -/

/-- The further lines between two brackets, up to the closing one. -/
def moreLines (indent : String) (parts : List String) (closing : Char)
    (rest : List Char) : List Char :=
  parts.flatMap (fun t => ',' :: '\n' :: ((indent ++ "  ").toList ++ t.toList)) ++
    '\n' :: (indent.toList ++ closing :: rest)

/-- Every further part stands on a line of its own, behind a comma. -/
theorem moreLines_cons (indent s : String) (parts : List String) (closing : Char)
    (rest : List Char) : moreLines indent (s :: parts) closing rest =
      ',' :: '\n' :: ((indent ++ "  ").toList ++
        (s.toList ++ moreLines indent parts closing rest)) := by
  simp [moreLines]

/-- A field is its quoted name, a colon and its value. -/
theorem toList_field (name : String) (indent : String) (j : Json) (rest : List Char) :
    (quote name ++ ": " ++ prettyFrom indent j).toList ++ rest =
      (quote name).toList ++ ':' :: ' ' :: ((prettyFrom indent j).toList ++ rest) := by
  simp

/-- An array begins with its bracket and its first item. -/
theorem toList_array (indent : String) (j : Json) (js : List Json) (rest : List Char) :
    (prettyFrom indent (.array (j :: js))).toList ++ rest =
      '[' :: '\n' :: ((indent ++ "  ").toList ++ ((prettyFrom (indent ++ "  ") j).toList ++
        moreLines indent (prettyItems (indent ++ "  ") js) ']' rest)) := by
  have htext : prettyFrom indent (.array (j :: js)) = bracket "[" "]" indent
      (prettyFrom (indent ++ "  ") j :: prettyItems (indent ++ "  ") js) := rfl
  rw [htext, toList_bracket]
  simp [moreLines]

/-- An object begins with its brace and its first field. -/
theorem toList_object (indent name : String) (j : Json) (fields : List (String × Json))
    (rest : List Char) :
    (prettyFrom indent (.object ((name, j) :: fields))).toList ++ rest =
      '\x7b' :: '\n' :: ((indent ++ "  ").toList ++ ((quote name).toList ++
        ':' :: ' ' :: ((prettyFrom (indent ++ "  ") j).toList ++
          moreLines indent (prettyFields (indent ++ "  ") fields) '\x7d' rest))) := by
  have htext : prettyFrom indent (.object ((name, j) :: fields)) = bracket "\x7b" "\x7d" indent
      ((quote name ++ ": " ++ prettyFrom (indent ++ "  ") j) ::
        prettyFields (indent ++ "  ") fields) := rfl
  rw [htext, toList_bracket]
  simp [moreLines]

/-- After a part comes what ends a number. -/
theorem follows_moreLines {indent : String} {parts : List String} {closing : Char}
    {rest : List Char} :
    Follows (moreLines indent parts closing rest) := by
  cases parts with
  | nil => rintro _ ⟨⟩; exact .inr rfl
  | cons s parts => rintro _ ⟨⟩; exact .inl rfl

/-- The last line has the closing bracket only. -/
theorem scan_closing {indent : String} (hi : IsIndent indent) (closing : Char) (rest : List Char) :
    scan (moreLines indent [] closing rest) = scan (closing :: rest) :=
  scan_line hi _

mutual

/-- **The text of a document is cut into its tokens.** -/
theorem scan_prettyFrom : (j : Json) → (indent : String) → IsIndent indent → j.IsPlain →
    (rest : List Char) → Follows rest → scan ((prettyFrom indent j).toList ++ rest) =
      (scan rest).map (j.tokens ++ ·)
  | .null, indent, _, _, rest, _ => scan_null indent rest
  | .bool b, indent, _, _, rest, _ => scan_bool indent rest b
  | .integer _, indent, _, h, rest, hr => scan_integer indent rest h hr
  | .float _, _, _, h, _, _ => False.elim h
  | .string s, indent, _, _, rest, _ => scan_string indent rest s
  | .array [], indent, _, _, rest, _ => scan_emptyArray indent rest
  | .array (j :: js), indent, hi, h, rest, _ => by
    rw [toList_array, scan_delimiter (t := .openArray), scan_line hi.deeper,
      scan_prettyFrom j _ hi.deeper h.1 _ follows_moreLines, scan_moreItems js indent hi h.2,
      map_append_map, Option.map_map]
    rfl
  | .object [], indent, _, _, rest, _ => scan_emptyObject indent rest
  | .object ((name, j) :: fields), indent, hi, h, rest, _ => by
    rw [toList_object, scan_delimiter (t := .openObject), scan_line hi.deeper, scan_quote,
      scan_delimiter (t := .colon), scan_blank (.inl rfl),
      scan_prettyFrom j _ hi.deeper h.1 _ follows_moreLines, scan_moreFields fields indent hi h.2,
      map_append_map, Option.map_map, Option.map_map, Option.map_map]
    rfl

/-- The further items of an array. -/
theorem scan_moreItems : (js : List Json) → (indent : String) → IsIndent indent → AllPlain js →
    (rest : List Char) →
    scan (moreLines indent (prettyItems (indent ++ "  ") js) ']' rest) =
      (scan rest).map (moreItems js ++ ·)
  | [], indent, hi, _, rest => by
    rw [prettyItems, scan_closing hi, scan_delimiter (t := .closeArray)]
    rfl
  | j :: js, indent, hi, h, rest => by
    rw [prettyItems, moreLines_cons, scan_delimiter (t := .comma), scan_line hi.deeper,
      scan_prettyFrom j _ hi.deeper h.1 _ follows_moreLines, scan_moreItems js indent hi h.2,
      map_append_map, Option.map_map]
    rfl

/-- The further fields of an object. -/
theorem scan_moreFields : (fields : List (String × Json)) → (indent : String) → IsIndent indent →
    FieldsPlain fields → (rest : List Char) →
    scan (moreLines indent (prettyFields (indent ++ "  ") fields) '\x7d' rest) =
      (scan rest).map (moreFields fields ++ ·)
  | [], indent, hi, _, rest => by
    rw [prettyFields, scan_closing hi, scan_delimiter (t := .closeObject)]
    rfl
  | (name, j) :: fields, indent, hi, h, rest => by
    rw [prettyFields, moreLines_cons, toList_field, scan_delimiter (t := .comma),
      scan_line hi.deeper, scan_quote, scan_delimiter (t := .colon), scan_blank (.inl rfl),
      scan_prettyFrom j _ hi.deeper h.1 _ follows_moreLines, scan_moreFields fields indent hi h.2,
      map_append_map, Option.map_map, Option.map_map, Option.map_map]
    rfl

end

/-- **A document is read back from its text**, if its numbers are integers that fit a word and it is
not nested too deep. -/
theorem ofText?_pretty {j : Json} (h : j.IsPlain) (hd : j.depth ≤ maxDepth) :
    ofText? j.pretty = some j := by
  have hscan := scan_prettyFrom j "" (by simp [IsIndent]) h [] nofun
  rw [List.append_nil] at hscan
  rw [ofText?, pretty, hscan]
  simp [scan, ofTokens?_tokens hd]

end Conform.Json
