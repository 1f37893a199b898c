/-!
# Positions in a text

A position in a text is a number of bytes of its UTF-8 encoding.  Searching gives the position of a
character, and cutting takes a text apart between two positions.  There is nothing to cut where a
position is behind the end or within a character.

* `size` — the bytes of a text.
* `firstIndex?`, `lastIndex?` — the position of the first, or last, such character.
* `slice?` — the text between two positions, if they can be cut at.
-/

namespace Conform.Text

/-! ## Sizes -/

/-- The number of bytes of a text. -/
def size : List Char → Nat
  | [] => 0
  | c :: cs => c.utf8Size + size cs

@[simp]
theorem size_nil : size [] = 0 := rfl

@[simp]
theorem size_cons (c : Char) (cs : List Char) : size (c :: cs) = c.utf8Size + size cs := rfl

/-- The bytes of two texts in a row add up. -/
@[simp]
theorem size_append (front back : List Char) : size (front ++ back) = size front + size back := by
  induction front with
  | nil => rw [List.nil_append, size_nil, Nat.zero_add]
  | cons c front ih => rw [List.cons_append, size_cons, size_cons, ih, Nat.add_assoc]

theorem size_pos {cs : List Char} (h : cs ≠ []) : 0 < size cs := by
  obtain ⟨c, rest, rfl⟩ := List.exists_cons_of_ne_nil h
  have hc := c.utf8Size_pos
  rw [size_cons]
  omega

/-! ## Searching -/

variable {c : Char} {cs front middle back : List Char} {i j : Nat}

/-- The position of the first `c`. -/
def firstIndex? (c : Char) : List Char → Option Nat
  | [] => none
  | d :: cs => if d = c then some 0 else (firstIndex? c cs).map (d.utf8Size + ·)

/-- The position of the last `c`. -/
def lastIndex? (c : Char) : List Char → Option Nat
  | [] => none
  | d :: cs =>
    match lastIndex? c cs with
    | some i => some (d.utf8Size + i)
    | none => if d = c then some 0 else none

/-- There is no first position exactly if the character does not occur. -/
theorem firstIndex?_eq_none_iff : firstIndex? c cs = none ↔ c ∉ cs := by
  induction cs with
  | nil => exact iff_of_true rfl List.not_mem_nil
  | cons d cs ih =>
    rw [firstIndex?, List.mem_cons, not_or]
    split
    case isTrue h => exact iff_of_false nofun fun hc => hc.1 h.symm
    case isFalse h => rw [Option.map_eq_none_iff, ih, and_iff_right (Ne.symm h)]

/-- There is no last position exactly if the character does not occur. -/
theorem lastIndex?_eq_none_iff : lastIndex? c cs = none ↔ c ∉ cs := by
  induction cs with
  | nil => exact iff_of_true rfl List.not_mem_nil
  | cons d cs ih =>
    rw [lastIndex?, List.mem_cons, not_or, ← ih]
    cases lastIndex? c cs with
    | some i => exact iff_of_false nofun fun h => nomatch h.2
    | none => simp [eq_comm]

/-- The first `c` has none in front of it. -/
theorem firstIndex?_eq_some_iff : firstIndex? c cs = some i ↔
    ∃ front back, cs = front ++ c :: back ∧ c ∉ front ∧ i = size front := by
  constructor
  · intro h
    induction cs generalizing i with
    | nil => cases h
    | cons d cs ih =>
      rw [firstIndex?] at h
      split at h
      case isTrue hd =>
        cases h
        exact ⟨[], cs, hd ▸ rfl, List.not_mem_nil, rfl⟩
      case isFalse hd =>
        obtain ⟨k, hk, rfl⟩ := Option.map_eq_some_iff.1 h
        obtain ⟨front, back, rfl, hfront, rfl⟩ := ih hk
        exact ⟨d :: front, back, rfl, by simp [Ne.symm hd, hfront], rfl⟩
  · rintro ⟨front, back, rfl, hfront, rfl⟩
    induction front with
    | nil => exact if_pos rfl
    | cons d front ih =>
      rw [List.mem_cons, not_or] at hfront
      rw [List.cons_append, firstIndex?, if_neg (Ne.symm hfront.1), ih hfront.2]
      rfl

/-- The last `c` has none behind it. -/
theorem lastIndex?_eq_some_iff : lastIndex? c cs = some i ↔
    ∃ front back, cs = front ++ c :: back ∧ c ∉ back ∧ i = size front := by
  constructor
  · intro h
    induction cs generalizing i with
    | nil => cases h
    | cons d cs ih =>
      rw [lastIndex?] at h
      split at h
      case h_1 k hk =>
        obtain ⟨front, back, rfl, hback, rfl⟩ := ih hk
        exact ⟨d :: front, back, rfl, hback, (Option.some.inj h).symm⟩
      case h_2 hn =>
        split at h
        case isTrue hd =>
          cases h
          exact ⟨[], cs, hd ▸ rfl, lastIndex?_eq_none_iff.1 hn, rfl⟩
        case isFalse => cases h
  · rintro ⟨front, back, rfl, hback, rfl⟩
    induction front with
    | nil => rw [List.nil_append, lastIndex?, lastIndex?_eq_none_iff.2 hback, if_pos rfl, size_nil]
    | cons d front ih => rw [List.cons_append, lastIndex?, ih, size_cons]

/-- A text ends in `c` when its last one reaches to the end. -/
theorem getLast?_eq_some_iff_size (h : lastIndex? c cs = some i) :
    cs.getLast? = some c ↔ size cs = i + c.utf8Size := by
  constructor
  · intro hlast
    obtain ⟨front, rfl⟩ := List.getLast?_eq_some_iff.1 hlast
    rw [lastIndex?_eq_some_iff.2 ⟨front, [], rfl, List.not_mem_nil, rfl⟩] at h
    rw [size_append, size_cons, size_nil, Option.some.inj h, Nat.add_zero]
  · intro hsize
    obtain ⟨front, back, rfl, -, rfl⟩ := lastIndex?_eq_some_iff.1 h
    rw [size_append, size_cons] at hsize
    have hback : back = [] := Classical.byContradiction fun hne => by
      have hpos := size_pos hne
      omega
    rw [hback, List.getLast?_concat]

/-! ## Cutting -/

/-- The text from a position on. -/
def drop? : Nat → List Char → Option (List Char)
  | 0, cs => some cs
  | _ + 1, [] => none
  | i + 1, c :: cs => if c.utf8Size ≤ i + 1 then drop? (i + 1 - c.utf8Size) cs else none

/-- The text up to a position. -/
def take? : Nat → List Char → Option (List Char)
  | 0, _ => some []
  | _ + 1, [] => none
  | i + 1, c :: cs =>
    if c.utf8Size ≤ i + 1 then (take? (i + 1 - c.utf8Size) cs).map (c :: ·) else none

/-- The text from one position up to another. -/
def slice? (i j : Nat) (cs : List Char) : Option (List Char) :=
  if i ≤ j then (drop? i cs).bind (take? (j - i)) else none

/-- Past the first character, what is dropped is dropped from the rest. -/
theorem drop?_cons : drop? (c.utf8Size + i) (c :: cs) = drop? i cs := by
  have hc := c.utf8Size_pos
  obtain ⟨k, hk⟩ := Nat.exists_eq_add_one_of_ne_zero (show c.utf8Size + i ≠ 0 by omega)
  rw [hk, drop?, ← hk, if_pos (Nat.le_add_right _ _), Nat.add_sub_cancel_left]

/-- Past the first character, what is taken is that character and what is taken from the rest. -/
theorem take?_cons : take? (c.utf8Size + i) (c :: cs) = (take? i cs).map (c :: ·) := by
  have hc := c.utf8Size_pos
  obtain ⟨k, hk⟩ := Nat.exists_eq_add_one_of_ne_zero (show c.utf8Size + i ≠ 0 by omega)
  rw [hk, take?, ← hk, if_pos (Nat.le_add_right _ _), Nat.add_sub_cancel_left]

/-- A position can be cut at exactly when it is behind some first characters. -/
theorem drop?_eq_some_iff :
    drop? i cs = some back ↔ ∃ front, cs = front ++ back ∧ i = size front := by
  constructor
  · intro h
    fun_induction drop? i cs with
    | case1 cs => exact ⟨[], (Option.some.inj h).symm ▸ rfl, rfl⟩
    | case2 | case4 => cases h
    | case3 i c cs hc ih =>
      obtain ⟨front, rfl, hi⟩ := ih h
      exact ⟨c :: front, rfl, by rw [size_cons]; omega⟩
  · rintro ⟨front, rfl, rfl⟩
    induction front with
    | nil => rw [List.nil_append, size_nil, drop?]
    | cons c front ih => rw [List.cons_append, size_cons, drop?_cons, ih]

/-- What is taken is a part of the text from its start, as many bytes long as was asked for. -/
theorem take?_eq_some_iff :
    take? i cs = some front ↔ ∃ back, cs = front ++ back ∧ i = size front := by
  constructor
  · intro h
    fun_induction take? i cs generalizing front with
    | case1 cs =>
      cases h
      exact ⟨cs, rfl, rfl⟩
    | case2 | case4 => cases h
    | case3 i c cs hc ih =>
      obtain ⟨front, hfront, rfl⟩ := Option.map_eq_some_iff.1 h
      obtain ⟨back, rfl, hi⟩ := ih hfront
      exact ⟨back, rfl, by rw [size_cons]; omega⟩
  · rintro ⟨back, rfl, rfl⟩
    induction front with
    | nil => rw [List.nil_append, size_nil, take?]
    | cons c front ih =>
      rw [List.cons_append, size_cons, take?_cons, ih]
      rfl

/-- **A text is cut between two positions exactly when it is made of three pieces that meet
there.** -/
theorem slice?_eq_some_iff : slice? i j cs = some middle ↔
    ∃ front back, cs = front ++ (middle ++ back) ∧ i = size front ∧ j = size (front ++ middle) := by
  rw [slice?]
  constructor
  · intro h
    split at h
    case isTrue hij =>
      obtain ⟨rest, hrest, hmiddle⟩ := Option.bind_eq_some_iff.1 h
      obtain ⟨front, rfl, rfl⟩ := drop?_eq_some_iff.1 hrest
      obtain ⟨back, rfl, hj⟩ := take?_eq_some_iff.1 hmiddle
      exact ⟨front, back, rfl, rfl, by rw [size_append]; omega⟩
    case isFalse => cases h
  · rintro ⟨front, back, rfl, rfl, rfl⟩
    rw [size_append, if_pos (Nat.le_add_right _ _), drop?_eq_some_iff.2 ⟨front, rfl, rfl⟩,
      Option.bind_some, Nat.add_sub_cancel_left, take?_eq_some_iff.2 ⟨back, rfl, rfl⟩]

end Conform.Text
