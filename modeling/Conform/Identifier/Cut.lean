import Conform.Identifier
import Conform.Text.Position

/-!
# Cutting identifiers

The step of an identifier, found as a machine finds it: brackets are searched for, and what stands
in front of them and between them is cut out by position.  Each subtraction and each cut could miss
the text.  None does, and what comes out is the step that the grammar gives.

* `Identifier.cut?` — the step, if every position can be cut at.
* `Identifier.cut?_eq` — **every position can be cut at**, and the step is that of
  `Identifier.parse`.
-/

namespace Conform.Identifier

/-- The step of a text whose first `<` is at `opened`. -/
def cutGeneric? (opened : Nat) (cs : List Char) : Option (Except IdentifierFault Identifier) :=
  match Text.lastIndex? '>' cs, Text.size cs with
  | none, _ => some (.error .unterminated)
  | some _, 0 => none
  | some closed, last + 1 =>
    if closed ≠ last ∨ closed < opened then some (.error .trailingText)
    else
      (Text.slice? 0 opened cs).bind fun outer =>
        (Text.slice? (opened + 1) closed cs).map fun member =>
          if outer.isEmpty || (Text.trim member).isEmpty then .error .emptyPart
          else .ok (.generic (String.ofList outer) (String.ofList member))

/-- The first step of a text. -/
def cut? (s : String) : Option (Except IdentifierFault Identifier) :=
  if (Text.trim s.toList).isEmpty then some (.error .empty)
  else match splitQualifier? s.toList with
    | some (q, rest) =>
      some (if rest.isEmpty then .error .missingBase else .ok (.qualified q (String.ofList rest)))
    | none =>
      match Text.firstIndex? '<' s.toList with
      | some opened => cutGeneric? opened s.toList
      | none => some (if s.toList.contains '>' then .error .unmatched else .ok (.base s))

/-! ## Texts taken apart at their brackets -/

variable {c : Char} {cs front back outer member : List Char}

theorem takeWhile_ne_append (h : c ∉ front) : (front ++ c :: back).takeWhile (· ≠ c) = front := by
  rw [List.takeWhile_append_of_pos fun d hd => decide_eq_true (ne_of_mem_of_not_mem hd h),
    List.takeWhile_cons_of_neg (by simp), List.append_nil]

theorem dropWhile_ne_append (h : c ∉ front) :
    (front ++ c :: back).dropWhile (· ≠ c) = c :: back := by
  rw [List.dropWhile_append_of_pos fun d hd => decide_eq_true (ne_of_mem_of_not_mem hd h),
    List.dropWhile_cons_of_neg (by simp)]

theorem dropWhile_ne_eq_nil (h : c ∉ front) : front.dropWhile (· ≠ c) = [] := by
  rw [← List.append_nil front,
    List.dropWhile_append_of_pos fun d hd => decide_eq_true (ne_of_mem_of_not_mem hd h),
    List.dropWhile_nil]

/-- Behind its first `<`, a text that ends in `>` has a member in between. -/
theorem exists_member (h : (front ++ '<' :: back).getLast? = some '>') :
    ∃ member, back = member ++ ['>'] := by
  rw [List.getLast?_append, List.getLast?_cons, Option.some_or] at h
  cases hlast : back.getLast? with
  | none => simp [hlast] at h
  | some d =>
    rw [hlast, Option.getD_some, Option.some.injEq] at h
    exact List.getLast?_eq_some_iff.1 (h ▸ hlast)

/-- With a closing bracket at its end, the text splits at the first opening one. -/
theorem parseUnqualified_closed (h : '<' ∉ outer) :
    parseUnqualified (outer ++ '<' :: (member ++ ['>'])) =
      if outer.isEmpty || (Text.trim member).isEmpty then .error .emptyPart
      else .ok (.generic (String.ofList outer) (String.ofList member)) := by
  have hlast : (outer ++ '<' :: (member ++ ['>'])).getLast? = some '>' :=
    List.getLast?_eq_some_iff.2 ⟨outer ++ '<' :: member, by simp⟩
  simp only [parseUnqualified, dropWhile_ne_append h, takeWhile_ne_append h, List.dropLast_concat]
  rw [if_neg (by simp), if_neg (not_not_intro hlast)]

/-- Without one at its end, it is refused for what stands after the last bracket or for the lack of
one. -/
theorem parseUnqualified_open (h : '<' ∉ front)
    (hlast : (front ++ '<' :: back).getLast? ≠ some '>') :
    parseUnqualified (front ++ '<' :: back) = .error
      (if '>' ∈ front ++ '<' :: back then .trailingText else .unterminated) := by
  simp only [parseUnqualified, dropWhile_ne_append h, if_pos hlast, ← List.contains_iff_mem]
  cases (front ++ '<' :: back).contains '>' <;> rfl

/-- Without any opening bracket the text is a name, or it is refused for a closing one. -/
theorem parseUnqualified_bare (h : '<' ∉ cs) :
    parseUnqualified cs =
      if cs.contains '>' then .error .unmatched else .ok (.base (String.ofList cs)) := by
  rw [parseUnqualified, dropWhile_ne_eq_nil h]

/-! ## The same step -/

/-- The cuts around the brackets of `outer<member>` give its parts. -/
theorem cutGeneric?_closed (outer member : List Char) :
    cutGeneric? (Text.size outer) (outer ++ '<' :: (member ++ ['>'])) =
      some (if outer.isEmpty || (Text.trim member).isEmpty then .error .emptyPart
        else .ok (.generic (String.ofList outer) (String.ofList member))) := by
  have hsize : Text.size (outer ++ '<' :: (member ++ ['>'])) =
      Text.size (outer ++ '<' :: member) + 1 := by
    simp only [Text.size_append, Text.size_cons, Text.size_nil]
    rfl
  have hclosed : Text.lastIndex? '>' (outer ++ '<' :: (member ++ ['>'])) =
      some (Text.size (outer ++ '<' :: member)) :=
    Text.lastIndex?_eq_some_iff.2 ⟨outer ++ '<' :: member, [], by simp, List.not_mem_nil, rfl⟩
  have hbefore : ¬Text.size (outer ++ '<' :: member) < Text.size outer := by
    rw [Text.size_append]
    omega
  have houter : Text.slice? 0 (Text.size outer) (outer ++ '<' :: (member ++ ['>'])) = some outer :=
    Text.slice?_eq_some_iff.2 ⟨[], _, rfl, rfl, rfl⟩
  have hmember : Text.slice? (Text.size outer + 1) (Text.size (outer ++ '<' :: member))
      (outer ++ '<' :: (member ++ ['>'])) = some member :=
    Text.slice?_eq_some_iff.2 ⟨outer ++ ['<'], ['>'], by simp, by simp; rfl, by simp⟩
  simp only [cutGeneric?, hclosed, hsize, houter, hmember, hbefore, ne_eq, not_true_eq_false,
    or_false, if_false, Option.bind_some, Option.map_some]

/-- A text that does not end in `>` has its last one, if any, in front of its last byte. -/
theorem cutGeneric?_open {opened : Nat} (hlast : cs.getLast? ≠ some '>') :
    cutGeneric? opened cs = some (.error (if '>' ∈ cs then .trailingText else .unterminated)) := by
  cases hclosed : Text.lastIndex? '>' cs with
  | none => rw [cutGeneric?, hclosed, if_neg (Text.lastIndex?_eq_none_iff.1 hclosed)]
  | some closed =>
    have hmem : '>' ∈ cs := by
      obtain ⟨_, _, hcs, -, -⟩ := Text.lastIndex?_eq_some_iff.1 hclosed
      simp [hcs]
    obtain ⟨last, hsize⟩ := Nat.exists_eq_add_one_of_ne_zero
      (Nat.ne_of_gt (Text.size_pos (List.ne_nil_of_mem hmem)))
    rw [ne_eq, Text.getLast?_eq_some_iff_size hclosed, hsize] at hlast
    rw [cutGeneric?, hclosed, hsize, if_pos hmem]
    exact if_pos (Or.inl fun h => hlast (congrArg (· + 1) h.symm))

/-- The cut at the first opening bracket is the one that parsing makes. -/
theorem cutGeneric?_eq (h : '<' ∉ front) :
    cutGeneric? (Text.size front) (front ++ '<' :: back) =
      some (parseUnqualified (front ++ '<' :: back)) := by
  by_cases hlast : (front ++ '<' :: back).getLast? = some '>'
  case pos =>
    obtain ⟨member, rfl⟩ := exists_member hlast
    rw [cutGeneric?_closed, parseUnqualified_closed h]
  case neg => rw [cutGeneric?_open hlast, parseUnqualified_open h hlast]

/-- **Every position can be cut at**, and the step is that of the grammar. -/
theorem cut?_eq (s : String) : cut? s = some (parse s) := by
  rw [cut?, parse]
  split
  case isTrue => rfl
  case isFalse =>
    cases splitQualifier? s.toList with
    | some found => rfl
    | none =>
      cases hopened : Text.firstIndex? '<' s.toList with
      | some opened =>
        obtain ⟨front, back, hs, hfront, rfl⟩ := Text.firstIndex?_eq_some_iff.1 hopened
        simp only [hs, cutGeneric?_eq hfront]
      | none =>
        have hnot := Text.firstIndex?_eq_none_iff.1 hopened
        simp only [parseUnqualified_bare hnot, String.ofList_toList]

end Conform.Identifier
