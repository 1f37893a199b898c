import Conform.Text.Blank

/-!
# Type identifiers

The names that types are looked up by: a registered base name, `outer<member>` for arrays, and
qualifiers in front, each with a point behind it.

* `Qualifier` — the words that may stand in front.
* `Identifier` — one step of the grammar; the parts are read when they are looked up, so that
  registered names win.
* `Identifier.parse` — the step of a text, or the `IdentifierFault`.
-/

namespace Conform

/-- A word in front of an identifier. -/
inductive Qualifier
  | strict
  | coercible
  | optional
  | maybe
  | params
  | json
  deriving DecidableEq, Repr

namespace Qualifier

/-- Every qualifier. -/
def all : List Qualifier :=
  [.strict, .coercible, .optional, .maybe, .params, .json]

/-- The word. -/
def name : Qualifier → String
  | .strict => "strict"
  | .coercible => "coercible"
  | .optional => "optional"
  | .maybe => "maybe"
  | .params => "params"
  | .json => "json"

/-- The qualifier of a word. -/
def ofName? (s : String) : Option Qualifier :=
  all.find? fun q => q.name == s

/-- Whether the qualifier may stand in front of `outer<member>` as a whole. -/
def wrapsGeneric : Qualifier → Bool
  | .optional => true
  | .maybe => true
  | _ => false

end Qualifier

/-- One step of the grammar of identifiers. -/
inductive Identifier
  | generic (outer member : String)
  | qualified (q : Qualifier) (rest : String)
  | base (name : String)
  deriving DecidableEq, Repr

/-- Why a text is no identifier. -/
inductive IdentifierFault
  | empty
  | missingBase
  | unterminated
  | trailingText
  | emptyPart
  | unmatched
  deriving DecidableEq, Repr

/-- The text of a fault. -/
def IdentifierFault.message : IdentifierFault → String
  | .empty => "empty identifier"
  | .missingBase => "missing base name"
  | .unterminated => "unterminated '<'"
  | .trailingText => "'>' must end the identifier"
  | .emptyPart => "empty generic part"
  | .unmatched => "unmatched '>'"

namespace Identifier

/-- The qualifier in front and what follows its point. Most qualifiers do not stand in front of
`outer<member>`: there they belong to the outer part. -/
def splitQualifier? (cs : List Char) : Option (Qualifier × List Char) :=
  match cs.dropWhile (· ≠ '.') with
  | [] => none
  | _ :: rest =>
    (Qualifier.ofName? (String.ofList (cs.takeWhile (· ≠ '.')))).bind fun q =>
      if q.wrapsGeneric || !rest.contains '<' then some (q, rest) else none

/-- The step of a text without a qualifier. -/
def parseUnqualified (cs : List Char) : Except IdentifierFault Identifier :=
  match cs.dropWhile (· ≠ '<') with
  | [] => if cs.contains '>' then .error .unmatched else .ok (.base (String.ofList cs))
  | _ :: inside =>
    if !cs.contains '>' then .error .unterminated
    else if cs.getLast? ≠ some '>' then .error .trailingText
    else
      let outer := cs.takeWhile (· ≠ '<')
      let member := inside.dropLast
      if outer.isEmpty || (Text.trim member).isEmpty then .error .emptyPart
      else .ok (.generic (String.ofList outer) (String.ofList member))

/-- The first step of a text. -/
def parse (s : String) : Except IdentifierFault Identifier :=
  if (Text.trim s.toList).isEmpty then .error .empty
  else match splitQualifier? s.toList with
    | some (q, rest) =>
      if rest.isEmpty then .error .missingBase else .ok (.qualified q (String.ofList rest))
    | none => parseUnqualified s.toList

/-! ## Parts are shorter -/

/-- Splitting a qualifier off leaves fewer characters. -/
theorem length_of_splitQualifier? {cs rest : List Char} {q : Qualifier}
    (h : splitQualifier? cs = some (q, rest)) : rest.length < cs.length := by
  unfold splitQualifier? at h
  split at h
  · cases h
  · next c tail hd =>
    have hl : (cs.dropWhile (· ≠ '.')).length ≤ cs.length := (List.dropWhile_suffix _).length_le
    rw [hd, List.length_cons] at hl
    obtain ⟨q', _, h⟩ := Option.bind_eq_some_iff.1 h
    split at h
    · obtain ⟨-, rfl⟩ := Prod.mk.inj (Option.some.inj h)
      omega
    · cases h

/-- What follows a qualifier is shorter than the whole. -/
theorem length_lt_of_qualified {s rest : String} {q : Qualifier}
    (h : parse s = .ok (.qualified q rest)) : rest.length < s.length := by
  unfold parse at h
  split at h
  · cases h
  · split at h
    · next q' tail hs =>
      split at h
      · cases h
      · obtain ⟨-, rfl⟩ := Identifier.qualified.inj (Except.ok.inj h)
        rw [String.length_ofList, ← String.length_toList (s := s)]
        exact length_of_splitQualifier? hs
    · unfold parseUnqualified at h
      split at h
      · split at h <;> cases h
      · split at h
        · cases h
        · split at h
          · cases h
          · simp only at h
            split at h <;> cases h

/-- Both parts of `outer<member>` are shorter than the whole. -/
theorem length_lt_of_generic {s outer member : String}
    (h : parse s = .ok (.generic outer member)) :
    outer.length < s.length ∧ member.length < s.length := by
  unfold parse at h
  split at h
  · cases h
  · split at h
    · split at h <;> cases h
    · unfold parseUnqualified at h
      split at h
      · split at h <;> cases h
      · next c inside hd =>
        split at h
        · cases h
        · split at h
          · cases h
          · simp only at h
            split at h
            · cases h
            · obtain ⟨rfl, rfl⟩ := Identifier.generic.inj (Except.ok.inj h)
              have hl : (s.toList.takeWhile (· ≠ '<')).length +
                  (s.toList.dropWhile (· ≠ '<')).length = s.length := by
                rw [← List.length_append, List.takeWhile_append_dropWhile, String.length_toList]
              rw [hd, List.length_cons] at hl
              simp only [String.length_ofList, List.length_dropLast]
              omega

end Identifier

end Conform
