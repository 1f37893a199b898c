import Conform.Pattern.Reader

/-!
# Patterns

The patterns that a constraint on texts may name.

* `Pattern` — a source text with the expression it spells; two patterns are equal when their sources
  are.
* `Pattern.ofSource?` — the pattern of a source, if it is well formed.
* `Pattern.isMatch` — whether some part of a text matches.

**Limits.**  The syntax is that of the package `regex`, release 1.12.  Some of its patterns are not
read, or are matched otherwise:

* Of the named properties, only the general categories, `Alphabetic`, `Lowercase`, `Uppercase`,
  `White_Space` and thirteen scripts have tables (`lettersOf?`).  A source with another one is
  refused, such as `\p{Georgian}`, `\p{Emoji}`, `\p{Age=6.0}` or a property of the ends of words and
  sentences.
* `\p{scx=Greek}` means the script itself, without the characters that it shares with others.
* The tables are those of Unicode 15.  Characters that came later are unassigned, belong to no word
  and have no other case.
* There is no limit to the size of a pattern or to the depth of its groups.

No theorem depends on what is matched: they take a pattern as its source and its matches as they
are.
-/

namespace Conform

/-- A pattern: its source and what that spells. -/
structure Pattern where
  source : String
  regex : Pattern.Regex
  ofText?_source : Pattern.Regex.ofText? source = some regex

namespace Pattern

/-- The pattern of a source. -/
def ofSource? (source : String) : Option Pattern :=
  match h : Regex.ofText? source with
  | some r => some ⟨source, r, h⟩
  | none => none

/-- A pattern is its source and nothing more. -/
theorem eq_of_source_eq {p q : Pattern} (h : p.source = q.source) : p = q := by
  obtain ⟨s, r, hr⟩ := p
  obtain ⟨t, u, hu⟩ := q
  subst h
  obtain rfl : r = u := Option.some.inj (hr.symm.trans hu)
  rfl

/-- The source of a pattern spells that pattern. -/
theorem ofSource?_source (p : Pattern) : ofSource? p.source = some p := by
  unfold ofSource?
  split
  · next r h => exact congrArg some (eq_of_source_eq rfl)
  · next h => rw [p.ofText?_source] at h; exact absurd h (by simp)

instance : DecidableEq Pattern := fun p q =>
  if h : p.source = q.source then isTrue (eq_of_source_eq h)
  else isFalse fun e => h (congrArg source e)

/-- Whether some part of the text matches. -/
def isMatch (p : Pattern) (text : String) : Bool :=
  p.regex.search text

/-- The source between slashes. -/
def display (p : Pattern) : String :=
  "/" ++ p.source ++ "/"

end Pattern

end Conform
