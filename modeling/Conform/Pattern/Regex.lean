import Conform.Pattern.CharClass

/-!
# Regular expressions

Expressions with assertions about the place they stand at, and the search for a match.

* `Regex` — the expressions.
* `Place` — the characters on both sides of a place in a text.
* `Regex.isNullable` — whether an expression matches nothing at a place.
* `Regex.advance` — what is left to match after one character; the partial derivatives.
* `Regex.search` — whether some part of a text matches.
-/

namespace Conform.Pattern

/-- A condition on a place, which takes no character. -/
inductive Assertion
  | textStart
  | textEnd
  | lineStart
  | lineEnd
  | lineStartCrlf
  | lineEndCrlf
  | wordBoundary (ascii : Bool)
  | notWordBoundary (ascii : Bool)
  | wordStart (ascii : Bool)
  | wordEnd (ascii : Bool)
  | wordStartHalf (ascii : Bool)
  | wordEndHalf (ascii : Bool)
  deriving DecidableEq, Repr

/-- An expression. A repetition without an upper bound may go on forever. -/
inductive Regex
  | empty
  | chars (set : CharClass)
  | look (a : Assertion)
  | seq (first second : Regex)
  | alt (left right : Regex)
  | repeat (body : Regex) (least : Nat) (most : Option Nat)
  deriving DecidableEq, Repr, Inhabited

/-- A place in a text: the characters before and after it. -/
structure Place where
  before : Option Char
  after : Option Char

namespace Place

/-- Whether a neighbour belongs to a word; in ASCII alone if asked. -/
def isWord (ascii : Bool) : Option Char → Bool
  | none => false
  | some c => if ascii then CharClass.asciiWord.holds c.toNat else isWordChar c

/-- Whether the assertion holds at the place. -/
def satisfies (p : Place) : Assertion → Bool
  | .textStart => p.before.isNone
  | .textEnd => p.after.isNone
  | .lineStart => p.before.isNone || p.before == some '\n'
  | .lineEnd => p.after.isNone || p.after == some '\n'
  | .lineStartCrlf => p.before.isNone || p.before == some '\n' ||
      (p.before == some '\r' && p.after != some '\n')
  | .lineEndCrlf => p.after.isNone || p.after == some '\r' ||
      (p.after == some '\n' && p.before != some '\r')
  | .wordBoundary ascii => isWord ascii p.before != isWord ascii p.after
  | .notWordBoundary ascii => isWord ascii p.before == isWord ascii p.after
  | .wordStart ascii => !isWord ascii p.before && isWord ascii p.after
  | .wordEnd ascii => isWord ascii p.before && !isWord ascii p.after
  | .wordStartHalf ascii => !isWord ascii p.before
  | .wordEndHalf ascii => !isWord ascii p.after

end Place

namespace Regex

/-- Whether the expression matches the empty text at the place. -/
def isNullable (p : Place) : Regex → Bool
  | .empty => true
  | .chars _ => false
  | .look a => p.satisfies a
  | .seq a b => a.isNullable p && b.isNullable p
  | .alt a b => a.isNullable p || b.isNullable p
  | .repeat a least _ => least == 0 || a.isNullable p

/-- The bounds that are left of a repetition after `count` rounds and one more; none if that exceeds
the upper bound. -/
def remaining (least : Nat) (most : Option Nat) (count : Nat) : Option (Nat × Option Nat) :=
  match most with
  | none => some (least - (count + 1), none)
  | some m => if count < m then some (least - (count + 1), some (m - (count + 1))) else none

/-- What may be left to match after the character `c` at a place, when the expression is followed by
`rest`: a list of alternatives, each a row of expressions. Rounds of a repetition before the one
that takes the character match nothing. -/
def advance (p : Place) (c : Char) : Regex → List Regex → List (List Regex)
  | .empty, _ => []
  | .chars set, rest => if set.holds c.toNat then [rest] else []
  | .look _, _ => []
  | .seq a b, rest =>
    a.advance p c (b :: rest) ++ if a.isNullable p then b.advance p c rest else []
  | .alt a b, rest => a.advance p c rest ++ b.advance p c rest
  | .repeat a least most, rest =>
    let skips := if a.isNullable p then List.range (least + 1) else [0]
    skips.flatMap fun count =>
      match remaining least most count with
      | some (l, m) => a.advance p c (.repeat a l m :: rest)
      | none => []

/-- What may be left of a row of expressions after the character. -/
def advanceRow (p : Place) (c : Char) : List Regex → List (List Regex)
  | [] => []
  | r :: rest => r.advance p c rest ++ if r.isNullable p then advanceRow p c rest else []

/-- Whether one of the alternatives matches nothing at the place. -/
def accepts (p : Place) (rows : List (List Regex)) : Bool :=
  rows.any fun row => row.all (·.isNullable p)

/-- Whether a match ends at some place from here on: the rows are what may be left of matches that
began before, and a new match may begin at every place. -/
def searchFrom (r : Regex) (before : Option Char) (rows : List (List Regex)) : List Char → Bool
  | [] => accepts ⟨before, none⟩ ([r] :: rows)
  | c :: cs =>
    let place : Place := ⟨before, some c⟩
    let rows := [r] :: rows
    accepts place rows ||
      searchFrom r (some c) ((rows.flatMap (advanceRow place c)).eraseDups) cs

/-- Whether some part of the text matches. -/
def search (r : Regex) (text : String) : Bool :=
  searchFrom r none [] text.toList

end Regex

end Conform.Pattern
