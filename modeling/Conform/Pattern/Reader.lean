import Conform.Number.Power
import Conform.Pattern.Regex
import Conform.Text.Digits

/-!
# Reading patterns

The text of a pattern is read once from left to right; open groups wait on a stack. Look-around and
back-references are refused, since a search that never goes back cannot have them.

* `Flags` — the switches that a pattern can set, each for the rest of its group.
* `readBracket?` — a bracketed class; nested classes and set operations are allowed.
* `Regex.ofText?` — the expression of a pattern.

The number that some functions take first bounds their steps. Every step takes a character at least,
so the length of the text is enough.
-/

namespace Conform.Pattern

/-- The switches: ignore case, lines, dot takes line ends, Unicode classes, blanks and comments in
the pattern, carriage returns end lines. -/
structure Flags where
  ignoreCase : Bool := false
  multiLine : Bool := false
  dotAll : Bool := false
  unicode : Bool := true
  verbose : Bool := false
  crlf : Bool := false

namespace Flags

/-- The switches with one set or cleared. The switch for greed has no effect on a search. -/
def set? (f : Flags) (on : Bool) : Char → Option Flags
  | 'i' => some { f with ignoreCase := on }
  | 'm' => some { f with multiLine := on }
  | 's' => some { f with dotAll := on }
  | 'u' => some { f with unicode := on }
  | 'x' => some { f with verbose := on }
  | 'R' => some { f with crlf := on }
  | 'U' => some f
  | _ => none

/-- The class with case ignored, if the switches say so: without Unicode classes that of ASCII
letters alone. -/
def fold (f : Flags) (a : CharClass) : CharClass :=
  if !f.ignoreCase then a
  else if f.unicode then .anyCase a
  else .inter (.anyCase a) CharClass.ascii

/-- Whether a class may hold the character: without Unicode classes one of ASCII only. -/
def admits (f : Flags) (c : Char) : Bool :=
  f.unicode || c.toNat < 128

end Flags

/-! ## Blanks and numbers -/

/-- The text after a comment that runs to the end of its line. -/
def skipComment : List Char → List Char
  | [] => []
  | '\n' :: rest => rest
  | _ :: rest => skipComment rest

/-- The text after blanks and comments. -/
def skipVerbose : (steps : Nat) → List Char → List Char
  | steps + 1, c :: rest =>
    if Text.isBlank c then skipVerbose steps rest
    else if c = '#' then skipVerbose steps (skipComment rest)
    else c :: rest
  | _, cs => cs

/-- The text after blanks and comments, if the pattern may hold them. -/
def skip (f : Flags) (cs : List Char) : List Char :=
  if f.verbose then skipVerbose cs.length cs else cs

/-- A number of a repetition, with blanks around it. -/
def readCount? (cs : List Char) : Option (Nat × List Char) :=
  let cs := Text.trimStart cs
  let ds := cs.takeWhile Text.isDigit
  let n := Nat.ofDigitChars 10 ds 0
  if ds.isEmpty || twoPow 32 ≤ n then none
  else some (n, Text.trimStart (cs.dropWhile Text.isDigit))

/-- The bounds of a counted repetition after its opening brace. -/
def readBounds? (f : Flags) (cs : List Char) : Option ((Nat × Option Nat) × List Char) := do
  let (least, cs) ← readCount? (skip f cs)
  match cs with
  | '\x7d' :: rest => some ((least, some least), rest)
  | ',' :: rest =>
    match skip f rest with
    | '\x7d' :: rest => some ((least, none), rest)
    | rest => do
      let (most, rest) ← readCount? rest
      match rest with
      | '\x7d' :: rest => if least ≤ most then some ((least, some most), rest) else none
      | _ => none
  | _ => none

/-! ## Escapes -/

/-- What an escape or a character stands for. -/
inductive Primary
  | char (c : Char)
  | set (a : CharClass)
  | look (a : Assertion)

/-- The characters that always may be escaped: all of ASCII but letters, digits and angle
brackets. -/
def isEscapable (c : Char) : Bool :=
  c.toNat < 128 && !c.isAlphanum && c != '<' && c != '>'

/-- The value of a hexadecimal digit. -/
def hexValue? (c : Char) : Option Nat :=
  if c.isDigit then some (c.toNat - '0'.toNat)
  else if 'a' ≤ c ∧ c ≤ 'f' then some (c.toNat - 'a'.toNat + 10)
  else if 'A' ≤ c ∧ c ≤ 'F' then some (c.toNat - 'A'.toNat + 10)
  else none

/-- The character with the code point that hexadecimal digits spell. -/
def hexChar? (ds : List Char) : Option Char := do
  let values ← ds.mapM hexValue?
  let n := values.foldl (fun n d => n * 16 + d) 0
  if ds.isEmpty || 0x10ffff < n || (0xd800 ≤ n && n < 0xe000) then none else some (Char.ofNat n)

/-- A code point: digits in braces, or a fixed count of them. -/
def readHex? (f : Flags) (width : Nat) (cs : List Char) : Option (Char × List Char) :=
  match skip f cs with
  | '\x7b' :: rest => do
    let body := rest.takeWhile (· ≠ '\x7d')
    let ds := if f.verbose then body.filter (!Text.isBlank ·) else body
    let c ← hexChar? ds
    match rest.dropWhile (· ≠ '\x7d') with
    | _ :: rest => some (c, rest)
    | [] => none
  | cs =>
    if cs.length < width then none
    else (hexChar? (cs.take width)).map fun c => (c, cs.drop width)

/-- A code point after `\x`. Without Unicode classes two digits mean a byte, and a byte beyond ASCII
is no text. -/
def readByte? (f : Flags) (cs : List Char) : Option (Char × List Char) := do
  let (c, rest) ← readHex? f 2 cs
  let isBraced := (skip f cs).head? == some '\x7b'
  if isBraced || f.admits c then some (c, rest) else none

/-- The class of a property text, and whether it is the complement that is meant. -/
def propertyClass? (body : List Char) : Option (Bool × CharClass) :=
  let name := body.takeWhile fun c => c ≠ '=' ∧ c ≠ ':' ∧ c ≠ '!'
  match body.drop name.length with
  | [] => (CharClass.ofPropertyName? body).map fun a => (false, a)
  | '!' :: '=' :: value => (CharClass.ofPropertyValue? name value).map fun a => (true, a)
  | _ :: value => (CharClass.ofPropertyValue? name value).map fun a => (false, a)

/-- A property class after its letter: one letter, or a name in braces. -/
def readProperty? (f : Flags) (negated : Bool) (cs : List Char) : Option (Primary × List Char) :=
  if !f.unicode then none
  else
    let finish := fun (complement : Bool) (a : CharClass) (rest : List Char) =>
      some (Primary.set (.negateIf (negated != complement) (f.fold a)), rest)
    match skip f cs with
    | '\x7b' :: rest =>
      match propertyClass? (rest.takeWhile (· ≠ '\x7d')), rest.dropWhile (· ≠ '\x7d') with
      | some (complement, a), _ :: rest => finish complement a rest
      | _, _ => none
    | c :: rest =>
      if c = '\\' then none
      else (CharClass.ofCategoryName? (CharClass.normalizeName [c])).bind
        fun a => finish false a rest
    | [] => none

/-- The named boundary in braces after `\b`. A brace that no letter or hyphen follows belongs to
what comes next. -/
def readBoundary? (f : Flags) (cs : List Char) : Option (Assertion × List Char) :=
  let isNameChar := fun (c : Char) => c.isAlpha || c == '-'
  let plain : Option (Assertion × List Char) := some (.wordBoundary !f.unicode, cs)
  match cs with
  | '\x7b' :: rest =>
    match skip f rest with
    | [] => none
    | c :: more =>
      if !isNameChar c then plain
      else
        let name := String.ofList ((c :: more).takeWhile isNameChar)
        match (c :: more).dropWhile isNameChar with
        | '\x7d' :: rest =>
          match name with
          | "start" => some (.wordStart !f.unicode, rest)
          | "end" => some (.wordEnd !f.unicode, rest)
          | "start-half" => some (.wordStartHalf !f.unicode, rest)
          | "end-half" => some (.wordEndHalf !f.unicode, rest)
          | _ => none
        | _ => none
  | _ => plain

/-- The class of a letter for digits, blanks or words; a capital letter means the complement. -/
def letterClass? (f : Flags) (c : Char) : Option CharClass :=
  let pick := fun (named : NamedSet) (ascii : CharClass) =>
    if f.unicode then CharClass.named named else ascii
  match c with
  | 'd' => some (pick .digit CharClass.asciiDigit)
  | 's' => some (pick .blank CharClass.asciiSpace)
  | 'w' => some (pick .word CharClass.asciiWord)
  | 'D' => if f.unicode then some (.compl (.named .digit)) else none
  | 'S' => if f.unicode then some (.compl (.named .blank)) else none
  | 'W' => if f.unicode then some (.compl (.named .word)) else none
  | _ => none

/-- The control character or assertion of a letter. -/
def letterEscape? (f : Flags) : Char → Option Primary
  | 'a' => some (.char '\x07')
  | 'f' => some (.char '\x0c')
  | 't' => some (.char '\t')
  | 'n' => some (.char '\n')
  | 'r' => some (.char '\r')
  | 'v' => some (.char '\x0b')
  | 'A' => some (.look .textStart)
  | 'z' => some (.look .textEnd)
  | 'B' => some (.look (.notWordBoundary !f.unicode))
  | '<' => some (.look (.wordStart !f.unicode))
  | '>' => some (.look (.wordEnd !f.unicode))
  | _ => none

/-- What an escape stands for, after its backslash. -/
def readEscape? (f : Flags) : List Char → Option (Primary × List Char)
  | [] => none
  | 'x' :: rest => (readByte? f rest).map fun (c, rest) => (.char c, rest)
  | 'u' :: rest => (readHex? f 4 rest).map fun (c, rest) => (.char c, rest)
  | 'U' :: rest => (readHex? f 8 rest).map fun (c, rest) => (.char c, rest)
  | 'p' :: rest => readProperty? f false rest
  | 'P' :: rest => readProperty? f true rest
  | 'b' :: rest => (readBoundary? f rest).map fun (a, rest) => (.look a, rest)
  | c :: rest =>
    if isEscapable c then some (.char c, rest)
    else match letterClass? f c with
      | some a => some (.set a, rest)
      | none => (letterEscape? f c).map fun p => (p, rest)

/-! ## Bracketed classes -/

/-- An operation between two parts of a bracketed class. -/
inductive SetOp
  | inter
  | diff
  | symmDiff

/-- The class so far combined with the part that is complete now. -/
def combine (f : Flags) (left : Option (CharClass × SetOp)) (part : CharClass) : CharClass :=
  match left with
  | none => part
  | some (a, op) =>
    let a := f.fold a
    let b := f.fold part
    match op with
    | .inter => .inter a b
    | .diff => .diff a b
    | .symmDiff => .symmDiff a b

/-- One item of a class: a character or an escape. -/
def readItem? (f : Flags) (cs : List Char) : Option (Primary × List Char) :=
  let item? := match cs with
    | [] => none
    | '\\' :: rest => readEscape? f rest
    | c :: rest => some (.char c, rest)
  match item? with
  | some (.char c, rest) => if f.admits c then some (.char c, rest) else none
  | item? => item?

/-- A range, or an item alone. A hyphen before the closing bracket or another hyphen makes none. -/
def readRange? (f : Flags) (cs : List Char) : Option (CharClass × List Char) := do
  let (first, rest) ← readItem? f cs
  let alone : Option (CharClass × List Char) := match first with
    | .char c => some (CharClass.single c, skip f rest)
    | .set a => some (a, skip f rest)
    | .look _ => none
  match skip f rest with
  | '-' :: more =>
    match skip f more with
    | ']' :: _ => alone
    | '-' :: _ => alone
    | more => do
      let (last, rest) ← readItem? f more
      match first, last with
      | .char a, .char b =>
        if a.toNat ≤ b.toNat then some (.range a.toNat b.toNat, rest) else none
      | _, _ => none
  | [] => none
  | _ => alone

/-- A class written `[:name:]` or `[:^name:]`, after its bracket. -/
def readAsciiName? (f : Flags) : List Char → Option (CharClass × List Char)
  | ':' :: cs =>
    let (negated, cs) := match cs with
      | '^' :: rest => (true, rest)
      | cs => (false, cs)
    match cs.dropWhile (· ≠ ':') with
    | ':' :: ']' :: rest =>
      (CharClass.ofAsciiName? (String.ofList (cs.takeWhile (· ≠ ':')))).map fun a =>
        (.negateIf negated (f.fold a), rest)
    | _ => none
  | _ => none

/-- The literal hyphens at the start of a class. -/
def readHyphens (f : Flags) : (steps : Nat) → CharClass → List Char → CharClass × List Char
  | steps + 1, a, '-' :: rest => readHyphens f steps (.union a (CharClass.single '-')) (skip f rest)
  | _, a, cs => (a, cs)

/-- The start of a class after its bracket: whether it is negated, and the hyphens or the closing
bracket that stand for themselves there. -/
def openBracket (f : Flags) (cs : List Char) : Bool × CharClass × List Char :=
  let (negated, cs) := match skip f cs with
    | '^' :: rest => (true, skip f rest)
    | cs => (false, cs)
  match cs with
  | ']' :: rest => (negated, CharClass.single ']', skip f rest)
  | cs =>
    let (a, cs) := readHyphens f cs.length .none cs
    (negated, a, cs)

/-- A bracketed class after its start, up to and with its closing bracket. Classes that were open
around it wait on the stack: the part so far, the operation before it, and whether the class is
negated. -/
def readBracket? (f : Flags) : (steps : Nat) →
    List (CharClass × Option (CharClass × SetOp) × Bool) → (negated : Bool) →
    Option (CharClass × SetOp) → CharClass → List Char → Option (CharClass × List Char)
  | 0, _, _, _, _, _ => none
  | steps + 1, stack, negated, left, part, cs =>
    let operate := fun (op : SetOp) (rest : List Char) =>
      readBracket? f steps stack negated (some (combine f left part, op)) .none rest
    match skip f cs with
    | [] => none
    | ']' :: rest =>
      let whole := CharClass.negateIf negated (f.fold (combine f left part))
      if negated && !f.unicode then none
      else match stack with
        | [] => some (whole, rest)
        | (outer, outerLeft, outerNegated) :: stack =>
          readBracket? f steps stack outerNegated outerLeft (.union outer whole) rest
    | '[' :: rest =>
      match readAsciiName? f rest with
      | some (a, rest) =>
        if !f.unicode && a.holds 0x80 then none
        else readBracket? f steps stack negated left (.union part a) rest
      | none =>
        let (innerNegated, a, rest) := openBracket f rest
        readBracket? f steps ((part, left, negated) :: stack) innerNegated none a rest
    | '&' :: '&' :: rest => operate .inter rest
    | '-' :: '-' :: rest => operate .diff rest
    | '~' :: '~' :: rest => operate .symmDiff rest
    | cs =>
      match readRange? f cs with
      | some (a, rest) => readBracket? f steps stack negated left (.union part a) rest
      | none => none

/-! ## Groups -/

/-- The switches of a group head after its question mark, up to `)` or `:`. -/
def readFlags? (f : Flags) (seen : List Char) (on : Bool) (dangling : Bool) :
    List Char → Option (Flags × Char × Bool × List Char)
  | [] => none
  | c :: rest =>
    if c = ')' ∨ c = ':' then
      if dangling then none else some (f, c, seen.isEmpty, rest)
    else if c = '-' then
      if on then readFlags? f ('-' :: seen) false true rest else none
    else if seen.contains c then none
    else (f.set? on c).bind fun f => readFlags? f (c :: seen) on false rest

/-- Whether the character may stand in the name of a group. -/
def isNameChar (first : Bool) (c : Char) : Bool :=
  let n := c.toNat
  let alphabetic := Text.inRanges ((lettersOf? "alphabetic").getD #[]) n
  let numeric := (CharClass.categories ["nd", "nl", "no"]).holds n
  if first then c = '_' || alphabetic
  else c = '_' || c = '.' || c = '[' || c = ']' || alphabetic || numeric

/-- A group name up to its closing angle bracket. -/
def readName? (cs : List Char) : Option (List Char × List Char) :=
  let name := cs.takeWhile (· ≠ '>')
  match name, cs.dropWhile (· ≠ '>') with
  | c :: more, _ :: rest =>
    if isNameChar true c && more.all (isNameChar false) then some (name, rest) else none
  | _, _ => none

/-- What an opening parenthesis starts. -/
inductive GroupHead
  | group (f : Flags) (name : Option (List Char))
  | flags (f : Flags)

/-- The head of a group after its parenthesis. -/
def readHead? (f : Flags) (cs : List Char) : Option (GroupHead × List Char) :=
  match cs with
  | '?' :: 'P' :: '<' :: rest => (readName? rest).map fun (n, rest) => (.group f (some n), rest)
  | '?' :: '<' :: rest =>
    match rest with
    | '=' :: _ => none
    | '!' :: _ => none
    | rest => (readName? rest).map fun (n, rest) => (.group f (some n), rest)
  | '?' :: rest => do
    let (g, closing, isEmpty, rest) ← readFlags? f [] true false rest
    if closing = ':' then some (.group g none, rest)
    else if isEmpty then none
    else some (.flags g, rest)
  | cs => some (.group f none, cs)

/-! ## Expressions -/

/-- A group that is being read: its finished alternatives, the current one in reverse, the switches,
and whether the last expression may be repeated. -/
structure Group where
  alternatives : List Regex
  current : List Regex
  flags : Flags
  repeatable : Bool

namespace Group

/-- A group with nothing read yet. -/
def start (f : Flags) : Group :=
  ⟨[], [], f, false⟩

/-- The expressions of a row, one after the other. -/
def row : List Regex → Regex
  | [] => .empty
  | [r] => r
  | r :: rest => .seq r (row rest)

/-- The group with one expression more. -/
def push (g : Group) (r : Regex) : Group :=
  { g with current := r :: g.current, repeatable := true }

/-- The group with its current alternative finished. -/
def bar (g : Group) : Group :=
  { g with
    alternatives := row g.current.reverse :: g.alternatives
    current := []
    repeatable := false }

/-- The expression of a complete group. -/
def toRegex (g : Group) : Regex :=
  g.alternatives.foldl (fun r a => .alt a r) (row g.current.reverse)

/-- The group with its last expression repeated. -/
def repeat? (g : Group) (least : Nat) (most : Option Nat) : Option Group :=
  match g.repeatable, g.current with
  | true, r :: rest => some { g with current := .repeat r least most :: rest }
  | _, _ => none

end Group

/-- The expression of a character, with the switches in force. -/
def charRegex (f : Flags) (c : Char) : Regex :=
  .chars (if f.admits c then f.fold (CharClass.single c) else CharClass.single c)

/-- The dot: any character but the ends of lines, or any at all. -/
def dotRegex? (f : Flags) : Option Regex :=
  if !f.unicode then none
  else if f.dotAll then some (.chars CharClass.every)
  else if f.crlf then
    some (.chars (.compl (.union (CharClass.single '\n') (CharClass.single '\r'))))
  else some (.chars (.compl (CharClass.single '\n')))

/-- The assertion of a caret. -/
def caret (f : Flags) : Assertion :=
  if !f.multiLine then .textStart else if f.crlf then .lineStartCrlf else .lineStart

/-- The assertion of a dollar sign. -/
def dollar (f : Flags) : Assertion :=
  if !f.multiLine then .textEnd else if f.crlf then .lineEndCrlf else .lineEnd

/-- The expression of an escape. -/
def primaryRegex (f : Flags) : Primary → Regex
  | .char c => charRegex f c
  | .set a => .chars a
  | .look a => .look a

/-- The text after the mark of a lazy repetition. Which match is found first makes no difference to
whether there is one. -/
def skipLazy : List Char → List Char
  | '?' :: rest => rest
  | cs => cs

/-- Reads the rest of a pattern: the group being read, the groups open around it, and the names
already given. -/
def read? : (steps : Nat) → Group → List Group → List (List Char) → List Char → Option Regex
  | 0, _, _, _, _ => none
  | steps + 1, g, stack, names, cs =>
    let repeated := fun (least : Nat) (most : Option Nat) (rest : List Char) =>
      (g.repeat? least most).bind fun g => read? steps g stack names (skipLazy rest)
    match skip g.flags cs with
    | [] => if stack.isEmpty then some g.toRegex else none
    | '(' :: rest =>
      match readHead? g.flags rest with
      | none => none
      | some (.flags f, rest) =>
        read? steps { g with flags := f, repeatable := false } stack names rest
      | some (.group f name, rest) =>
        match name with
        | some n =>
          if names.contains n then none
          else read? steps (Group.start f) (g :: stack) (n :: names) rest
        | none => read? steps (Group.start f) (g :: stack) names rest
    | ')' :: rest =>
      match stack with
      | [] => none
      | outer :: stack => read? steps (outer.push g.toRegex) stack names rest
    | '|' :: rest => read? steps g.bar stack names rest
    | '[' :: rest =>
      let (negated, a, rest) := openBracket g.flags rest
      match readBracket? g.flags (rest.length + 1) [] negated none a rest with
      | some (a, rest) => read? steps (g.push (.chars a)) stack names rest
      | none => none
    | '?' :: rest => repeated 0 (some 1) rest
    | '*' :: rest => repeated 0 none rest
    | '+' :: rest => repeated 1 none rest
    | '\x7b' :: rest =>
      match readBounds? g.flags rest with
      | some ((least, most), rest) => repeated least most rest
      | none => none
    | '\\' :: rest =>
      match readEscape? g.flags rest with
      | some (p, rest) => read? steps (g.push (primaryRegex g.flags p)) stack names rest
      | none => none
    | '.' :: rest =>
      match dotRegex? g.flags with
      | some r => read? steps (g.push r) stack names rest
      | none => none
    | '^' :: rest => read? steps (g.push (.look (caret g.flags))) stack names rest
    | '$' :: rest => read? steps (g.push (.look (dollar g.flags))) stack names rest
    | c :: rest => read? steps (g.push (charRegex g.flags c)) stack names rest

/-- The expression of a pattern. -/
def Regex.ofText? (source : String) : Option Regex :=
  let cs := source.toList
  read? (cs.length + 1) (Group.start ⟨false, false, false, true, false, false⟩) [] [] cs

end Conform.Pattern
