import Conform.Pattern.Category
import Conform.Pattern.Fold
import Conform.Pattern.Letters
import Conform.Text.Blank

/-!
# Character classes

Sets of characters as patterns describe them, kept as written rather than as ranges.

* `CharClass` — the descriptions; `CharClass.holds` — which characters they mean.
* `isWordChar` — the class that word boundaries go by.
* `ofAsciiName?`, `ofPropertyName?` — the classes that have names.
-/

namespace Conform.Pattern

/-- A set of characters with a name in the standard. -/
inductive NamedSet
  | word
  | digit
  | blank
  | category (name : String)
  | letters (name : String)
  deriving DecidableEq, Repr

/-- A set of characters. -/
inductive CharClass
  | none
  | range (first last : Nat)
  | named (set : NamedSet)
  | union (a b : CharClass)
  | inter (a b : CharClass)
  | diff (a b : CharClass)
  | compl (a : CharClass)
  | anyCase (a : CharClass)
  deriving DecidableEq, Repr, Inhabited

/-- Whether a named set holds the code point. -/
def NamedSet.holds : NamedSet → Nat → Bool
  | .word, n => Text.inRanges wordRanges n
  | .digit, n => Text.inRanges ((category? "nd").getD #[]) n
  | .blank, n => Text.isBlank (Char.ofNat n)
  | .category name, n => Text.inRanges ((category? name).getD #[]) n
  | .letters name, n => Text.inRanges ((lettersOf? name).getD #[]) n

namespace CharClass

/-- Whether the class holds the code point. With `anyCase` a character belongs as soon as one that
differs from it in case alone does. -/
def holds : CharClass → Nat → Bool
  | .none, _ => false
  | .range first last, n => first ≤ n && n ≤ last
  | .named set, n => set.holds n
  | .union a b, n => a.holds n || b.holds n
  | .inter a b, n => a.holds n && b.holds n
  | .diff a b, n => a.holds n && !b.holds n
  | .compl a, n => !a.holds n
  | .anyCase a, n => (n :: orbit n).any a.holds

/-- One character. -/
def single (c : Char) : CharClass :=
  .range c.toNat c.toNat

/-- The characters of either class that are not of both. -/
def symmDiff (a b : CharClass) : CharClass :=
  .union (.diff a b) (.diff b a)

/-- The union of several classes. -/
def anyOf : List CharClass → CharClass
  | [] => .none
  | [a] => a
  | a :: rest => .union a (anyOf rest)

/-- The class, or its complement. -/
def negateIf (negated : Bool) (a : CharClass) : CharClass :=
  if negated then .compl a else a

/-- Every character. -/
def every : CharClass := .range 0 0x10ffff

/-- The characters of ASCII. -/
def ascii : CharClass := .range 0 0x7f

/-! ## Named classes -/

/-- The ASCII digits. -/
def asciiDigit : CharClass := .range 0x30 0x39

/-- The ASCII letters. -/
def asciiAlpha : CharClass := .union (.range 0x41 0x5a) (.range 0x61 0x7a)

/-- The ASCII characters of words. -/
def asciiWord : CharClass := anyOf [asciiAlpha, asciiDigit, .range 0x5f 0x5f]

/-- The ASCII blanks. -/
def asciiSpace : CharClass := .union (.range 0x09 0x0d) (.range 0x20 0x20)

/-- The classes written `[:name:]`. -/
def ofAsciiName? : String → Option CharClass
  | "alnum" => some (.union asciiAlpha asciiDigit)
  | "alpha" => some asciiAlpha
  | "ascii" => some (.range 0 0x7f)
  | "blank" => some (.union (.range 0x09 0x09) (.range 0x20 0x20))
  | "cntrl" => some (.union (.range 0 0x1f) (.range 0x7f 0x7f))
  | "digit" => some asciiDigit
  | "graph" => some (.range 0x21 0x7e)
  | "lower" => some (.range 0x61 0x7a)
  | "print" => some (.range 0x20 0x7e)
  | "punct" => some (anyOf [.range 0x21 0x2f, .range 0x3a 0x40, .range 0x5b 0x60, .range 0x7b 0x7e])
  | "space" => some asciiSpace
  | "upper" => some (.range 0x41 0x5a)
  | "word" => some asciiWord
  | "xdigit" => some (anyOf [asciiDigit, .range 0x41 0x46, .range 0x61 0x66])
  | _ => Option.none

/-- The union of some categories. -/
def categories (letters : List String) : CharClass :=
  anyOf (letters.map fun l => .named (.category l))

/-- The categories that a general category name stands for. -/
def categoryNames? : String → Option (List String)
  | "l" | "letter" => some ["lu", "ll", "lt", "lm", "lo"]
  | "lc" | "casedletter" => some ["lu", "ll", "lt"]
  | "m" | "mark" | "combiningmark" => some ["mn", "mc", "me"]
  | "n" | "number" => some ["nd", "nl", "no"]
  | "p" | "punctuation" | "punct" => some ["pc", "pd", "ps", "pe", "pi", "pf", "po"]
  | "s" | "symbol" => some ["sm", "sc", "sk", "so"]
  | "z" | "separator" => some ["zs", "zl", "zp"]
  | "uppercaseletter" => some ["lu"]
  | "lowercaseletter" => some ["ll"]
  | "titlecaseletter" => some ["lt"]
  | "modifierletter" => some ["lm"]
  | "otherletter" => some ["lo"]
  | "nonspacingmark" => some ["mn"]
  | "spacingmark" => some ["mc"]
  | "enclosingmark" => some ["me"]
  | "decimalnumber" | "digit" => some ["nd"]
  | "letternumber" => some ["nl"]
  | "othernumber" => some ["no"]
  | "connectorpunctuation" => some ["pc"]
  | "dashpunctuation" => some ["pd"]
  | "openpunctuation" => some ["ps"]
  | "closepunctuation" => some ["pe"]
  | "initialpunctuation" => some ["pi"]
  | "finalpunctuation" => some ["pf"]
  | "otherpunctuation" => some ["po"]
  | "mathsymbol" => some ["sm"]
  | "currencysymbol" => some ["sc"]
  | "modifiersymbol" => some ["sk"]
  | "othersymbol" => some ["so"]
  | "spaceseparator" => some ["zs"]
  | "lineseparator" => some ["zl"]
  | "paragraphseparator" => some ["zp"]
  | "control" | "cntrl" => some ["cc"]
  | "format" => some ["cf"]
  | "privateuse" => some ["co"]
  | name => if (category? name).isSome then some [name] else Option.none

/-- All assigned categories. -/
def assigned : CharClass :=
  categories ["lu", "ll", "lt", "lm", "lo", "mn", "mc", "me", "nd", "nl", "no", "pc", "pd", "ps",
    "pe", "pi", "pf", "po", "sm", "sc", "sk", "so", "zs", "zl", "zp", "cc", "cf", "co"]

/-- The class of a general category. -/
def ofCategoryName? (name : String) : Option CharClass :=
  match name with
  | "any" => some every
  | "ascii" => some (.range 0 0x7f)
  | "assigned" => some assigned
  | "cn" | "unassigned" => some (.compl assigned)
  | "c" | "other" => some (.union (.compl assigned) (categories ["cc", "cf", "co"]))
  | name => (categoryNames? name).map categories

/-- The class of a property that has letters or scripts for a table. -/
def ofLetters? (name : String) : Option CharClass :=
  if (lettersOf? name).isSome then some (.named (.letters name)) else Option.none

/-- The short names of properties. -/
def longName : String → String
  | "alpha" => "alphabetic"
  | "lower" => "lowercase"
  | "upper" => "uppercase"
  | name => name

/-- A property name without regard to case, blanks, hyphens and underscores, and to `is` in
front. -/
def normalizeName (cs : List Char) : String :=
  let bare := fun (cs : List Char) => cs.filter fun c => c ≠ '_' ∧ c ≠ '-' ∧ c ≠ ' '
  match cs.map Char.toLower with
  | 'i' :: 's' :: rest => if bare rest = ['c'] then "isc" else String.ofList (bare rest)
  | cs => String.ofList (bare cs)

/-- The class that a property name stands for. -/
def ofPropertyName? (cs : List Char) : Option CharClass :=
  let name := normalizeName cs
  match name with
  | "whitespace" | "wspace" | "space" => some (.named .blank)
  | name => (ofCategoryName? name).orElse fun _ => ofLetters? (longName name)

/-- The class of a property name with a value. -/
def ofPropertyValue? (property value : List Char) : Option CharClass :=
  match normalizeName property with
  | "generalcategory" | "gc" => ofCategoryName? (normalizeName value)
  | "script" | "sc" | "scriptextensions" | "scx" => ofLetters? (normalizeName value)
  | _ => Option.none

end CharClass

/-- Whether the character belongs to a word. -/
def isWordChar (c : Char) : Bool :=
  NamedSet.word.holds c.toNat

end Conform.Pattern
