import Conform.Json

/-!
# Reading JSON

A text is cut into tokens, and the tokens drive a machine with a stack of open arrays and objects.
Both go through their list once.

* `Json.ofNumberText?` — the number that a text spells. Integers of 64 bits are exact. Any other
  number keeps the leading digits that fit 64 bits and is scaled in binary64 arithmetic.
* `Json.scan` — the tokens of a text.
* `Json.ofTokens?` — the document of a row of tokens, arrays and objects nested up to a limit.
* `Json.ofText?` — both steps, with the usual limit.
-/

namespace Conform.Json

/-! ## Numbers -/

/-- The leading digits that extend `n` within 64 bits: the number reached, and how many they are. -/
def absorb (n : Nat) : List Char → Nat × Nat
  | [] => (n, 0)
  | d :: ds =>
    let next := n * 10 + (d.toNat - '0'.toNat)
    if next < twoPow 64 then
      let (m, count) := absorb next ds
      (m, count + 1)
    else (n, 0)

/-- The binary64 number nearest to `10 ^ k`. -/
def powerOfTen (k : Nat) : Binary64 :=
  Binary64.ofDecimal false 1 k

/-- The number divided by `10 ^ k`, in steps of at most `10 ^ 308`. -/
def scaleDown (x : Binary64) (k : Nat) : Binary64 :=
  if k ≤ 308 then x.div (powerOfTen k)
  else if x = Binary64.zero false then x
  else scaleDown (x.div (powerOfTen 308)) (k - 308)
termination_by k

/-- The number `n · 10 ^ exponent` in binary64 arithmetic, unless it is too large. -/
def scaled? (n : Nat) (exponent : Int) : Option Binary64 :=
  if n = 0 then some (Binary64.zero false)
  else if exponent < 0 then some (scaleDown (Binary64.ofNat n) exponent.natAbs)
  else if exponent ≤ 308 then
    let x := (Binary64.ofNat n).mul (powerOfTen exponent.toNat)
    if x.isFinite then some x else none
  else none

/-- Splits off the digits of a fraction; a point must be followed by a digit. -/
def splitFraction? : List Char → Option (List Char × List Char)
  | '.' :: rest =>
    let ds := rest.takeWhile Text.isDigit
    if ds.isEmpty then none else some (ds, rest.dropWhile Text.isDigit)
  | cs => some ([], cs)

/-- A magnitude with a fraction or an exponent, or too many digits for an integer. -/
def ofParts? (negative : Bool) (whole fraction : List Char) (exponent : Int) : Option Json :=
  let (n, count) := absorb 0 whole
  let (m, places) := absorb n fraction
  (scaled? m (exponent + (whole.length - count : Nat) - places)).map fun x =>
    .float (if negative then x.neg else x)

/-- An integer, as long as it fits 64 bits; the others, and minus zero, are binary64 numbers. -/
def ofInteger? (negative : Bool) (whole : List Char) : Option Json :=
  let n := Nat.ofDigitChars 10 whole 0
  if negative then
    if 0 < n ∧ n ≤ twoPow 63 then some (.integer (-n)) else ofParts? true whole [] 0
  else if n < twoPow 64 then some (.integer n)
  else ofParts? false whole [] 0

/-- The number that the text spells: a minus or none, digits without a leading zero, perhaps a
fraction, perhaps an exponent. -/
def ofNumberText? (cs : List Char) : Option Json := do
  let (negative, cs) := match cs with
    | '-' :: rest => (true, rest)
    | cs => (false, cs)
  let whole := cs.takeWhile Text.isDigit
  if whole.isEmpty || (whole.head? == some '0' && whole.length != 1) then none
  else
    let (fraction, rest) ← splitFraction? (cs.dropWhile Text.isDigit)
    if fraction.isEmpty && rest.isEmpty then ofInteger? negative whole
    else
      let exponent ← Binary64.readExponent? rest
      ofParts? negative whole fraction exponent

/-! ## Tokens -/

/-- A token: punctuation, or a document that is no array or object. -/
inductive Token
  | openArray
  | closeArray
  | openObject
  | closeObject
  | comma
  | colon
  | scalar (j : Json)

/-- The tokens of a character that may stand between others: none for a blank. -/
def delimiter? (c : Char) : Option (List Token) :=
  if c = ' ' ∨ c = '\n' ∨ c = '\t' ∨ c = '\r' then some []
  else if c = ',' then some [.comma]
  else if c = ':' then some [.colon]
  else if c = '[' then some [.openArray]
  else if c = ']' then some [.closeArray]
  else if c = '\x7b' then some [.openObject]
  else if c = '\x7d' then some [.closeObject]
  else none

/-- The characters of number texts. -/
def isNumberChar (c : Char) : Bool :=
  Text.isDigit c || c = '-' || c = '+' || c = '.' || c = 'e' || c = 'E'

/-- The value of a hexadecimal digit. -/
def hexDigit? (c : Char) : Option Nat :=
  if Text.isDigit c then some (c.toNat - '0'.toNat)
  else if 'a' ≤ c ∧ c ≤ 'f' then some (c.toNat - 'a'.toNat + 10)
  else if 'A' ≤ c ∧ c ≤ 'F' then some (c.toNat - 'A'.toNat + 10)
  else none

/-- The number of four hexadecimal digits. -/
def hex4? (a b c d : Char) : Option Nat := do
  let a ← hexDigit? a
  let b ← hexDigit? b
  let c ← hexDigit? c
  let d ← hexDigit? d
  pure (((a * 16 + b) * 16 + c) * 16 + d)

/-- The character of a short escape. -/
def escaped? (c : Char) : Option Char :=
  if c = '"' ∨ c = '\\' ∨ c = '/' then some c
  else if c = 'b' then some '\x08'
  else if c = 'f' then some '\x0c'
  else if c = 'n' then some '\n'
  else if c = 'r' then some '\r'
  else if c = 't' then some '\t'
  else none

/-- What an escape by code unit amounts to: a leading surrogate waits for the trailing one, and only
a leading one may precede a trailing one. -/
def unit? (high : Option Nat) (n : Nat) : Option (Nat ⊕ Char) :=
  match high with
  | some h =>
    if 0xdc00 ≤ n ∧ n < 0xe000 then
      some (.inr (Char.ofNat (0x10000 + (h - 0xd800) * 0x400 + (n - 0xdc00))))
    else none
  | none =>
    if 0xd800 ≤ n ∧ n < 0xdc00 then some (.inl n)
    else if 0xdc00 ≤ n ∧ n < 0xe000 then none
    else some (.inr (Char.ofNat n))

mutual

/-- The tokens of a text. -/
def scan : List Char → Option (List Token)
  | [] => some []
  | '"' :: rest => scanString none [] rest
  | 'n' :: 'u' :: 'l' :: 'l' :: rest => (scan rest).map (.scalar .null :: ·)
  | 't' :: 'r' :: 'u' :: 'e' :: rest => (scan rest).map (.scalar (.bool true) :: ·)
  | 'f' :: 'a' :: 'l' :: 's' :: 'e' :: rest => (scan rest).map (.scalar (.bool false) :: ·)
  | c :: rest =>
    match delimiter? c with
    | some tokens => (scan rest).map (tokens ++ ·)
    | none => if isNumberChar c then scanNumber [c] rest else none

/-- The tokens of a text that starts within a string: the characters so far in reverse, and the
leading surrogate just read if there is one. -/
def scanString (high : Option Nat) (read : List Char) : List Char → Option (List Token)
  | [] => none
  | '\\' :: 'u' :: a :: b :: c :: d :: rest =>
    match (hex4? a b c d).bind (unit? high) with
    | some (.inl n) => scanString (some n) read rest
    | some (.inr x) => scanString none (x :: read) rest
    | none => none
  | '\\' :: c :: rest =>
    match high, escaped? c with
    | none, some x => scanString none (x :: read) rest
    | _, _ => none
  | c :: rest =>
    if high.isSome then none
    else if c = '"' then
      (scan rest).map (.scalar (.string (String.ofList read.reverse)) :: ·)
    else if c.toNat < 32 ∨ c = '\\' then none
    else scanString none (c :: read) rest

/-- The tokens of a text that starts within a number, its characters so far in reverse. -/
def scanNumber (read : List Char) : List Char → Option (List Token)
  | [] => (ofNumberText? read.reverse).map fun j => [.scalar j]
  | c :: rest =>
    if isNumberChar c then scanNumber (c :: read) rest
    else
      match ofNumberText? read.reverse, delimiter? c with
      | some j, some tokens => (scan rest).map fun more => .scalar j :: (tokens ++ more)
      | _, _ => none

end

-- the equations of `scan` are derived here, once for all proofs that open it
attribute [grind =] scan

/-! ## Documents -/

/-- An array or object that is being read around the current value: the items so far, or the fields
so far and the name of the value, the latest first. -/
inductive Frame
  | items (done : List Json)
  | fields (done : List (String × Json)) (name : String)

/-- What may come next, with the open arrays and objects around it, the innermost first. -/
inductive Expecting
  | value (stack : List Frame)
  | itemOrClose (stack : List Frame)
  | nameOrClose (stack : List Frame)
  | name (done : List (String × Json)) (stack : List Frame)
  | colon (done : List (String × Json)) (name : String) (stack : List Frame)
  | afterItem (done : List Json) (stack : List Frame)
  | afterField (done : List (String × Json)) (stack : List Frame)
  | nothing (document : Json)

/-- What may come after a value. -/
def finish (j : Json) : List Frame → Expecting
  | [] => .nothing j
  | .items done :: stack => .afterItem (j :: done) stack
  | .fields done name :: stack => .afterField ((name, j) :: done) stack

/-- What may come after the token that starts a value. An array or object inside as many others as
the limit allows is refused. -/
def begin? (limit : Nat) (stack : List Frame) : Token → Option Expecting
  | .scalar j => some (finish j stack)
  | .openArray => if stack.length < limit then some (.itemOrClose stack) else none
  | .openObject => if stack.length < limit then some (.nameOrClose stack) else none
  | _ => none

/-- One token. -/
def step? (limit : Nat) : Expecting → Token → Option Expecting
  | .value stack, t => begin? limit stack t
  | .itemOrClose stack, .closeArray => some (finish (.array []) stack)
  | .itemOrClose stack, t => begin? limit (.items [] :: stack) t
  | .afterItem done stack, .comma => some (.value (.items done :: stack))
  | .afterItem done stack, .closeArray => some (finish (.array done.reverse) stack)
  | .nameOrClose stack, .closeObject => some (finish (.object []) stack)
  | .nameOrClose stack, .scalar (.string name) => some (.colon [] name stack)
  | .name done stack, .scalar (.string name) => some (.colon done name stack)
  | .colon done name stack, .colon => some (.value (.fields done name :: stack))
  | .afterField done stack, .comma => some (.name done stack)
  | .afterField done stack, .closeObject => some (finish (.object done.reverse) stack)
  | _, _ => none

/-- All tokens, one after the other. -/
def run? (limit : Nat) : Expecting → List Token → Option Expecting
  | e, [] => some e
  | e, t :: ts => (step? limit e t).bind fun e => run? limit e ts

/-- The document of a row of tokens. -/
def ofTokens? (limit : Nat) (tokens : List Token) : Option Json :=
  match run? limit (.value []) tokens with
  | some (.nothing j) => some j
  | _ => none

/-- How deep arrays and objects may be nested. -/
def maxDepth : Nat := 127

/-- The document of a text. -/
def ofText? (text : String) : Option Json :=
  (scan text.toList).bind (ofTokens? maxDepth)

end Conform.Json
