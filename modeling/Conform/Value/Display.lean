import Conform.Text.Quoted
import Conform.Value

/-!
# Display of values

The one-line text of a value in messages.

* `Value.display` — strings are quoted, symbols carry a colon, hashes display `key=>value`.
-/

namespace Conform.Value

/-- Texts joined with a comma and a space between. -/
def commaJoin (parts : List String) : String :=
  String.intercalate ", " parts

mutual

/-- The text of a value. -/
def display : Value → String
  | .nil => "nil"
  | .bool b => if b then "true" else "false"
  | .number n => String.ofList n.text
  | .symbol s => ":" ++ s
  | .string s => Text.quote s
  | .date d => String.ofList d.text
  | .dateTime t => String.ofList t.text
  | .time t => String.ofList t.textUtc
  | .range a b => String.ofList (a.text ++ '.' :: '.' :: b.text)
  | .marker p => p.name
  | .array items => "[" ++ commaJoin (displayItems items) ++ "]"
  | .set items => "#<Set: \x7b" ++ commaJoin (displayItems items) ++ "\x7d>"
  | .hash entries => "\x7b" ++ commaJoin (displayEntries entries) ++ "\x7d"
  | .undefined => "Undefined"

/-- The texts of the items of a collection. -/
def displayItems : List Value → List String
  | [] => []
  | v :: vs => v.display :: displayItems vs

/-- The texts of the entries of a hash. -/
def displayEntries : List (Value × Value) → List String
  | [] => []
  | (k, v) :: rest => (k.display ++ "=>" ++ v.display) :: displayEntries rest

end

end Conform.Value
