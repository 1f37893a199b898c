import Conform.Calendar.Reader
import Conform.Json
import Conform.Text.Quoted
import Conform.Value.Table

/-!
# Literals

The tagged form of a value, which tells all kinds apart. Numbers and dates are kept as text, so that
no digit is lost; a text can therefore be no number or date at all.

* `Literal` — the tagged form, and `Literal.display` its text in messages.
* `Value.toLiteral`, `Literal.toValue` — from a value and back, the latter with `Literal.Fault`.
* `Literal.toJson`, `Literal.ofJson?` — literals as JSON documents.
-/

namespace Conform

/-- A tagged value, with numbers and dates as text. -/
inductive Literal
  | nil
  | undefined
  | bool (b : Bool)
  | integer (text : String)
  | float (text : String)
  | decimal (text : String)
  | symbol (name : String)
  | string (text : String)
  | date (text : String)
  | dateTime (text : String)
  | time (text : String)
  | range (first last : Literal)
  | marker (p : Primitive)
  | array (items : List Literal)
  | set (items : List Literal)
  | hash (entries : List (Literal × Literal))
  deriving Inhabited

/-! ## From values -/

/-- The literal of a number. -/
def Number.toLiteral : Number → Literal
  | .integer z => .integer (String.ofList (Text.signed z))
  | .decimal d => .decimal (String.ofList d.text)
  | .float x => .float (String.ofList (x.text Binary64.literalFormat))

mutual

/-- The literal of a value. -/
def Value.toLiteral : Value → Literal
  | .nil => .nil
  | .bool b => .bool b
  | .number n => n.toLiteral
  | .symbol s => .symbol s
  | .string s => .string s
  | .date d => .date (String.ofList d.text)
  | .dateTime t => .dateTime (String.ofList t.text)
  | .time t => .time (String.ofList t.textUtc)
  | .range a b => .range a.toLiteral b.toLiteral
  | .marker p => .marker p
  | .array items => .array (Value.itemsToLiteral items)
  | .set items => .set (Value.itemsToLiteral items)
  | .hash entries => .hash (Value.entriesToLiteral entries)
  | .undefined => .undefined

/-- The literals of the items of a collection. -/
def Value.itemsToLiteral : List Value → List Literal
  | [] => []
  | v :: vs => v.toLiteral :: Value.itemsToLiteral vs

/-- The literals of the entries of a hash. -/
def Value.entriesToLiteral : List (Value × Value) → List (Literal × Literal)
  | [] => []
  | (k, v) :: rest => (k.toLiteral, v.toLiteral) :: Value.entriesToLiteral rest

end

namespace Literal

/-! ## Display -/

/-- A tag with its content in parentheses. -/
def tagged (tag content : String) : String :=
  tag ++ "(" ++ content ++ ")"

mutual

/-- The literal as messages show it. -/
def display : Literal → String
  | .nil => "Nil"
  | .undefined => "Undefined"
  | .bool b => tagged "Bool" (if b then "true" else "false")
  | .integer s => tagged "Integer" (Text.quote s)
  | .float s => tagged "Float" (Text.quote s)
  | .decimal s => tagged "Decimal" (Text.quote s)
  | .symbol s => tagged "Symbol" (Text.quote s)
  | .string s => tagged "String" (Text.quote s)
  | .date s => tagged "Date" (Text.quote s)
  | .dateTime s => tagged "DateTime" (Text.quote s)
  | .time s => tagged "Time" (Text.quote s)
  | .range a b => tagged "Range" (a.display ++ ", " ++ b.display)
  | .marker p => tagged "Class" p.label
  | .array items => tagged "Array" ("[" ++ String.intercalate ", " (displayItems items) ++ "]")
  | .set items => tagged "Set" ("[" ++ String.intercalate ", " (displayItems items) ++ "]")
  | .hash entries => tagged "Hash" ("[" ++ String.intercalate ", " (displayEntries entries) ++ "]")

/-- The texts of the items of a collection. -/
def displayItems : List Literal → List String
  | [] => []
  | l :: ls => l.display :: displayItems ls

/-- The texts of the entries of a hash. -/
def displayEntries : List (Literal × Literal) → List String
  | [] => []
  | (k, v) :: rest => tagged "" (k.display ++ ", " ++ v.display) :: displayEntries rest

end

/-! ## To values -/

/-- Why a literal has no value. -/
inductive Fault
  | invalidDate (text : String)
  | invalidDateTime (text : String)
  | invalidTime (text : String)
  | invalidNumber (l : Literal)
  | notANumber (l : Literal)

/-- The text of a fault. -/
def Fault.message : Fault → String
  | .invalidDate s => "invalid date literal \x60" ++ s ++ "\x60"
  | .invalidDateTime s => "invalid date_time literal \x60" ++ s ++ "\x60"
  | .invalidTime s => "invalid time literal \x60" ++ s ++ "\x60"
  | .invalidNumber l => "invalid number literal " ++ l.display
  | .notANumber l => "expected a number literal, found " ++ l.display

/-- The number of a literal. -/
def toNumber (l : Literal) : Except Fault Number :=
  let parsed := match l with
    | .integer s => some (Number.readInteger? s.toList)
    | .decimal s => some (Number.readDecimal? s.toList)
    | .float s => some ((Binary64.ofText? s.toList).map .float)
    | _ => none
  match parsed with
  | none => .error (.notANumber l)
  | some none => .error (.invalidNumber l)
  | some (some n) => .ok n

/-- The result, or the fault when there is none. -/
def orFault {α : Type} (fault : Fault) : Option α → Except Fault α
  | some a => .ok a
  | none => .error fault

mutual

/-- The value of a literal. Elements of a set and entries of a hash are put in order. -/
def toValue : Literal → Except Fault Value
  | .nil => .ok .nil
  | .undefined => .ok .undefined
  | .bool b => .ok (.bool b)
  | .integer s => (toNumber (.integer s)).map .number
  | .float s => (toNumber (.float s)).map .number
  | .decimal s => (toNumber (.decimal s)).map .number
  | .symbol s => .ok (.symbol s)
  | .string s => .ok (.string s)
  | .date s => (orFault (.invalidDate s) (Date.ofText? s.toList)).map .date
  | .dateTime s => (orFault (.invalidDateTime s) (DateTime.ofRfc3339? s.toList)).map .dateTime
  | .time s =>
    (orFault (.invalidTime s) (DateTime.ofRfc3339? s.toList)).map fun t => .time t.utc
  | .range a b => do
    let a ← a.toNumber
    let b ← b.toNumber
    pure (.range a b)
  | .marker p => .ok (.marker p)
  | .array items => (itemsToValue items).map .array
  | .set items => (itemsToValue items).map Value.setOf
  | .hash entries => (entriesToValue entries).map Value.hashOf

/-- The values of the items of a collection. -/
def itemsToValue : List Literal → Except Fault (List Value)
  | [] => .ok []
  | l :: ls => do
    let v ← l.toValue
    let vs ← itemsToValue ls
    pure (v :: vs)

/-- The values of the entries of a hash. -/
def entriesToValue : List (Literal × Literal) → Except Fault (List (Value × Value))
  | [] => .ok []
  | (k, v) :: rest => do
    let k ← k.toValue
    let v ← v.toValue
    let vs ← entriesToValue rest
    pure ((k, v) :: vs)

end

/-! ## Documents -/

/-- An object with one field. -/
def single (name : String) (j : Json) : Json :=
  .object [(name, j)]

mutual

/-- The document of a literal: an object with the tag as its one field, or the tag alone. -/
def toJson : Literal → Json
  | .nil => .string "nil"
  | .undefined => .string "undefined"
  | .bool b => single "bool" (.bool b)
  | .integer s => single "integer" (.string s)
  | .float s => single "float" (.string s)
  | .decimal s => single "decimal" (.string s)
  | .symbol s => single "symbol" (.string s)
  | .string s => single "string" (.string s)
  | .date s => single "date" (.string s)
  | .dateTime s => single "date_time" (.string s)
  | .time s => single "time" (.string s)
  | .range a b => single "range" (.array [a.toJson, b.toJson])
  | .marker p => single "class" (.string p.name)
  | .array items => single "array" (.array (itemsToJson items))
  | .set items => single "set" (.array (itemsToJson items))
  | .hash entries => single "hash" (.array (entriesToJson entries))

/-- The documents of the items of a collection. -/
def itemsToJson : List Literal → List Json
  | [] => []
  | l :: ls => l.toJson :: itemsToJson ls

/-- The documents of the entries of a hash, each a pair. -/
def entriesToJson : List (Literal × Literal) → List Json
  | [] => []
  | (k, v) :: rest => .array [k.toJson, v.toJson] :: entriesToJson rest

end

/-- The content of a tag that needs none: nothing at all, `null`, or inside a node also an object
without fields. -/
def isEmptyContent (inNode : Bool) : Json → Bool
  | .null => true
  | .object [] => inNode
  | _ => false

/-- A tag without content: its name, or an object with the tag as its one field. -/
def bareTag? (inNode : Bool) : Json → Option String
  | .string s => some s
  | .object [(name, j)] => if isEmptyContent inNode j then some name else none
  | _ => none

/-- The primitive that a document names. -/
def primitiveOfJson? (inNode : Bool) (j : Json) : Option Primitive :=
  (bareTag? inNode j).bind Primitive.ofName?

/-- The string of a document. -/
def stringOfJson? : Json → Option String
  | .string s => some s
  | _ => none

mutual

/-- The literal of a document. Inside a node a tag without content is read more leniently. -/
def ofJson? (inNode : Bool) : Json → Option Literal
  | .string s => if s = "nil" then some .nil else if s = "undefined" then some .undefined else none
  | .object [(tag, content)] =>
    match tag with
    | "nil" => if isEmptyContent inNode content then some .nil else none
    | "undefined" => if isEmptyContent inNode content then some .undefined else none
    | "bool" => match content with
      | .bool b => some (.bool b)
      | _ => none
    | "integer" => (stringOfJson? content).map .integer
    | "float" => (stringOfJson? content).map .float
    | "decimal" => (stringOfJson? content).map .decimal
    | "symbol" => (stringOfJson? content).map .symbol
    | "string" => (stringOfJson? content).map .string
    | "date" => (stringOfJson? content).map .date
    | "date_time" => (stringOfJson? content).map .dateTime
    | "time" => (stringOfJson? content).map .time
    | "range" => match content with
      | .array [a, b] => do
        let a ← ofJson? inNode a
        let b ← ofJson? inNode b
        pure (.range a b)
      | _ => none
    | "class" => (primitiveOfJson? inNode content).map .marker
    | "array" => match content with
      | .array items => (itemsOfJson? inNode items).map .array
      | _ => none
    | "set" => match content with
      | .array items => (itemsOfJson? inNode items).map .set
      | _ => none
    | "hash" => match content with
      | .array items => (entriesOfJson? inNode items).map .hash
      | _ => none
    | _ => none
  | _ => none

/-- The literals of the items of an array. -/
def itemsOfJson? (inNode : Bool) : List Json → Option (List Literal)
  | [] => some []
  | j :: js => do
    let l ← ofJson? inNode j
    let ls ← itemsOfJson? inNode js
    pure (l :: ls)

/-- The entries that an array of pairs lists. -/
def entriesOfJson? (inNode : Bool) : List Json → Option (List (Literal × Literal))
  | [] => some []
  | .array [k, v] :: js => do
    let k ← ofJson? inNode k
    let v ← ofJson? inNode v
    let ls ← entriesOfJson? inNode js
    pure ((k, v) :: ls)
  | _ :: _ => none

end

end Literal

end Conform
