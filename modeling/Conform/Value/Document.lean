import Conform.Json.Reader
import Conform.Json.Writer
import Conform.Value.Table

/-!
# Values and plain JSON documents

The untagged form of a value. It keeps plain data apart but not the kinds that JSON lacks: symbols
and dates become strings, sets become arrays.

* `Value.toJson?` — the document of a value; exact numbers beyond the range of binary64 have none.
* `Value.ofJson?` — the value of a document, with the exception for tagged numbers.
* `Value.toJsonText?`, `Value.ofJsonText?` — the same to and from text.
-/

namespace Conform.Value

/-! ## Writing -/

/-- The document of a number. Integers of 64 bits keep their digits, other exact numbers are read
back from their text, so they are as exact as a number in a document can be. -/
def numberToJson? : Number → Option Json
  | .float x => some (.float x)
  | n => Json.ofNumberText? n.text

mutual

/-- The document of a value. -/
def toJson? : Value → Option Json
  | .nil => some .null
  | .bool b => some (.bool b)
  | .number n => numberToJson? n
  | .symbol s => some (.string s)
  | .string s => some (.string s)
  | .date d => some (.string (String.ofList d.text))
  | .dateTime t => some (.string (String.ofList t.text))
  | .time t => some (.string (String.ofList t.textUtc))
  | .range a b => do
    let a ← numberToJson? a
    let b ← numberToJson? b
    pure (.array [a, b])
  | .marker p => some (.string p.name)
  | .array items => (itemsToJson? items).map .array
  | .set items => (itemsToJson? items).map .array
  | .hash entries => (entriesToJson? entries).map .object
  | .undefined => some (.string "<undefined>")

/-- The documents of the items of a collection. -/
def itemsToJson? : List Value → Option (List Json)
  | [] => some []
  | v :: vs => do
    let j ← v.toJson?
    let js ← itemsToJson? vs
    pure (j :: js)

/-- The fields of a hash. A key that is no text gives its document on one line as name. -/
def entriesToJson? : List (Value × Value) → Option (List (String × Json))
  | [] => some []
  | (k, v) :: rest => do
    let name ← match k with
      | .string s => pure s
      | .symbol s => pure s
      | k => k.toJson?.map Json.compact
    let j ← v.toJson?
    let js ← entriesToJson? rest
    pure ((name, j) :: js)

end

/-- The text of a value as a document. -/
def toJsonText? (v : Value) : Option String :=
  v.toJson?.map Json.pretty

/-! ## Reading -/

/-- The field name that marks an object as a number given by its text. -/
def numberTag : String := "$serde_json::private::Number"

/-- The number text of an object whose first field is tagged as one. -/
def taggedNumber? : List (String × Json) → Option String
  | (name, .string text) :: _ => if name = numberTag then some text else none
  | _ => none

/-- The entries of fields: strings as keys, of a repeated one the last value. -/
def entriesOf (fields : List (String × Value)) : List (Value × Value) :=
  fields.foldl (fun entries f => Table.insert (.string f.1) f.2 entries) []

mutual

/-- The value of a document. An object whose first field is the number tag is that number, and must
have no other field. -/
def ofJson? : Json → Option Value
  | .null => some .nil
  | .bool b => some (.bool b)
  | .integer z => some (.integer z)
  | .float x => some (.number (.float x))
  | .string s => some (.string s)
  | .array items => (itemsOfJson? items).map .array
  | .object fields =>
    match taggedNumber? fields with
    | some text => if fields.length = 1 then (Number.read? text.toList).map .number else none
    | none => (fieldsOfJson? fields).map fun fs => .hash (entriesOf fs)

/-- The values of the items of an array. -/
def itemsOfJson? : List Json → Option (List Value)
  | [] => some []
  | j :: js => do
    let v ← ofJson? j
    let vs ← itemsOfJson? js
    pure (v :: vs)

/-- The values of the fields of an object. -/
def fieldsOfJson? : List (String × Json) → Option (List (String × Value))
  | [] => some []
  | (name, j) :: rest => do
    let v ← ofJson? j
    let vs ← fieldsOfJson? rest
    pure ((name, v) :: vs)

end

/-- The value of a document text. -/
def ofJsonText? (text : String) : Option Value :=
  (Json.ofText? text).bind ofJson?

end Conform.Value
