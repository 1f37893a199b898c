import Conform.Json

/-!
# Writing JSON

Two layouts of the same tokens: on one line without blanks, and with one item or field to a line.

* `Json.quote` — a string with its escapes; only what must be escaped is.
* `Json.compact`, `Json.pretty` — the two layouts.
-/

namespace Conform.Json

/-- One character of a string. -/
def quoteChar (c : Char) : List Char :=
  if c = '"' then ['\\', '"']
  else if c = '\\' then ['\\', '\\']
  else if c = '\n' then ['\\', 'n']
  else if c = '\t' then ['\\', 't']
  else if c = '\r' then ['\\', 'r']
  else if c.toNat = 8 then ['\\', 'b']
  else if c.toNat = 12 then ['\\', 'f']
  else if c.toNat < 32 then ['\\', 'u'] ++ Text.padLeft 4 (Nat.toDigits 16 c.toNat)
  else [c]

/-- A string between its quotes. -/
def quote (s : String) : String :=
  String.ofList ('"' :: s.toList.flatMap quoteChar ++ ['"'])

/-- A number or word. Numbers that are not finite have no text of their own. -/
def scalarText : Json → String
  | .bool b => if b then "true" else "false"
  | .integer z => String.ofList (Text.signed z)
  | .float x => if x.isFinite then String.ofList (x.text Binary64.documentFormat) else "null"
  | .string s => quote s
  | _ => "null"

mutual

/-- The document on one line. -/
def compact : Json → String
  | .array items => "[" ++ String.intercalate "," (compactItems items) ++ "]"
  | .object fields => "\x7b" ++ String.intercalate "," (compactFields fields) ++ "\x7d"
  | j => scalarText j

/-- The items of an array, each on one line. -/
def compactItems : List Json → List String
  | [] => []
  | j :: rest => j.compact :: compactItems rest

/-- The fields of an object, each on one line. -/
def compactFields : List (String × Json) → List String
  | [] => []
  | (name, j) :: rest => (quote name ++ ":" ++ j.compact) :: compactFields rest

end

/-- The parts between brackets, each on a line of its own and indented one step more than the
brackets; nothing stands between the brackets if there are no parts. -/
def bracket (opening closing indent : String) (parts : List String) : String :=
  match parts with
  | [] => opening ++ closing
  | _ => opening ++ "\n" ++ String.intercalate ",\n" (parts.map fun p => indent ++ "  " ++ p) ++
      "\n" ++ indent ++ closing

mutual

/-- The document over several lines, all but the first indented. -/
def prettyFrom (indent : String) : Json → String
  | .array items => bracket "[" "]" indent (prettyItems (indent ++ "  ") items)
  | .object fields => bracket "\x7b" "\x7d" indent (prettyFields (indent ++ "  ") fields)
  | j => scalarText j

/-- The items of an array. -/
def prettyItems (indent : String) : List Json → List String
  | [] => []
  | j :: rest => prettyFrom indent j :: prettyItems indent rest

/-- The fields of an object. -/
def prettyFields (indent : String) : List (String × Json) → List String
  | [] => []
  | (name, j) :: rest =>
    (quote name ++ ": " ++ prettyFrom indent j) :: prettyFields indent rest

end

/-- The document with two more blanks of indentation at each level. -/
def pretty (j : Json) : String :=
  prettyFrom "" j

end Conform.Json
