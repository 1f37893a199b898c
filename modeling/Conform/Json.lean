import Conform.Named
import Conform.Number.Shortest

/-!
# JSON documents

The data of a JSON text.

* `Json` — documents; an object lists its fields as they are written, repeated names included.
* `Json.field?` — the field that counts: the last of its name.
* `Json.sortedFields` — the fields that count, in the order of their names.
-/

namespace Conform

/-- A JSON document. A number is an integer, or else the binary64 number it is read as. -/
inductive Json
  | null
  | bool (b : Bool)
  | integer (z : Int)
  | float (x : Binary64)
  | string (s : String)
  | array (items : List Json)
  | object (fields : List (String × Json))
  deriving Inhabited

namespace Json

/-- The value of the last field with the given name. -/
def field? (name : String) (fields : List (String × Json)) : Option Json :=
  (fields.reverse.find? fun f => f.1 == name).map (·.2)

/-- The fields by ascending name, the last of each name. -/
def sortedFields (fields : List (String × Json)) : List (String × Json) :=
  Named.ofList fields

end Json

end Conform
