import Conform.Value.Order

/-!
# Sorted tables

The lists behind sets and hashes: ascending in the order on values, without equal elements or keys.

* `Table.ofEntries`, `Table.ofItems` — built from any list; of equal keys or elements the last
  stays.
* `Table.insert` — one entry more; an equal key that is there already stays, with the new value.
* `Table.get?`, `Table.erase` — the value under a key, and the table without it.
* `Value.setOf`, `Value.hashOf` — the set and the hash of a list.
-/

namespace Conform

namespace Table

variable {α : Type}

/-! ## Building -/

/-- Puts an element into a descending list, in front of every element that is not greater. -/
def placeDescending (less : α → α → Bool) (a : α) : List α → List α
  | [] => [a]
  | b :: bs => if less a b then b :: placeDescending less a bs else a :: b :: bs

/-- The elements in ascending order, equal ones in their given order. -/
def sort (less : α → α → Bool) (as : List α) : List α :=
  (as.foldl (fun sorted a => placeDescending less a sorted) []).reverse

/-- Of neighbours that are equal, the last one. -/
def keepLast (same : α → α → Bool) : List α → List α
  | [] => []
  | [a] => [a]
  | a :: b :: rest => if same a b then keepLast same (b :: rest) else a :: keepLast same (b :: rest)

/-- The table of a list of elements. -/
def ofItems (items : List Value) : List Value :=
  keepLast (· == ·) (sort Value.isLess items)

/-- The table of a list of entries. -/
def ofEntries (entries : List (Value × α)) : List (Value × α) :=
  keepLast (fun a b => a.1 == b.1) (sort (fun a b => a.1.isLess b.1) entries)

/-! ## One entry -/

/-- The table with an entry more, or with a new value for a key that it has. -/
def insert (key : Value) (value : α) : List (Value × α) → List (Value × α)
  | [] => [(key, value)]
  | (k, v) :: rest =>
    match key.compare k with
    | .lt => (key, value) :: (k, v) :: rest
    | .eq => (k, value) :: rest
    | .gt => (k, v) :: insert key value rest

/-- The value under a key. -/
def get? (key : Value) : List (Value × α) → Option α
  | [] => none
  | (k, v) :: rest =>
    match key.compare k with
    | .lt => none
    | .eq => some v
    | .gt => get? key rest

/-- The table without a key. -/
def erase (key : Value) : List (Value × α) → List (Value × α)
  | [] => []
  | (k, v) :: rest =>
    match key.compare k with
    | .lt => (k, v) :: rest
    | .eq => rest
    | .gt => (k, v) :: erase key rest

/-- The element of a table of elements that equals the given one. -/
def find? (item : Value) : List Value → Option Value
  | [] => none
  | a :: rest =>
    match item.compare a with
    | .lt => none
    | .eq => some a
    | .gt => find? item rest

end Table

namespace Value

/-- The set of the given elements. -/
def setOf (items : List Value) : Value :=
  .set (Table.ofItems items)

/-- The hash of the given entries. -/
def hashOf (entries : List (Value × Value)) : Value :=
  .hash (Table.ofEntries entries)

/-! ## Access and editing -/

/-- The part of a value at a position; `undefined` where there is none. -/
def itemAt (v : Value) (index : Nat) : Value :=
  match v with
  | .array items => (items[index]?).getD .undefined
  | _ => .undefined

/-- The part of a value under a key: of a hash its value, of a set the element itself, of an array
the item at a position; `undefined` where there is none. -/
def lookup (v : Value) (key : Value) : Value :=
  match v, key with
  | .hash entries, key => (Table.get? key entries).getD .undefined
  | .set items, key => (Table.find? key items).getD .undefined
  | .array items, .number n => ((n.toUnsigned64?).bind fun i => items[i]?).getD .undefined
  | _, _ => .undefined

/-- A change to an array or a hash. -/
inductive Edit
  | push (item : Value)
  | pop
  | insert (key value : Value)
  | remove (key : Value)

/-- Why a change is refused. -/
inductive EditFault
  | notAnArray
  | notAHash
  deriving DecidableEq

/-- The text of a refusal. -/
def EditFault.message : EditFault → String
  | .notAnArray => "not an array"
  | .notAHash => "not an object"

/-- The value after a change. -/
def edit (v : Value) : Edit → Except EditFault Value
  | .push item => match v with
    | .array items => .ok (.array (items ++ [item]))
    | _ => .error .notAnArray
  | .pop => match v with
    | .array items => .ok (.array items.dropLast)
    | _ => .error .notAnArray
  | .insert key value => match v with
    | .hash entries => .ok (.hash (Table.insert key value entries))
    | _ => .error .notAHash
  | .remove key => match v with
    | .hash entries => .ok (.hash (Table.erase key entries))
    | _ => .error .notAHash

end Value

end Conform
