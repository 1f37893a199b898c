import Conform.Named
import Conform.Value

/-!
# Generators

Sources of default values. What a generator produces depends on the moment and on how often it was
called before, so calls are made against a supply that keeps both.

* `Supply` — the moment, and the number of calls by address.
* `Generator` — a source with its address and perhaps a name.
* `Generator.draw` — one call, which the supply counts.
* `Generator.builtins` — the current time and the current date.
-/

namespace Conform

/-- What generators draw on: the current moment in UTC, and how often each was called. -/
structure Supply where
  now : Timestamp
  calls : List (String × Nat)

namespace Supply

/-- How often the generator at an address was called. -/
def count (s : Supply) (address : String) : Nat :=
  (Named.find? address s.calls).getD 0

/-- The supply after one more call of the generator at an address. -/
def record (s : Supply) (address : String) : Supply :=
  { s with calls := Named.place address (s.count address + 1) s.calls }

end Supply

/-- A source of values, given the moment and the number of earlier calls. -/
structure Generator where
  address : String
  name : Option String
  produce : Timestamp → Nat → Value

namespace Generator

/-- The name of the generator, or its address where it has none. -/
def reference (g : Generator) : String :=
  g.name.getD g.address

/-- Generators are the same when their addresses are. -/
instance : BEq Generator := ⟨fun f g => f.address == g.address⟩

/-- Calls the generator. -/
def draw (g : Generator) : StateM Supply Value := fun s =>
  (g.produce s.now (s.count g.address), s.record g.address)

/-- The generators of the current time and of the current date. -/
def builtins : List Generator :=
  [⟨"fn_time.now", some "time.now", fun now _ => .time now⟩,
    ⟨"fn_date.today", some "date.today", fun now _ => .date now.date⟩]

/-- The built-in generator with the given name. -/
def builtin? (name : String) : Option Generator :=
  builtins.find? fun g => g.name == some name

end Generator

end Conform
