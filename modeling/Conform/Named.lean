/-!
# Named lists

Lists of things with names, in ascending order of the names and without repeated names. The fields
of a document, the metadata of a type and the entries of a registry are kept this way.

* `Named.find?` — the thing with a name.
* `Named.place` — one thing more, or a new thing under a name that is there already.
* `Named.ofList` — the list of any pairs; of a repeated name the last one counts.
-/

namespace Conform.Named

variable {α : Type}

/-- The thing with the given name. -/
def find? (name : String) : List (String × α) → Option α
  | [] => none
  | (n, a) :: rest => if n = name then some a else find? name rest

/-- Puts a thing at its place by name, instead of one with the same name if there is one. -/
def place (name : String) (a : α) : List (String × α) → List (String × α)
  | [] => [(name, a)]
  | (n, b) :: rest =>
    if n = name then (name, a) :: rest
    else if name < n then (name, a) :: (n, b) :: rest
    else (n, b) :: place name a rest

/-- The named list of some pairs. -/
def ofList (pairs : List (String × α)) : List (String × α) :=
  pairs.foldl (fun named p => place p.1 p.2 named) []

/-- What was placed is found, and nothing else is found in another way than before. -/
theorem find?_place (name other : String) (a : α) (l : List (String × α)) :
    find? other (place name a l) = if name = other then some a else find? other l := by
  induction l with
  | nil => simp [place, find?]
  | cons p rest ih =>
    obtain ⟨n, b⟩ := p
    simp only [place]
    split
    · next h => subst h; simp only [find?]; split <;> rfl
    · split
      · simp [find?]
      · next hn _ =>
        simp only [find?, ih]
        split
        · next h => subst h; rw [if_neg (Ne.symm hn)]
        · rfl

end Conform.Named
