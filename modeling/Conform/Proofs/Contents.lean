import Conform.Ty.Evaluation

/-!
# What a type holds

Statements about all functions, generators or values that occur in a type, however deep, need those
lists, and an induction that reaches the members of a schema.

* `Ty.induct` — the induction principle for types; members of a schema are reached by membership.
* `Ty.gather` — everything of one kind in a type.
* `Ty.coercions`, `Ty.generators`, `Ty.stored`, `Ty.notes` — its functions, generators, values and
  metadata.
* `Ty.Within` — a type holds nothing that another does not; so it is with the parts of a type.
-/

namespace Conform

/-- **Induction over types.**  The hypothesis for a schema speaks of every member at once. -/
@[elab_as_elim, induction_eliminator]
theorem Ty.induct {P : Ty → Prop}
    (definition : ∀ p notes, P (.definition p notes))
    (decorated : ∀ d inner notes, P inner → P (.decorated d inner notes))
    (sum : ∀ left right notes, P left → P right → P (.sum left right notes))
    (schema : ∀ policy transform members notes, (∀ m ∈ members, P m.2) →
      P (.schema policy transform members notes))
    (array : ∀ item notes, P item → P (.array item notes))
    (map : ∀ key value notes, P key → P value → P (.map key value notes)) (t : Ty) : P t := by
  refine Ty.rec (motive_1 := P) (motive_2 := fun ms => ∀ m ∈ ms, P m.2) (motive_3 := fun m => P m.2)
    definition decorated sum schema array map ?_ ?_ ?_ t
  · intro m hm
    cases hm
  · intro m ms hm hms x hx
    rcases List.mem_cons.1 hx with rfl | hx
    · exact hm
    · exact hms x hx
  · intro _ t ht
    exact ht

namespace Ty

variable {α : Type}

mutual

/-- Everything of one kind in a type: what its decorators, the names of its members and its metadata
give, from the outside in. -/
def gather (ofDecorator : Decorator → List α) (ofName : Value → List α)
    (ofNotes : Metadata → List α) : Ty → List α
  | .definition _ m => ofNotes m
  | .decorated d inner m => ofNotes m ++ (ofDecorator d ++ gather ofDecorator ofName ofNotes inner)
  | .sum left right m =>
    ofNotes m ++ (gather ofDecorator ofName ofNotes left ++ gather ofDecorator ofName ofNotes right)
  | .schema _ _ members m => ofNotes m ++ gatherMembers ofDecorator ofName ofNotes members
  | .array item m => ofNotes m ++ gather ofDecorator ofName ofNotes item
  | .map key value m =>
    ofNotes m ++ (gather ofDecorator ofName ofNotes key ++ gather ofDecorator ofName ofNotes value)

/-- The same for the members of a schema. -/
def gatherMembers (ofDecorator : Decorator → List α) (ofName : Value → List α)
    (ofNotes : Metadata → List α) : List (Value × Ty) → List α
  | [] => []
  | (name, t) :: rest =>
    ofName name ++ (gather ofDecorator ofName ofNotes t ++
      gatherMembers ofDecorator ofName ofNotes rest)

end

-- the equations are derived here, once for all proofs that open these functions
attribute [grind =] gather gatherMembers

/-- What the members of a schema hold is what one of them holds. -/
theorem mem_gatherMembers {ofDecorator : Decorator → List α} {ofName : Value → List α}
    {ofNotes : Metadata → List α} {a : α} (members : List (Value × Ty)) :
    a ∈ gatherMembers ofDecorator ofName ofNotes members ↔
      ∃ m ∈ members, a ∈ ofName m.1 ∨ a ∈ gather ofDecorator ofName ofNotes m.2 := by
  induction members with
  | nil => simp [gatherMembers]
  | cons m rest ih =>
    obtain ⟨name, t⟩ := m
    simp only [gatherMembers, List.mem_append, ih, List.mem_cons, exists_eq_or_imp, or_assoc]

/-- A type holds its own metadata. -/
theorem notes_subset_gather {ofDecorator : Decorator → List α} {ofName : Value → List α}
    {ofNotes : Metadata → List α} (t : Ty) :
    ofNotes t.metadata ⊆ gather ofDecorator ofName ofNotes t := by
  cases t <;> simp [gather, metadata]

/-- A decorated type holds what its decorator does. -/
theorem decorator_subset_gather {ofDecorator : Decorator → List α} {ofName : Value → List α}
    {ofNotes : Metadata → List α} (d : Decorator) (inner : Ty) (m : Metadata) :
    ofDecorator d ⊆ gather ofDecorator ofName ofNotes (.decorated d inner m) := by
  intro a ha
  simp [gather, ha]

/-- A schema holds the names of its members. -/
theorem name_subset_gather {ofDecorator : Decorator → List α} {ofName : Value → List α}
    {ofNotes : Metadata → List α} (policy : Policy) (transform : KeyTransform)
    {members : List (Value × Ty)} (m : Metadata) {e : Value × Ty} (he : e ∈ members) :
    ofName e.1 ⊆ gather ofDecorator ofName ofNotes (.schema policy transform members m) := by
  intro a ha
  simp only [gather, List.mem_append, mem_gatherMembers]
  exact .inr ⟨e, he, .inl ha⟩

/-! ### Parts hold no more than the whole -/

/-- Whatever the first type holds, of any kind, the second one holds too. -/
def Within (u t : Ty) : Prop :=
  ∀ (α : Type) (ofDecorator : Decorator → List α) (ofName : Value → List α)
    (ofNotes : Metadata → List α), gather ofDecorator ofName ofNotes u ⊆
      gather ofDecorator ofName ofNotes t

theorem within_decorated (d : Decorator) (inner : Ty) (m : Metadata) :
    inner.Within (.decorated d inner m) := by
  intro α f g h a ha
  simp [gather, ha]

theorem within_sum_left (left right : Ty) (m : Metadata) : left.Within (.sum left right m) := by
  intro α f g h a ha
  simp [gather, ha]

theorem within_sum_right (left right : Ty) (m : Metadata) : right.Within (.sum left right m) := by
  intro α f g h a ha
  simp [gather, ha]

/-- The types of the members are parts of a schema. -/
theorem within_schema (policy : Policy) (transform : KeyTransform) {members : List (Value × Ty)}
    (m : Metadata) {e : Value × Ty} (he : e ∈ members) :
    e.2.Within (.schema policy transform members m) := by
  intro α f g h a ha
  simp only [gather, List.mem_append, mem_gatherMembers]
  exact .inr ⟨e, he, .inr ha⟩

theorem within_array (item : Ty) (m : Metadata) : item.Within (.array item m) := by
  intro α f g h a ha
  simp [gather, ha]

theorem within_map_key (key value : Ty) (m : Metadata) : key.Within (.map key value m) := by
  intro α f g h a ha
  simp [gather, ha]

theorem within_map_value (key value : Ty) (m : Metadata) : value.Within (.map key value m) := by
  intro α f g h a ha
  simp [gather, ha]

end Ty

/-! ## Functions, generators and values -/

/-- The values among the operands of a rule. -/
def Rule.values : Rule → List Value
  | .predicate p => p.operands.filterMap fun
    | .value v => some v
    | .pattern _ => none
  | .and left right => left.values ++ right.values
  | .or left right => left.values ++ right.values

namespace Decorator

/-- The functions of a decorator. -/
def coercions : Decorator → List Coercion
  | .constructor fns => fns
  | _ => []

/-- The generator of a decorator. -/
def generators : Decorator → List Generator
  | .default (.drawn g) => [g]
  | _ => []

/-- The values that a decorator keeps: operands, both sides of an enumeration, a fixed default. -/
def stored : Decorator → List Value
  | .constrained rule => rule.values
  | .enumeration mapping => mapping.flatMap fun p => [p.1, p.2]
  | .default (.fixed v) => [v]
  | _ => []

end Decorator

namespace Ty

/-- Every function in a type. -/
def coercions (t : Ty) : List Coercion :=
  t.gather Decorator.coercions (fun _ => []) (fun _ => [])

/-- Every generator in a type. -/
def generators (t : Ty) : List Generator :=
  t.gather Decorator.generators (fun _ => []) (fun _ => [])

/-- Every value in a type: those of its decorators, the names of members, and metadata. -/
def stored (t : Ty) : List Value :=
  t.gather Decorator.stored (fun name => [name]) (fun m => m.map (·.2))

/-- The metadata of the type and of all its parts, the outermost first. -/
def notes (t : Ty) : List Metadata :=
  t.gather (fun _ => []) (fun _ => []) (fun m => [m])

namespace Within

variable {u t : Ty} (h : u.Within t)

include h

theorem coercions : u.coercions ⊆ t.coercions := h _ _ _ _

theorem generators : u.generators ⊆ t.generators := h _ _ _ _

theorem stored : u.stored ⊆ t.stored := h _ _ _ _

theorem notes : u.notes ⊆ t.notes := h _ _ _ _

end Within

/-- The generator of a default is among those of the type that the default is for. -/
theorem mem_generators_of_drawn {d : Default} {g : Generator} (hd : d = .drawn g) (inner : Ty)
    (m : Metadata) : g ∈ (decorated (.default d) inner m).generators :=
  decorator_subset_gather (.default d) inner m (by simp [Decorator.generators, hd])

/-! ### The parts of a type without generators have none -/

section NoGenerators

variable {m : Metadata}

/-- Without generators in a decorated type there are none inside. -/
theorem generators_inner {d : Decorator} {inner : Ty} (ht : (decorated d inner m).generators = []) :
    inner.generators = [] :=
  List.eq_nil_of_subset_nil (ht ▸ (within_decorated d inner m).generators)

/-- Without generators in a sum there are none in its sides. -/
theorem generators_sides {left right : Ty} (ht : (sum left right m).generators = []) :
    left.generators = [] ∧ right.generators = [] :=
  ⟨List.eq_nil_of_subset_nil (ht ▸ (within_sum_left left right m).generators),
    List.eq_nil_of_subset_nil (ht ▸ (within_sum_right left right m).generators)⟩

/-- Without generators in a schema there are none in its members. -/
theorem generators_members {policy : Policy} {transform : KeyTransform}
    {members : List (Value × Ty)} (ht : (schema policy transform members m).generators = []) :
    ∀ e ∈ members, e.2.generators = [] := fun _ he =>
  List.eq_nil_of_subset_nil (ht ▸ (within_schema policy transform m he).generators)

theorem generators_item {item : Ty} (ht : (array item m).generators = []) : item.generators = [] :=
  List.eq_nil_of_subset_nil (ht ▸ (within_array item m).generators)

end NoGenerators

end Ty

end Conform
