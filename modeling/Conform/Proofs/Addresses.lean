import Conform.Proofs.Rebuilding

/-!
# Types come back where they were taken apart

In one process a document may refer to functions of any name.  A reference is the name of a
function, or its address where the name is taken, and it never changes its meaning afterwards.  So a
type that is taken apart and compiled in the same process has the functions it had, unless one of
them passes for a built-in function that nodes of a family leave out.

* `Addressed` — functions that are told apart by their addresses.
* `Registry.Keyed`, `Registry.Keyed.claim` — every function is stored under its reference or its
  address, and claiming a reference keeps it so.
* `Process`, `Bookkeeping.within` — all functions of a process, and registries with no others.
* `Ty.Genuine`, `Ty.comes_back` — when a type comes back as it was.
-/

namespace Conform

/-! ## Claiming references -/

section Claims

variable {α : Type} {address : α → String} {name : α → Option String} {known : α → Prop}

/-- The known functions are told apart by their addresses, and none is named by an address. -/
structure Addressed (address : α → String) (name : α → Option String)
    (known : α → Prop) : Prop where
  distinct : ∀ {f g}, known f → known g → address f = address g → f = g
  nameless : ∀ {f g}, known f → known g → name f ≠ some (address g)

/-- Only the function itself has its address for a reference. -/
theorem Addressed.eq_of_reference (h : Addressed address name known) {f g : α} (hf : known f)
    (hg : known g) (hr : (name f).getD (address f) = address g) : f = g := by
  cases hn : name f with
  | none =>
    rw [hn] at hr
    exact h.distinct hf hg hr
  | some n =>
    rw [hn] at hr
    exact absurd (hr ▸ hn) (h.nameless hf hg)

namespace Registry

/-- Every entry is a known function under its reference or under its address. -/
def Keyed (address : α → String) (name : α → Option String) (known : α → Prop) (r : Registry α) :
    Prop :=
  ∀ key f, r.get? key = some f → known f ∧ (key = (name f).getD (address f) ∨ key = address f)

/-- What is found in the first registry is found in the second one too. -/
def LeadsTo (r s : Registry α) : Prop :=
  ∀ key f, r.get? key = some f → s.get? key = some f

theorem LeadsTo.refl (r : Registry α) : r.LeadsTo r :=
  fun _ _ h => h

/-- What was found before is found after any number of changes. -/
theorem LeadsTo.trans {q r s : Registry α} (h : q.LeadsTo r) (h' : r.LeadsTo s) : q.LeadsTo s :=
  fun key f hf => h' key f (h key f hf)

/-- Nothing is lost by storing a function where nothing else is. -/
theorem leadsTo_put {r : Registry α} {key : String} {f : α} (h : ∀ g, r.get? key = some g → g = f) :
    r.LeadsTo (r.put key f) := by
  intro other g hg
  rw [get?_put]
  split
  · next hk =>
    subst hk
    rw [h g hg]
  · exact hg

/-- A known function may be put under either of its keys. -/
theorem Keyed.put {r : Registry α} (hr : r.Keyed address name known) {f : α} (hf : known f)
    {key : String} (hk : key = (name f).getD (address f) ∨ key = address f) :
    (r.put key f).Keyed address name known := by
  intro other g hg
  rw [get?_put] at hg
  split at hg
  · next ho =>
    obtain rfl : f = g := Option.some.inj hg
    exact ⟨hf, ho ▸ hk⟩
  · exact hr other g hg

/-- **A claimed reference is good**: the function is found under it, and whatever was found before
is found as before. -/
theorem Keyed.claim [BEq α] (hb : ∀ f g : α, (f == g) = true ↔ address f = address g)
    (h : Addressed address name known) {r : Registry α} (hr : r.Keyed address name known) {f : α}
    (hf : known f) :
    let c := r.claim ((name f).getD (address f)) (address f) f
    c.2.Keyed address name known ∧ r.LeadsTo c.2 ∧ c.2.get? c.1 = some f := by
  unfold Registry.claim
  split
  · next hnone =>
    refine ⟨hr.put hf (.inl rfl), leadsTo_put ?_, ?_⟩
    · intro g hg
      rw [hnone] at hg
      cases hg
    · rw [get?_put, if_pos rfl]
  · next g hg =>
    have hknown : known g := (hr _ g hg).1
    split
    · next he =>
      obtain rfl := h.distinct hknown hf ((hb g f).1 he)
      exact ⟨hr, .refl r, hg⟩
    · refine ⟨hr.put hf (.inr rfl), leadsTo_put ?_, ?_⟩
      · intro k hk
        obtain ⟨hknown', href | haddress⟩ := hr _ k hk
        · exact h.eq_of_reference hknown' hf href.symm
        · exact h.distinct hknown' hf haddress.symm
      · rw [get?_put, if_pos rfl]

end Registry

end Claims

/-! ## Processes -/

/-- Functions are compared by their addresses alone. -/
theorem Coercion.beq_iff (f g : Coercion) : (f == g) = true ↔ f.address = g.address := by
  show (f.address == g.address) = true ↔ _
  exact beq_iff_eq

/-- Generators are compared by their addresses alone. -/
theorem Generator.beq_iff (f g : Generator) : (f == g) = true ↔ f.address = g.address := by
  show (f.address == g.address) = true ↔ _
  exact beq_iff_eq

/-- The functions that there are in a process. -/
structure Process where
  coercions : Coercion → Prop
  generators : Generator → Prop
  addressedCoercions : Addressed Coercion.address Coercion.name coercions
  addressedGenerators : Addressed Generator.address Generator.name generators

/-- The registries with functions of the process under their references and addresses. -/
structure Process.Keeps (P : Process) (fs : Functions) : Prop where
  coercions : fs.coercions.Keyed Coercion.address Coercion.name P.coercions
  generators : fs.generators.Keyed Generator.address Generator.name P.generators

/-- One registry comes after another when all that was found is still found. -/
def Bookkeeping.within (P : Process) : Bookkeeping where
  good := P.Keeps
  later := fun fs gs => fs.coercions.LeadsTo gs.coercions ∧ fs.generators.LeadsTo gs.generators
  refl := fun _ => ⟨.refl _, .refl _⟩
  trans := fun h h' => ⟨h.1.trans h'.1, h.2.trans h'.2⟩

section Process

variable (P : Process)

/-- The reference that a function is given leads to that function from then on. -/
theorem records_addCoercion {f : Coercion} (hf : P.coercions f) :
    Records (.within P) (Functions.addCoercion f)
      fun reference gs => gs.coercions.get? reference = some f := by
  intro fs hfs
  obtain ⟨hkeyed, hleads, hfound⟩ := hfs.coercions.claim Coercion.beq_iff
    P.addressedCoercions hf
  exact ⟨⟨hkeyed, hfs.generators⟩, ⟨hleads, .refl _⟩, fun gs _ hle => hle.1 _ f hfound⟩

theorem records_addGenerator {g : Generator} (hg : P.generators g) :
    Records (.within P) (Functions.addGenerator g)
      fun reference gs => gs.generators.get? reference = some g := by
  intro fs hfs
  obtain ⟨hkeyed, hleads, hfound⟩ := hfs.generators.claim Generator.beq_iff
    P.addressedGenerators hg
  exact ⟨⟨hfs.coercions, hkeyed⟩, ⟨.refl _, hleads⟩, fun gs _ hle => hle.2 _ g hfound⟩

/-- A process starts with the built-in functions under their names. -/
theorem Process.keeps_standard (hc : ∀ f ∈ Coercion.builtins, P.coercions f)
    (hg : ∀ g ∈ Generator.builtins, P.generators g) : P.Keeps Functions.standard where
  coercions := by
    intro key f hf
    have hmem := Named.mem_of_find? ((Named.find?_ofList key _).symm.trans hf)
    obtain ⟨b, hb, hpair⟩ := List.mem_map.1 (List.mem_reverse.1 hmem)
    cases hpair
    exact ⟨hc f hb, .inl rfl⟩
  generators := by
    intro key g hg'
    have hmem := Named.mem_of_find? ((Named.find?_ofList key _).symm.trans hg')
    obtain ⟨b, hb, hpair⟩ := List.mem_map.1 (List.mem_reverse.1 hmem)
    cases hpair
    exact ⟨hg g hb, .inl rfl⟩

end Process

/-! ## Families -/

namespace Ty

/-- A function is the built-in one, if a node of a family leaves it out. -/
def LeftOutWell (b : Builtin) (bare : Bool) (f : Coercion) : Prop :=
  f.name = some b.name → bare = true → f == b.toCoercion

mutual

/-- No function passes for another: one that a node of a family leaves out is the built-in one. -/
def Genuine : Ty → Prop
  | .definition _ _ => True
  | .decorated .safe (.decorated (.constructor [f]) (.schema _ _ members k) l) _ =>
    LeftOutWell .paramsHash (isBare true l && isBare true k) f ∧ MembersGenuine members
  | .decorated .safe (.decorated (.constructor [f]) (.array item k) l) _ =>
    LeftOutWell .paramsArray (isBare true l && isBare true k) f ∧ item.Genuine
  | .decorated _ inner _ => inner.Genuine
  | .sum left right _ => left.Genuine ∧ right.Genuine
  | .schema _ _ members _ => MembersGenuine members
  | .array item _ => item.Genuine
  | .map key value _ => key.Genuine ∧ value.Genuine

/-- The same for the members of a schema. -/
def MembersGenuine : List (Value × Ty) → Prop
  | [] => True
  | (_, t) :: rest => t.Genuine ∧ MembersGenuine rest

end

theorem singleton_beq (f g : Coercion) : ([f] == [g]) = (f == g) :=
  Bool.and_true _

/-- What compiling puts in is the function itself, unless that passes for a built-in one. -/
theorem beq_recognize_iff (b : Builtin) (bare : Bool) (f : Coercion) :
    (recognize b bare f == f) = true ↔ LeftOutWell b bare f := by
  unfold recognize LeftOutWell
  split
  · next h =>
    rw [Bool.and_eq_true, beq_iff_eq] at h
    rw [Coercion.beq_iff, Coercion.beq_iff]
    exact ⟨fun he _ _ => he.symm, fun he => (he h.1 h.2).symm⟩
  · next h =>
    rw [Bool.and_eq_true, beq_iff_eq] at h
    exact ⟨fun _ hn hb => absurd ⟨hn, hb⟩ h, fun _ => BEq.refl f⟩

/-- What compiling puts in makes no difference exactly where no function passes for another. -/
theorem equals_recognized_iff (t : Ty) : t.recognized.equals true t = true ↔ t.Genuine := by
  refine Ty.recognized.induct (fun t => t.recognized.equals true t = true ↔ t.Genuine)
    (fun members => membersEqual true (membersRecognized members) members = true ↔
      MembersGenuine members)
    ?definition ?coercedSchema ?coercedArray ?decorated ?sum ?schema ?array ?map ?nil ?cons t
  case definition =>
    intro p m
    exact iff_of_true (equals_self true _) trivial
  case coercedSchema =>
    intro f policy transform members k l m ih
    rw [recognized, Genuine, ← ih, ← beq_recognize_iff]
    simp only [equals, Decorator.equals, singleton_beq, agree_self, beq_self_eq_true, Bool.true_and,
      Bool.and_eq_true]
  case coercedArray =>
    intro f item k l m ih
    rw [recognized, Genuine, ← ih, ← beq_recognize_iff]
    simp only [equals, Decorator.equals, singleton_beq, agree_self, Bool.true_and, Bool.and_eq_true]
  case decorated =>
    intro d inner m hs ha ih
    have hr : recognized (.decorated d inner m) = .decorated d inner.recognized m := by
      rw [recognized] <;> assumption
    have hg : Genuine (.decorated d inner m) = inner.Genuine := by
      rw [Genuine] <;> assumption
    rw [hr, hg, ← ih]
    simp only [equals, agree_self, d.equals_self, Bool.true_and]
  case sum =>
    intro left right m ihl ihr
    simp only [recognized, Genuine, equals, agree_self, Bool.true_and, Bool.and_eq_true, ihl, ihr]
  case schema =>
    intro policy transform members m ih
    simp only [recognized, Genuine, equals, agree_self, beq_self_eq_true, Bool.true_and, ih]
  case array =>
    intro item m ih
    simp only [recognized, Genuine, equals, agree_self, Bool.true_and, ih]
  case map =>
    intro key value m ihk ihv
    simp only [recognized, Genuine, equals, agree_self, Bool.true_and, Bool.and_eq_true, ihk, ihv]
  case nil => exact iff_of_true rfl trivial
  case cons =>
    intro name t rest ih ihs
    simp only [membersRecognized, MembersGenuine, membersEqual, Value.beq_self, Bool.true_and,
      Bool.and_eq_true, ih, ihs]

/-- **Types come back where they were taken apart**, whatever functions they have, exactly when none
of these passes for a built-in one. -/
theorem comes_back (P : Process) {t : Ty} (ht : t.InOrder) (hc : ∀ f ∈ t.coercions, P.coercions f)
    (hg : ∀ g ∈ t.generators, P.generators g) {fs : Functions} (hfs : P.Keeps fs)
    {types : TypeRegistry} (htypes : types.HoldsStandard) :
    ∃ u, (t.toNode true fs).1.compile ⟨types, (t.toNode true fs).2⟩ = .ok u ∧
      (u.equals true t = true ↔ t.Genuine) := by
  have hr : t.Rebuildable (.within P) :=
    ⟨ht, fun f hf => records_addCoercion P (hc f hf),
      fun g hg' => records_addGenerator P (hg g hg')⟩
  obtain ⟨hgood, -, hcompile⟩ := records_toNode (.within P) htypes t hr fs hfs
  exact ⟨t.recognized, hcompile _ hgood (Bookkeeping.refl _ _), t.equals_recognized_iff⟩

/-- A function with the name of a built-in one, alone on a schema, does not come back. -/
example : ¬ Genuine (.decorated .safe (.decorated (.constructor [⟨"fn_0", some "params.hash", .ok⟩])
    (.schema .schema .identity [] []) []) []) := by
  rintro ⟨h, -⟩
  exact absurd (h rfl rfl) (by decide)

end Ty

end Conform
