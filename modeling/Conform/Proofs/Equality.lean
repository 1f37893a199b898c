import Conform.Proofs.Contents
import Conform.Proofs.Order
import Conform.Ty.Equality

/-!
# Equality holds of a type and itself

Equality of types compares values by their order, functions by their address and patterns by their
source.  All three hold of a thing and itself, and so does the equality of types, with metadata or
without.
-/

namespace Conform

instance : ReflBEq Coercion := ⟨fun {f} => beq_self_eq_true f.address⟩

instance : ReflBEq Generator := ⟨fun {g} => beq_self_eq_true g.address⟩

instance : ReflBEq Operand where
  rfl {o} := by
    cases o with
    | value v => exact Value.beq_self v
    | pattern p => exact beq_self_eq_true p

theorem Predicate.equals_self (p : Predicate) : (p.equals p) = .true := by
  rw [Predicate.equals, beq_self_eq_true, Bool.true_and]
  exact BEq.refl p.operands

/-- Rules equal themselves, although patterns are compared by their sources. -/
theorem Rule.equals_self (rule : Rule) : rule.equals rule = true := by
  induction rule with
  | predicate p => exact p.equals_self
  | and left right ihl ihr => rw [equals, ihl, ihr, Bool.and_self]
  | or left right ihl ihr => rw [equals, ihl, ihr, Bool.and_self]

theorem pairsEqual_self (ps : List (Value × Value)) : pairsEqual ps ps = true := by
  induction ps with
  | nil => rfl
  | cons p ps ih =>
    obtain ⟨a, b⟩ := p
    rw [pairsEqual, Value.beq_self, Value.beq_self, ih, Bool.and_self, Bool.and_self]

theorem Metadata.equals_self (m : Metadata) : Metadata.equals m m = true := by
  induction m with
  | nil => rfl
  | cons e m ih =>
    obtain ⟨n, v⟩ := e
    rw [Metadata.equals, beq_self_eq_true, Value.beq_self, ih, Bool.and_self, Bool.and_self]

theorem Default.equals_self (d : Default) : d.equals d = true := by
  cases d with
  | fixed v => exact Value.beq_self v
  | drawn g => exact BEq.refl g

theorem Decorator.equals_self (d : Decorator) : d.equals d = true := by
  cases d with
  | constructor fns => exact BEq.refl fns
  | constrained rule => exact rule.equals_self
  | enumeration mapping => exact pairsEqual_self mapping
  | safe => rfl
  | default d => exact d.equals_self
  | maybe => rfl

namespace Ty

theorem agree_self (withMetadata : Bool) (m : Metadata) : agree withMetadata m m = true := by
  rw [agree, Metadata.equals_self, Bool.or_true]

/-- Members equal themselves if their types do. -/
theorem membersEqual_self {withMetadata : Bool} {members : List (Value × Ty)}
    (h : ∀ m ∈ members, m.2.equals withMetadata m.2 = true) :
    membersEqual withMetadata members members = true := by
  induction members with
  | nil => rfl
  | cons m rest ih =>
    obtain ⟨name, t⟩ := m
    rw [membersEqual, Value.beq_self, h _ List.mem_cons_self,
      ih fun m hm => h m (List.mem_cons_of_mem _ hm), Bool.and_self, Bool.and_self]

/-- **A type equals itself**, metadata included. -/
theorem equals_self (withMetadata : Bool) (t : Ty) : t.equals withMetadata t = true := by
  induction t with
  | definition p m => simp only [equals, agree_self, beq_self_eq_true, Bool.and_self]
  | decorated d inner m ih => simp only [equals, agree_self, d.equals_self, ih, Bool.and_self]
  | sum left right m ihl ihr => simp only [equals, agree_self, ihl, ihr, Bool.and_self]
  | schema policy transform members m ih =>
    simp only [equals, agree_self, beq_self_eq_true, membersEqual_self ih, Bool.and_self]
  | array item m ih => simp only [equals, agree_self, ih, Bool.and_self]
  | map key value m ihk ihv => simp only [equals, agree_self, ihk, ihv, Bool.and_self]

end Ty

end Conform
