import Conform.Ty.Basic

/-!
# Equality of types

Types are equal when they have the same form, equal values and rules and the same functions.

* `Ty.equals` — with or without regard to metadata.
* `==` — without.
-/

namespace Conform

/-- Pairs of values are equal when their parts are. -/
def pairsEqual : List (Value × Value) → List (Value × Value) → Bool
  | [], [] => true
  | (a, b) :: ps, (c, d) :: qs => a == c && b == d && pairsEqual ps qs
  | _, _ => false

/-- Metadata is equal when it has the same names and equal values. -/
def Metadata.equals : Metadata → Metadata → Bool
  | [], [] => true
  | (n, v) :: m, (o, w) :: k => n == o && v == w && Metadata.equals m k
  | _, _ => false

/-- Decorators are equal when they are of one kind with equal contents. -/
def Decorator.equals : Decorator → Decorator → Bool
  | .constructor fs, .constructor gs => fs == gs
  | .constrained r, .constrained s => r == s
  | .enumeration ps, .enumeration qs => pairsEqual ps qs
  | .safe, .safe => true
  | .default d, .default e => d == e
  | .maybe, .maybe => true
  | _, _ => false

namespace Ty

/-- Whether metadata makes no difference, being left out of the comparison or equal. -/
def agree (withMetadata : Bool) (m k : Metadata) : Bool :=
  !withMetadata || Metadata.equals m k

mutual

/-- Whether two types are equal, their metadata included if asked. -/
def equals (withMetadata : Bool) : Ty → Ty → Bool
  | .definition p m, .definition q k => agree withMetadata m k && p == q
  | .decorated d s m, .decorated e t k =>
    agree withMetadata m k && d.equals e && s.equals withMetadata t
  | .sum a b m, .sum c d k =>
    agree withMetadata m k && a.equals withMetadata c && b.equals withMetadata d
  | .schema p f as m, .schema q g bs k =>
    agree withMetadata m k && p == q && f == g && membersEqual withMetadata as bs
  | .array s m, .array t k => agree withMetadata m k && s.equals withMetadata t
  | .map a b m, .map c d k =>
    agree withMetadata m k && a.equals withMetadata c && b.equals withMetadata d
  | _, _ => false

/-- Whether two lists of members have equal names and types in the same order. -/
def membersEqual (withMetadata : Bool) : List (Value × Ty) → List (Value × Ty) → Bool
  | [], [] => true
  | (n, s) :: as, (o, t) :: bs =>
    n == o && s.equals withMetadata t && membersEqual withMetadata as bs
  | _, _ => false

end

instance : BEq Ty := ⟨equals false⟩

end Ty

end Conform
