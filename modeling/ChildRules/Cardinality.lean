import ChildRules.Quantifier

/-!
# Cardinalities

How many children a pattern takes: a least number and, unless it is unbounded, a greatest. The
greatest may lie below the least in a range that was declared so; `WellFormed` tells. A run of
children is cut at the cap, which for an unbounded range is the largest count there is.
-/

namespace ChildRules

/-- The largest count, sixty-four bits all set, and so the longest list of children. -/
def countLimit : Nat :=
  0xFFFFFFFFFFFFFFFF

/-- A range of counts, both ends included. Without `max` it is unbounded. -/
structure Cardinality where
  min : Nat
  max : Option Nat
  deriving DecidableEq, Inhabited

namespace Cardinality

/-- Whether a count lies in the range. -/
def Admits (c : Cardinality) (count : Nat) : Prop :=
  c.min ≤ count ∧ ∀ max ∈ c.max, count ≤ max

instance (c : Cardinality) (count : Nat) : Decidable (c.Admits count) :=
  inferInstanceAs (Decidable (_ ∧ _))

/-- Whether the bounds are in order. -/
def WellFormed (c : Cardinality) : Prop :=
  ∀ max ∈ c.max, c.min ≤ max

instance (c : Cardinality) : Decidable c.WellFormed :=
  inferInstanceAs (Decidable (∀ max ∈ c.max, c.min ≤ max))

/-- Whether at most one child can be taken, so that a pattern gives one node and not a list. -/
def isSingle (c : Cardinality) : Bool :=
  c.max.any (· ≤ 1)

/-- The most children that a run can take. -/
def cap (c : Cardinality) : Nat :=
  c.max.getD countLimit

def quantifier (c : Cardinality) : Quantifier :=
  .ofBounds c.min c.max

end Cardinality

end ChildRules
