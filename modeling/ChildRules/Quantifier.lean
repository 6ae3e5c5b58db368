/-!
# Quantifiers

A quantifier is how a message words a range of counts. Which wording a range gets depends on its
bounds alone, and the first that fits is taken: equal bounds are an exact count, even when both are
zero; no upper bound leaves a least count; a lower bound of zero leaves a greatest count. What a
wording allows is said beside its text, independently of the range that it came from.
-/

namespace ChildRules

/-- A range of counts as a message words it. -/
inductive Quantifier where
  | exactly (n : Nat)
  | atLeast (n : Nat)
  | atMost (n : Nat)
  | between (low high : Nat)
  deriving DecidableEq, Inhabited

namespace Quantifier

/-- The wording for the counts from `min` to `max`, or from `min` on. -/
def ofBounds (min : Nat) : Option Nat → Quantifier
  | none => .atLeast min
  | some max =>
    if max = min then .exactly min
    else if min = 0 then .atMost max
    else .between min max

/-- The counts that a wording allows, read as it is said. -/
def Allows : Quantifier → Nat → Prop
  | .exactly n, count => count = n
  | .atLeast n, count => n ≤ count
  | .atMost n, count => count ≤ n
  | .between low high, count => low ≤ count ∧ count ≤ high

def text : Quantifier → String
  | .exactly n => toString n
  | .atLeast n => "at least " ++ toString n
  | .atMost n => "at most " ++ toString n
  | .between low high => "between [" ++ toString low ++ ", " ++ toString high ++ "]"

end Quantifier

end ChildRules
