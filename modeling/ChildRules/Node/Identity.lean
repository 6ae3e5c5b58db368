/-!
# Identities

Two things that look alike can still be two things. An identity tells them apart: a supply hands
each one out once, so things share an identity exactly when one is a copy of the other.
-/

namespace ChildRules

/-- What distinguishes a thing from all others, copies of it apart. -/
structure Identity where
  serial : Nat
  deriving DecidableEq, Inhabited

/-- Where identities come from: all below `next` have been handed out. -/
structure Supply where
  next : Nat
  deriving DecidableEq, Inhabited

namespace Supply

def full : Supply :=
  ⟨0⟩

/-- Hands out an identity that was never handed out before. -/
def fresh : StateM Supply Identity :=
  fun s => (⟨s.next⟩, ⟨s.next + 1⟩)

def Issued (s : Supply) (i : Identity) : Prop :=
  i.serial < s.next

end Supply

end ChildRules
