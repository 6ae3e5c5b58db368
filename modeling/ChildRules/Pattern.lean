import ChildRules.Cardinality
import ChildRules.Mapper
import ChildRules.Shape
import ChildRules.Violation

/-!
# Patterns

A pattern declares one stretch of the children: the shapes it takes, how many of them, and what to
do with each. A pattern list is patterns in the order in which they take their turns, each of which
takes some shape and has its bounds in order. A list is made of patterns by looking for the first
that is at fault.
-/

namespace ChildRules

/-- One stretch of the children, as a component declares it. -/
structure Pattern where
  shapes : List Shape
  cardinality : Cardinality
  mapper : Option Mapper

namespace Pattern

/-- A pattern that reports its children as they are. -/
def ofRange (shapes : List Shape) (min : Nat) (max : Option Nat) : Pattern :=
  ⟨shapes, ⟨min, max⟩, none⟩

def zeroOrOne (shapes : List Shape) : Pattern :=
  ofRange shapes 0 (some 1)

def zeroOrMore (shapes : List Shape) : Pattern :=
  ofRange shapes 0 none

def one (shapes : List Shape) : Pattern :=
  ofRange shapes 1 (some 1)

def oneOrMore (shapes : List Shape) : Pattern :=
  ofRange shapes 1 none

def exactly (n : Nat) (shapes : List Shape) : Pattern :=
  ofRange shapes n (some n)

def atLeast (n : Nat) (shapes : List Shape) : Pattern :=
  ofRange shapes n none

def atMost (n : Nat) (shapes : List Shape) : Pattern :=
  ofRange shapes 0 (some n)

def between (low high : Nat) (shapes : List Shape) : Pattern :=
  ofRange shapes low (some high)

/-- The pattern with another mapper in place of the one it has. -/
def withMapper (p : Pattern) (mapper : Mapper) : Pattern :=
  { p with mapper := some mapper }

def accepts (p : Pattern) (node : Node) : Bool :=
  Shape.anyAccepts p.shapes node

def names (p : Pattern) : List String :=
  p.shapes.map Shape.name

/-- The shapes as a message lists them. -/
def typeList (p : Pattern) : String :=
  Shape.listing p.names

/-- Whether the pattern takes some shape and has its bounds in order. -/
def WellFormed (p : Pattern) : Prop :=
  p.shapes ≠ [] ∧ p.cardinality.WellFormed

/-- What is wrong with the pattern at a position. Having no shapes comes first. -/
def fault? (p : Pattern) (index : Nat) : Option PatternFault :=
  if p.shapes.isEmpty then some (.noShapes index)
  else
    match p.cardinality.max with
    | none => none
    | some max =>
      if p.cardinality.min ≤ max then none
      else some (.invertedBounds index p.cardinality.min max)

/-- The fault of the first pattern that has one, the list starting at a position. -/
def firstFault? (index : Nat) : List Pattern → Option PatternFault
  | [] => none
  | p :: ps =>
    match p.fault? index with
    | some fault => some fault
    | none => firstFault? (index + 1) ps

/-- A pattern is well formed exactly when nothing is wrong with it. -/
theorem fault?_eq_none_iff (p : Pattern) (index : Nat) :
    p.fault? index = none ↔ p.WellFormed := by
  unfold fault? WellFormed Cardinality.WellFormed
  cases hs : p.shapes <;> cases hm : p.cardinality.max <;> simp

theorem firstFault?_eq_none_iff (index : Nat) (ps : List Pattern) :
    firstFault? index ps = none ↔ ∀ p ∈ ps, p.WellFormed := by
  induction ps generalizing index with
  | nil => simp [firstFault?]
  | cons p ps ih =>
    rw [firstFault?, List.forall_mem_cons, ← fault?_eq_none_iff p index, ← ih (index + 1)]
    cases p.fault? index <;> simp

end Pattern

/-- Well-formed patterns in the order of their turns. -/
structure PatternList where
  toList : List Pattern
  wellFormed : ∀ p ∈ toList, p.WellFormed

namespace PatternList

/-- The list of the patterns, or the fault of the first that has one. -/
def ofList (ps : List Pattern) : Except PatternFault PatternList :=
  match h : Pattern.firstFault? 0 ps with
  | some fault => .error fault
  | none => .ok ⟨ps, (Pattern.firstFault?_eq_none_iff 0 ps).mp h⟩

/-- Making a list succeeds exactly with a list of the patterns that were given. -/
theorem ofList_eq_ok_iff {ps : List Pattern} {list : PatternList} :
    ofList ps = .ok list ↔ list.toList = ps := by
  unfold ofList
  split
  · next fault hfault =>
    constructor
    · intro h
      cases h
    · rintro rfl
      rw [(Pattern.firstFault?_eq_none_iff 0 _).mpr list.wellFormed] at hfault
      cases hfault
  · obtain ⟨toList, wellFormed⟩ := list
    simp [eq_comm]

def size (ps : PatternList) : Nat :=
  ps.toList.length

def isEmpty (ps : PatternList) : Bool :=
  ps.toList.isEmpty

def get? (ps : PatternList) (index : Nat) : Option Pattern :=
  ps.toList[index]?

end PatternList

end ChildRules
