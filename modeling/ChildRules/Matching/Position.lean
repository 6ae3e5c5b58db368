import ChildRules.Matching.Result
import ChildRules.Pattern

/-!
# Turns

Patterns take turns at the children. A position says how many children are gone and which are
still to come. A pattern's turn takes a run: of the children to come the longest stretch at the head
that it accepts, cut at its cap. The run is never given back, so the position after a turn depends
on the pattern and the position before it, and on nothing else.

A pattern whose run is out of its range is a violation, and so are children that are left at the
end.
-/

namespace ChildRules

/-- How many children are gone, and those that are still to come. -/
structure Position where
  cursor : Nat
  rest : List Node
  deriving Inhabited

/-- What a parent brings to a match of its children. -/
structure Parent where
  /-- The name that messages give it. -/
  name : String
  /-- What mappers get beside the child. -/
  context : Props
  appliesMappers : Bool
  deriving Inhabited

namespace Pattern

/-- The children that the pattern takes when these are to come. -/
def run (p : Pattern) (rest : List Node) : List Node :=
  (rest.take p.cardinality.cap).takeWhile p.accepts

theorem run_append_drop (p : Pattern) (rest : List Node) :
    p.run rest ++ rest.drop (p.run rest).length = rest := by
  obtain ⟨later, split⟩ :=
    (List.takeWhile_prefix p.accepts).trans (List.take_prefix p.cardinality.cap rest)
  have split : p.run rest ++ later = rest := split
  have same := congrArg (List.drop (p.run rest).length) split
  rw [List.drop_left] at same
  rw [← same, split]

theorem accepts_of_mem_run {p : Pattern} {rest : List Node} {node : Node}
    (mem : node ∈ p.run rest) : p.accepts node = true :=
  List.all_eq_true.mp List.all_takeWhile node mem

theorem length_run_le_cap (p : Pattern) (rest : List Node) :
    (p.run rest).length ≤ p.cardinality.cap :=
  Nat.le_trans (List.takeWhile_prefix p.accepts).length_le (List.length_take_le ..)

/-- A run ends at its cap, at the end of the children, or at a child that the pattern rejects. -/
theorem run_stops (p : Pattern) (rest : List Node) :
    (p.run rest).length = p.cardinality.cap ∨
      ∀ node ∈ (rest.drop (p.run rest).length).head?, p.accepts node = false := by
  unfold run
  induction p.cardinality.cap generalizing rest with
  | zero => exact .inl rfl
  | succ cap ih =>
    cases rest with
    | nil => exact .inr (by simp)
    | cons node rest =>
      cases h : p.accepts node with
      | false => exact .inr (by simp [h])
      | true =>
        rw [List.take_succ_cons, List.takeWhile_cons_of_pos h, List.length_cons,
          List.drop_succ_cons, Nat.succ_inj]
        exact ih rest

/-- What the pattern reports of a child that it took. -/
def project (p : Pattern) (parent : Parent) (node : Node) : Mapped :=
  match p.mapper with
  | some mapper => if parent.appliesMappers then mapper node parent.context else .existing node
  | none => .existing node

def result (p : Pattern) (parent : Parent) (pos : Position) : Result Mapped :=
  .ofNodes p.cardinality.isSingle ((p.run pos.rest).map (p.project parent))

end Pattern

namespace Position

def start (children : List Node) : Position :=
  ⟨0, children⟩

def after (pos : Position) (p : Pattern) : Position :=
  let taken := (p.run pos.rest).length
  ⟨pos.cursor + taken, pos.rest.drop taken⟩

def afterAll (pos : Position) (ps : List Pattern) : Position :=
  ps.foldl after pos

/-- The number of all children, gone and to come. -/
def total (pos : Position) : Nat :=
  pos.cursor + pos.rest.length

/-- No child is lost in a turn. -/
theorem run_append_after (pos : Position) (p : Pattern) :
    p.run pos.rest ++ (pos.after p).rest = pos.rest :=
  p.run_append_drop pos.rest

/-- A turn keeps the number of all children. -/
@[simp] theorem total_after (pos : Position) (p : Pattern) : (pos.after p).total = pos.total := by
  have split := congrArg List.length (pos.run_append_after p)
  rw [List.length_append] at split
  rw [total, total, ← split, ← Nat.add_assoc]
  rfl

/-- What is wrong with a pattern's turn: its run is out of its range. The child that ended the run,
if one did, is the first that is still to come after it. -/
def mismatch? (pos : Position) (p : Pattern) (owner : String) : Option Violation :=
  let received := (p.run pos.rest).length
  if p.cardinality.Admits received then none
  else
    some <| .countMismatch
      { direction := if received < p.cardinality.min then .tooFew else .tooMany
        types := p.typeList
        owner := owner
        expected := p.cardinality.quantifier
        received := received
        failedOn := (pos.after p).rest.head?.map (·.toElement.markup) }

/-- What is wrong when no pattern is left to take its turn: children are. -/
def leftover? (pos : Position) (owner : String) : Option Violation :=
  if pos.rest.isEmpty then none
  else some <| .unmatchedChildren { owner := owner, matched := pos.cursor, total := pos.total }

end Position

end ChildRules
