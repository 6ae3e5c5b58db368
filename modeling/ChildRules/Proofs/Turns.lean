import Mathlib.Algebra.Order.Ring.Nat
import ChildRules.Proofs.Runs

/-!
# The turns of a match

A match is its turns: each pattern with the position at which it has its turn. What a lenient match
notes and finds is read off that list, one turn after the other, and what is left over off the
position after the last. The positions are those of one walk over the children: a position that is
reached has gone by as many children as its cursor says, and the rest of them are still to come.
-/

namespace ChildRules

/-- A pattern with the position at which it has its turn. -/
structure Turn where
  before : Position
  pattern : Pattern

namespace Turn

/-- The children taken in a turn. -/
def taken (t : Turn) : List Node :=
  t.pattern.run t.before.rest

def event (t : Turn) : Event :=
  t.before.turn t.pattern

def mismatch? (t : Turn) (owner : String) : Option Violation :=
  t.before.mismatch? t.pattern owner

/-- What a lenient match notes in a turn. -/
def noted (t : Turn) (owner : String) : List Event :=
  t.event :: Matching.tolerate (t.mismatch? owner)

def result (t : Turn) (parent : Parent) : Result Mapped :=
  t.pattern.result parent t.before

/-- The mismatch of a turn with too few children. -/
def shortage (t : Turn) (owner : String) : CountMismatch :=
  t.before.shortage t.pattern owner

theorem nodes_result (t : Turn) (parent : Parent) :
    (t.result parent).nodes = t.taken.map (t.pattern.project parent) :=
  t.pattern.nodes_result parent t.before

theorem length_nodes_result (t : Turn) (parent : Parent) :
    (t.result parent).nodes.length = t.taken.length := by
  rw [nodes_result, List.length_map]

theorem mismatch?_of_admits {t : Turn} (h : t.pattern.cardinality.Admits t.taken.length)
    (owner : String) : t.mismatch? owner = none :=
  Position.mismatch?_eq_none_iff.mpr h.1

theorem mismatch?_of_not_admits {t : Turn} (h : ¬ t.pattern.cardinality.Admits t.taken.length)
    (owner : String) : t.mismatch? owner = some (.countMismatch (t.shortage owner)) := by
  rw [mismatch?, Position.mismatch?_eq, if_neg]
  · rfl
  · rwa [taken, Pattern.admits_run_iff] at h

/-- The turns that are out of range, each with its mismatch. -/
theorem filterMap_mismatch? (ts : List Turn) (owner : String) :
    ts.filterMap (·.mismatch? owner) =
      (ts.filter fun t => ¬ t.pattern.cardinality.Admits t.taken.length).map
        (.countMismatch <| ·.shortage owner) := by
  induction ts with
  | nil => rfl
  | cons t ts ih =>
    by_cases h : t.pattern.cardinality.Admits t.taken.length
    · simp [mismatch?_of_admits h, h, ih]
    · simp [mismatch?_of_not_admits h, h, ih]

end Turn

namespace Position

/-- The turns of patterns that have them one after the other. -/
def turns (pos : Position) : List Pattern → List Turn
  | [] => []
  | p :: ps => ⟨pos, p⟩ :: (pos.after p).turns ps

/-- How many children each pattern takes. -/
def counts (pos : Position) (ps : List Pattern) : List Nat :=
  (pos.turns ps).map (·.taken.length)

/-! ## The list of turns -/

@[simp] theorem afterAll_nil (pos : Position) : pos.afterAll [] = pos := rfl

@[simp] theorem afterAll_cons (pos : Position) (p : Pattern) (ps : List Pattern) :
    pos.afterAll (p :: ps) = (pos.after p).afterAll ps := rfl

@[simp] theorem turns_nil (pos : Position) : pos.turns [] = [] := rfl

@[simp] theorem turns_cons (pos : Position) (p : Pattern) (ps : List Pattern) :
    pos.turns (p :: ps) = ⟨pos, p⟩ :: (pos.after p).turns ps := rfl

@[simp] theorem counts_nil (pos : Position) : pos.counts [] = [] := rfl

@[simp] theorem counts_cons (pos : Position) (p : Pattern) (ps : List Pattern) :
    pos.counts (p :: ps) = (p.run pos.rest).length :: (pos.after p).counts ps := rfl

theorem map_pattern_turns (pos : Position) (ps : List Pattern) :
    (pos.turns ps).map Turn.pattern = ps := by
  induction ps generalizing pos with
  | nil => rfl
  | cons p ps ih => simp [ih]

theorem length_turns (pos : Position) (ps : List Pattern) : (pos.turns ps).length = ps.length := by
  rw [← List.length_map Turn.pattern, map_pattern_turns]

theorem afterAll_append (pos : Position) (ps qs : List Pattern) :
    pos.afterAll (ps ++ qs) = (pos.afterAll ps).afterAll qs :=
  List.foldl_append

theorem turns_append (pos : Position) (ps qs : List Pattern) :
    pos.turns (ps ++ qs) = pos.turns ps ++ (pos.afterAll ps).turns qs := by
  induction ps generalizing pos with
  | nil => rfl
  | cons p ps ih => exact congrArg (Turn.mk pos p :: ·) (ih (pos.after p))

theorem turns_take (pos : Position) (ps : List Pattern) (n : Nat) :
    pos.turns (ps.take n) = (pos.turns ps).take n := by
  induction ps generalizing pos n with
  | nil => simp
  | cons p ps ih =>
    cases n with
    | zero => rfl
    | succ n => exact congrArg (Turn.mk pos p :: ·) (ih (pos.after p) n)

theorem turns_drop (pos : Position) (ps : List Pattern) (n : Nat) :
    (pos.turns ps).drop n = (pos.afterAll (ps.take n)).turns (ps.drop n) := by
  induction ps generalizing pos n with
  | nil => simp
  | cons p ps ih =>
    cases n with
    | zero => rfl
    | succ n => exact ih (pos.after p) n

theorem getElem?_turns {pos : Position} {ps : List Pattern} {i : Nat} {t : Turn}
    (h : (pos.turns ps)[i]? = some t) :
    ps[i]? = some t.pattern ∧ t.before = pos.afterAll (ps.take i) ∧
      t.before.after t.pattern = pos.afterAll (ps.take (i + 1)) := by
  induction ps generalizing pos i with
  | nil => cases h
  | cons p ps ih =>
    cases i with
    | zero =>
      cases h
      exact ⟨rfl, rfl, rfl⟩
    | succ i => exact ih h

theorem turns_eq_append_cons {pos : Position} {ps : List Pattern} {ts us : List Turn} {t : Turn}
    (h : pos.turns ps = ts ++ t :: us) :
    ∃ before later, ps = before ++ t.pattern :: later ∧ ts = pos.turns before ∧
      t.before = pos.afterAll before := by
  induction ts generalizing pos ps with
  | nil =>
    cases ps with
    | nil => cases h
    | cons p ps =>
      cases h
      exact ⟨[], ps, rfl, rfl, rfl⟩
  | cons t' ts ih =>
    cases ps with
    | nil => cases h
    | cons p ps =>
      rw [turns_cons, List.cons_append, List.cons_eq_cons] at h
      obtain ⟨rfl, h⟩ := h
      obtain ⟨before, later, rfl, rfl, hbefore⟩ := ih h
      exact ⟨p :: before, later, rfl, rfl, hbefore⟩

/-! ## One walk over the children -/

theorem rest_after (pos : Position) (p : Pattern) :
    (pos.after p).rest = pos.rest.drop (p.run pos.rest).length := rfl

theorem cursor_after (pos : Position) (p : Pattern) :
    (pos.after p).cursor = pos.cursor + (p.run pos.rest).length := rfl

theorem rest_afterAll (pos : Position) (ps : List Pattern) :
    (pos.afterAll ps).rest = pos.rest.drop (pos.counts ps).sum := by
  induction ps generalizing pos with
  | nil => rfl
  | cons p ps ih => rw [afterAll_cons, ih, rest_after, List.drop_drop, counts_cons, List.sum_cons]

theorem cursor_afterAll (pos : Position) (ps : List Pattern) :
    (pos.afterAll ps).cursor = pos.cursor + (pos.counts ps).sum := by
  induction ps generalizing pos with
  | nil => rfl
  | cons p ps ih =>
    rw [afterAll_cons, ih, cursor_after, counts_cons, List.sum_cons, Nat.add_assoc]

theorem length_rest_after_le (pos : Position) (p : Pattern) :
    (pos.after p).rest.length ≤ pos.rest.length := by
  rw [rest_after, List.length_drop]
  exact Nat.sub_le ..

theorem length_rest_afterAll_le (pos : Position) (ps : List Pattern) :
    (pos.afterAll ps).rest.length ≤ pos.rest.length := by
  rw [rest_afterAll, List.length_drop]
  exact Nat.sub_le ..

theorem total_afterAll (pos : Position) (ps : List Pattern) :
    (pos.afterAll ps).total = pos.total := by
  induction ps generalizing pos with
  | nil => rfl
  | cons p ps ih => rw [afterAll_cons, ih, total_after]

/-- A position that a walk over `children` reaches. -/
structure On (pos : Position) (children : List Node) : Prop where
  cursor_le : pos.cursor ≤ children.length
  rest_eq : pos.rest = children.drop pos.cursor

theorem on_start (children : List Node) : (start children).On children :=
  ⟨Nat.zero_le _, rfl⟩

theorem On.after {pos : Position} {children : List Node} (h : pos.On children) (p : Pattern) :
    (pos.after p).On children where
  cursor_le := by
    have hrun := p.length_run_le pos.rest
    have hcursor := h.cursor_le
    rw [h.rest_eq, List.length_drop, ← h.rest_eq] at hrun
    rw [cursor_after]
    omega
  rest_eq := by rw [rest_after, cursor_after, h.rest_eq, List.drop_drop]

theorem On.afterAll {pos : Position} {children : List Node} (h : pos.On children)
    (ps : List Pattern) : (pos.afterAll ps).On children := by
  induction ps generalizing pos with
  | nil => exact h
  | cons p ps ih => exact ih (h.after p)

end Position

/-! ## What a lenient match notes and finds -/

/-- The violations of a match, in order. -/
def Report.violations {α : Type} (r : Report α) : List Violation :=
  r.events.filterMap Event.violation?

theorem Report.mem_violations {α : Type} {r : Report α} {v : Violation} :
    v ∈ r.violations ↔ ∃ tolerated, .violation v tolerated ∈ r.events := by
  rw [violations, List.mem_filterMap]
  constructor
  · rintro ⟨e, hmem, he⟩
    cases e with
    | turn types start taken => cases he
    | violation w tolerated =>
      cases he
      exact ⟨tolerated, hmem⟩
  · rintro ⟨tolerated, hmem⟩
    exact ⟨_, hmem, rfl⟩

namespace Matching

theorem lenient_cons (parent : Parent) (p : Pattern) (ps : List Pattern) (pos : Position) :
    lenient parent (p :: ps) pos =
      ((lenient parent ps (pos.after p)).map (p.result parent pos :: ·)).precededBy
        (pos.turn p :: tolerate (pos.mismatch? p parent.name)) := rfl

theorem outcome_lenient (parent : Parent) (ps : List Pattern) (pos : Position) :
    (lenient parent ps pos).outcome = (pos.turns ps).map (·.result parent) := by
  induction ps generalizing pos with
  | nil => rfl
  | cons p ps ih =>
    show p.result parent pos :: (lenient parent ps (pos.after p)).outcome = _
    rw [ih]
    rfl

theorem events_lenient (parent : Parent) (ps : List Pattern) (pos : Position) :
    (lenient parent ps pos).events =
      (pos.turns ps).flatMap (·.noted parent.name) ++
        tolerate ((pos.afterAll ps).leftover? parent.name) := by
  induction ps generalizing pos with
  | nil => rfl
  | cons p ps ih =>
    show (pos.turn p :: tolerate (pos.mismatch? p parent.name)) ++
      (lenient parent ps (pos.after p)).events = _
    rw [ih, ← List.append_assoc]
    rfl

theorem filter_tolerate (violation? : Option Violation) :
    (tolerate violation?).filter (·.violation?.isNone) = [] := by
  cases violation? <;> rfl

theorem filterMap_tolerate (violation? : Option Violation) :
    (tolerate violation?).filterMap Event.violation? = violation?.toList := by
  cases violation? <;> rfl

end Matching

namespace Turn

theorem filter_flatMap_noted (ts : List Turn) (owner : String) :
    (ts.flatMap (·.noted owner)).filter (·.violation?.isNone) = ts.map event := by
  induction ts with
  | nil => rfl
  | cons t ts ih =>
    rw [List.flatMap_cons, List.filter_append, noted, List.filter_cons_of_pos rfl,
      Matching.filter_tolerate, ih]
    rfl

theorem filterMap_flatMap_noted (ts : List Turn) (owner : String) :
    (ts.flatMap (·.noted owner)).filterMap Event.violation? =
      ts.filterMap (·.mismatch? owner) := by
  induction ts with
  | nil => rfl
  | cons t ts ih =>
    rw [List.flatMap_cons, List.filterMap_append, ih, noted, List.filterMap_cons_none rfl,
      Matching.filterMap_tolerate]
    cases h : t.mismatch? owner with
    | none => simp [h]
    | some v => simp [h]

end Turn

namespace Matching

/-- What is noted beside the violations is the turns. -/
theorem turn_events_lenient (parent : Parent) (ps : List Pattern) (pos : Position) :
    (lenient parent ps pos).events.filter (·.violation?.isNone) =
      (pos.turns ps).map Turn.event := by
  rw [events_lenient, List.filter_append, filter_tolerate, List.append_nil,
    Turn.filter_flatMap_noted]

/-- The violations are those of the turns, and then the children that are left over. -/
theorem violations_lenient (parent : Parent) (ps : List Pattern) (pos : Position) :
    (lenient parent ps pos).violations =
      (pos.turns ps).filterMap (·.mismatch? parent.name) ++
        ((pos.afterAll ps).leftover? parent.name).toList := by
  rw [Report.violations, events_lenient, List.filterMap_append, filterMap_tolerate,
    Turn.filterMap_flatMap_noted]

end Matching

end ChildRules
