import Mathlib.Data.List.Forall2
import ChildRules.Proofs.Growth

/-!
# Reports in other words

A violation takes over texts: the list of a pattern's shapes, the name of the owner, and the markup
of the child that ended a run. What a match does depends on none of them. So they can be told in
other words, or left out, before a match is cut at its first violation as well as after, and two
matches that note the same turn by turn, in such words, note the same.
-/

namespace ChildRules

/-! ## Turns side by side -/

theorem map_eq_of_forall₂ {α β γ : Type} {R : α → β → Prop} {f : α → γ} {g : β → γ}
    {xs : List α} {ys : List β} (h : List.Forall₂ R xs ys) (hfg : ∀ x y, R x y → f x = g y) :
    xs.map f = ys.map g := by
  induction h with
  | nil => rfl
  | cons hxy _ ih => rw [List.map_cons, List.map_cons, hfg _ _ hxy, ih]

/-- Two turns at one position, of patterns that stand in a relation, in which the same children are
taken. -/
structure Turn.Paired (R : Pattern → Pattern → Prop) (t u : Turn) : Prop where
  before : t.before = u.before
  taken : t.taken = u.taken
  patterns : R t.pattern u.pattern

namespace Turn.Paired

variable {R : Pattern → Pattern → Prop} {t u : Turn}

theorem after_eq (h : Paired R t u) : t.before.after t.pattern = u.before.after u.pattern := by
  have htaken : t.pattern.run t.before.rest = u.pattern.run u.before.rest := h.taken
  rw [Position.after, Position.after, htaken, h.before]

theorem event_eq (h : Paired R t u) (htypes : t.pattern.typeList = u.pattern.typeList) :
    t.event = u.event := by
  show Event.turn _ _ t.taken.length = .turn _ _ u.taken.length
  rw [htypes, h.before, h.taken]

/-- The same child ends both runs. -/
theorem failedOn_eq (h : Paired R t u) (owner other : String) :
    (t.shortage owner).failedOn = (u.shortage other).failedOn :=
  congrArg (·.rest.head?.map (·.toElement.markup)) h.after_eq

theorem result_eq (h : Paired R t u) {parent : Parent}
    (hsingle : t.pattern.cardinality.isSingle = u.pattern.cardinality.isSingle)
    (hproject : t.pattern.project parent = u.pattern.project parent) :
    t.result parent = u.result parent := by
  show Result.ofNodes _ (t.taken.map _) = .ofNodes _ (u.taken.map _)
  rw [h.taken, hsingle, hproject]

end Turn.Paired

/-- Patterns that take the same of so few children have their turns side by side. -/
theorem Position.paired_turns {R : Pattern → Pattern → Prop} {n : Nat}
    (hrun : ∀ (p q : Pattern) (rest : List Node), R p q → rest.length ≤ n →
      p.run rest = q.run rest)
    {ps qs : List Pattern} (h : List.Forall₂ R ps qs) {pos : Position}
    (hlength : pos.rest.length ≤ n) :
    List.Forall₂ (Turn.Paired R) (pos.turns ps) (pos.turns qs) ∧
      pos.afterAll ps = pos.afterAll qs := by
  induction h generalizing pos with
  | nil => exact ⟨.nil, rfl⟩
  | @cons p q ps qs hpq _ ih =>
    have hturn : Turn.Paired R ⟨pos, p⟩ ⟨pos, q⟩ := ⟨rfl, hrun p q pos.rest hpq hlength, hpq⟩
    have hafter : pos.after p = pos.after q := hturn.after_eq
    have hlater : (pos.after q).rest.length ≤ n :=
      Nat.le_trans (length_rest_after_le ..) hlength
    obtain ⟨hturns, hfinal⟩ := ih hlater
    rw [turns_cons, turns_cons, afterAll_cons, afterAll_cons, hafter]
    exact ⟨.cons hturn hturns, hfinal⟩

/-! ## Events told differently -/

/-- To tell events by `g` is to tell violations by `f`, and mismatches by `c`. Nothing becomes what
it was not. -/
structure Event.Retells (g : Event → Event) (f : Violation → Violation)
    (c : CountMismatch → CountMismatch) : Prop where
  turn (types : String) (start taken : Nat) :
    ∃ types', g (.turn types start taken) = .turn types' start taken
  violation (v : Violation) (tolerated : Bool) :
    g (.violation v tolerated) = .violation (f v) tolerated
  countMismatch (v : CountMismatch) : f (.countMismatch v) = .countMismatch (c v)
  unmatchedChildren (u : UnmatchedChildren) :
    ∃ u', f (.unmatchedChildren u) = .unmatchedChildren u'

namespace Event.Retells

variable {g : Event → Event} {f : Violation → Violation} {c : CountMismatch → CountMismatch}

theorem violation?_eq (h : Retells g f c) (e : Event) : (g e).violation? = e.violation?.map f := by
  cases e with
  | turn types start taken =>
    obtain ⟨types', hturn⟩ := h.turn types start taken
    rw [hturn]
    rfl
  | violation v tolerated => rw [h.violation, violation?, violation?, Option.map_some]

theorem mismatch?_eq (h : Retells g f c) (e : Event) : (g e).mismatch? = e.mismatch?.map c := by
  rcases e with ⟨types, start, taken⟩ | ⟨v | u, tolerated⟩
  · obtain ⟨types', hturn⟩ := h.turn types start taken
    rw [hturn]
    rfl
  · rw [h.violation, h.countMismatch]
    rfl
  · obtain ⟨u', hunmatched⟩ := h.unmatchedChildren u
    rw [h.violation, hunmatched]
    rfl

/-- Each pattern has its mismatch, told differently. -/
theorem mismatchAt?_map (h : Retells g f c) (events : List Event) (k : Nat) :
    mismatchAt? (events.map g) k = (mismatchAt? events k).map c := by
  induction events generalizing k with
  | nil => rfl
  | cons e events ih =>
    cases e with
    | violation v tolerated =>
      rw [List.map_cons, h.violation]
      exact ih k
    | turn types start taken =>
      obtain ⟨types', hturn⟩ := h.turn types start taken
      rw [List.map_cons, hturn]
      cases k with
      | zero =>
        show (events.map g).head?.bind mismatch? = (events.head?.bind mismatch?).map c
        cases events with
        | nil => rfl
        | cons e' events => exact h.mismatch?_eq e'
      | succ k => exact ih k

theorem violations_eq (h : Retells g f c) {α : Type} (r : Report α) :
    (Report.mk (r.events.map g) r.outcome).violations = r.violations.map f := by
  rw [Report.violations, Report.violations, List.filterMap_map, List.map_filterMap]
  exact congrArg (List.filterMap · r.events) (funext h.violation?_eq)

/-- However events are told, a match is cut at the same violation. -/
theorem cut (h : Retells g f c) {α : Type} (r : Report α) :
    (⟨r.cut.events.map g, r.cut.outcome.mapError f⟩ : Report (Except Violation α)) =
      (Report.mk (r.events.map g) r.outcome).cut := by
  have hquiet : (fun e : Event => e.violation?.isNone) ∘ g = fun e => e.violation?.isNone := by
    funext e
    simp [h.violation?_eq]
  cases hhead : r.violations.head? with
  | none =>
    have hnil := List.head?_eq_none_iff.mp hhead
    rw [Report.cut_of_no_violation hnil,
      Report.cut_of_no_violation (by rw [h.violations_eq, hnil]; rfl)]
    rfl
  | some v =>
    have hfirst : (Report.mk (r.events.map g) r.outcome).violations.head? = some (f v) := by
      rw [h.violations_eq, List.head?_map, hhead]
      rfl
    rw [Report.cut_of_violation hhead, Report.cut_of_violation hfirst, List.takeWhile_map, hquiet,
      List.map_append, List.map_cons, h.violation]
    rfl

theorem map_tolerate (h : Retells g f c) (violation? : Option Violation) :
    (Matching.tolerate violation?).map g = Matching.tolerate (violation?.map f) := by
  cases violation? with
  | none => rfl
  | some v => exact congrArg (fun e => [e]) (h.violation v true)

/-- What is wrong with two turns is the same, told differently, if their shortages are. -/
theorem map_mismatch?_eq (h : Retells g f c) {t u : Turn} {owner other : String}
    (hadmits : t.pattern.cardinality.Admits t.taken.length ↔
      u.pattern.cardinality.Admits u.taken.length)
    (hshortage : c (t.shortage owner) = c (u.shortage other)) :
    (t.mismatch? owner).map f = (u.mismatch? other).map f := by
  by_cases hin : t.pattern.cardinality.Admits t.taken.length
  · rw [Turn.mismatch?_of_admits hin, Turn.mismatch?_of_admits (hadmits.mp hin)]
  · rw [Turn.mismatch?_of_not_admits hin, Turn.mismatch?_of_not_admits (mt hadmits.mpr hin),
      Option.map_some, Option.map_some, h.countMismatch, h.countMismatch, hshortage]

/-- Two matches note the same, told differently, if turn by turn they do. -/
theorem map_events_eq (h : Retells g f c) {R : Turn → Turn → Prop} {parent parent' : Parent}
    {ps qs : List Pattern} {pos other : Position}
    (hturns : List.Forall₂ R (pos.turns ps) (other.turns qs))
    (hevent : ∀ t u, R t u → g t.event = g u.event)
    (hmismatch : ∀ t u, R t u →
      (t.mismatch? parent.name).map f = (u.mismatch? parent'.name).map f)
    (hleft : ((pos.afterAll ps).leftover? parent.name).map f =
      ((other.afterAll qs).leftover? parent'.name).map f) :
    (Matching.lenient parent ps pos).events.map g =
      (Matching.lenient parent' qs other).events.map g := by
  rw [Matching.events_lenient, Matching.events_lenient, List.map_append, List.map_append,
    h.map_tolerate, h.map_tolerate, hleft, List.map_flatMap, List.map_flatMap, List.flatMap_def,
    List.flatMap_def]
  congr 2
  refine map_eq_of_forall₂ hturns fun t u htu => ?_
  rw [Turn.noted, Turn.noted, List.map_cons, List.map_cons, h.map_tolerate, h.map_tolerate,
    hevent t u htu, hmismatch t u htu]

end Event.Retells

/-! ## Other words -/

/-- What becomes of the texts that a violation takes over: the list of a pattern's shapes, the name
of the owner, and the markup of a child. -/
structure Rewording where
  types : String → String
  owner : String → String
  child : String → String

namespace Rewording

/-- Every text is left out. -/
def silent : Rewording :=
  ⟨fun _ => "", fun _ => "", fun _ => ""⟩

/-- What the shapes are called is left out. -/
def untyped : Rewording :=
  ⟨fun _ => "", id, id⟩

end Rewording

section Words

variable (w : Rewording)

def CountMismatch.reword (v : CountMismatch) : CountMismatch :=
  { v with types := w.types v.types, owner := w.owner v.owner, failedOn := v.failedOn.map w.child }

def Violation.reword : Violation → Violation
  | .countMismatch v => .countMismatch (v.reword w)
  | .unmatchedChildren v => .unmatchedChildren { v with owner := w.owner v.owner }

def Event.reword : Event → Event
  | .turn types start taken => .turn (w.types types) start taken
  | .violation v tolerated => .violation (v.reword w) tolerated

/-- The report with its events told in other words. -/
def Report.reword {α : Type} (r : Report α) : Report α :=
  ⟨r.events.map (Event.reword w), r.outcome⟩

/-- The report with its events, and the violation that it ended with, told in other words. -/
def Report.rewordAll {α : Type} (r : Report (Except Violation α)) : Report (Except Violation α) :=
  ⟨r.events.map (Event.reword w), r.outcome.mapError (Violation.reword w)⟩

theorem Event.retells_reword : Retells (reword w) (Violation.reword w) (CountMismatch.reword w) :=
  ⟨fun types _ _ => ⟨w.types types, rfl⟩, fun _ _ => rfl, fun _ => rfl, fun _ => ⟨_, rfl⟩⟩

/-- Whatever the words, a match is cut at the same violation. -/
theorem Report.rewordAll_cut {α : Type} (r : Report α) : r.cut.rewordAll w = (r.reword w).cut :=
  (Event.retells_reword w).cut r

end Words

end ChildRules
