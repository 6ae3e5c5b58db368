import Mathlib.Data.List.Forall2
import ChildRules.Proofs.Coverage

/-!
# Mappers have no say

Patterns can agree in what they take and differ in their mappers. Requests with such patterns, and
with contexts of their own, come to the same: they note the same events, fail with the same
violation, and otherwise each pattern takes the same children. Mappers come in only after that: a
result with mappers applied is the result without, with the pattern's mapper applied to each of its
nodes.
-/

namespace ChildRules

/-! ## Patterns that take the same -/

/-- Two patterns take the same children in the same numbers. Their mappers may differ. -/
structure Pattern.SameRule (p q : Pattern) : Prop where
  shapes : p.shapes = q.shapes
  cardinality : p.cardinality = q.cardinality

theorem Pattern.SameRule.exists_mapper {p q : Pattern} (h : p.SameRule q) :
    ∃ mapper, p = { q with mapper := mapper } := by
  obtain ⟨shapes, cardinality, mapper⟩ := p
  obtain ⟨rfl, rfl⟩ := h
  exact ⟨mapper, rfl⟩

/-- The children that a pattern takes in a turn, in the form of its results. -/
def Turn.bare (t : Turn) : Result Node :=
  .ofNodes t.pattern.cardinality.isSingle t.taken

theorem Turn.result_eq_map_bare (t : Turn) (parent : Parent) :
    t.result parent = t.bare.map (t.pattern.project parent) :=
  (Result.map_ofNodes _ _ _).symm

/-- A result with every node replaced by what the pattern's mapper makes of it, if it has one. -/
def Pattern.mapResult (p : Pattern) (context : Props) (res : Result Node) : Result Mapped :=
  match p.mapper with
  | some mapper => res.map (mapper · context)
  | none => res.map .existing

/-- The form of a result and how many nodes it has. -/
def Result.outline {α : Type} (res : Result α) : Result Unit :=
  res.map fun _ => ()

@[simp] theorem Result.outline_map {α β : Type} (f : α → β) (res : Result α) :
    (res.map f).outline = res.outline := by
  cases res with
  | one node => rfl
  | many nodes => exact congrArg Result.many List.map_map
  | absent => rfl

section SameRules

variable {ps qs : List Pattern}

theorem Position.map_bare_turns_eq (h : List.Forall₂ Pattern.SameRule ps qs) (pos : Position) :
    (pos.turns ps).map Turn.bare = (pos.turns qs).map Turn.bare := by
  induction h generalizing pos with
  | nil => rfl
  | @cons p q ps qs hpq _ ih =>
    obtain ⟨mapper, rfl⟩ := hpq.exists_mapper
    exact congrArg (Turn.bare ⟨pos, q⟩ :: ·) (ih (pos.after q))

/-- **What a lenient match notes depends on neither mappers nor the context.** -/
theorem Matching.events_lenient_eq (h : List.Forall₂ Pattern.SameRule ps qs) {parent other : Parent}
    (hname : parent.name = other.name) (pos : Position) :
    (lenient parent ps pos).events = (lenient other qs pos).events := by
  induction h generalizing pos with
  | nil =>
    show tolerate _ = tolerate _
    rw [hname]
  | @cons p q ps qs hpq _ ih =>
    obtain ⟨mapper, rfl⟩ := hpq.exists_mapper
    show (pos.turn q :: tolerate (pos.mismatch? q parent.name)) ++
      (lenient parent ps (pos.after q)).events = _
    rw [ih, hname]
    rfl

end SameRules

/-! ## Requests that differ in mapping -/

theorem Report.outcome_cut_eq_error_iff_of_events {α β : Type} {r : Report α} {s : Report β}
    (h : r.events = s.events) {v : Violation} :
    r.cut.outcome = .error v ↔ s.cut.outcome = .error v := by
  rw [outcome_cut_eq_error_iff, outcome_cut_eq_error_iff, violations, h]
  rfl

theorem Report.events_cut_eq_of_events {α β : Type} {r : Report α} {s : Report β}
    (h : r.events = s.events) : r.cut.events = s.cut.events := by
  have hviolations : r.violations = s.violations := congrArg (List.filterMap Event.violation?) h
  cases hhead : r.violations.head? with
  | none =>
    have hnil := List.head?_eq_none_iff.mp hhead
    rw [cut_of_no_violation hnil, cut_of_no_violation (hviolations ▸ hnil)]
    exact h
  | some v =>
    rw [cut_of_violation hhead, cut_of_violation (hviolations ▸ hhead), h]

namespace Request

/-- Two requests differ at most in the mappers of their patterns, in their contexts, and in whether
mappers are applied. -/
structure SameButMapping (r s : Request) : Prop where
  owner : r.owner = s.owner
  strict : r.options.strict = s.options.strict
  children : r.children = s.children
  patterns : List.Forall₂ Pattern.SameRule r.patterns.toList s.patterns.toList

/-- The request with mappers applied, or with none applied. -/
def withMappers (r : Request) (applies : Bool) : Request :=
  { r with options := { r.options with appliesMappers := applies } }

/-- The children that the patterns take, in the form of the results. -/
def bare (r : Request) : List (Result Node) :=
  r.turns.map Turn.bare

theorem outline_matchPartial (r : Request) :
    r.matchPartial.outcome.map Result.outline = r.bare.map Result.outline := by
  rw [outcome_matchPartial, bare, List.map_map, List.map_map]
  apply List.map_congr_left
  intro t _
  simp [Turn.result_eq_map_bare]

/-- Without mappers, children are reported as they are. -/
theorem outcome_withMappers_false (r : Request) :
    (r.withMappers false).matchPartial.outcome = r.bare.map (·.map .existing) := by
  rw [outcome_matchPartial, bare, List.map_map]
  apply List.map_congr_left
  intro t _
  have h : t.pattern.project (r.withMappers false).parent = .existing :=
    funext (Pattern.project_of_unmapped (Or.inr rfl))
  rw [Turn.result_eq_map_bare, h]
  rfl

/-- With mappers, each pattern that has one applies it to each of its children. -/
theorem outcome_withMappers_true (r : Request) :
    (r.withMappers true).matchPartial.outcome =
      List.zipWith (Pattern.mapResult · r.context) r.patterns.toList r.bare := by
  have hpatterns : r.patterns.toList = r.turns.map Turn.pattern :=
    (Position.map_pattern_turns _ _).symm
  rw [outcome_matchPartial, bare, hpatterns, List.zipWith_map, List.zipWith_self]
  apply List.map_congr_left
  intro t _
  rw [Turn.result_eq_map_bare, Pattern.mapResult]
  cases hmapper : t.pattern.mapper with
  | none =>
    have h : t.pattern.project (r.withMappers true).parent = .existing :=
      funext (Pattern.project_of_unmapped (Or.inl hmapper))
    rw [h]
  | some mapper =>
    have h : t.pattern.project (r.withMappers true).parent = (mapper · r.context) :=
      funext (Pattern.project_of_mapped hmapper rfl)
    rw [h]

namespace SameButMapping

variable {r s : Request}

theorem bare_eq (h : r.SameButMapping s) : r.bare = s.bare := by
  rw [bare, turns, h.children]
  exact Position.map_bare_turns_eq h.patterns _

theorem events_matchPartial_eq (h : r.SameButMapping s) :
    r.matchPartial.events = s.matchPartial.events := by
  rw [matchPartial, h.children]
  exact Matching.events_lenient_eq h.patterns h.owner _

theorem matchAll_eq (h : r.SameButMapping s) : r.matchAll.events = s.matchAll.events ∧
    ∀ v, r.matchAll.outcome = .error v ↔ s.matchAll.outcome = .error v := by
  have hevents := h.events_matchPartial_eq
  cases hstrict : s.options.strict with
  | true =>
    rw [matchAll_of_strict hstrict, matchAll_of_strict (h.strict.trans hstrict)]
    exact ⟨Report.events_cut_eq_of_events hevents,
      fun v => Report.outcome_cut_eq_error_iff_of_events hevents⟩
  | false =>
    rw [matchAll_of_not_strict hstrict, matchAll_of_not_strict (h.strict.trans hstrict)]
    refine ⟨hevents, fun v => ⟨?_, ?_⟩⟩
    · intro heq
      cases heq
    · intro heq
      cases heq

end SameButMapping

/-- **Mappers have no say in a match, and neither has the context.** Requests that differ in nothing
else note the same events. Either both fail, and with the same violation, or each pattern's results
agree in form and number. What the patterns take is the same in both requests: without mappers it is
reported as it is, and with mappers each node is replaced by what its pattern's mapper makes of
it. -/
theorem mappers_have_no_say (r s : Request) (h : r.SameButMapping s) :
    (r.matchAll.events = s.matchAll.events ∧ r.matchPartial.events = s.matchPartial.events) ∧
    ((∃ rs, r.matchAll.outcome = .ok rs) ↔ ∃ rs, s.matchAll.outcome = .ok rs) ∧
    (∀ v, r.matchAll.outcome = .error v ↔ s.matchAll.outcome = .error v) ∧
    (∀ report report', r.Returns report → s.Returns report' →
      report.outcome.map Result.outline = report'.outcome.map Result.outline) ∧
    ∃ bare : List (Result Node), ∀ q, q = r ∨ q = s →
      (∀ report, (q.withMappers false).Returns report →
        report.outcome = bare.map (·.map .existing)) ∧
      ∀ report, (q.withMappers true).Returns report →
        report.outcome =
          List.zipWith (Pattern.mapResult · q.context) q.patterns.toList bare := by
  obtain ⟨hevents, herror⟩ := h.matchAll_eq
  refine ⟨⟨hevents, h.events_matchPartial_eq⟩, ?_, herror, ?_, r.bare, ?_⟩
  · have hok : ∀ q : Request,
        (∃ rs, q.matchAll.outcome = .ok rs) ↔ ∀ v, q.matchAll.outcome ≠ .error v := by
      intro q
      cases q.matchAll.outcome <;> simp
    rw [hok r, hok s]
    exact forall_congr' fun v => not_congr (herror v)
  · intro report report' hreport hreport'
    rw [hreport.eq_matchPartial, hreport'.eq_matchPartial, outline_matchPartial,
      outline_matchPartial, h.bare_eq]
  · intro q hq
    have hbare : r.bare = q.bare := by
      rcases hq with rfl | rfl
      · rfl
      · exact h.bare_eq
    rw [hbare]
    refine ⟨fun report hreport => ?_, fun report hreport => ?_⟩
    · rw [hreport.eq_matchPartial, outcome_withMappers_false]
    · rw [hreport.eq_matchPartial, outcome_withMappers_true]

/-- The table with a heading that is reported as the row it is, in a context of its own. -/
def plainTable : Request where
  owner := table.owner
  options := .validating
  context := Props.empty.insert "level" (.int 2)
  children := table.children
  patterns :=
    { toList := table.patterns.toList.map fun p => { p with mapper := none }
      wellFormed := by
        intro p hp
        obtain ⟨q, hq, rfl⟩ := List.mem_map.mp hp
        exact table.patterns.wellFormed q hq }

/-- Whether its row is turned into a heading or not, the table is matched in the same way. -/
theorem table_matches_as_plainTable :
    table.SameButMapping plainTable ∧ table.matchAll.events = plainTable.matchAll.events ∧
      ∃ rs, plainTable.matchAll.outcome = .ok rs := by
  have hsame : table.SameButMapping plainTable :=
    ⟨rfl, rfl, rfl, List.forall₂_map_right_iff.mpr (List.forall₂_same.mpr fun p _ => ⟨rfl, rfl⟩)⟩
  have h := mappers_have_no_say table plainTable hsame
  exact ⟨hsame, h.1.1, h.2.1.mp ⟨_, rfl⟩⟩

end Request

end ChildRules
