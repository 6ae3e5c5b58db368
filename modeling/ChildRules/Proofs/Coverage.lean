import ChildRules.Proofs.Slicing

/-!
# What the results cover

The nodes of the results, one result after the other, are what is reported of the children from the
first one on: no child is left out in between, none is reported twice, and they stay in order. The
runs that a match notes lie end to end along the same children. Where they end is where the children
that no pattern took begin.
-/

namespace ChildRules

/-! ## Who took a node -/

namespace Result

variable {α β : Type}

/-- Who took each node of some results: of takers with a result each, everyone as often as their
result has nodes. -/
def takers (ts : List α) (rs : List (Result β)) : List α :=
  (ts.zip rs).flatMap fun (t, res) => List.replicate res.nodes.length t

@[simp] theorem takers_nil (rs : List (Result β)) : takers ([] : List α) rs = [] := rfl

@[simp] theorem takers_cons (t : α) (ts : List α) (res : Result β) (rs : List (Result β)) :
    takers (t :: ts) (res :: rs) = List.replicate res.nodes.length t ++ takers ts rs := rfl

end Result

namespace Turn

theorem length_flatten_results (parent : Parent) (ts : List Turn) :
    (Result.flatten (ts.map (·.result parent))).length = (ts.map (·.taken.length)).sum := by
  induction ts with
  | nil => rfl
  | cons t ts ih =>
    rw [List.map_cons, Result.flatten_cons, List.length_append, length_nodes_result, ih]
    rfl

/-- A child that is taken in one of the turns is reported at the same place among all nodes. -/
theorem getElem?_flatMap_taken (parent : Parent) {ts : List Turn} {j : Nat} {x : Node}
    (h : (ts.flatMap taken)[j]? = some x) :
    ∃ t ∈ ts, x ∈ t.taken ∧
      (Result.takers (ts.map pattern) (ts.map (·.result parent)))[j]? = some t.pattern ∧
      (Result.flatten (ts.map (·.result parent)))[j]? = some (t.pattern.project parent x) := by
  induction ts generalizing j with
  | nil => simp at h
  | cons t ts ih =>
    rw [List.flatMap_cons] at h
    rw [List.map_cons, List.map_cons, Result.takers_cons, Result.flatten_cons,
      length_nodes_result, nodes_result]
    rcases Nat.lt_or_ge j t.taken.length with hj | hj
    · rw [List.getElem?_append_left hj] at h
      refine ⟨t, List.mem_cons_self, List.mem_of_getElem? h, ?_, ?_⟩
      · rw [List.getElem?_append_left (by simpa using hj), List.getElem?_replicate, if_pos hj]
      · rw [List.getElem?_append_left (by simpa using hj), List.getElem?_map, h]
        rfl
    · rw [List.getElem?_append_right hj] at h
      obtain ⟨t', hmem, hx, htaker, hnode⟩ := ih h
      refine ⟨t', List.mem_cons_of_mem t hmem, hx, ?_, ?_⟩
      · rw [List.getElem?_append_right (by simpa using hj), List.length_replicate]
        exact htaker
      · rw [List.getElem?_append_right (by simpa using hj), List.length_map]
        exact hnode

end Turn

namespace Position

/-- What the patterns take, and what they leave, are the children that were to come. -/
theorem flatMap_taken_append_rest (pos : Position) (ps : List Pattern) :
    (pos.turns ps).flatMap Turn.taken ++ (pos.afterAll ps).rest = pos.rest := by
  induction ps generalizing pos with
  | nil => rfl
  | cons p ps ih =>
    rw [turns_cons, List.flatMap_cons, afterAll_cons, List.append_assoc, ih]
    exact pos.run_append_after p

end Position

/-! ## Where the runs lie -/

def Event.taken? : Event → Option Nat
  | .turn _ _ taken => some taken
  | .violation .. => none

/-- The runs among the events lie end to end: the first starts at `start`, each other one where the
one before it ends, and the last ends at `stop`. -/
def Chained (start : Nat) : List Event → Nat → Prop
  | [], stop => start = stop
  | .turn _ cursor taken :: events, stop =>
    cursor = start ∧ Chained (cursor + taken) events stop
  | .violation .. :: events, stop => Chained start events stop

instance decidableChained : (start : Nat) → (events : List Event) → (stop : Nat) →
    Decidable (Chained start events stop)
  | start, [], stop => inferInstanceAs (Decidable (start = stop))
  | _, .turn _ cursor taken :: events, stop =>
    have := decidableChained (cursor + taken) events stop
    inferInstanceAs (Decidable (_ ∧ _))
  | start, .violation .. :: events, stop => decidableChained start events stop

namespace Matching

theorem chained_tolerate_append (violation? : Option Violation) {events : List Event}
    {start stop : Nat} :
    Chained start (tolerate violation? ++ events) stop ↔ Chained start events stop := by
  cases violation? <;> exact Iff.rfl

/-- **The runs of a lenient match lie end to end**, from the position where it begins to the one
that it reaches. -/
theorem chained_lenient (parent : Parent) (ps : List Pattern) (pos : Position) :
    Chained pos.cursor (lenient parent ps pos).events (pos.afterAll ps).cursor := by
  induction ps generalizing pos with
  | nil =>
    rw [← (lenient parent [] pos).events.append_nil]
    exact (chained_tolerate_append _).mpr rfl
  | cons p ps ih =>
    refine ⟨rfl, (chained_tolerate_append _).mpr ?_⟩
    exact ih (pos.after p)

/-- A gap between two runs breaks the chain. -/
example : ¬ Chained 0 [.turn "row" 0 1, .turn "foot" 2 1] 3 := by decide

theorem taken_lenient (parent : Parent) (ps : List Pattern) (pos : Position) :
    (lenient parent ps pos).events.filterMap Event.taken? = pos.counts ps := by
  have hturns : ∀ events : List Event, events.filterMap Event.taken? =
      (events.filter (·.violation?.isNone)).filterMap Event.taken? := by
    intro events
    rw [List.filterMap_filter]
    congr 1
    funext e
    cases e <;> rfl
  rw [hturns, turn_events_lenient, List.filterMap_map]
  exact congrFun List.filterMap_eq_map (pos.turns ps)

end Matching

/-! ## Calls that return results -/

namespace Request

/-- A call that returns results, with what it notes: a lenient match, or a match that does not
fail. -/
def Returns (r : Request) (report : Report (List (Result Mapped))) : Prop :=
  r.matchPartial = report ∨ r.matchAll = report.map .ok

/-- Whatever the call, the results and what is noted are those of the lenient match. -/
theorem Returns.eq_matchPartial {r : Request} {report : Report (List (Result Mapped))}
    (h : r.Returns report) : report = r.matchPartial := by
  rcases h with h | h
  · exact h.symm
  · obtain ⟨events, rs⟩ := report
    have hok : r.matchAll.outcome = .ok rs := congrArg Report.outcome h
    rw [matchAll_of_ok hok] at h
    cases h
    rfl

/-- What a report says of the first `c` children, which are those that were taken. -/
structure Covers (r : Request) (report : Report (List (Result Mapped))) (c : Nat) : Prop where
  le : c ≤ r.children.length
  length_flatten : (Result.flatten report.outcome).length = c
  /-- A child is reported at its place, as the pattern that took it has it. -/
  reported : ∀ j x, j < c → r.children[j]? = some x → ∃ p,
    (Result.takers r.patterns.toList report.outcome)[j]? = some p ∧ p.accepts x = true ∧
      ((p.mapper = none ∨ r.options.appliesMappers = false) →
        (Result.flatten report.outcome)[j]? = some (.existing x)) ∧
      ∀ mapper, p.mapper = some mapper → r.options.appliesMappers = true →
        (Result.flatten report.outcome)[j]? = some (mapper x r.context)
  length_outcome : report.outcome.length = r.patterns.size
  form : ∀ i p res, r.patterns.get? i = some p → report.outcome[i]? = some res →
    res.Fits p.cardinality ∧ ∀ max ∈ p.cardinality.max, res.nodes.length ≤ max
  chained : Chained 0 report.events c
  taken : report.events.filterMap Event.taken? = report.outcome.map (·.nodes.length)
  unmatched : ∀ v, (∃ tolerated, .violation (.unmatchedChildren v) tolerated ∈ report.events) ↔
    c < r.children.length ∧ v = ⟨r.owner, c, r.children.length⟩

theorem cursor_final (r : Request) : r.final.cursor = r.counts.sum := by
  rw [final, Position.cursor_afterAll]
  exact Nat.zero_add _

theorem length_flatten_matchPartial (r : Request) :
    (Result.flatten r.matchPartial.outcome).length = r.counts.sum := by
  rw [outcome_matchPartial]
  exact Turn.length_flatten_results r.parent r.turns

theorem reported_matchPartial {r : Request} {j : Nat} {x : Node} (hj : j < r.final.cursor)
    (hx : r.children[j]? = some x) :
    ∃ p, (Result.takers r.patterns.toList r.matchPartial.outcome)[j]? = some p ∧
      p.accepts x = true ∧
      (Result.flatten r.matchPartial.outcome)[j]? = some (p.project r.parent x) := by
  have hsplit : r.turns.flatMap Turn.taken ++ r.final.rest = r.children :=
    (Position.start r.children).flatMap_taken_append_rest r.patterns.toList
  have hlength : (r.turns.flatMap Turn.taken).length = r.final.cursor := by
    rw [cursor_final, List.length_flatMap]
    rfl
  rw [← hsplit, List.getElem?_append_left (hlength ▸ hj)] at hx
  obtain ⟨t, -, hmem, htaker, hnode⟩ := Turn.getElem?_flatMap_taken r.parent hx
  rw [turns, Position.map_pattern_turns] at htaker
  rw [outcome_matchPartial]
  exact ⟨t.pattern, htaker, Pattern.accepts_of_mem_run hmem, hnode⟩

theorem unmatchedChildren_mem_iff {r : Request} {v : UnmatchedChildren} :
    .unmatchedChildren v ∈ r.matchPartial.violations ↔
      r.final.cursor < r.children.length ∧
        v = ⟨r.owner, r.final.cursor, r.children.length⟩ := by
  have htotal : r.final.total = r.children.length := by
    rw [final, Position.total_afterAll]
    exact Nat.zero_add _
  have hrest : r.final.rest.isEmpty = true ↔ ¬ r.final.cursor < r.children.length := by
    rw [← htotal, List.isEmpty_iff_length_eq_zero, Position.total]
    omega
  rw [violations_matchPartial, List.mem_append, Option.mem_toList, Position.leftover?, htotal]
  by_cases hlt : r.final.cursor < r.children.length
  · simp [hrest, hlt, eq_comm]
  · simp [hrest, hlt]

theorem covers_matchPartial (r : Request) : r.Covers r.matchPartial r.final.cursor where
  le := ((Position.on_start r.children).afterAll r.patterns.toList).cursor_le
  length_flatten := by rw [length_flatten_matchPartial, cursor_final]
  reported := by
    intro j x hj hx
    obtain ⟨p, htaker, haccepts, hnode⟩ := reported_matchPartial hj hx
    refine ⟨p, htaker, haccepts, ?_, ?_⟩
    · intro hunmapped
      rw [hnode, Pattern.project_of_unmapped hunmapped]
    · intro mapper hmapper happlies
      rw [hnode, Pattern.project_of_mapped hmapper happlies]
      rfl
  length_outcome := r.length_outcome_matchPartial
  form := by
    intro i p res hp hres
    obtain ⟨t, -, rfl, rfl⟩ := exists_turn hp hres
    refine ⟨t.pattern.fits_result r.parent t.before, ?_⟩
    rw [Turn.length_nodes_result]
    exact t.pattern.length_run_le_max t.before.rest
  chained := Matching.chained_lenient r.parent r.patterns.toList (.start r.children)
  taken := by
    rw [outcome_matchPartial, List.map_map]
    refine (Matching.taken_lenient r.parent r.patterns.toList (.start r.children)).trans ?_
    apply List.map_congr_left
    intro t _
    exact (t.length_nodes_result r.parent).symm
  unmatched := by
    intro v
    rw [← Report.mem_violations, unmatchedChildren_mem_iff]

/-- **Results cover a first stretch of the children, child for child.** Whatever call returns them,
there is one result for each pattern, in the form for the pattern's range. The runs noted on the way
lie end to end along that stretch, and children beyond it are reported as unmatched. -/
theorem returned_results_cover (r : Request) {report : Report (List (Result Mapped))}
    (h : r.Returns report) : ∃ c, r.Covers report c := by
  obtain rfl := h.eq_matchPartial
  exact ⟨r.final.cursor, r.covers_matchPartial⟩

/-- The children of two tables. The second half of them is left over. -/
def twoTables : Request :=
  { table with children := table.children ++ table.children }

theorem two_tables_half_covered :
    twoTables.Returns twoTables.matchPartial ∧ twoTables.Covers twoTables.matchPartial 4 := by
  have hreturns : twoTables.Returns twoTables.matchPartial := Or.inl rfl
  obtain ⟨c, hcovers⟩ := returned_results_cover twoTables hreturns
  have hc : 4 = c := hcovers.length_flatten
  exact ⟨hreturns, hc ▸ hcovers⟩

end Request

end ChildRules
