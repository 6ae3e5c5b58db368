import ChildRules.Proofs.Turns

/-!
# A strict match is a lenient one cut short

Both ways to go about violations are one walk. The strict match of some children is the lenient
match of them, ended by the first violation: up to there the events are the same, the violation is
noted as one that was not tolerated, and nothing follows. Without a violation there is no cut, and
the results are the same.

The violations of the lenient match are one mismatch for each pattern that is out of range, in the
order of the patterns, and at most one more for the children that are left over.
-/

namespace ChildRules

/-! ## Cutting a report -/

namespace Report

variable {α β : Type}

/-- The report of the match that ends with the first violation of this one. -/
def cut (r : Report α) : Report (Except Violation α) :=
  match r.violations.head? with
  | none => r.map .ok
  | some v => ⟨r.events.takeWhile (·.violation?.isNone) ++ [.violation v false], .error v⟩

theorem cut_of_no_violation {r : Report α} (h : r.violations = []) : r.cut = r.map .ok := by
  rw [cut, h]
  rfl

theorem cut_of_violation {r : Report α} {v : Violation} (h : r.violations.head? = some v) :
    r.cut = ⟨r.events.takeWhile (·.violation?.isNone) ++ [.violation v false], .error v⟩ := by
  rw [cut, h]

theorem violations_precededBy (r : Report α) (events : List Event) :
    (r.precededBy events).violations = events.filterMap Event.violation? ++ r.violations :=
  List.filterMap_append

/-! Neither another outcome nor a turn that comes before moves the cut. -/

theorem cut_map (f : α → β) (r : Report α) : (r.map f).cut = r.cut.map (·.map f) := by
  cases h : r.violations.head? with
  | none =>
    have hnil := List.head?_eq_none_iff.mp h
    rw [cut_of_no_violation (r := r.map f) hnil, cut_of_no_violation hnil]
    rfl
  | some v =>
    rw [cut_of_violation (r := r.map f) h, cut_of_violation h]
    rfl

theorem cut_precededBy_turn (types : String) (start taken : Nat) (r : Report α) :
    (r.precededBy [.turn types start taken]).cut = r.cut.precededBy [.turn types start taken] := by
  have hsame : (r.precededBy [.turn types start taken]).violations = r.violations :=
    violations_precededBy r _
  cases h : r.violations.head? with
  | none =>
    have hnil := List.head?_eq_none_iff.mp h
    rw [cut_of_no_violation (hsame.trans hnil), cut_of_no_violation hnil]
    rfl
  | some v =>
    rw [cut_of_violation (hsame ▸ h), cut_of_violation h]
    rfl

theorem outcome_cut_eq_ok_iff {r : Report α} {a : α} :
    r.cut.outcome = .ok a ↔ r.violations = [] ∧ r.outcome = a := by
  cases h : r.violations.head? with
  | none =>
    have hnil := List.head?_eq_none_iff.mp h
    rw [cut_of_no_violation hnil]
    show Except.ok r.outcome = .ok a ↔ _
    rw [Except.ok.injEq]
    exact ⟨fun heq => ⟨hnil, heq⟩, And.right⟩
  | some v =>
    rw [cut_of_violation h]
    constructor
    · intro heq
      cases heq
    · rintro ⟨hnil, -⟩
      rw [hnil] at h
      cases h

theorem outcome_cut_eq_error_iff {r : Report α} {v : Violation} :
    r.cut.outcome = .error v ↔ r.violations.head? = some v := by
  cases h : r.violations.head? with
  | none =>
    rw [cut_of_no_violation (List.head?_eq_none_iff.mp h)]
    constructor
    · intro heq
      cases heq
    · intro heq
      cases heq
  | some w =>
    rw [cut_of_violation h]
    show Except.error w = .error v ↔ _
    rw [Except.error.injEq, Option.some.injEq]

theorem violation?_of_mem_takeWhile {events : List Event} :
    ∀ e ∈ events.takeWhile (·.violation?.isNone), e.violation? = none := by
  intro e hmem
  exact Option.isNone_iff_eq_none.mp (List.all_eq_true.mp List.all_takeWhile e hmem)

/-- The events of a report with a violation are those before the first, the first, and others. -/
theorem events_split {r : Report α} {v : Violation} (h : r.violations.head? = some v) :
    ∃ tolerated after,
      r.events = r.events.takeWhile (·.violation?.isNone) ++ .violation v tolerated :: after := by
  obtain ⟨events, outcome⟩ := r
  induction events with
  | nil => cases h
  | cons e es ih =>
    cases e with
    | turn types start taken =>
      obtain ⟨tolerated, after, heq⟩ := ih h
      exact ⟨tolerated, after, congrArg (Event.turn types start taken :: ·) heq⟩
    | violation w tolerated =>
      cases h
      exact ⟨tolerated, es, rfl⟩

end Report

/-! ## The two ways are one walk -/

namespace Matching

/-- **A strict match is the lenient one cut at its first violation.** -/
theorem strict_eq_cut (parent : Parent) (ps : List Pattern) (pos : Position) :
    strict parent ps pos = (lenient parent ps pos).cut := by
  induction ps generalizing pos with
  | nil =>
    cases h : pos.leftover? parent.name with
    | none => simp [strict, lenient, tolerate, h, Report.cut, Report.violations, Report.map]
    | some v =>
      simp [strict, lenient, tolerate, h, Report.cut, Report.violations, Event.violation?]
  | cons p ps ih =>
    rw [lenient_cons, strict]
    cases h : pos.mismatch? p parent.name with
    | none =>
      -- The cut lies in the later turns, where the induction hypothesis has it.
      show _ = (Report.precededBy _ [.turn p.typeList pos.cursor (p.run pos.rest).length]).cut
      rw [Report.cut_precededBy_turn, Report.cut_map, ← ih]
      rfl
    | some v => rfl

theorem tolerated_of_mem_tolerate {violation? : Option Violation} {v : Violation}
    {tolerated : Bool} (h : .violation v tolerated ∈ tolerate violation?) : tolerated = true := by
  obtain ⟨w, -, heq⟩ := List.mem_map.mp h
  cases heq
  rfl

theorem tolerated_of_mem_lenient {parent : Parent} {ps : List Pattern} {pos : Position}
    {v : Violation} {tolerated : Bool}
    (h : .violation v tolerated ∈ (lenient parent ps pos).events) : tolerated = true := by
  rw [events_lenient, List.mem_append, List.mem_flatMap] at h
  rcases h with ⟨t, -, h⟩ | h
  · rcases List.mem_cons.mp h with h | h
    · cases h
    · exact tolerated_of_mem_tolerate h
  · exact tolerated_of_mem_tolerate h

end Matching

namespace Request

/-! ## The violations of a request -/

/-- The request with another choice of strictness. -/
def withStrict (r : Request) (strict : Bool) : Request :=
  { r with options := { r.options with strict := strict } }

def turns (r : Request) : List Turn :=
  (Position.start r.children).turns r.patterns.toList

/-- The position after the last turn. -/
def final (r : Request) : Position :=
  (Position.start r.children).afterAll r.patterns.toList

/-- What is wrong with the patterns whose count is out of range, in order. -/
def mismatches (r : Request) : List CountMismatch :=
  (r.turns.filter fun t => ¬ t.pattern.cardinality.Admits t.taken.length).map (·.shortage r.owner)

theorem on_of_mem_turns {r : Request} {t : Turn} (ht : t ∈ r.turns) : t.before.On r.children := by
  obtain ⟨i, hi⟩ := List.getElem?_of_mem ht
  rw [(Position.getElem?_turns hi).2.1]
  exact (Position.on_start r.children).afterAll _

theorem matchAll_of_strict {r : Request} (h : r.options.strict = true) :
    r.matchAll = r.matchPartial.cut := by
  rw [matchAll, if_pos h, Matching.strict_eq_cut]
  rfl

theorem matchAll_of_not_strict {r : Request} (h : r.options.strict = false) :
    r.matchAll = r.matchPartial.map .ok := by
  rw [matchAll, h]
  rfl

/-- A match that does not fail comes to what the lenient match does. -/
theorem matchAll_of_ok {r : Request} {rs : List (Result Mapped)}
    (h : r.matchAll.outcome = .ok rs) : r.matchAll = r.matchPartial.map .ok := by
  cases hstrict : r.options.strict with
  | false => exact matchAll_of_not_strict hstrict
  | true =>
    rw [matchAll_of_strict hstrict] at h ⊢
    exact Report.cut_of_no_violation (Report.outcome_cut_eq_ok_iff.mp h).1

theorem strict_of_error {r : Request} {v : Violation} (h : r.matchAll.outcome = .error v) :
    r.options.strict = true := by
  cases hstrict : r.options.strict with
  | true => rfl
  | false =>
    rw [matchAll_of_not_strict hstrict] at h
    cases h

theorem outcome_matchPartial (r : Request) :
    r.matchPartial.outcome = r.turns.map (·.result r.parent) :=
  Matching.outcome_lenient r.parent r.patterns.toList (.start r.children)

/-- Beside the violations, a lenient match notes its turns. -/
theorem turn_events_matchPartial (r : Request) :
    r.matchPartial.events.filter (·.violation?.isNone) = r.turns.map Turn.event :=
  Matching.turn_events_lenient r.parent r.patterns.toList (.start r.children)

theorem violations_matchPartial (r : Request) :
    r.matchPartial.violations =
      r.mismatches.map .countMismatch ++ (r.final.leftover? r.owner).toList := by
  have h := Matching.violations_lenient r.parent r.patterns.toList (.start r.children)
  rw [Turn.filterMap_mismatch?] at h
  rw [mismatches, List.map_map]
  exact h

theorem matchAll_error_iff {r : Request} (hstrict : r.options.strict = true) {v : Violation} :
    r.matchAll.outcome = .error v ↔
      (r.mismatches.map Violation.countMismatch ++
        (r.final.leftover? r.owner).toList).head? = some v := by
  rw [matchAll_of_strict hstrict, Report.outcome_cut_eq_error_iff, violations_matchPartial]

theorem head?_mismatches {r : Request} (hstrict : r.options.strict = true) {v : CountMismatch}
    (h : r.matchAll.outcome = .error (.countMismatch v)) : r.mismatches.head? = some v := by
  rw [matchAll_error_iff hstrict] at h
  cases hms : r.mismatches with
  | nil =>
    obtain ⟨us, hus, -⟩ := r.final.toList_leftover? r.owner
    rw [hms, hus] at h
    cases us <;> cases h
  | cons m ms =>
    rw [hms] at h
    cases h
    rfl

theorem mismatches_eq_nil {r : Request} {v : UnmatchedChildren}
    (h : r.matchAll.outcome = .error (.unmatchedChildren v)) : r.mismatches = [] := by
  rw [matchAll_error_iff (strict_of_error h)] at h
  cases hms : r.mismatches with
  | nil => rfl
  | cons m ms =>
    rw [hms] at h
    cases h

theorem rest_final_ne_nil {r : Request} (hstrict : r.options.strict = true)
    {v : UnmatchedChildren} (h : r.matchAll.outcome = .error (.unmatchedChildren v)) :
    r.final.rest ≠ [] := by
  intro hnil
  have hms := mismatches_eq_nil h
  rw [matchAll_error_iff hstrict, hms, Position.leftover?_eq_none_iff.mpr hnil] at h
  cases h

/-! ## Who is blamed -/

/-- The pattern that has `before` before it is the first whose count is out of range, and this is
what is wrong with it. -/
structure Blames (r : Request) (before : List Pattern) (p : Pattern) (v : CountMismatch) :
    Prop where
  position : ∃ later, r.patterns.toList = before ++ p :: later
  admits_before : ∀ t ∈ (Position.start r.children).turns before,
    t.pattern.cardinality.Admits t.taken.length
  mismatch : ((Position.start r.children).afterAll before).mismatch? p r.owner =
    some (.countMismatch v)

theorem exists_blames {r : Request} {v : CountMismatch} (h : r.mismatches.head? = some v) :
    ∃ before p, r.Blames before p v := by
  rw [mismatches, List.head?_map, List.head?_filter] at h
  obtain ⟨t, hfind, rfl⟩ := Option.map_eq_some_iff.mp h
  obtain ⟨hadmits, ts, us, hturns, hbefore⟩ := List.find?_eq_some_iff_append.mp hfind
  obtain ⟨before, later, hpatterns, rfl, hpos⟩ := Position.turns_eq_append_cons hturns
  refine ⟨before, t.pattern, ⟨later, hpatterns⟩, ?_, ?_⟩
  · intro t' hmem
    simpa using hbefore t' hmem
  · rw [← hpos]
    exact Turn.mismatch?_of_not_admits (by simpa using hadmits) r.owner

/-! ## Strict and lenient -/

theorem zip_outcome_matchPartial (r : Request) :
    r.patterns.toList.zip r.matchPartial.outcome =
      r.turns.map fun t => (t.pattern, t.result r.parent) := by
  rw [outcome_matchPartial, ← List.zip_map', turns, Position.map_pattern_turns]

/-- The patterns whose count is out of range can be told from their results. -/
theorem out_of_range_matchPartial (r : Request) :
    ((r.patterns.toList.zip r.matchPartial.outcome).filter fun (p, res) =>
      ¬ p.cardinality.Admits res.nodes.length) =
        (r.turns.filter fun t => ¬ t.pattern.cardinality.Admits t.taken.length).map fun t =>
          (t.pattern, t.result r.parent) := by
  rw [zip_outcome_matchPartial, List.filter_map]
  congr 1
  apply List.filter_congr
  intro t _
  simp [Turn.length_nodes_result]

/-- **A strict match is the lenient match cut at its first violation.** Without a violation the two
have the same events and the same results. The violations themselves are one mismatch for each
pattern whose count is out of range, in the order of the patterns, and then at most one more. The
option for strictness does not concern the lenient match, and without it the two are one. -/
theorem strict_match_is_lenient_match_cut (r : Request) :
    ((∃ rs, (r.withStrict true).matchAll.outcome = .ok rs) ↔ r.matchPartial.violations = []) ∧
    (r.matchPartial.violations = [] → (r.withStrict true).matchAll = r.matchPartial.map .ok) ∧
    (∀ v later, r.matchPartial.violations = v :: later →
      ∃ before after, r.matchPartial.events = before ++ .violation v true :: after ∧
        (∀ e ∈ before, e.violation? = none) ∧
        (r.withStrict true).matchAll = ⟨before ++ [.violation v false], .error v⟩) ∧
    (∀ v tolerated, .violation v tolerated ∈ r.matchPartial.events → tolerated = true) ∧
    (∃ (ms : List CountMismatch) (us : List UnmatchedChildren),
      r.matchPartial.violations = ms.map .countMismatch ++ us.map .unmatchedChildren ∧
      us.length ≤ 1 ∧
      ms.map (fun m => (m.types, m.owner, m.expected, m.received)) =
        ((r.patterns.toList.zip r.matchPartial.outcome).filter fun (p, res) =>
          ¬ p.cardinality.Admits res.nodes.length).map fun (p, res) =>
            (p.typeList, r.owner, p.cardinality.quantifier, res.nodes.length)) ∧
    (∀ strict, (r.withStrict strict).matchPartial = r.matchPartial) ∧
    (r.withStrict false).matchAll = r.matchPartial.map .ok := by
  have hcut : (r.withStrict true).matchAll = r.matchPartial.cut := matchAll_of_strict rfl
  refine ⟨?_, ?_, ?_, ?_, ?_, fun _ => rfl, rfl⟩
  · rw [hcut]
    constructor
    · rintro ⟨rs, hok⟩
      exact (Report.outcome_cut_eq_ok_iff.mp hok).1
    · intro hnil
      exact ⟨_, Report.outcome_cut_eq_ok_iff.mpr ⟨hnil, rfl⟩⟩
  · intro hnil
    rw [hcut, Report.cut_of_no_violation hnil]
  · intro v later hcons
    have hhead : r.matchPartial.violations.head? = some v := by rw [hcons, List.head?_cons]
    obtain ⟨tolerated, after, hevents⟩ := Report.events_split hhead
    have htolerated : tolerated = true := by
      apply Matching.tolerated_of_mem_lenient (v := v)
      show _ ∈ r.matchPartial.events
      rw [hevents]
      exact List.mem_append_right _ List.mem_cons_self
    subst htolerated
    refine ⟨_, after, hevents, ?_, by rw [hcut, Report.cut_of_violation hhead]⟩
    intro e hmem
    exact Option.isNone_iff_eq_none.mp (List.all_eq_true.mp List.all_takeWhile e hmem)
  · intro v tolerated hmem
    exact Matching.tolerated_of_mem_lenient hmem
  · obtain ⟨us, hus, hlength⟩ := r.final.toList_leftover? r.owner
    refine ⟨r.mismatches, us, ?_, hlength, ?_⟩
    · rw [violations_matchPartial, hus]
    · rw [out_of_range_matchPartial, mismatches, List.map_map, List.map_map]
      apply List.map_congr_left
      intro t _
      show _ = (_, _, _, (t.result r.parent).nodes.length)
      rw [Turn.length_nodes_result]
      rfl

end Request

end ChildRules
