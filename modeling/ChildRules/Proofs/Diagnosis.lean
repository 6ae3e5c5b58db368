import Mathlib.Order.Bounds.Defs
import ChildRules.Proofs.Slicing

/-!
# What a mismatch says

A mismatch is reported of a pattern whose run is short. Such a run was not cut at the cap, because
the bounds of a pattern are in order: it is the longest stretch that the pattern accepts, and the
child after it, if there is one, is a child that the pattern rejects. So the mismatch is right in
all that it says, and it stands in the log right after the run that it is about.

A strict match reports the first pattern that is short, and children that are left over only if no
pattern is.
-/

namespace ChildRules

/-! ## Short runs -/

namespace Pattern

section Short

variable {p : Pattern} {rest : List Node}

/-- **No accepted stretch at the head is longer than a short run**, and there the maximum does not
matter. -/
theorem isGreatest_length_run (hp : p.WellFormed) (hlimit : rest.length ≤ countLimit)
    (hshort : (p.run rest).length < p.cardinality.min) :
    IsGreatest {n | n ≤ rest.length ∧ ∀ x ∈ rest.take n, p.accepts x = true}
      (p.run rest).length := by
  constructor
  · refine ⟨p.length_run_le rest, ?_⟩
    rw [← p.run_eq_take rest]
    exact fun x hx => accepts_of_mem_run hx
  · rintro n ⟨hn, haccepts⟩
    refine Nat.le_of_not_lt fun hlt => ?_
    -- One child more is still within the maximum, so the run would have taken it.
    have hmore : (p.run rest).length + 1 ≤ (p.run rest).length := by
      refine le_length_run (by omega) (by omega) ?_ ?_
      · intro max hmax
        have := hp.2 max hmax
        omega
      · intro x hx
        exact haccepts x (List.take_subset_take_left rest hlt hx)
    omega

theorem rejects_after_run (hp : p.WellFormed) (hlimit : rest.length ≤ countLimit)
    (hshort : (p.run rest).length < p.cardinality.min) {x : Node}
    (hx : rest[(p.run rest).length]? = some x) : ∀ s ∈ p.shapes, s.accepts x = false := by
  rcases p.run_ends hlimit with hmax | hnil | ⟨y, hy, hrejects⟩
  · have := hp.2 _ hmax
    omega
  · have hnone := List.getElem?_eq_none (List.drop_eq_nil_iff.mp hnil)
    rw [hnone] at hx
    cases hx
  · rw [List.head?_drop] at hy
    obtain rfl := Option.some.inj (hx.symm.trans hy)
    intro s hs
    exact Bool.eq_false_iff.mpr (List.any_eq_false.mp hrejects s hs)

end Short

end Pattern

/-! ## Exact mismatches -/

/-- All that a mismatch says is right, if it is about a pattern whose turn at the children begins at
`start`. -/
structure CountMismatch.Exact (v : CountMismatch) (children : List Node) (owner : String)
    (p : Pattern) (start : Nat) : Prop where
  start_le : start ≤ children.length
  direction : v.direction = .tooFew
  types : v.types = p.typeList
  owner : v.owner = owner
  expected : v.expected = .ofBounds p.cardinality.min p.cardinality.max
  short : v.received < p.cardinality.min
  /-- The longest stretch of accepted children, from the start on, is as long as it says. -/
  received : IsGreatest {n | n ≤ (children.drop start).length ∧
    ∀ x ∈ (children.drop start).take n, p.accepts x = true} v.received
  failedOn_eq_none : v.failedOn = none ↔ start + v.received = children.length
  failedOn_eq_some : ∀ x, children[start + v.received]? = some x →
    v.failedOn = some x.toElement.markup ∧ ∀ s ∈ p.shapes, s.accepts x = false

namespace Turn

/-- The pattern takes fewer children than it needs. -/
def Short (t : Turn) : Prop :=
  t.taken.length < t.pattern.cardinality.min

theorem Short.not_admits {t : Turn} (h : t.Short) :
    ¬ t.pattern.cardinality.Admits t.taken.length :=
  fun hadmits => Nat.not_le.mpr h hadmits.1

theorem mismatch?_eq_some_iff {t : Turn} {owner : String} {v : Violation} :
    t.mismatch? owner = some v ↔ t.Short ∧ .countMismatch (t.shortage owner) = v := by
  by_cases hshort : t.Short
  · rw [mismatch?_of_not_admits hshort.not_admits, Option.some.injEq]
    exact ⟨fun heq => ⟨hshort, heq⟩, And.right⟩
  · have hadmits : t.pattern.cardinality.Admits t.taken.length :=
      (t.pattern.admits_run_iff _).mpr (Nat.not_lt.mp hshort)
    rw [mismatch?_of_admits hadmits]
    constructor
    · intro heq
      cases heq
    · rintro ⟨hshort', -⟩
      exact absurd hshort' hshort

theorem failedOn_shortage {t : Turn} {children : List Node} (hon : t.before.On children)
    (owner : String) : (t.shortage owner).failedOn =
      children[t.before.cursor + t.taken.length]?.map (·.toElement.markup) := by
  show (t.before.after t.pattern).rest.head?.map _ = _
  rw [(hon.after t.pattern).rest_eq, List.head?_drop]
  rfl

theorem exact_shortage {t : Turn} {children : List Node} (hon : t.before.On children)
    (hlimit : children.length ≤ countLimit) (hp : t.pattern.WellFormed) (hshort : t.Short)
    (owner : String) :
    (t.shortage owner).Exact children owner t.pattern t.before.cursor := by
  have hrest : t.before.rest.length ≤ countLimit := by
    rw [hon.rest_eq, List.length_drop]
    omega
  have hgreatest := Pattern.isGreatest_length_run hp hrest hshort
  rw [hon.rest_eq] at hgreatest
  have hstop : (t.shortage owner).received = t.taken.length := rfl
  have hle : t.before.cursor + t.taken.length ≤ children.length :=
    (hon.after t.pattern).cursor_le
  refine ⟨hon.cursor_le, rfl, rfl, rfl, rfl, hshort, ?_, ?_, ?_⟩
  · rw [hstop, taken, hon.rest_eq]
    exact hgreatest
  · rw [failedOn_shortage hon, hstop, Option.map_eq_none_iff, List.getElem?_eq_none_iff]
    omega
  · intro x hx
    rw [hstop] at hx
    rw [failedOn_shortage hon, hx]
    refine ⟨rfl, Pattern.rejects_after_run hp hrest hshort ?_⟩
    rw [← hx, taken, hon.rest_eq, List.getElem?_drop]

/-! ## Where a mismatch stands in the log -/

theorem countP_flatMap_noted (ts : List Turn) (owner : String) :
    (ts.flatMap (·.noted owner)).countP (·.violation?.isNone) = ts.length := by
  rw [List.countP_eq_length_filter, filter_flatMap_noted, List.length_map]

theorem not_short_of_noted {t : Turn} {owner : String}
    (h : ∀ e ∈ t.noted owner, e.violation? = none) : ¬ t.Short := by
  intro hshort
  have hmismatch : t.mismatch? owner = some (.countMismatch (t.shortage owner)) :=
    mismatch?_eq_some_iff.mpr ⟨hshort, rfl⟩
  have hmem : .violation (.countMismatch (t.shortage owner)) true ∈ t.noted owner := by
    rw [noted, hmismatch]
    exact List.mem_cons_of_mem _ List.mem_cons_self
  cases h _ hmem

/-- A mismatch among what is noted stands right after the turn that it is about. -/
theorem exists_of_noted_eq {owner : String} {ts : List Turn} {left : Option UnmatchedChildren}
    {before after : List Event} {v : CountMismatch} {tolerated : Bool}
    (h : ts.flatMap (·.noted owner) ++ Matching.tolerate (left.map .unmatchedChildren) =
      before ++ .violation (.countMismatch v) tolerated :: after) :
    ∃ earlier t later, ts = earlier ++ t :: later ∧
      before = earlier.flatMap (·.noted owner) ++ [t.event] ∧
      t.mismatch? owner = some (.countMismatch v) := by
  induction ts generalizing before with
  | nil =>
    have hmem : .violation (.countMismatch v) tolerated ∈
        Matching.tolerate (left.map .unmatchedChildren) := by
      rw [← List.nil_append (Matching.tolerate _)]
      exact h ▸ List.mem_append_right _ List.mem_cons_self
    cases left with
    | none => cases hmem
    | some u => simp at hmem
  | cons t ts ih =>
    rw [List.flatMap_cons, noted, List.append_assoc, List.cons_append] at h
    cases before with
    | nil => cases h
    | cons e before =>
      rw [List.cons_append, List.cons_eq_cons] at h
      obtain ⟨rfl, h⟩ := h
      cases hmismatch : t.mismatch? owner with
      | none =>
        rw [hmismatch, Matching.tolerate_none, List.nil_append] at h
        obtain ⟨earlier, t', later, rfl, rfl, hv⟩ := ih h
        exact ⟨t :: earlier, t', later, rfl, by simp [noted, hmismatch], hv⟩
      | some w =>
        rw [hmismatch, Matching.tolerate_some, List.singleton_append] at h
        cases before with
        | nil =>
          cases h
          exact ⟨[], t, ts, rfl, rfl, hmismatch⟩
        | cons e before =>
          rw [List.cons_append, List.cons_eq_cons] at h
          obtain ⟨rfl, h⟩ := h
          obtain ⟨earlier, t', later, rfl, rfl, hv⟩ := ih h
          exact ⟨t :: earlier, t', later, rfl, by simp [noted, hmismatch], hv⟩

end Turn

/-- The first violation stands where nothing but turns stands before it. -/
theorem Event.first_violation_eq {turns before after : List Event} {v w : Violation}
    {tolerated tolerated' : Bool} (hturns : ∀ e ∈ turns, e.violation? = none)
    (h : turns ++ [.violation w tolerated'] = before ++ .violation v tolerated :: after) :
    before = turns ∧ v = w := by
  rcases List.append_eq_append_iff.mp h with ⟨between, rfl, hlast⟩ | ⟨between, rfl, hlast⟩
  · cases between with
    | nil =>
      cases hlast
      exact ⟨List.append_nil turns, rfl⟩
    | cons e between => simp at hlast
  · cases between with
    | nil =>
      cases hlast
      exact ⟨(List.append_nil before).symm, rfl⟩
    | cons e between =>
      cases hlast
      cases hturns _ (List.mem_append_right before List.mem_cons_self)

namespace Request

/-- What a match notes of a violation, the lenient match notes at the same place. -/
theorem exists_events_matchPartial_eq {r : Request} {before after : List Event} {v : Violation}
    {tolerated : Bool} (h : r.matchAll.events = before ++ .violation v tolerated :: after) :
    ∃ tolerated' after', r.matchPartial.events = before ++ .violation v tolerated' :: after' := by
  cases hstrict : r.options.strict with
  | false =>
    rw [matchAll_of_not_strict hstrict] at h
    exact ⟨tolerated, after, h⟩
  | true =>
    rw [matchAll_of_strict hstrict] at h
    cases hhead : r.matchPartial.violations.head? with
    | none =>
      rw [Report.cut_of_no_violation (List.head?_eq_none_iff.mp hhead)] at h
      exact ⟨tolerated, after, h⟩
    | some w =>
      rw [Report.cut_of_violation hhead] at h
      obtain ⟨rfl, rfl⟩ := Event.first_violation_eq Report.violation?_of_mem_takeWhile h
      exact Report.events_split hhead

/-- Whatever match notes a mismatch, it is that of a turn, and stands after what is noted of the
turns before that one and after the turn itself. -/
theorem exists_turn_of_noted {r : Request} {events before after : List Event}
    (hevents : events = r.matchAll.events ∨ events = r.matchPartial.events) {v : CountMismatch}
    {tolerated : Bool} (h : events = before ++ .violation (.countMismatch v) tolerated :: after) :
    ∃ earlier t later, r.turns = earlier ++ t :: later ∧
      before = earlier.flatMap (·.noted r.owner) ++ [t.event] ∧ t.Short ∧
      t.shortage r.owner = v := by
  have hpartial : ∃ tolerated' after',
      r.matchPartial.events = before ++ .violation (.countMismatch v) tolerated' :: after' := by
    rcases hevents with rfl | rfl
    · exact exists_events_matchPartial_eq h
    · exact ⟨tolerated, after, h⟩
  obtain ⟨tolerated', after', hpartial⟩ := hpartial
  obtain ⟨left, hleft⟩ := r.final.leftover?_eq_map r.owner
  have hnoted : r.matchPartial.events =
      r.turns.flatMap (·.noted r.owner) ++ Matching.tolerate (r.final.leftover? r.owner) :=
    Matching.events_lenient r.parent r.patterns.toList (.start r.children)
  rw [hleft, hpartial] at hnoted
  obtain ⟨earlier, t, later, hturns, hbefore, hv⟩ := Turn.exists_of_noted_eq hnoted.symm
  obtain ⟨hshort, heq⟩ := Turn.mismatch?_eq_some_iff.mp hv
  exact ⟨earlier, t, later, hturns, hbefore, hshort, Violation.countMismatch.inj heq⟩

theorem exact_of_turn {r : Request} (hlimit : r.children.length ≤ countLimit) {i : Nat} {t : Turn}
    (ht : r.turns[i]? = some t) (hshort : t.Short) :
    r.patterns.get? i = some t.pattern ∧
      (t.shortage r.owner).Exact r.children r.owner t.pattern t.before.cursor := by
  have hpattern : r.patterns.get? i = some t.pattern := (Position.getElem?_turns ht).1
  have hwell : t.pattern.WellFormed := r.patterns.wellFormed _ (List.mem_of_getElem? hpattern)
  exact ⟨hpattern,
    Turn.exact_shortage (on_of_mem_turns (List.mem_of_getElem? ht)) hlimit hwell hshort r.owner⟩

/-- The pattern at a place of the list has a short run. -/
def Short (r : Request) (i : Nat) : Prop :=
  ∃ t, r.turns[i]? = some t ∧ t.Short

theorem events_of_error {r : Request} {v : Violation} (h : r.matchAll.outcome = .error v) :
    ∃ turns, r.matchAll.events = turns ++ [.violation v false] ∧
      ∀ e ∈ turns, e.violation? = none := by
  have hcut := matchAll_of_strict (strict_of_error h)
  rw [hcut] at h ⊢
  rw [Report.cut_of_violation (Report.outcome_cut_eq_error_iff.mp h)]
  exact ⟨_, rfl, Report.violation?_of_mem_takeWhile⟩

theorem mismatches_eq_nil_iff {r : Request} : r.mismatches = [] ↔ ∀ i, ¬ r.Short i := by
  rw [mismatches, List.map_eq_nil_iff, List.filter_eq_nil_iff]
  constructor
  · rintro h i ⟨t, ht, hshort⟩
    exact h t (List.mem_of_getElem? ht) (decide_eq_true hshort.not_admits)
  · intro h t hmem
    obtain ⟨i, ht⟩ := List.getElem?_of_mem hmem
    have hadmits : t.pattern.cardinality.Admits t.taken.length :=
      (t.pattern.admits_run_iff _).mpr (Nat.not_lt.mp fun hshort => h i ⟨t, ht, hshort⟩)
    simpa using hadmits

theorem not_short_of_unmatchedChildren {r : Request} {v : UnmatchedChildren}
    (h : r.matchAll.outcome = .error (.unmatchedChildren v)) (i : Nat) : ¬ r.Short i :=
  mismatches_eq_nil_iff.mp (mismatches_eq_nil h) i

/-- **Every mismatch is exact.** Whether a match is strict or lenient, each mismatch in its log
follows the turn of the pattern that it is about, which is at index `i` after `i` other turns, and
all that it says of the pattern and the children is right. The one that a strict match fails with is
about the first pattern that is short, and it fails with children left over only if none is. -/
theorem mismatches_exact (r : Request) (hlimit : r.children.length ≤ countLimit) :
    (∀ events, events = r.matchAll.events ∨ events = r.matchPartial.events →
      ∀ before v tolerated after,
        events = before ++ .violation (.countMismatch v) tolerated :: after →
        ∃ i p start earlier, r.patterns.get? i = some p ∧
          before = earlier ++ [.turn p.typeList start v.received] ∧
          earlier.countP (·.violation?.isNone) = i ∧ r.Short i ∧
          v.Exact r.children r.owner p start) ∧
    (∀ v, r.matchAll.outcome = .error (.countMismatch v) →
      ∃ i p start earlier, r.patterns.get? i = some p ∧
        r.matchAll.events =
          earlier ++ [.turn p.typeList start v.received, .violation (.countMismatch v) false] ∧
        earlier.countP (·.violation?.isNone) = i ∧ r.Short i ∧ (∀ k < i, ¬ r.Short k) ∧
        v.Exact r.children r.owner p start) ∧
    ∀ v, r.matchAll.outcome = .error (.unmatchedChildren v) → ∀ i, ¬ r.Short i := by
  refine ⟨?_, ?_, fun v => not_short_of_unmatchedChildren⟩
  · intro events hevents before v tolerated after h
    obtain ⟨earlier, t, later, hturns, rfl, hshort, rfl⟩ := exists_turn_of_noted hevents h
    have ht : r.turns[earlier.length]? = some t := by simp [hturns]
    obtain ⟨hpattern, hexact⟩ := exact_of_turn hlimit ht hshort
    exact ⟨earlier.length, t.pattern, t.before.cursor, _, hpattern, rfl,
      Turn.countP_flatMap_noted earlier r.owner, ⟨t, ht, hshort⟩, hexact⟩
  · intro v herror
    obtain ⟨turns, hevents, hquiet⟩ := events_of_error herror
    obtain ⟨earlier, t, later, hturns, rfl, hshort, rfl⟩ :=
      exists_turn_of_noted (Or.inl rfl) hevents
    have ht : r.turns[earlier.length]? = some t := by simp [hturns]
    obtain ⟨hpattern, hexact⟩ := exact_of_turn hlimit ht hshort
    refine ⟨earlier.length, t.pattern, t.before.cursor, _, hpattern, ?_,
      Turn.countP_flatMap_noted earlier r.owner, ⟨t, ht, hshort⟩, ?_, hexact⟩
    · rw [hevents, List.append_assoc]
      rfl
    · rintro k hk ⟨t', ht', hshort'⟩
      -- A short turn before this one would have its mismatch in the log before this one.
      rw [hturns, List.getElem?_append_left hk] at ht'
      have hnoted : ∀ e ∈ t'.noted r.owner, e.violation? = none := by
        intro e he
        refine hquiet e (List.mem_append_left _ ?_)
        exact List.mem_flatMap.mpr ⟨t', List.mem_of_getElem? ht', he⟩
      exact Turn.not_short_of_noted hnoted hshort'

/-- A table of which only the footer is left. Nothing in it can be the heading. -/
def headless : Request :=
  { table with children := table.children.drop 3 }

theorem headless_mismatch_exact :
    headless.children.length ≤ countLimit ∧
      headless.matchAll.outcome = .error (.countMismatch
        ⟨.tooFew, "row", "Table", .exactly 1, 0, some "<foot />"⟩) ∧
      ∃ i p start, headless.patterns.get? i = some p ∧ headless.Short i ∧
        CountMismatch.Exact ⟨.tooFew, "row", "Table", .exactly 1, 0, some "<foot />"⟩
          headless.children "Table" p start := by
  have hlimit : headless.children.length ≤ countLimit := by decide
  have herror : headless.matchAll.outcome = .error (.countMismatch
      ⟨.tooFew, "row", "Table", .exactly 1, 0, some "<foot />"⟩) := by rfl
  obtain ⟨i, p, start, -, hpattern, -, -, hshort, -, hexact⟩ :=
    (mismatches_exact headless hlimit).2.1 _ herror
  exact ⟨hlimit, herror, i, p, start, hpattern, hshort, hexact⟩

end Request

end ChildRules
