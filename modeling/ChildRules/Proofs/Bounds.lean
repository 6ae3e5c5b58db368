import ChildRules.Proofs.Rematching
import ChildRules.Proofs.Rewording
import ChildRules.Proofs.Wording

/-!
# Bounds

The words for a range are true to it: they allow the counts that the range admits, and no other
range has the same words. So the words show whether there is a bound at all. The children show it
only if there are enough of them: a pattern with a bound that they cannot exceed takes what it takes
without, and the same is wrong with it. What was expected is then the one thing that tells the two
apart.
-/

namespace ChildRules

/-! ## Ranges in words -/

/-- The range that a wording is read as. -/
def Quantifier.bounds : Quantifier → Cardinality
  | .exactly n => ⟨n, some n⟩
  | .atLeast n => ⟨n, none⟩
  | .atMost n => ⟨0, some n⟩
  | .between low high => ⟨low, some high⟩

theorem Quantifier.allows_iff (q : Quantifier) (count : Nat) :
    q.Allows count ↔ q.bounds.Admits count := by
  cases q with
  | exactly n =>
    show count = n ↔ n ≤ count ∧ ∀ max ∈ some n, count ≤ max
    simp
    omega
  | atLeast n => simp [Allows, bounds, Cardinality.Admits]
  | atMost n => simp [Allows, bounds, Cardinality.Admits]
  | between low high => simp [Allows, bounds, Cardinality.Admits]

theorem Quantifier.text_injective : Function.Injective text := by
  intro q p h
  have hempty : StopsDigits "" := by simp [StopsDigits]
  have happend : q.text ++ "" = p.text ++ "" := by rw [h]
  exact ((text_append_inj hempty hempty).mp happend).1

namespace Cardinality

/-- **A range can be read off its wording**, whichever wording it is that fits first. -/
theorem bounds_quantifier (c : Cardinality) : c.quantifier.bounds = c := by
  obtain ⟨min, max⟩ := c
  unfold quantifier
  cases max with
  | none => rfl
  | some max =>
    show (Quantifier.ofBounds min (some max)).bounds = _
    rw [Quantifier.ofBounds]
    by_cases hexact : max = min
    · rw [if_pos hexact, hexact]
      rfl
    · rw [if_neg hexact]
      by_cases hzero : min = 0
      · rw [if_pos hzero, hzero]
        rfl
      · rw [if_neg hzero]
        rfl

/-- **The words for a range are true to it.** They allow the counts that the range admits, with its
bounds in order or not, and only for the same bounds is the text the same. -/
theorem wording_is_faithful (c : Cardinality) :
    (∀ count, c.Admits count ↔ c.quantifier.Allows count) ∧
    ∀ d : Cardinality, c.quantifier.text = d.quantifier.text ↔ c = d := by
  constructor
  · intro count
    rw [Quantifier.allows_iff, bounds_quantifier]
  · intro d
    constructor
    · intro h
      have hsame := congrArg Quantifier.bounds (Quantifier.text_injective h)
      rwa [bounds_quantifier, bounds_quantifier] at hsame
    · rintro rfl
      rfl

/-- No child at all is an exact count, and bounds out of order are told as they are. -/
example : (Cardinality.mk 0 (some 0)).quantifier.text = "0" ∧
    (Cardinality.mk 5 (some 2)).quantifier.text = "between [5, 2]" :=
  ⟨rfl, rfl⟩

end Cardinality

/-! ## A bound in place of none -/

/-- The pattern with another maximum. -/
def Pattern.withMax (p : Pattern) (max : Nat) : Pattern :=
  { p with cardinality := ⟨p.cardinality.min, some max⟩ }

/-- A pattern as it is, or bounded if it is unbounded: by a maximum that neither so many children
nor the minimum exceed, and that leaves room for a list. -/
inductive Pattern.Bounded (n : Nat) : Pattern → Pattern → Prop where
  | same (p : Pattern) : Bounded n p p
  | withMax (p : Pattern) (max : Nat) (unbounded : p.cardinality.max = none) (few : n ≤ max)
    (ordered : p.cardinality.min ≤ max) (several : 2 ≤ max) : Bounded n p (p.withMax max)

namespace Pattern.Bounded

variable {p q : Pattern} {n : Nat}

theorem wellFormed (h : Bounded n p q) (hp : p.WellFormed) : q.WellFormed := by
  cases h with
  | same => exact hp
  | withMax max unbounded few ordered several =>
    refine ⟨hp.1, ?_⟩
    intro max' hmax
    cases hmax
    exact ordered

theorem forall_wellFormed {ps qs : List Pattern} (h : List.Forall₂ (Bounded n) ps qs)
    (hps : ∀ p ∈ ps, p.WellFormed) : ∀ q ∈ qs, q.WellFormed := by
  induction h with
  | nil => exact hps
  | cons hpq _ ih =>
    rw [List.forall_mem_cons] at hps ⊢
    exact ⟨hpq.wellFormed hps.1, ih hps.2⟩

theorem typeList_eq (h : Bounded n p q) : p.typeList = q.typeList := by
  cases h <;> rfl

theorem min_eq (h : Bounded n p q) : p.cardinality.min = q.cardinality.min := by
  cases h <;> rfl

theorem project_eq (h : Bounded n p q) (parent : Parent) : p.project parent = q.project parent := by
  cases h <;> rfl

theorem isSingle_eq (h : Bounded n p q) : p.cardinality.isSingle = q.cardinality.isSingle := by
  cases h with
  | same => rfl
  | withMax max unbounded few ordered several =>
    have hmany : decide (max ≤ 1) = false := decide_eq_false (by omega)
    rw [Cardinality.isSingle, unbounded]
    exact hmany.symm

/-- **Neither the cap of an unbounded pattern nor the bound cuts the children.** -/
theorem run_eq (h : Bounded n p q) (hlimit : n ≤ countLimit) {rest : List Node}
    (hrest : rest.length ≤ n) : p.run rest = q.run rest := by
  cases h with
  | same => rfl
  | withMax max unbounded few ordered several =>
    have hp : rest.take p.cardinality.cap = rest := by
      rw [Cardinality.cap, unbounded]
      exact List.take_of_length_le (Nat.le_trans hrest hlimit)
    have hq : rest.take (p.withMax max).cardinality.cap = rest :=
      List.take_of_length_le (Nat.le_trans hrest few)
    rw [run, run, hp, hq]
    rfl

end Pattern.Bounded

/-! ## Other expectations -/

def CountMismatch.expecting (v : CountMismatch) (q : Quantifier) : CountMismatch :=
  { v with expected := q }

/-- The violation, with another range in place of the one that was expected. -/
def Violation.expecting (q : Quantifier) : Violation → Violation
  | .countMismatch v => .countMismatch (v.expecting q)
  | .unmatchedChildren u => .unmatchedChildren u

def Event.expecting (q : Quantifier) : Event → Event
  | .turn types start taken => .turn types start taken
  | .violation v tolerated => .violation (v.expecting q) tolerated

theorem Event.retells_expecting (q : Quantifier) :
    Retells (expecting q) (Violation.expecting q) (·.expecting q) :=
  ⟨fun types _ _ => ⟨types, rfl⟩, fun _ _ => rfl, fun _ => rfl, fun u => ⟨u, rfl⟩⟩

namespace Turn.Paired

variable {n : Nat} {t u : Turn}

theorem admits_iff (h : Paired (Pattern.Bounded n) t u) :
    t.pattern.cardinality.Admits t.taken.length ↔
      u.pattern.cardinality.Admits u.taken.length := by
  have hmin : t.pattern.cardinality.min ≤ t.taken.length ↔
      u.pattern.cardinality.min ≤ u.taken.length := by rw [h.patterns.min_eq, h.taken]
  unfold Turn.taken at hmin ⊢
  rwa [Pattern.admits_run_iff, Pattern.admits_run_iff]

theorem expecting_shortage (h : Paired (Pattern.Bounded n) t u) (q : Quantifier)
    (owner : String) : (t.shortage owner).expecting q = (u.shortage owner).expecting q := by
  show CountMismatch.mk .tooFew t.pattern.typeList owner q t.taken.length
      (t.shortage owner).failedOn =
    .mk .tooFew u.pattern.typeList owner q u.taken.length (u.shortage owner).failedOn
  rw [h.patterns.typeList_eq, h.taken, h.failedOn_eq owner owner]

end Turn.Paired

/-! ## What a match expects -/

/-- What was expected of each pattern is the range that it has in a list, and nothing was expected
otherwise. What a match fails with was noted. -/
structure Report.Expects {α : Type} (r : Report (Except Violation α)) (ps : PatternList) :
    Prop where
  expected (k : Nat) (v : CountMismatch) : Event.mismatchAt? r.events k = some v →
    ∃ p, ps.get? k = some p ∧ v.expected = p.cardinality.quantifier
  noted (v : CountMismatch) (tolerated : Bool) :
    .violation (.countMismatch v) tolerated ∈ r.events →
      ∃ k, Event.mismatchAt? r.events k = some v
  failed (v : Violation) : r.outcome = .error v → .violation v false ∈ r.events

/-- A cut leaves no mismatch that was not there. -/
theorem Report.mismatchAt?_of_cut {α : Type} {r : Report α} {k : Nat} {v : CountMismatch}
    (h : Event.mismatchAt? r.cut.events k = some v) : Event.mismatchAt? r.events k = some v := by
  cases hhead : r.violations.head? with
  | none => rwa [cut_of_no_violation (List.head?_eq_none_iff.mp hhead)] at h
  | some w =>
    obtain ⟨tolerated, after, hevents⟩ := events_split hhead
    rw [cut_of_violation hhead] at h
    rw [hevents]
    generalize r.events.takeWhile (·.violation?.isNone) = before at h
    -- What comes before the cut is the same, and one event after a turn decides.
    induction before generalizing k with
    | nil => cases h
    | cons e before ih =>
      cases e with
      | violation v tolerated => exact ih h
      | turn types start taken =>
        cases k with
        | zero =>
          cases before with
          | nil => cases w <;> exact h
          | cons e before => exact h
        | succ k => exact ih h

/-- What is noted right after a turn is at the index of the turn. -/
theorem Event.mismatchAt?_of_noted (ts : List Turn) (t : Turn) (v : CountMismatch)
    (tolerated : Bool) (owner : String) (after : List Event) :
    mismatchAt? (ts.flatMap (·.noted owner) ++
      t.event :: .violation (.countMismatch v) tolerated :: after) ts.length = some v := by
  induction ts with
  | nil => rfl
  | cons t' ts ih =>
    rw [List.flatMap_cons, List.append_assoc]
    show mismatchAt? (Matching.tolerate _ ++ _) ts.length = _
    rw [Matching.mismatchAt?_tolerate_append]
    exact ih

namespace Request

/-- Whatever match notes a mismatch, it is at the index of a pattern. -/
theorem exists_mismatchAt?_of_noted {r : Request} {events : List Event}
    (hevents : events = r.matchAll.events ∨ events = r.matchPartial.events) {v : CountMismatch}
    {tolerated : Bool} (h : .violation (.countMismatch v) tolerated ∈ events) :
    ∃ k, Event.mismatchAt? events k = some v := by
  obtain ⟨before, after, hsplit⟩ := List.append_of_mem h
  obtain ⟨earlier, t, later, -, rfl, -, -⟩ := exists_turn_of_noted hevents hsplit
  rw [List.append_assoc, List.singleton_append] at hsplit
  rw [hsplit]
  exact ⟨earlier.length, Event.mismatchAt?_of_noted ..⟩

theorem expects_matchPartial (r : Request) : (r.matchPartial.map Except.ok).Expects r.patterns where
  expected k v h := by
    obtain ⟨t, ht, -, rfl⟩ := mismatchAt?_eq_some_iff.mp h
    exact ⟨t.pattern, (Position.getElem?_turns ht).1, rfl⟩
  noted _ _ h := exists_mismatchAt?_of_noted (Or.inr rfl) h
  failed v h := by cases h

theorem expects_matchAll (r : Request) : r.matchAll.Expects r.patterns := by
  cases hstrict : r.options.strict with
  | false =>
    rw [matchAll_of_not_strict hstrict]
    exact r.expects_matchPartial
  | true =>
    have hcut := matchAll_of_strict hstrict
    refine ⟨?_, ?_, ?_⟩
    · intro k v h
      rw [hcut] at h
      exact r.expects_matchPartial.expected k v (Report.mismatchAt?_of_cut (r := r.matchPartial) h)
    · intro v tolerated h
      exact exists_mismatchAt?_of_noted (Or.inl rfl) h
    · intro v h
      rw [hcut] at h ⊢
      rw [Report.cut_of_violation (Report.outcome_cut_eq_error_iff.mp h)]
      exact List.mem_append_right _ List.mem_cons_self

/-! ## Matches with and without bounds -/

/-- Two matches come to the same, and the second expects of each pattern the range that it has in a
list. -/
structure SameButExpected (ps : PatternList)
    (a b : Report (Except Violation (List (Result Mapped)))) : Prop where
  events (q : Quantifier) : a.events.map (Event.expecting q) = b.events.map (Event.expecting q)
  outcome (q : Quantifier) :
    a.outcome.mapError (Violation.expecting q) = b.outcome.mapError (Violation.expecting q)
  mismatchAt? (k : Nat) (p : Pattern) : ps.get? k = some p →
    Event.mismatchAt? b.events k =
      (Event.mismatchAt? a.events k).map (·.expecting p.cardinality.quantifier)
  noted (v : CountMismatch) (tolerated : Bool) :
    .violation (.countMismatch v) tolerated ∈ b.events →
      ∃ k p, ps.get? k = some p ∧ Event.mismatchAt? b.events k = some v
  failed (v : Violation) : b.outcome = .error v → .violation v false ∈ b.events

theorem sameButExpected_of_expects {ps : PatternList}
    {a b : Report (Except Violation (List (Result Mapped)))}
    (hevents : ∀ q, a.events.map (Event.expecting q) = b.events.map (Event.expecting q))
    (houtcome : ∀ q, a.outcome.mapError (Violation.expecting q) =
      b.outcome.mapError (Violation.expecting q))
    (hb : b.Expects ps) : SameButExpected ps a b := by
  refine ⟨hevents, houtcome, ?_, ?_, hb.failed⟩
  · intro k p hp
    -- Told with the pattern's own range, what the second match notes of it does not change.
    have htold := congrArg (Event.mismatchAt? · k) (hevents p.cardinality.quantifier)
    simp only [(Event.retells_expecting _).mismatchAt?_map] at htold
    rw [htold]
    cases hv : Event.mismatchAt? b.events k with
    | none => rfl
    | some v =>
      obtain ⟨p', hp', hexpected⟩ := hb.expected k v hv
      obtain rfl := Option.some.inj (hp.symm.trans hp')
      rw [← hexpected]
      rfl
  · intro v tolerated hmem
    obtain ⟨k, hv⟩ := hb.noted v tolerated hmem
    obtain ⟨p, hp, -⟩ := hb.expected k v hv
    exact ⟨k, p, hp, hv⟩

section Bounded

variable {r : Request} {bounded : PatternList}

/-- What a lenient match notes and finds does not depend on the bounds. -/
theorem matchPartial_of_bounded (hlimit : r.children.length ≤ countLimit)
    (h : List.Forall₂ (Pattern.Bounded r.children.length) r.patterns.toList bounded.toList) :
    (∀ q, r.matchPartial.events.map (Event.expecting q) =
      (r.withPatterns bounded).matchPartial.events.map (Event.expecting q)) ∧
    r.matchPartial.outcome = (r.withPatterns bounded).matchPartial.outcome := by
  have hstart : (Position.start r.children).rest.length ≤ r.children.length := Nat.le_refl _
  obtain ⟨hturns, hfinal⟩ :=
    Position.paired_turns (fun _ _ _ hpq hrest => hpq.run_eq hlimit hrest) h hstart
  constructor
  · intro q
    refine (Event.retells_expecting q).map_events_eq hturns ?_ ?_ (by rw [hfinal]; rfl)
    · intro t u htu
      rw [htu.event_eq htu.patterns.typeList_eq]
    · intro t u htu
      exact (Event.retells_expecting q).map_mismatch?_eq htu.admits_iff
        (htu.expecting_shortage q r.owner)
  · rw [outcome_matchPartial, outcome_matchPartial]
    exact map_eq_of_forall₂ hturns fun t u htu =>
      htu.result_eq htu.patterns.isSingle_eq (htu.patterns.project_eq r.parent)

theorem sameButExpected_matchPartial (hlimit : r.children.length ≤ countLimit)
    (h : List.Forall₂ (Pattern.Bounded r.children.length) r.patterns.toList bounded.toList) :
    SameButExpected bounded (r.matchPartial.map .ok)
      ((r.withPatterns bounded).matchPartial.map .ok) := by
  obtain ⟨hevents, houtcome⟩ := matchPartial_of_bounded hlimit h
  refine sameButExpected_of_expects hevents (fun q => ?_) (expects_matchPartial _)
  show Except.ok _ = Except.ok _
  rw [houtcome]

theorem sameButExpected_matchAll (hlimit : r.children.length ≤ countLimit)
    (h : List.Forall₂ (Pattern.Bounded r.children.length) r.patterns.toList bounded.toList) :
    SameButExpected bounded r.matchAll (r.withPatterns bounded).matchAll := by
  cases hstrict : r.options.strict with
  | false =>
    rw [matchAll_of_not_strict hstrict,
      matchAll_of_not_strict (r := r.withPatterns bounded) hstrict]
    exact sameButExpected_matchPartial hlimit h
  | true =>
    obtain ⟨hevents, houtcome⟩ := matchPartial_of_bounded hlimit h
    -- Both matches are cut at the same violation, whatever is said to be expected.
    have hcut : ∀ q, (⟨r.matchAll.events.map (Event.expecting q),
        r.matchAll.outcome.mapError (Violation.expecting q)⟩ : Report _) =
      ⟨(r.withPatterns bounded).matchAll.events.map (Event.expecting q),
        (r.withPatterns bounded).matchAll.outcome.mapError (Violation.expecting q)⟩ := by
      intro q
      rw [matchAll_of_strict hstrict, matchAll_of_strict (r := r.withPatterns bounded) hstrict,
        (Event.retells_expecting q).cut, (Event.retells_expecting q).cut, hevents, houtcome]
    exact sameButExpected_of_expects (fun q => congrArg Report.events (hcut q))
      (fun q => congrArg Report.outcome (hcut q)) (expects_matchAll _)

end Bounded

/-- **Whether there is no bound or one that is large enough cannot be told.** Patterns with such
bounds in place of none make a list. Whatever call is made, the two lists come to the same results,
or the same is wrong with the same patterns, but for what was expected of them: that is the range
that each of them has. -/
theorem unbounded_as_bounded (r : Request) (hlimit : r.children.length ≤ countLimit)
    {qs : List Pattern}
    (h : List.Forall₂ (Pattern.Bounded r.children.length) r.patterns.toList qs) :
    ∃ bounded, PatternList.ofList qs = .ok bounded ∧
      SameButExpected bounded r.matchAll (r.withPatterns bounded).matchAll ∧
      SameButExpected bounded (r.matchPartial.map .ok)
        ((r.withPatterns bounded).matchPartial.map .ok) := by
  let bounded : PatternList := ⟨qs, Pattern.Bounded.forall_wellFormed h r.patterns.wellFormed⟩
  exact ⟨bounded, PatternList.ofList_eq_ok_iff.mpr rfl,
    sameButExpected_matchAll hlimit h,
    sameButExpected_matchPartial hlimit h⟩

/-- A footer where a row at least is expected before it. -/
def rowless : Request where
  owner := "Table"
  options := .validating
  context := .empty
  children := [⟨⟨.tag "foot", .empty⟩, ⟨3⟩⟩]
  patterns :=
    { toList := [.oneOrMore [.tag "row"], .zeroOrMore [.tag "foot"]]
      wellFormed := by
        simp [Pattern.WellFormed, Pattern.oneOrMore, Pattern.zeroOrMore, Pattern.ofRange,
          Cardinality.WellFormed] }

/-- If no more rows than the largest count are expected, none is still too few. -/
theorem rowless_bounded :
    rowless.children.length ≤ countLimit ∧
      List.Forall₂ (Pattern.Bounded rowless.children.length) rowless.patterns.toList
        [.between 1 countLimit [.tag "row"], .zeroOrMore [.tag "foot"]] ∧
      Event.mismatchAt? rowless.matchAll.events 0 =
        some ⟨.tooFew, "row", "Table", .atLeast 1, 0, some "<foot />"⟩ ∧
      ∃ bounded, PatternList.ofList
          [.between 1 countLimit [.tag "row"], .zeroOrMore [.tag "foot"]] = .ok bounded ∧
        Event.mismatchAt? (rowless.withPatterns bounded).matchAll.events 0 =
          some ⟨.tooFew, "row", "Table", .between 1 countLimit, 0, some "<foot />"⟩ := by
  have hlimit : rowless.children.length ≤ countLimit := by decide
  have hpatterns : List.Forall₂ (Pattern.Bounded rowless.children.length) rowless.patterns.toList
      [.between 1 countLimit [.tag "row"], .zeroOrMore [.tag "foot"]] :=
    .cons (.withMax _ _ rfl (by decide) (by decide) (by decide)) (.cons (.same _) .nil)
  have hshort : Event.mismatchAt? rowless.matchAll.events 0 =
      some ⟨.tooFew, "row", "Table", .atLeast 1, 0, some "<foot />"⟩ := by rfl
  obtain ⟨bounded, hok, hall, -⟩ := unbounded_as_bounded rowless hlimit hpatterns
  have hfirst : bounded.get? 0 = some (.between 1 countLimit [.tag "row"]) := by
    rw [PatternList.get?, PatternList.ofList_eq_ok_iff.mp hok]
    rfl
  refine ⟨hlimit, hpatterns, hshort, bounded, hok, ?_⟩
  rw [hall.mismatchAt? 0 _ hfirst, hshort]
  rfl

end Request

end ChildRules
