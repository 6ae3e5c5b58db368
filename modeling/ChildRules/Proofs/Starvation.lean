import Mathlib.Data.List.TakeWhile
import ChildRules.Proofs.Backtracking
import ChildRules.Proofs.Stages

/-!
# Patterns that are starved

A pattern without a maximum takes every child it can get. A pattern after it that accepts nothing
else finds none, because a run is never given back: the child that ended the one run cannot begin
the other. If such a pattern needs a child, no children whatsoever satisfy the list.
-/

namespace ChildRules

/-! ## Turns that take nothing -/

theorem Pattern.run_eq_nil {p : Pattern} {rest : List Node}
    (h : ∀ x ∈ rest.head?, p.accepts x = false) : p.run rest = [] := by
  unfold run
  cases rest with
  | nil => rw [List.take_nil, List.takeWhile_nil]
  | cons x rest =>
    cases p.cardinality.cap with
    | zero => rfl
    | succ cap =>
      rw [List.take_succ_cons, List.takeWhile_cons_of_neg]
      simpa using h x rfl

/-- Without a maximum, all that ends a run is the end of the children or one that is rejected. -/
theorem Pattern.run_of_unbounded {p : Pattern} {rest : List Node}
    (hmax : p.cardinality.max = none) (hlimit : rest.length ≤ countLimit) :
    p.run rest = rest.takeWhile p.accepts := by
  rw [run, Cardinality.cap, hmax, Option.getD_none, List.take_of_length_le hlimit]

theorem Pattern.find?_of_unbounded {p : Pattern} {rest : List Node}
    (hmax : p.cardinality.max = none) (hlimit : rest.length ≤ countLimit) :
    (rest.drop (p.run rest).length).head? = rest.find? (!p.accepts ·) := by
  have hdrop : rest.drop (p.run rest).length = rest.dropWhile p.accepts := by
    have hsplit := congrArg (List.drop (p.run rest).length)
      (List.takeWhile_append_dropWhile (p := p.accepts) (l := rest))
    rw [← run_of_unbounded hmax hlimit, List.drop_left] at hsplit
    exact hsplit.symm
  rw [hdrop, List.find?_not_eq_head?_dropWhile]

namespace Position

theorem after_of_run_eq_nil {pos : Position} {p : Pattern} (h : p.run pos.rest = []) :
    pos.after p = pos := by
  rw [after, h]
  rfl

theorem rejects_head_after {pos : Position} {p : Pattern} (hmax : p.cardinality.max = none)
    (hlimit : pos.rest.length ≤ countLimit) :
    ∀ x ∈ (pos.after p).rest.head?, p.accepts x = false := by
  intro x hx
  rw [rest_after] at hx
  rcases p.run_ends hlimit with hsome | hnil | ⟨y, hy, hrejects⟩
  · rw [hmax] at hsome
    cases hsome
  · rw [hnil] at hx
    cases hx
  · rwa [Option.some.inj (hx.symm.trans hy)]

end Position

/-! ## Patterns in the shadow of another -/

theorem Pattern.accepts_of_subset {p q : Pattern} (h : q.shapes ⊆ p.shapes) {x : Node}
    (haccepts : q.accepts x = true) : p.accepts x = true := by
  obtain ⟨s, hs, hx⟩ := List.any_eq_true.mp haccepts
  exact List.any_eq_true.mpr ⟨s, h hs, hx⟩

/-- The pattern `p` at index `i` has no maximum, and those after it, up to index `j`, accept only
what it accepts. -/
structure PatternList.Shadowed (ps : PatternList) (i j : Nat) (p : Pattern) : Prop where
  get?_eq : ps.get? i = some p
  unbounded : p.cardinality.max = none
  accepts : ∀ (k : Nat) (q : Pattern), i < k → k ≤ j → ps.get? k = some q →
    ∀ x, q.accepts x = true → p.accepts x = true

namespace Request

variable {r : Request}

theorem head?_rest_after (r : Request) (i : Nat) :
    (r.after i).rest.head? = r.children[r.cursorAfter i]? := by
  rw [rest_after, List.head?_drop]

theorem after_succ {k : Nat} {q : Pattern} (hq : r.patterns.get? (k + 1) = some q) :
    r.after (k + 1) = (r.after k).after q := by
  have hq : r.patterns.toList[k + 1]? = some q := hq
  rw [after, List.take_add_one, hq, Position.afterAll_append]
  rfl

theorem rejects_head_after {i : Nat} {p : Pattern} (hp : r.patterns.get? i = some p)
    (hmax : p.cardinality.max = none) (hlimit : r.children.length ≤ countLimit) :
    ∀ x ∈ (r.after i).rest.head?, p.accepts x = false := by
  have hp : r.patterns.toList[i]? = some p := hp
  rw [after, List.take_add_one, hp, Position.afterAll_append]
  apply Position.rejects_head_after hmax
  exact Nat.le_trans (Position.length_rest_afterAll_le ..) hlimit

/-- What the one pattern rejects at the head, those in its shadow reject too. -/
theorem run_eq_nil_of_shadowed {i j k : Nat} {p q : Pattern} (h : r.patterns.Shadowed i j p)
    (hlimit : r.children.length ≤ countLimit) (hik : i < k) (hkj : k ≤ j)
    (hq : r.patterns.get? k = some q) : q.run (r.after i).rest = [] := by
  refine Pattern.run_eq_nil fun x hx => Bool.eq_false_iff.mpr fun haccepts => ?_
  have hrejects := rejects_head_after h.get?_eq h.unbounded hlimit x hx
  rw [h.accepts k q hik hkj hq x haccepts] at hrejects
  exact Bool.noConfusion hrejects

/-- **In the shadow of a pattern the position does not move.** -/
theorem after_eq_of_shadowed {i j k : Nat} {p : Pattern} (h : r.patterns.Shadowed i j p)
    (hlimit : r.children.length ≤ countLimit) (hik : i ≤ k) (hkj : k ≤ j) :
    r.after k = r.after i := by
  induction k, hik using Nat.le_induction with
  | base => rfl
  | succ k hik ih =>
    have ih := ih (by omega)
    cases hq : r.patterns.get? (k + 1) with
    | none =>
      have hq : r.patterns.toList[k + 1]? = none := hq
      rw [← ih, after, List.take_add_one, hq, Option.toList_none, List.append_nil, after]
    | some q =>
      rw [after_succ hq, ih]
      exact Position.after_of_run_eq_nil (run_eq_nil_of_shadowed h hlimit (by omega) hkj hq)

/-- **A pattern in the shadow of another takes nothing.** -/
theorem turn_of_shadowed {i j k : Nat} {p : Pattern} (h : r.patterns.Shadowed i j p)
    (hlimit : r.children.length ≤ countLimit) (hik : i < k) (hkj : k ≤ j) {t : Turn}
    (ht : r.turns[k]? = some t) : t.before = r.after i ∧ t.taken = [] := by
  obtain ⟨hq, hbefore, -⟩ := Position.getElem?_turns ht
  have hpos : t.before = r.after i := by
    obtain ⟨k, rfl⟩ := Nat.exists_eq_succ_of_ne_zero (by omega : k ≠ 0)
    rw [hbefore, ← after_eq_of_shadowed h hlimit (by omega : i ≤ k) (by omega)]
    rfl
  rw [Turn.taken, hpos]
  exact ⟨rfl, run_eq_nil_of_shadowed h hlimit hik hkj hq⟩

/-- The first pattern that is short is blamed. -/
theorem blames_of_short {j : Nat} {t : Turn} (ht : r.turns[j]? = some t) (hshort : t.Short)
    (hbefore : ∀ k < j, ¬ r.Short k) :
    r.Blames (r.patterns.toList.take j) t.pattern (t.shortage r.owner) := by
  obtain ⟨hpattern, hpos, -⟩ := Position.getElem?_turns ht
  refine ⟨⟨r.patterns.toList.drop (j + 1), ?_⟩, ?_, ?_⟩
  · obtain ⟨hj, hget⟩ := List.getElem?_eq_some_iff.mp hpattern
    rw [← hget, ← List.drop_eq_getElem_cons hj, List.take_append_drop]
  · intro u hu
    rw [Position.turns_take] at hu
    obtain ⟨k, hk⟩ := List.getElem?_of_mem hu
    rw [List.getElem?_take] at hk
    split at hk
    · next hkj =>
      refine (u.pattern.admits_run_iff _).mpr (Nat.not_lt.mp fun hless => ?_)
      exact hbefore k hkj ⟨u, hk, hless⟩
    · cases hk
  · rw [← hpos]
    exact Turn.mismatch?_of_not_admits hshort.not_admits r.owner

/-- The first pattern that needs a child and is in the shadow of another is blamed. -/
theorem blames_of_shadowed {i j : Nat} {p q : Pattern} (h : r.patterns.Shadowed i j p)
    (hlimit : r.children.length ≤ countLimit) (hij : i < j) (hq : r.patterns.get? j = some q)
    (hmin : 1 ≤ q.cardinality.min) (hbefore : ∀ k ≤ i, ¬ r.Short k)
    (hbetween : ∀ (k : Nat) (o : Pattern), i < k → k < j → r.patterns.get? k = some o →
      o.cardinality.min = 0) :
    r.Blames (r.patterns.toList.take j) q
      ⟨.tooFew, q.typeList, r.owner, q.cardinality.quantifier, 0,
        r.children[r.cursorAfter i]?.map (·.toElement.markup)⟩ := by
  obtain ⟨t, ht, rfl⟩ := exists_turn_of_get? hq
  obtain ⟨hpos, htaken⟩ := turn_of_shadowed h hlimit hij (Nat.le_refl j) ht
  have hshort : t.Short := by
    rw [Turn.Short, htaken]
    exact hmin
  have hfirst : ∀ k < j, ¬ r.Short k := by
    intro k hkj
    rcases Nat.lt_or_ge i k with hik | hki
    · rintro ⟨u, hu, hless⟩
      rw [Turn.Short, hbetween k u.pattern hik hkj (Position.getElem?_turns hu).1] at hless
      exact Nat.not_lt_zero _ hless
    · exact hbefore k hki
  have hfailed : (t.before.after t.pattern).rest.head? = r.children[r.cursorAfter i]? := by
    rw [Position.after_of_run_eq_nil htaken, hpos, head?_rest_after]
  have hshortage : t.shortage r.owner = ⟨.tooFew, t.pattern.typeList, r.owner,
      t.pattern.cardinality.quantifier, 0,
      r.children[r.cursorAfter i]?.map (·.toElement.markup)⟩ := by
    show CountMismatch.mk _ _ _ _ t.taken.length
      ((t.before.after t.pattern).rest.head?.map _) = _
    rw [htaken, hfailed]
    rfl
  rw [← hshortage]
  exact blames_of_short ht hshort hfirst

/-- Whatever the children are, none is left for the second of two patterns of the same shapes. -/
theorem strict_zeroOrMore_one {shapes : List Shape}
    (hpatterns : r.patterns.toList = [.zeroOrMore shapes, .one shapes])
    (hlimit : r.children.length ≤ countLimit) :
    (r.withStrict true).matchAll.outcome = .error (.countMismatch
      ⟨.tooFew, Shape.listing (shapes.map Shape.name), r.owner, .exactly 1, 0,
        (r.children.find? (!Shape.anyAccepts shapes ·)).map (·.toElement.markup)⟩) := by
  have hget : ∀ k, r.patterns.get? k = [Pattern.zeroOrMore shapes, .one shapes][k]? :=
    fun k => congrArg (·[k]?) hpatterns
  have hshadowed : r.patterns.Shadowed 0 1 (.zeroOrMore shapes) := by
    refine ⟨hget 0, rfl, ?_⟩
    intro k q hk hk' hq x haccepts
    obtain rfl : k = 1 := by omega
    obtain rfl := Option.some.inj ((hget 1).symm.trans hq)
    exact haccepts
  have hbefore : ∀ k ≤ 0, ¬ r.Short k := by
    rintro k hk ⟨t, ht, hshort⟩
    obtain rfl := Nat.le_zero.mp hk
    have hpattern : Pattern.zeroOrMore shapes = t.pattern :=
      Option.some.inj ((hget 0).symm.trans (Position.getElem?_turns ht).1)
    rw [Turn.Short, ← hpattern] at hshort
    exact Nat.not_lt_zero _ hshort
  have hblames : (r.withStrict true).Blames _ _ _ :=
    blames_of_shadowed hshadowed hlimit Nat.zero_lt_one (hget 1) (Nat.le_refl 1) hbefore
      (by omega)
  have hfailed : r.children[r.cursorAfter 0]? =
      r.children.find? (!Shape.anyAccepts shapes ·) := by
    rw [← head?_rest_after, after, hpatterns]
    exact Pattern.find?_of_unbounded (p := .zeroOrMore shapes) rfl hlimit
  rw [← hfailed]
  exact congrArg Report.outcome (hblames.matchAll_eq rfl)

/-- **Patterns in the shadow of an unbounded one are starved.** They take no child, whatever the
children are. So if one of them needs a child, no children satisfy the list; the first that does is
blamed, unless a pattern before the shadow is. -/
theorem shadowed_patterns_starve (r : Request) (hlimit : r.children.length ≤ countLimit) :
    (∀ (i j : Nat) (p : Pattern), r.patterns.Shadowed i j p →
      (∀ (k : Nat) (q : Pattern), i < k → k ≤ j → r.patterns.get? k = some q →
        r.matchPartial.outcome[k]? =
          some (if q.cardinality.isSingle then .absent else .many [])) ∧
      (∀ (k : Nat) (q : Pattern), i < k → k ≤ j → r.patterns.get? k = some q →
        1 ≤ q.cardinality.min → ∃ v, (r.withStrict true).matchAll.outcome = .error v) ∧
      ∀ q, i < j → r.patterns.get? j = some q → 1 ≤ q.cardinality.min →
        (∀ k ≤ i, ¬ r.Short k) →
        (∀ (k : Nat) (o : Pattern), i < k → k < j → r.patterns.get? k = some o →
          o.cardinality.min = 0) →
        (r.withStrict true).matchAll.outcome = .error (.countMismatch
          ⟨.tooFew, q.typeList, r.owner, q.cardinality.quantifier, 0,
            r.children[r.cursorAfter i]?.map (·.toElement.markup)⟩)) ∧
    ∀ shapes, r.patterns.toList = [.zeroOrMore shapes, .one shapes] →
      (r.withStrict true).matchAll.outcome = .error (.countMismatch
        ⟨.tooFew, Shape.listing (shapes.map Shape.name), r.owner, .exactly 1, 0,
          (r.children.find? (!Shape.anyAccepts shapes ·)).map (·.toElement.markup)⟩) := by
  constructor
  · intro i j p h
    refine ⟨?_, ?_, ?_⟩
    · intro k q hik hkj hq
      obtain ⟨t, ht, rfl⟩ := exists_turn_of_get? hq
      obtain ⟨-, htaken⟩ := turn_of_shadowed h hlimit hik hkj ht
      rw [outcome_matchPartial, List.getElem?_map, ht]
      show some (Result.ofNodes _ (t.taken.map _)) = _
      rw [htaken]
      cases t.pattern.cardinality.isSingle <;> rfl
    · intro k q hik hkj hq hmin
      obtain ⟨t, ht, rfl⟩ := exists_turn_of_get? hq
      obtain ⟨-, htaken⟩ := turn_of_shadowed h hlimit hik hkj ht
      have hshort : (r.withStrict true).Short k := by
        refine ⟨t, ht, ?_⟩
        rw [Turn.Short, htaken]
        exact hmin
      obtain ⟨before, o, v, hblames⟩ := exists_blames_of_short hshort
      exact ⟨_, congrArg Report.outcome (hblames.matchAll_eq rfl)⟩
    · intro q hij hq hmin hbefore hbetween
      have hblames : (r.withStrict true).Blames _ _ _ :=
        blames_of_shadowed h hlimit hij hq hmin hbefore hbetween
      exact congrArg Report.outcome (hblames.matchAll_eq rfl)
  · intro shapes hpatterns
    exact strict_zeroOrMore_one hpatterns hlimit

/-- A table whose rows and footer go to the first of three patterns. -/
def footless : Request :=
  { table with
    patterns :=
      { toList :=
          [.zeroOrMore [.tag "row", .tag "foot"], .atMost 2 [.tag "foot"], .one [.tag "row"]]
        wellFormed := by
          simp [Pattern.WellFormed, Pattern.zeroOrMore, Pattern.atMost, Pattern.one,
            Pattern.ofRange, Cardinality.WellFormed] } }

/-- Rows are there, but none for the last pattern. -/
theorem footless_starves :
    footless.children.length ≤ countLimit ∧
      footless.patterns.Shadowed 0 2 (.zeroOrMore [.tag "row", .tag "foot"]) ∧
      footless.matchPartial.outcome[1]? = some (.many []) ∧
      (footless.withStrict true).matchAll.outcome =
        .error (.countMismatch ⟨.tooFew, "row", "Table", .exactly 1, 0, none⟩) := by
  have hlimit : footless.children.length ≤ countLimit := by decide
  have hshadowed :
      footless.patterns.Shadowed 0 2 (.zeroOrMore [.tag "row", .tag "foot"]) := by
    refine ⟨rfl, rfl, ?_⟩
    intro k q hk hk' hq x haccepts
    obtain rfl | rfl : k = 1 ∨ k = 2 := by omega
    · cases hq
      exact Pattern.accepts_of_subset (List.subset_cons_self _ _) haccepts
    · cases hq
      have hsubset : [Shape.tag "row"] ⊆ [.tag "row", .tag "foot"] := by simp
      exact Pattern.accepts_of_subset hsubset haccepts
  obtain ⟨htaken, -, hblamed⟩ := (shadowed_patterns_starve footless hlimit).1 0 2 _ hshadowed
  refine ⟨hlimit, hshadowed, htaken 1 _ (by decide) (by decide) rfl, ?_⟩
  refine hblamed _ (by decide) rfl (by decide) ?_ ?_
  · rintro k hk ⟨t, ht, hshort⟩
    obtain rfl := Nat.le_zero.mp hk
    cases ht
    exact Nat.not_lt_zero _ hshort
  · intro k o hk hk' ho
    obtain rfl : k = 1 := by omega
    cases ho
    rfl

end Request

end ChildRules
