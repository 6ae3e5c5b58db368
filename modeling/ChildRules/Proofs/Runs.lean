import ChildRules.Matching

/-!
# Runs

A pattern's run is as long as it can be: no stretch of accepted children at the head that keeps to
the maximum is longer. It ends at the maximum, with the last child, or at a child that the pattern
rejects. The cap of an unbounded pattern never ends it, because no list of children is longer than
`countLimit`.

A run keeps to the maximum, so a count that is out of range lies below the minimum. What a pattern
reports of its run has the form that its maximum asks for and loses no child.
-/

namespace ChildRules

/-! ## The cap -/

namespace Cardinality

/-- A count of children that keeps to the maximum keeps to the cap. -/
theorem le_cap {c : Cardinality} {n : Nat} (hlimit : n ≤ countLimit)
    (hmax : ∀ max ∈ c.max, n ≤ max) : n ≤ c.cap := by
  unfold cap
  cases hc : c.max with
  | none => exact hlimit
  | some max => exact hmax max hc

theorem cap_of_max {c : Cardinality} {max : Nat} (h : max ∈ c.max) : c.cap = max := by
  rw [cap, Option.mem_def.mp h, Option.getD_some]

theorem isSingle_iff {c : Cardinality} : c.isSingle = true ↔ ∃ max ∈ c.max, max ≤ 1 := by
  unfold isSingle
  cases c.max with
  | none => simp
  | some max => simp

end Cardinality

/-! ## How long a run is -/

namespace Pattern

theorem run_eq_take (p : Pattern) (rest : List Node) :
    p.run rest = rest.take (p.run rest).length := by
  have h := congrArg (List.take (p.run rest).length) (p.run_append_drop rest)
  rwa [List.take_left] at h

theorem length_run_le (p : Pattern) (rest : List Node) : (p.run rest).length ≤ rest.length := by
  have h := congrArg List.length (p.run_append_drop rest)
  rw [List.length_append] at h
  omega

theorem length_run_le_max (p : Pattern) (rest : List Node) :
    ∀ max ∈ p.cardinality.max, (p.run rest).length ≤ max := by
  intro max hmem
  rw [← Cardinality.cap_of_max hmem]
  exact p.length_run_le_cap rest

theorem length_run_le_one (p : Pattern) (rest : List Node)
    (h : p.cardinality.isSingle = true) : (p.run rest).length ≤ 1 := by
  obtain ⟨max, hmem, hle⟩ := Cardinality.isSingle_iff.mp h
  exact Nat.le_trans (p.length_run_le_max rest max hmem) hle

/-- **No accepted stretch at the head is longer than the run**, if it keeps to the maximum. -/
theorem le_length_run {p : Pattern} {rest : List Node} {n : Nat} (hn : n ≤ rest.length)
    (hlimit : n ≤ countLimit) (hmax : ∀ max ∈ p.cardinality.max, n ≤ max)
    (haccepts : ∀ x ∈ rest.take n, p.accepts x = true) : n ≤ (p.run rest).length := by
  rcases p.run_stops rest with hcap | hstop
  · rw [hcap]
    exact Cardinality.le_cap hlimit hmax
  · refine Nat.le_of_not_lt fun hlt => ?_
    -- The child that ended the run would be among the `n` accepted ones.
    have hlt' : (p.run rest).length < rest.length := Nat.lt_of_lt_of_le hlt hn
    have hrejects := hstop rest[(p.run rest).length] (by simp [List.head?_drop, hlt'])
    have hmem : rest[(p.run rest).length] ∈ rest.take n :=
      List.mem_take_iff_getElem.mpr ⟨_, Nat.lt_min.mpr ⟨hlt, hlt'⟩, rfl⟩
    rw [haccepts _ hmem] at hrejects
    exact Bool.noConfusion hrejects

/-- What can end a run: the maximum, the last child, or a child that the pattern rejects. -/
theorem run_ends (p : Pattern) {rest : List Node} (hlimit : rest.length ≤ countLimit) :
    p.cardinality.max = some (p.run rest).length ∨ rest.drop (p.run rest).length = [] ∨
      ∃ x ∈ (rest.drop (p.run rest).length).head?, p.accepts x = false := by
  rcases p.run_stops rest with hcap | hstop
  · cases hmax : p.cardinality.max with
    | some max => exact Or.inl (by rw [hcap, Cardinality.cap_of_max hmax])
    | none =>
      have hle : rest.length ≤ (p.run rest).length := by
        rw [hcap, Cardinality.cap, hmax]
        exact hlimit
      exact Or.inr (Or.inl (List.drop_eq_nil_of_le hle))
  · cases hrest : rest.drop (p.run rest).length with
    | nil => exact Or.inr (Or.inl rfl)
    | cons x later => exact Or.inr (Or.inr ⟨x, rfl, hstop x (by rw [hrest]; rfl)⟩)

theorem admits_run_iff (p : Pattern) (rest : List Node) :
    p.cardinality.Admits (p.run rest).length ↔ p.cardinality.min ≤ (p.run rest).length :=
  ⟨And.left, fun h => ⟨h, p.length_run_le_max rest⟩⟩

end Pattern

/-! ## What is wrong with a run -/

namespace Position

/-- What a pattern's turn is blamed for when its run is short. -/
def shortage (pos : Position) (p : Pattern) (owner : String) : CountMismatch where
  direction := .tooFew
  types := p.typeList
  owner := owner
  expected := p.cardinality.quantifier
  received := (p.run pos.rest).length
  failedOn := (pos.after p).rest.head?.map (·.toElement.markup)

/-- A run that is out of range is too short. -/
theorem mismatch?_eq (pos : Position) (p : Pattern) (owner : String) :
    pos.mismatch? p owner =
      if p.cardinality.min ≤ (p.run pos.rest).length then none
      else some (.countMismatch (pos.shortage p owner)) := by
  unfold mismatch?
  simp only [p.admits_run_iff]
  by_cases h : p.cardinality.min ≤ (p.run pos.rest).length
  · rw [if_pos h, if_pos h]
  · rw [if_neg h, if_neg h, if_pos (Nat.lt_of_not_le h)]
    rfl

theorem mismatch?_eq_none_iff {pos : Position} {p : Pattern} {owner : String} :
    pos.mismatch? p owner = none ↔ p.cardinality.min ≤ (p.run pos.rest).length := by
  rw [mismatch?_eq]
  split
  · next h => simp [h]
  · next h => simp [h]

theorem leftover?_eq_none_iff {pos : Position} {owner : String} :
    pos.leftover? owner = none ↔ pos.rest = [] := by
  unfold leftover?
  cases pos.rest <;> simp

theorem leftover?_eq_map (pos : Position) (owner : String) :
    ∃ left : Option UnmatchedChildren, pos.leftover? owner = left.map .unmatchedChildren := by
  unfold leftover?
  split
  · exact ⟨none, rfl⟩
  · exact ⟨some _, rfl⟩

theorem toList_leftover? (pos : Position) (owner : String) :
    ∃ us : List UnmatchedChildren,
      (pos.leftover? owner).toList = us.map .unmatchedChildren ∧ us.length ≤ 1 := by
  obtain ⟨left, h⟩ := pos.leftover?_eq_map owner
  rw [h]
  cases left with
  | none => exact ⟨[], rfl, Nat.zero_le 1⟩
  | some u => exact ⟨[u], rfl, Nat.le_refl 1⟩

end Position

/-! ## What a pattern reports of its run -/

/-- Whether a result has the form for a range: one node or its absence under a maximum of at most
one, and a list otherwise. -/
def Result.Fits {α : Type} (c : Cardinality) : Result α → Prop
  | .many _ => ∀ max ∈ c.max, 1 < max
  | .one _ | .absent => ∃ max ∈ c.max, max ≤ 1

namespace Pattern

theorem project_of_unmapped {p : Pattern} {parent : Parent}
    (h : p.mapper = none ∨ parent.appliesMappers = false) (x : Node) :
    p.project parent x = .existing x := by
  unfold project
  rcases h with h | h
  · rw [h]
  · cases p.mapper <;> simp [h]

theorem project_of_mapped {p : Pattern} {parent : Parent} {mapper : Mapper}
    (hmapper : p.mapper = some mapper) (h : parent.appliesMappers = true) (x : Node) :
    p.project parent x = mapper x parent.context := by
  rw [project, hmapper]
  exact if_pos h

theorem fits_result (p : Pattern) (parent : Parent) (pos : Position) :
    (p.result parent pos).Fits p.cardinality := by
  unfold result
  cases hsingle : p.cardinality.isSingle with
  | false =>
    intro max hmem
    refine Nat.lt_of_not_le fun hle => ?_
    rw [Cardinality.isSingle_iff.mpr ⟨max, hmem, hle⟩] at hsingle
    exact Bool.noConfusion hsingle
  | true =>
    have h := Cardinality.isSingle_iff.mp hsingle
    cases (p.run pos.rest).map (p.project parent) <;> exact h

theorem nodes_result (p : Pattern) (parent : Parent) (pos : Position) :
    (p.result parent pos).nodes = (p.run pos.rest).map (p.project parent) := by
  apply Result.nodes_ofNodes
  intro hsingle
  rw [List.length_map]
  exact p.length_run_le_one pos.rest hsingle

end Pattern

end ChildRules
