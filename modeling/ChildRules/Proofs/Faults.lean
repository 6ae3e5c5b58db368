import Mathlib.Order.Bounds.Defs
import ChildRules.Pattern

/-!
# Which pattern is blamed

A list is made of patterns exactly if each of them is well formed, and then it is those patterns in
their order. Otherwise the first that is not well formed is blamed, at its position: for having no
shapes, whatever its bounds are, and else for its bounds. The patterns before it do not matter but
for their number, and those after it not at all.
-/

namespace ChildRules

/-- The fault as it is when so many patterns come before. -/
def PatternFault.later (n : Nat) : PatternFault → PatternFault
  | .noShapes index => .noShapes (index + n)
  | .invertedBounds index min max => .invertedBounds (index + n) min max

namespace Pattern

/-- What a pattern at a position is blamed for. Its bounds count only if it has shapes. -/
inductive Blamed (p : Pattern) (index : Nat) : PatternFault → Prop where
  | noShapes (shapeless : p.shapes = []) : Blamed p index (.noShapes index)
  | invertedBounds {max : Nat} (shaped : p.shapes ≠ []) (bounded : p.cardinality.max = some max)
    (inverted : max < p.cardinality.min) :
    Blamed p index (.invertedBounds index p.cardinality.min max)

/-- The positions of the patterns that are not well formed. -/
def illFormed (ps : List Pattern) : Set Nat :=
  {i | ∃ p, ps[i]? = some p ∧ ¬ p.WellFormed}

/-! ## One pattern -/

theorem fault?_eq_some_iff {p : Pattern} {index : Nat} {fault : PatternFault} :
    p.fault? index = some fault ↔ p.Blamed index fault := by
  unfold fault?
  constructor
  · intro h
    split at h
    · next hshapes =>
      cases h
      exact .noShapes (List.isEmpty_iff.mp hshapes)
    · next hshapes =>
      have hshaped : p.shapes ≠ [] := fun hnil => hshapes (List.isEmpty_iff.mpr hnil)
      split at h
      · cases h
      · next max hmax =>
        split at h
        · cases h
        · next hbounds =>
          cases h
          exact .invertedBounds hshaped hmax (Nat.lt_of_not_le hbounds)
  · rintro (shapeless | ⟨shaped, bounded, inverted⟩)
    · simp [shapeless]
    · simp [shaped, bounded, Nat.not_le_of_lt inverted]

theorem Blamed.not_wellFormed {p : Pattern} {index : Nat} {fault : PatternFault}
    (h : p.Blamed index fault) : ¬ p.WellFormed := by
  rw [← fault?_eq_none_iff p index, fault?_eq_some_iff.mpr h]
  exact nofun

theorem fault?_add (p : Pattern) (index n : Nat) :
    p.fault? (index + n) = (p.fault? index).map (·.later n) := by
  unfold fault?
  cases p.shapes.isEmpty
  · cases p.cardinality.max with
    | none => rfl
    | some max => by_cases h : p.cardinality.min ≤ max <;> simp [h, PatternFault.later]
  · rfl

/-! ## Pattern after pattern -/

theorem isLeast_illFormed_zero {p : Pattern} (h : ¬ p.WellFormed) (ps : List Pattern) :
    IsLeast (illFormed (p :: ps)) 0 :=
  ⟨⟨p, rfl, h⟩, fun _ _ => Nat.zero_le _⟩

/-- A pattern that is well formed only moves the ones after it. -/
theorem isLeast_illFormed_succ_iff {p : Pattern} (h : p.WellFormed) {ps : List Pattern} {i : Nat} :
    IsLeast (illFormed (p :: ps)) (i + 1) ↔ IsLeast (illFormed ps) i := by
  constructor
  · rintro ⟨hmem, hleast⟩
    exact ⟨hmem, fun j hj => Nat.le_of_succ_le_succ (hleast hj)⟩
  · rintro ⟨hmem, hleast⟩
    refine ⟨hmem, ?_⟩
    rintro (_ | j) ⟨q, hq, hill⟩
    · obtain rfl := Option.some.inj hq
      exact absurd h hill
    · exact Nat.succ_le_succ (hleast ⟨q, hq, hill⟩)

/-- The fault of a list is that of the first pattern that is not well formed. -/
theorem firstFault?_eq_some_iff {index : Nat} {ps : List Pattern} {fault : PatternFault} :
    firstFault? index ps = some fault ↔
      ∃ i p, IsLeast (illFormed ps) i ∧ ps[i]? = some p ∧ p.Blamed (index + i) fault := by
  induction ps generalizing index with
  | nil => simp [firstFault?]
  | cons p ps ih =>
    rw [firstFault?]
    cases hfault : p.fault? index with
    | some f =>
      have hblamed := fault?_eq_some_iff.mp hfault
      have hzero := isLeast_illFormed_zero hblamed.not_wellFormed ps
      constructor
      · rintro ⟨⟩
        exact ⟨0, p, hzero, rfl, hblamed⟩
      · rintro ⟨i, q, hleast, hq, hblamed'⟩
        obtain rfl := Nat.le_zero.mp (hleast.2 hzero.1)
        obtain rfl := Option.some.inj hq
        exact hfault.symm.trans (fault?_eq_some_iff.mpr hblamed')
    | none =>
      have hwell := (fault?_eq_none_iff p index).mp hfault
      have hshift : ∀ i, index + 1 + i = index + (i + 1) := by omega
      simp only [ih, hshift]
      constructor
      · rintro ⟨i, q, hleast, hq, hblamed⟩
        exact ⟨i + 1, q, (isLeast_illFormed_succ_iff hwell).mpr hleast, hq, hblamed⟩
      · rintro ⟨_ | i, q, hleast, hq, hblamed⟩
        · obtain rfl := Option.some.inj hq
          exact absurd hwell hblamed.not_wellFormed
        · exact ⟨i, q, (isLeast_illFormed_succ_iff hwell).mp hleast, hq, hblamed⟩

theorem firstFault?_add (index n : Nat) (ps : List Pattern) :
    firstFault? (index + n) ps = (firstFault? index ps).map (·.later n) := by
  induction ps generalizing index with
  | nil => rfl
  | cons p ps ih =>
    rw [firstFault?, firstFault?, fault?_add]
    cases p.fault? index with
    | some fault => rfl
    | none =>
      show firstFault? (index + n + 1) ps = _
      rw [Nat.add_right_comm]
      exact ih (index + 1)

/-- A fault in the first part is the fault of the whole. -/
theorem firstFault?_append (index : Nat) (ps qs : List Pattern) :
    firstFault? index (ps ++ qs) =
      (firstFault? index ps).or (firstFault? (index + ps.length) qs) := by
  induction ps generalizing index with
  | nil => rfl
  | cons p ps ih =>
    rw [List.cons_append, firstFault?, firstFault?]
    cases p.fault? index with
    | some fault => rfl
    | none =>
      have hshift : index + (p :: ps).length = index + 1 + ps.length := by
        rw [List.length_cons]
        omega
      rw [hshift]
      exact ih (index + 1)

end Pattern

namespace PatternList

/-- The patterns of one list and then those of another. -/
def append (first second : PatternList) : PatternList where
  toList := first.toList ++ second.toList
  wellFormed := List.forall_mem_append.mpr ⟨first.wellFormed, second.wellFormed⟩

theorem ofList_eq_error_iff {ps : List Pattern} {fault : PatternFault} :
    ofList ps = .error fault ↔ Pattern.firstFault? 0 ps = some fault := by
  unfold ofList
  split
  · next f hf => simp [hf]
  · next hnone => simp [hnone]

theorem exists_ofList_eq_ok_iff {ps : List Pattern} :
    (∃ list, ofList ps = .ok list) ↔ ∀ p ∈ ps, p.WellFormed := by
  simp only [ofList_eq_ok_iff]
  constructor
  · rintro ⟨list, rfl⟩
    exact list.wellFormed
  · intro h
    exact ⟨⟨ps, h⟩, rfl⟩

/-- Patterns in two parts: a fault in the first comes first, and one in the second comes later by
the length of the first. -/
theorem ofList_append (ps qs : List Pattern) :
    ofList (ps ++ qs) = (ofList ps).bind fun first =>
      ((ofList qs).mapError (·.later ps.length)).map first.append := by
  have hwhole := Pattern.firstFault?_append 0 ps qs
  rw [Pattern.firstFault?_add] at hwhole
  cases hfirst : ofList ps with
  | error fault =>
    rw [ofList_eq_error_iff.mp hfirst, Option.some_or] at hwhole
    exact ofList_eq_error_iff.mpr hwhole
  | ok first =>
    obtain rfl := ofList_eq_ok_iff.mp hfirst
    rw [(Pattern.firstFault?_eq_none_iff 0 _).mpr first.wellFormed, Option.none_or] at hwhole
    cases hsecond : ofList qs with
    | error fault =>
      rw [ofList_eq_error_iff.mp hsecond] at hwhole
      exact ofList_eq_error_iff.mpr hwhole
    | ok second =>
      obtain rfl := ofList_eq_ok_iff.mp hsecond
      exact ofList_eq_ok_iff.mpr rfl

/-- **The first pattern that is not well formed is blamed.** Without one the patterns make a list,
as they are. With more patterns after them the blame stays, and else it falls on the first of those
that is not well formed. -/
theorem first_fault_is_blamed (ps : List Pattern) :
    ((∃ list, ofList ps = .ok list) ↔
      ∀ p ∈ ps, p.shapes ≠ [] ∧ ∀ max ∈ p.cardinality.max, p.cardinality.min ≤ max) ∧
    (∀ list, ofList ps = .ok list ↔ list.toList = ps) ∧
    (∀ fault, ofList ps = .error fault ↔
      ∃ i p, IsLeast (Pattern.illFormed ps) i ∧ ps[i]? = some p ∧ p.Blamed i fault) ∧
    ∀ qs, ofList (ps ++ qs) = (ofList ps).bind fun first =>
      ((ofList qs).mapError (·.later ps.length)).map first.append := by
  refine ⟨exists_ofList_eq_ok_iff, fun _ => ofList_eq_ok_iff, fun fault => ?_, ofList_append ps⟩
  simp only [ofList_eq_error_iff, Pattern.firstFault?_eq_some_iff, Nat.zero_add]

/-- The second pattern has no shapes, and its bounds are inverted too. The third is not looked at. -/
example : ofList [.one [.tag "row"], .between 3 2 [], .between 5 4 [.tag "foot"]] =
    .error (.noShapes 1) :=
  rfl

end PatternList

end ChildRules
