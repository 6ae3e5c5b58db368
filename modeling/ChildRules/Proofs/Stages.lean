import ChildRules.Proofs.Coverage
import ChildRules.Proofs.Diagnosis

/-!
# Matching in stages

Patterns can be matched in two stages: some first, and the others at the children that those leave.
The stages together come to what the whole list comes to, a strict match that ends in the first
stage apart. The second stage does not know of the children that were gone before it began, so its
counts of children have to be advanced by their number.
-/

namespace ChildRules

/-! ## Children that are gone before a match begins -/

/-- What a violation says if that many more children are before, and that many after. A mismatch
counts only the children of its own pattern. -/
def Violation.amid (before after : Nat) : Violation → Violation
  | .countMismatch v => .countMismatch v
  | .unmatchedChildren v =>
    .unmatchedChildren { v with matched := v.matched + before, total := v.total + before + after }

namespace Position

/-- The position if that many more children were gone before. -/
def advance (pos : Position) (gone : Nat) : Position :=
  ⟨pos.cursor + gone, pos.rest⟩

theorem after_advance (pos : Position) (gone : Nat) (p : Pattern) :
    (pos.advance gone).after p = (pos.after p).advance gone := by
  simp only [after, advance, Nat.add_right_comm]

theorem map_amid_mismatch? (pos : Position) (p : Pattern) (owner : String) (before after : Nat) :
    (pos.mismatch? p owner).map (·.amid before after) = pos.mismatch? p owner := by
  rw [mismatch?_eq]
  split <;> rfl

theorem leftover?_advance (pos : Position) (gone : Nat) (owner : String) :
    (pos.advance gone).leftover? owner = (pos.leftover? owner).map (·.amid gone 0) := by
  have htotal : (pos.advance gone).total = pos.total + gone := Nat.add_right_comm ..
  unfold leftover?
  rw [htotal]
  cases h : pos.rest <;> simp [advance, Violation.amid, h]

/-- A position that a walk reaches is the start of a walk over the children to come. -/
theorem On.eq_advance_start {pos : Position} {children : List Node} (h : pos.On children) :
    pos = (start (children.drop pos.cursor)).advance pos.cursor := by
  rw [← h.rest_eq, start, advance, Nat.zero_add]

end Position

namespace Matching

/-! ## Two stages of one match -/

theorem outcome_lenient_advance (parent : Parent) (ps : List Pattern) (pos : Position)
    (gone : Nat) :
    (lenient parent ps (pos.advance gone)).outcome = (lenient parent ps pos).outcome := by
  induction ps generalizing pos with
  | nil => rfl
  | cons p ps ih =>
    show p.result parent pos :: (lenient parent ps ((pos.advance gone).after p)).outcome = _
    rw [Position.after_advance, ih]
    rfl

/-- A lenient match that begins where a walk has got to comes to what a match of the children that
are still to come does. -/
theorem outcome_lenient_of_on {pos : Position} {children : List Node} (h : pos.On children)
    (parent : Parent) (ps : List Pattern) :
    (lenient parent ps pos).outcome =
      (lenient parent ps (.start (children.drop pos.cursor))).outcome := by
  conv_lhs => rw [h.eq_advance_start]
  exact outcome_lenient_advance parent ps _ pos.cursor

theorem outcome_lenient_append (parent : Parent) (ps qs : List Pattern) (pos : Position) :
    (lenient parent (ps ++ qs) pos).outcome =
      (lenient parent ps pos).outcome ++ (lenient parent qs (pos.afterAll ps)).outcome := by
  rw [outcome_lenient, outcome_lenient, outcome_lenient, Position.turns_append, List.map_append]

theorem outcome_strict_cons {parent : Parent} {p : Pattern} {pos : Position}
    (h : pos.mismatch? p parent.name = none) (ps : List Pattern) :
    (strict parent (p :: ps) pos).outcome =
      (strict parent ps (pos.after p)).outcome.map (p.result parent pos :: ·) := by
  rw [strict, h]
  rfl

theorem strict_cons_of_mismatch {parent : Parent} {p : Pattern} {pos : Position} {v : Violation}
    (h : pos.mismatch? p parent.name = some v) (ps : List Pattern) :
    strict parent (p :: ps) pos = ⟨[pos.turn p, .violation v false], .error v⟩ := by
  rw [strict, h]

/-- Children that were gone before count among the matched and among all, and for nothing else. -/
theorem outcome_strict_advance (parent : Parent) (ps : List Pattern) (pos : Position)
    (gone : Nat) :
    (strict parent ps (pos.advance gone)).outcome =
      (strict parent ps pos).outcome.mapError (·.amid gone 0) := by
  induction ps generalizing pos with
  | nil =>
    unfold strict
    rw [Position.leftover?_advance]
    cases pos.leftover? parent.name <;> rfl
  | cons p ps ih =>
    have hgone : (pos.advance gone).mismatch? p parent.name = pos.mismatch? p parent.name := rfl
    cases h : pos.mismatch? p parent.name with
    | none =>
      rw [outcome_strict_cons h, outcome_strict_cons (hgone.trans h), Position.after_advance, ih]
      cases (strict parent ps (pos.after p)).outcome <;> rfl
    | some v =>
      have hamid := pos.map_amid_mismatch? p parent.name gone 0
      rw [h, Option.map_some, Option.some.injEq] at hamid
      rw [strict_cons_of_mismatch h, strict_cons_of_mismatch (hgone.trans h)]
      exact congrArg Except.error hamid.symm

theorem outcome_strict_of_on {pos : Position} {children : List Node} (h : pos.On children)
    (parent : Parent) (ps : List Pattern) :
    (strict parent ps pos).outcome =
      (strict parent ps (.start (children.drop pos.cursor))).outcome.mapError
        (·.amid pos.cursor 0) := by
  conv_lhs => rw [h.eq_advance_start]
  exact outcome_strict_advance parent ps _ pos.cursor

/-- Patterns within range hand a strict match on to those after them. -/
theorem outcome_strict_append {parent : Parent} {ps : List Pattern} {pos : Position}
    (h : ∀ t ∈ pos.turns ps, t.pattern.cardinality.Admits t.taken.length) (qs : List Pattern) :
    (strict parent (ps ++ qs) pos).outcome =
      (strict parent qs (pos.afterAll ps)).outcome.map
        ((lenient parent ps pos).outcome ++ ·) := by
  induction ps generalizing pos with
  | nil => cases h : (strict parent qs pos).outcome <;> simp [h, lenient, Except.map]
  | cons p ps ih =>
    rw [Position.turns_cons, List.forall_mem_cons] at h
    rw [List.cons_append, outcome_strict_cons (Turn.mismatch?_of_admits h.1 _), ih h.2]
    cases hlater : (strict parent qs ((pos.after p).afterAll ps)).outcome <;>
      simp [hlater, lenient_cons, Report.map, Report.precededBy, Except.map]

/-- A strict match ends with the first pattern that is out of range, whatever comes after it. -/
theorem strict_of_mismatch {parent : Parent} {before : List Pattern} {pos : Position}
    (h : ∀ t ∈ pos.turns before, t.pattern.cardinality.Admits t.taken.length) {p : Pattern}
    {v : Violation} (hp : (pos.afterAll before).mismatch? p parent.name = some v)
    (later : List Pattern) :
    strict parent (before ++ p :: later) pos =
      ⟨(pos.turns (before ++ [p])).map Turn.event ++ [.violation v false], .error v⟩ := by
  induction before generalizing pos with
  | nil => exact strict_cons_of_mismatch hp later
  | cons q before ih =>
    rw [Position.turns_cons, List.forall_mem_cons] at h
    have hq : pos.mismatch? q parent.name = none := Turn.mismatch?_of_admits h.1 _
    rw [List.cons_append, strict, hq]
    simp only [ih h.2 hp]
    rfl

end Matching

namespace Request

/-! ## Requests that end in the first stage -/

theorem admits_of_not_short {r : Request} (h : ∀ i, ¬ r.Short i) :
    ∀ t ∈ r.turns, t.pattern.cardinality.Admits t.taken.length := by
  have hnil := mismatches_eq_nil_iff.mpr h
  rw [mismatches, List.map_eq_nil_iff, List.filter_eq_nil_iff] at hnil
  intro t hmem
  simpa using hnil t hmem

theorem exists_blames_of_short {r : Request} {i : Nat} (h : r.Short i) :
    ∃ before p v, r.Blames before p v := by
  cases hhead : r.mismatches.head? with
  | none => exact absurd h (mismatches_eq_nil_iff.mp (List.head?_eq_none_iff.mp hhead) i)
  | some v =>
    obtain ⟨before, p, hblames⟩ := exists_blames hhead
    exact ⟨before, p, v, hblames⟩

/-- A strict match notes the turns up to the pattern that is blamed, and ends there. -/
theorem Blames.matchAll_eq {r : Request} {before : List Pattern} {p : Pattern} {v : CountMismatch}
    (h : r.Blames before p v) (hstrict : r.options.strict = true) :
    r.matchAll = ⟨((Position.start r.children).turns (before ++ [p])).map Turn.event ++
      [.violation (.countMismatch v) false], .error (.countMismatch v)⟩ := by
  obtain ⟨later, hpatterns⟩ := h.position
  rw [matchAll, if_pos hstrict, hpatterns]
  exact Matching.strict_of_mismatch h.admits_before h.mismatch later

/-- Patterns that come later change nothing about who is blamed. -/
theorem Blames.append {r s : Request} {before : List Pattern} {p : Pattern} {v : CountMismatch}
    (h : r.Blames before p v) (howner : s.owner = r.owner) (hchildren : s.children = r.children)
    {qs : List Pattern} (hpatterns : s.patterns.toList = r.patterns.toList ++ qs) :
    s.Blames before p v where
  position := by
    obtain ⟨later, heq⟩ := h.position
    exact ⟨later ++ qs, by rw [hpatterns, heq, List.append_assoc, List.cons_append]⟩
  admits_before := hchildren ▸ h.admits_before
  mismatch := by rw [hchildren, howner, h.mismatch]

/-! ## Requests in two stages -/

/-- The request for other patterns. -/
def withPatterns (r : Request) (ps : PatternList) : Request :=
  { r with patterns := ps }

/-- The request without the first children. -/
def skip (r : Request) (gone : Nat) : Request :=
  { r with children := r.children.drop gone }

/-- **Patterns can be matched in two stages.** The nodes that the first stage reports are the
children that are gone when the second begins. The results of both, one after the other, are those
of the whole list. A strict match ends with the mismatch of the first stage, if that has one, and
else in the way in which the second stage ends: with its results after those of the first, or with
its violation, for which the children of the first stage count as matched. -/
theorem matching_in_stages {ps qs : List Pattern} {both : PatternList}
    (h : PatternList.ofList (ps ++ qs) = .ok both) (r : Request) :
    ∃ first second, PatternList.ofList ps = .ok first ∧ PatternList.ofList qs = .ok second ∧
      ∃ gone, (Result.flatten (r.withPatterns first).matchPartial.outcome).length = gone ∧
        (r.withPatterns both).matchPartial.outcome =
          (r.withPatterns first).matchPartial.outcome ++
            ((r.withPatterns second).skip gone).matchPartial.outcome ∧
        ((∃ i, (r.withPatterns first).Short i) →
          ((r.withPatterns both).withStrict true).matchAll =
            ((r.withPatterns first).withStrict true).matchAll ∧
          ∃ v, ((r.withPatterns first).withStrict true).matchAll.outcome =
            .error (.countMismatch v)) ∧
        ((∀ i, ¬ (r.withPatterns first).Short i) →
          ((r.withPatterns both).withStrict true).matchAll.outcome =
            ((((r.withPatterns second).skip gone).withStrict true).matchAll.outcome.map
              ((r.withPatterns first).matchPartial.outcome ++ ·)).mapError (·.amid gone 0)) := by
  have hboth : both.toList = ps ++ qs := PatternList.ofList_eq_ok_iff.mp h
  let first : PatternList :=
    ⟨ps, fun p hp => both.wellFormed p (hboth ▸ List.mem_append_left qs hp)⟩
  let second : PatternList :=
    ⟨qs, fun q hq => both.wellFormed q (hboth ▸ List.mem_append_right ps hq)⟩
  have hon : (r.withPatterns first).final.On r.children :=
    (Position.on_start r.children).afterAll ps
  refine ⟨first, second, PatternList.ofList_eq_ok_iff.mpr rfl, PatternList.ofList_eq_ok_iff.mpr rfl,
    (r.withPatterns first).final.cursor, ?_, ?_, ?_, ?_⟩
  · rw [length_flatten_matchPartial, cursor_final]
  · show (Matching.lenient r.parent both.toList (.start r.children)).outcome = _
    rw [hboth, Matching.outcome_lenient_append]
    exact congrArg (_ ++ ·) (Matching.outcome_lenient_of_on hon r.parent qs)
  · rintro ⟨i, hshort⟩
    obtain ⟨before, p, v, hblames⟩ := exists_blames_of_short hshort
    have hfirst : ((r.withPatterns first).withStrict true).Blames before p v :=
      hblames.append rfl rfl (List.append_nil ps).symm
    have hwhole : ((r.withPatterns both).withStrict true).Blames before p v :=
      hblames.append rfl rfl hboth
    rw [hwhole.matchAll_eq rfl, hfirst.matchAll_eq rfl]
    exact ⟨rfl, v, rfl⟩
  · intro hnot
    have hadmits : ∀ t ∈ (Position.start r.children).turns ps,
        t.pattern.cardinality.Admits t.taken.length := admits_of_not_short hnot
    have hlater : (Matching.strict r.parent qs (r.withPatterns first).final).outcome =
        (((r.withPatterns second).skip _).withStrict true).matchAll.outcome.mapError _ :=
      Matching.outcome_strict_of_on hon r.parent qs
    show (Matching.strict r.parent both.toList (.start r.children)).outcome = _
    rw [hboth, Matching.outcome_strict_append hadmits]
    refine (congrArg (Except.map _) hlater).trans ?_
    cases (((r.withPatterns second).skip _).withStrict true).matchAll.outcome <;> rfl

/-- The captions and headings of two tables first, and then what can follow a heading: of the seven
children that the heading leaves, three have a place. -/
theorem two_tables_in_stages :
    PatternList.ofList (table.patterns.toList.take 2 ++ table.patterns.toList.drop 2) =
        .ok table.patterns ∧
      ∃ second, PatternList.ofList (table.patterns.toList.drop 2) = .ok second ∧
        (((twoTables.withPatterns second).skip 1).withStrict true).matchAll.outcome =
          .error (.unmatchedChildren ⟨"Table", 3, 7⟩) ∧
        ((twoTables.withPatterns table.patterns).withStrict true).matchAll.outcome =
          .error (.unmatchedChildren ⟨"Table", 4, 8⟩) := by
  have h : PatternList.ofList (table.patterns.toList.take 2 ++ table.patterns.toList.drop 2) =
      .ok table.patterns := PatternList.ofList_eq_ok_iff.mpr rfl
  obtain ⟨⟨_, _⟩, second, hfirst, hsecond, gone, rfl, -, -, hstrict⟩ :=
    matching_in_stages h twoTables
  obtain rfl := PatternList.ofList_eq_ok_iff.mp hfirst
  have hlater : (((twoTables.withPatterns second).skip 1).withStrict true).matchAll.outcome =
      .error (.unmatchedChildren ⟨"Table", 3, 7⟩) := by
    obtain ⟨_, _⟩ := second
    obtain rfl := PatternList.ofList_eq_ok_iff.mp hsecond
    rfl
  refine ⟨h, second, hsecond, hlater, (hstrict (mismatches_eq_nil_iff.mp (by rfl))).trans ?_⟩
  exact congrArg (Except.mapError _ <| Except.map _ ·) hlater

end Request

end ChildRules
