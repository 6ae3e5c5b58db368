import ChildRules.Proofs.Growth
import ChildRules.Proofs.Mapping

/-!
# Matching what was matched

The children that patterns took, matched again by the same patterns, are taken again, each by the
pattern that took it. They end where the last turn ended, and a match cannot tell an end of the
children from a child that no later pattern takes, but for what it says of the child that ended a
run: where no child was taken afterwards, there is none to name.
-/

namespace ChildRules

/-- The mismatch if no child was left to end the run. -/
def CountMismatch.atEnd (v : CountMismatch) : CountMismatch :=
  { v with failedOn := none }

/-! ## Children that end earlier -/

theorem Pattern.run_take_of_le {p : Pattern} {rest : List Node} {n : Nat}
    (h : (p.run rest).length ≤ n) : p.run (rest.take n) = p.run rest := by
  have hrun : p.run (rest.take n) = (p.run rest).take n := by
    rw [run, run, List.take_takeWhile, List.take_take, List.take_take, Nat.min_comm]
  rw [hrun, List.take_of_length_le h]

namespace Position

variable {pos : Position} {p : Pattern} {ps : List Pattern} {stop : Nat}

/-- The position if the children ended where `stop` of them are gone. -/
def upTo (pos : Position) (stop : Nat) : Position :=
  ⟨pos.cursor, pos.rest.take (stop - pos.cursor)⟩

theorem run_upTo (h : (pos.after p).cursor ≤ stop) :
    p.run (pos.upTo stop).rest = p.run pos.rest := by
  rw [cursor_after] at h
  exact Pattern.run_take_of_le (by omega)

theorem after_upTo (h : (pos.after p).cursor ≤ stop) :
    (pos.upTo stop).after p = (pos.after p).upTo stop := by
  rw [after, run_upTo h, upTo, upTo, List.drop_take, Nat.sub_sub]
  rfl

theorem cursor_le_cursor_afterAll (pos : Position) (ps : List Pattern) :
    pos.cursor ≤ (pos.afterAll ps).cursor := by
  rw [cursor_afterAll]
  exact Nat.le_add_right ..

theorem after_le_of_afterAll (h : (pos.afterAll (p :: ps)).cursor ≤ stop) :
    (pos.after p).cursor ≤ stop :=
  Nat.le_trans (cursor_le_cursor_afterAll _ ps) h

theorem afterAll_upTo (h : (pos.afterAll ps).cursor ≤ stop) :
    (pos.upTo stop).afterAll ps = (pos.afterAll ps).upTo stop := by
  induction ps generalizing pos with
  | nil => rfl
  | cons p ps ih => rw [afterAll_cons, after_upTo (after_le_of_afterAll h), ih h, afterAll_cons]

end Position

namespace Turn

variable {t : Turn} {stop : Nat}

/-- The turn if the children ended where `stop` of them are gone. -/
def upTo (t : Turn) (stop : Nat) : Turn :=
  ⟨t.before.upTo stop, t.pattern⟩

/-- How many children are gone when the turn is over. -/
def finish (t : Turn) : Nat :=
  (t.before.after t.pattern).cursor

theorem taken_upTo (h : t.finish ≤ stop) : (t.upTo stop).taken = t.taken :=
  Position.run_upTo h

theorem result_upTo (h : t.finish ≤ stop) (parent : Parent) :
    (t.upTo stop).result parent = t.result parent :=
  congrArg (fun taken : List Node => Result.ofNodes t.pattern.cardinality.isSingle
    (taken.map (t.pattern.project parent))) (taken_upTo h)

theorem short_upTo_iff (h : t.finish ≤ stop) : (t.upTo stop).Short ↔ t.Short := by
  rw [Short, taken_upTo h]
  rfl

/-- What a shortage says of the child that ended the run is all that can change. -/
theorem shortage_upTo (h : t.finish ≤ stop) (owner : String) :
    (t.upTo stop).shortage owner =
      if t.finish = stop then (t.shortage owner).atEnd else t.shortage owner := by
  have hhead : ((t.before.upTo stop).after t.pattern).rest.head? =
      if t.finish = stop then none else (t.before.after t.pattern).rest.head? := by
    have hnone : stop - t.finish = 0 ↔ t.finish = stop := by omega
    rw [Position.after_upTo h]
    show ((t.before.after t.pattern).rest.take (stop - t.finish)).head? = _
    rw [List.head?_take]
    simp only [hnone]
  show CountMismatch.mk .tooFew t.pattern.typeList owner t.pattern.cardinality.quantifier
    (t.upTo stop).taken.length
    (((t.before.upTo stop).after t.pattern).rest.head?.map (·.toElement.markup)) = _
  rw [taken_upTo h, hhead]
  split <;> rfl

end Turn

namespace Position

variable {pos : Position} {ps : List Pattern} {stop : Nat}

theorem finish_le_of_mem_turns (h : (pos.afterAll ps).cursor ≤ stop) :
    ∀ t ∈ pos.turns ps, t.finish ≤ stop := by
  induction ps generalizing pos with
  | nil => simp
  | cons p ps ih =>
    rw [turns_cons, List.forall_mem_cons]
    exact ⟨after_le_of_afterAll h, ih h⟩

/-- **Children that no turn reaches can be left out.** -/
theorem turns_upTo (h : (pos.afterAll ps).cursor ≤ stop) :
    (pos.upTo stop).turns ps = (pos.turns ps).map (·.upTo stop) := by
  induction ps generalizing pos with
  | nil => rfl
  | cons p ps ih =>
    rw [turns_cons, after_upTo (after_le_of_afterAll h), ih h]
    rfl

end Position

namespace Request

/-! ## The log, turn by turn -/

theorem mismatchAt?_eq_some_iff {r : Request} {k : Nat} {v : CountMismatch} :
    Event.mismatchAt? r.matchPartial.events k = some v ↔
      ∃ t, r.turns[k]? = some t ∧ t.Short ∧ t.shortage r.owner = v := by
  have h := r.mismatchAt?_matchPartial k
  rw [List.getElem?_map] at h
  cases ht : r.turns[k]? with
  | none =>
    rw [ht, Option.map_none, Option.join_none, Option.map_eq_none_iff] at h
    simp [h]
  | some t =>
    rw [ht, Option.map_some, Option.join_some] at h
    have hv : Event.mismatchAt? r.matchPartial.events k = some v ↔
        t.mismatch? r.owner = some (.countMismatch v) := by
      rw [← h]
      simp
    rw [hv, Turn.mismatch?_eq_some_iff]
    simp

/-- What is wrong with the patterns is in the log, each mismatch at the index of its pattern. -/
theorem exists_mismatchAt? {r : Request} {v : CountMismatch} (h : v ∈ r.mismatches) :
    ∃ k, Event.mismatchAt? r.matchPartial.events k = some v := by
  obtain ⟨t, hmem, rfl⟩ := List.mem_map.mp h
  obtain ⟨hturn, hadmits⟩ := List.mem_filter.mp hmem
  obtain ⟨k, ht⟩ := List.getElem?_of_mem hturn
  have hshort : t.Short := by
    rw [decide_eq_true_eq, Turn.taken, Pattern.admits_run_iff] at hadmits
    exact Nat.lt_of_not_le hadmits
  exact ⟨k, mismatchAt?_eq_some_iff.mpr ⟨t, ht, hshort, rfl⟩⟩

/-- The children that are taken after a turn are those between where it and the last turn end. -/
theorem finish_add_length_flatten {r : Request} {k : Nat} {t : Turn} (ht : r.turns[k]? = some t) :
    t.finish + (Result.flatten (r.matchPartial.outcome.drop (k + 1))).length = r.final.cursor := by
  obtain ⟨-, -, hafter⟩ := Position.getElem?_turns ht
  have hlater : r.turns.drop (k + 1) = (r.after k).turns (r.patterns.toList.drop (k + 1)) :=
    Position.turns_drop _ _ _
  have hfinal : r.final = (r.after k).afterAll (r.patterns.toList.drop (k + 1)) := by
    rw [after, ← Position.afterAll_append, List.take_append_drop]
    rfl
  rw [outcome_matchPartial, ← List.map_drop, Turn.length_flatten_results, hlater, hfinal,
    Position.cursor_afterAll, Turn.finish, hafter]
  rfl

/-! ## Matching again -/

/-- The children that the patterns take. -/
def consumed (r : Request) : List Node :=
  r.turns.flatMap Turn.taken

/-- The request to match the children that the patterns take, and to report them as they are. -/
def again (r : Request) : Request :=
  { r.withMappers false with children := r.consumed }

theorem consumed_eq_take (r : Request) : r.consumed = r.children.take r.final.cursor := by
  have hsplit : r.consumed ++ r.final.rest = r.children :=
    (Position.start r.children).flatMap_taken_append_rest r.patterns.toList
  have hlength : r.consumed.length = r.final.cursor := by
    rw [cursor_final, consumed, List.length_flatMap]
    rfl
  rw [← hsplit, ← hlength, List.take_left]

theorem start_again (r : Request) :
    Position.start r.again.children = (Position.start r.children).upTo r.final.cursor := by
  show Position.start r.consumed = _
  rw [consumed_eq_take]
  rfl

/-- **The turns are the same**, but for the children that come after the last. -/
theorem turns_again (r : Request) : r.again.turns = r.turns.map (·.upTo r.final.cursor) := by
  rw [turns, start_again]
  exact Position.turns_upTo (Nat.le_refl _)

theorem finish_le_final {r : Request} {t : Turn} (ht : t ∈ r.turns) : t.finish ≤ r.final.cursor :=
  Position.finish_le_of_mem_turns (Nat.le_refl _) t ht

theorem flatten_outcome_eq_consumed (r : Request) :
    Result.flatten (r.withMappers false).matchPartial.outcome = r.consumed.map .existing := by
  have hproject : ∀ t : Turn, t.pattern.project (r.withMappers false).parent = .existing :=
    fun t => funext (Pattern.project_of_unmapped (Or.inr rfl))
  rw [outcome_matchPartial, Result.flatten, List.flatMap_map, consumed, List.map_flatMap]
  simp only [Turn.nodes_result, hproject]
  rfl

theorem outcome_again (r : Request) :
    r.again.matchPartial.outcome = (r.withMappers false).matchPartial.outcome := by
  rw [outcome_matchPartial, outcome_matchPartial, turns_again, List.map_map]
  apply List.map_congr_left
  intro t ht
  exact Turn.result_upTo (finish_le_final ht) _

theorem rest_final_again (r : Request) : r.again.final.rest = [] := by
  have hfinal : r.again.final = r.final.upTo r.final.cursor := by
    rw [final, start_again]
    exact Position.afterAll_upTo (Nat.le_refl _)
  rw [hfinal, Position.upTo, Nat.sub_self, List.take_zero]

theorem violations_again (r : Request) :
    r.again.matchPartial.violations = r.again.mismatches.map .countMismatch := by
  rw [violations_matchPartial, Position.leftover?_eq_none_iff.mpr r.rest_final_again,
    Option.toList_none, List.append_nil]

/-- No child is taken after the turn of the pattern at an index. -/
def NoneAfter (r : Request) (k : Nat) : Prop :=
  Result.flatten ((r.withMappers false).matchPartial.outcome.drop (k + 1)) = []

instance (r : Request) (k : Nat) : Decidable (r.NoneAfter k) :=
  decidable_of_iff _ List.isEmpty_iff

theorem noneAfter_iff {r : Request} {k : Nat} {t : Turn} (ht : r.turns[k]? = some t) :
    r.NoneAfter k ↔ t.finish = r.final.cursor := by
  have h : t.finish + _ = r.final.cursor := finish_add_length_flatten (r := r.withMappers false) ht
  rw [NoneAfter, ← List.length_eq_zero_iff]
  omega

theorem shortage_again {r : Request} {k : Nat} {t : Turn} (ht : r.turns[k]? = some t) :
    (t.upTo r.final.cursor).shortage r.owner =
      if r.NoneAfter k then (t.shortage r.owner).atEnd else t.shortage r.owner := by
  rw [Turn.shortage_upTo (finish_le_final (List.mem_of_getElem? ht))]
  simp only [noneAfter_iff ht]

/-- A mismatch is the one that it was, but where no child is taken afterwards. -/
theorem mismatchAt?_again (r : Request) (k : Nat) :
    Event.mismatchAt? r.again.matchPartial.events k =
      (Event.mismatchAt? (r.withMappers false).matchPartial.events k).map fun v =>
        if r.NoneAfter k then v.atEnd else v := by
  apply Option.ext
  intro v
  rw [mismatchAt?_eq_some_iff, Option.map_eq_some_iff, turns_again, List.getElem?_map]
  simp only [mismatchAt?_eq_some_iff]
  constructor
  · rintro ⟨t', ht', hshort, rfl⟩
    obtain ⟨t, ht, rfl⟩ := Option.map_eq_some_iff.mp ht'
    have hfinish := finish_le_final (List.mem_of_getElem? ht)
    exact ⟨_, ⟨t, ht, (Turn.short_upTo_iff hfinish).mp hshort, rfl⟩, (shortage_again ht).symm⟩
  · rintro ⟨v, ⟨t, ht, hshort, rfl⟩, rfl⟩
    have ht : r.turns[k]? = some t := ht
    have hfinish := finish_le_final (List.mem_of_getElem? ht)
    exact ⟨t.upTo r.final.cursor, by rw [ht]; rfl, (Turn.short_upTo_iff hfinish).mpr hshort,
      shortage_again ht⟩

/-- The child that ended a run is named still, if any child is taken afterwards. -/
theorem failedOn_again {r : Request} {k : Nat} {v : CountMismatch}
    (h : Event.mismatchAt? r.again.matchPartial.events k = some v) :
    v.failedOn = none ↔ r.NoneAfter k := by
  rw [mismatchAt?_eq_some_iff, turns_again, List.getElem?_map] at h
  obtain ⟨t', ht', hshort, rfl⟩ := h
  obtain ⟨t, ht, rfl⟩ := Option.map_eq_some_iff.mp ht'
  show ((t.upTo r.final.cursor).shortage r.owner).failedOn = none ↔ _
  rw [shortage_again ht]
  by_cases hnone : r.NoneAfter k
  · rw [if_pos hnone]
    exact ⟨fun _ => hnone, fun _ => rfl⟩
  · have hmem := List.mem_of_getElem? ht
    have hfinish := finish_le_final hmem
    have hlast := mt (noneAfter_iff ht).mpr hnone
    have hfinal : r.final.cursor ≤ r.children.length :=
      ((Position.on_start r.children).afterAll r.patterns.toList).cursor_le
    have hlt : t.finish < r.children.length := by omega
    have hchild : r.children[t.before.cursor + t.taken.length]? ≠ none :=
      fun h => Nat.not_le.mpr hlt (List.getElem?_eq_none_iff.mp h)
    rw [if_neg hnone, Turn.failedOn_shortage (on_of_mem_turns hmem), Option.map_eq_none_iff]
    exact iff_of_false hchild hnone

theorem short_again_iff {r : Request} {i : Nat} : r.again.Short i ↔ r.Short i := by
  rw [Short, turns_again, List.getElem?_map]
  constructor
  · rintro ⟨t', ht', hshort⟩
    obtain ⟨t, ht, rfl⟩ := Option.map_eq_some_iff.mp ht'
    exact ⟨t, ht, (Turn.short_upTo_iff (finish_le_final (List.mem_of_getElem? ht))).mp hshort⟩
  · rintro ⟨t, ht, hshort⟩
    exact ⟨t.upTo r.final.cursor, by rw [ht]; rfl,
      (Turn.short_upTo_iff (finish_le_final (List.mem_of_getElem? ht))).mpr hshort⟩

theorem strict_again_ok_iff (r : Request) :
    (∃ rs, (r.again.withStrict true).matchAll.outcome = .ok rs) ↔ ∀ i, ¬ r.Short i := by
  have hviolations : r.again.matchPartial.violations = [] ↔ ∀ i, ¬ r.Short i := by
    rw [violations_again, List.map_eq_nil_iff, mismatches_eq_nil_iff]
    exact forall_congr' fun i => not_congr short_again_iff
  rw [← hviolations, matchAll_of_strict (r := r.again.withStrict true) rfl]
  constructor
  · rintro ⟨rs, hok⟩
    exact (Report.outcome_cut_eq_ok_iff.mp hok).1
  · intro hnil
    exact ⟨_, Report.outcome_cut_eq_ok_iff.mpr ⟨hnil, rfl⟩⟩

/-- **Matching what was matched finds it again.** The nodes that a lenient match without mappers
reports, matched by the same patterns, are reported in the same results. None is left over, so all
that can be wrong is wrong with a pattern. The same patterns are short, and by the same counts. What
is said of the child that ended a short run is the same too, unless no child was taken afterwards:
then there is nothing to say. So a strict match of what was matched succeeds exactly if no pattern
was short. -/
theorem rematching_finds_the_same (r : Request) :
    Result.flatten (r.withMappers false).matchPartial.outcome = r.again.children.map .existing ∧
    r.again.matchPartial.outcome = (r.withMappers false).matchPartial.outcome ∧
    (∀ v, .unmatchedChildren v ∉ r.again.matchPartial.violations) ∧
    (∀ v, .countMismatch v ∈ r.again.matchPartial.violations →
      ∃ k, Event.mismatchAt? r.again.matchPartial.events k = some v) ∧
    (∀ k,
      Event.mismatchAt? r.again.matchPartial.events k =
        (Event.mismatchAt? (r.withMappers false).matchPartial.events k).map
          (fun v => if r.NoneAfter k then v.atEnd else v) ∧
      ∀ v, Event.mismatchAt? r.again.matchPartial.events k = some v →
        (v.failedOn = none ↔ r.NoneAfter k)) ∧
    ((∃ rs, (r.again.withStrict true).matchAll.outcome = .ok rs) ↔ ∀ i, ¬ r.Short i) := by
  refine ⟨r.flatten_outcome_eq_consumed, r.outcome_again, ?_, ?_,
    fun k => ⟨r.mismatchAt?_again k, fun _ => failedOn_again⟩, r.strict_again_ok_iff⟩
  · intro v
    rw [violations_again]
    simp
  · intro v hmem
    rw [violations_again] at hmem
    obtain ⟨w, hw, heq⟩ := List.mem_map.mp hmem
    cases heq
    exact exists_mismatchAt? hw

/-- A heading is missing for the footer, which is matched, and for a stranger, which is not. -/
example :
    (headless.again.withStrict true).matchAll.outcome =
        .error (.countMismatch ⟨.tooFew, "row", "Table", .exactly 1, 0, some "<foot />"⟩) ∧
      ({ headless with children := [⟨⟨.tag "p", .empty⟩, ⟨0⟩⟩] }.again.withStrict
          true).matchAll.outcome =
        .error (.countMismatch ⟨.tooFew, "row", "Table", .exactly 1, 0, none⟩) :=
  ⟨rfl, rfl⟩

end Request

end ChildRules
