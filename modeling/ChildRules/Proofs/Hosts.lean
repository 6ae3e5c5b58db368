import ChildRules.Host
import ChildRules.Proofs.Coverage

/-!
# Checking children and taking them apart

A host checks its children strictly and without mappers, and takes them apart leniently and with
mappers. The two agree: whether the check succeeds can be told from how many nodes each of the
results has, and if it does, the results hold every child at its place.
-/

namespace ChildRules

namespace Request

/-- That all turns are within range can be told from their results. -/
theorem admits_turns_iff (r : Request) :
    (∀ t ∈ r.turns, t.pattern.cardinality.Admits t.taken.length) ↔
      ∀ i p res, r.patterns.get? i = some p → r.matchPartial.outcome[i]? = some res →
        p.cardinality.Admits res.nodes.length := by
  constructor
  · intro h i p res hp hres
    obtain ⟨t, ht, rfl, rfl⟩ := exists_turn hp hres
    rw [Turn.length_nodes_result]
    exact h t (List.mem_of_getElem? ht)
  · intro h t hmem
    obtain ⟨i, ht⟩ := List.getElem?_of_mem hmem
    have hres : r.matchPartial.outcome[i]? = some (t.result r.parent) := by
      rw [outcome_matchPartial, List.getElem?_map, ht]
      rfl
    rw [← t.length_nodes_result r.parent]
    exact h i t.pattern _ (Position.getElem?_turns ht).1 hres

end Request

namespace Host

variable (h : Host)

theorem validate_ok_iff_turns : h.validate = .ok () ↔
    (∀ t ∈ (h.request .rendering).turns, t.pattern.cardinality.Admits t.taken.length) ∧
      (h.request .rendering).counts.sum = h.children.length := by
  -- Options concern neither turns nor counts.
  have hok : ∀ rs, (h.request .validating).matchAll.outcome = .ok rs ↔
      ((∀ t ∈ (h.request .rendering).turns, t.pattern.cardinality.Admits t.taken.length) ∧
        (h.request .rendering).counts.sum = h.children.length) ∧
      (h.request .validating).matchPartial.outcome = rs :=
    fun rs => Request.matchAll_ok_iff rfl
  unfold validate
  cases houtcome : (h.request .validating).matchAll.outcome with
  | ok rs => exact ⟨fun _ => ((hok rs).mp houtcome).1, fun _ => rfl⟩
  | error v =>
    constructor
    · intro heq
      cases heq
    · intro hfits
      rw [(hok _).mpr ⟨hfits, rfl⟩] at houtcome
      cases houtcome

theorem check_of_ok (hok : h.validate = .ok ()) : h.check = ([], .ok ()) := by
  rw [check, hok]

theorem check_of_error {v : Violation} (herror : h.validate = .error v) :
    h.check = ([⟨v.code, v.warning h.component.name⟩], .error v) := by
  rw [check, herror]

/-- **A host's check and its results agree.** The check succeeds exactly if each result has a number
of nodes in its pattern's range and all nodes together are as many as the children. Then every child
is reported at its place, as it is or as the mapper of the pattern that took it has it. A failed
check is warned of once, and a check that succeeds is not. -/
theorem validate_ok_iff_results :
    h.results.length = h.patterns.size ∧
    (h.validate = .ok () ↔
      (∀ i p res, h.patterns.get? i = some p → h.results[i]? = some res →
        p.cardinality.Admits res.nodes.length) ∧
      (Result.flatten h.results).length = h.children.length) ∧
    (h.validate = .ok () → ∀ (j : Nat) (x : Node), h.children[j]? = some x → ∃ p,
      (Result.takers h.patterns.toList h.results)[j]? = some p ∧ p.accepts x = true ∧
        (p.mapper = none → (Result.flatten h.results)[j]? = some (.existing x)) ∧
        ∀ mapper, p.mapper = some mapper →
          (Result.flatten h.results)[j]? = some (mapper x h.props)) ∧
    h.check.2 = h.validate ∧ (h.validate = .ok () → h.check.1 = []) ∧
    ∀ v, h.validate = .error v → h.check.1 = [⟨v.code, v.warning h.component.name⟩] := by
  have hlength : (Result.flatten h.results).length = (h.request .rendering).counts.sum :=
    (h.request .rendering).length_flatten_matchPartial
  have hcovers := (h.request .rendering).covers_matchPartial
  refine ⟨hcovers.length_outcome, ?_, ?_, ?_, ?_, ?_⟩
  · rw [validate_ok_iff_turns, Request.admits_turns_iff, hlength]
    rfl
  · intro hok j x hx
    have hall : (h.request .rendering).final.cursor = h.children.length := by
      rw [Request.cursor_final, (h.validate_ok_iff_turns.mp hok).2]
    have hj : j < (h.request .rendering).final.cursor := by
      rw [hall]
      exact (List.getElem?_eq_some_iff.mp hx).1
    obtain ⟨p, htaker, haccepts, hunmapped, hmapped⟩ := hcovers.reported j x hj hx
    exact ⟨p, htaker, haccepts, fun hp => hunmapped (Or.inl hp),
      fun mapper hp => hmapped mapper hp rfl⟩
  · cases hvalidate : h.validate with
    | ok u => rw [h.check_of_ok hvalidate]
    | error v => rw [h.check_of_error hvalidate]
  · intro hok
    rw [h.check_of_ok hok]
  · intro v herror
    rw [h.check_of_error herror]

end Host

end ChildRules
