import Mathlib.Data.List.Basic
import ChildRules.Proofs.Backtracking
import ChildRules.Proofs.Stages

/-!
# Children that are appended

A match does not look ahead. When a pattern's turn leaves children over, neither that turn nor any
before it depends on how many more there are: appending children changes nothing about what the
patterns so far have found, nor about what is wrong with them. So a strict match that blames a child
blames it still, and children that no pattern took stay behind. What can change is a match that
reached the last child, with success or with a pattern that was still short of children.
-/

namespace ChildRules

/-! ## What a log says of each pattern -/

namespace Event

def mismatch? : Event → Option CountMismatch
  | .violation (.countMismatch v) _ => some v
  | _ => none

/-- The mismatch of the pattern at an index: what is noted right after its turn, if that is one. -/
def mismatchAt? : List Event → Nat → Option CountMismatch
  | [], _ => none
  | .violation .. :: events, k => mismatchAt? events k
  | .turn .. :: events, 0 => events.head?.bind mismatch?
  | .turn .. :: events, k + 1 => mismatchAt? events k

/-- Only the first mismatch after a turn is the one of its pattern. -/
example (v w : CountMismatch) :
    mismatchAt? [.turn "row" 0 1, .violation (.countMismatch v) true,
      .violation (.countMismatch w) true, .turn "foot" 1 0] 0 = some v := rfl

end Event

namespace Matching

theorem mismatch?_head_lenient (parent : Parent) (ps : List Pattern) (pos : Position) :
    (lenient parent ps pos).events.head?.bind Event.mismatch? = none := by
  cases ps with
  | nil =>
    obtain ⟨left, h⟩ := pos.leftover?_eq_map parent.name
    show (tolerate (pos.leftover? parent.name)).head?.bind _ = none
    rw [h]
    cases left <;> rfl
  | cons p ps => rfl

theorem mismatchAt?_tolerate_append (violation? : Option Violation) (events : List Event)
    (k : Nat) :
    Event.mismatchAt? (tolerate violation? ++ events) k = Event.mismatchAt? events k := by
  cases violation? <;> rfl

/-- The log of a lenient match has the mismatch of every pattern right after its turn. -/
theorem mismatchAt?_lenient (parent : Parent) (ps : List Pattern) (pos : Position) (k : Nat) :
    (Event.mismatchAt? (lenient parent ps pos).events k).map .countMismatch =
      (pos.turns ps)[k]?.bind (·.mismatch? parent.name) := by
  induction ps generalizing pos k with
  | nil =>
    show (Event.mismatchAt? (tolerate (pos.leftover? parent.name)) k).map _ = none
    rw [← List.append_nil (tolerate _), mismatchAt?_tolerate_append]
    rfl
  | cons p ps ih =>
    show (Event.mismatchAt? (pos.turn p :: (tolerate (pos.mismatch? p parent.name) ++
      (lenient parent ps (pos.after p)).events)) k).map _ = _
    cases k with
    | zero =>
      show ((tolerate (pos.mismatch? p parent.name) ++ _).head?.bind Event.mismatch?).map _ =
        pos.mismatch? p parent.name
      rw [Position.mismatch?_eq]
      split
      · exact congrArg (Option.map _) (mismatch?_head_lenient parent ps (pos.after p))
      · rfl
    | succ k =>
      show (Event.mismatchAt? (tolerate _ ++ _) k).map _ = _
      rw [mismatchAt?_tolerate_append]
      exact ih (pos.after p) k

end Matching

/-! ## Turns that leave children over -/

/-- **A run that ends before the last child does not depend on how many more there are.** -/
theorem Pattern.run_append {p : Pattern} {rest : List Node}
    (h : (p.run rest).length < rest.length) (more : List Node) :
    p.run (rest ++ more) = p.run rest := by
  rcases Nat.lt_or_ge rest.length p.cardinality.cap with hcap | hcap
  · have hwhole : rest.take p.cardinality.cap = rest := List.take_of_length_le hcap.le
    have hrun : p.run rest = rest.takeWhile p.accepts := by rw [run, hwhole]
    rw [hrun] at h ⊢
    rw [run, List.take_append, hwhole, List.takeWhile_append, if_neg h.ne]
  · rw [run, run, List.take_append_of_le_length hcap]

namespace Position

variable {pos : Position} {p : Pattern} {ps : List Pattern}

/-- The position when more children are appended to those that are to come. -/
def grow (pos : Position) (more : List Node) : Position :=
  ⟨pos.cursor, pos.rest ++ more⟩

theorem length_run_lt_of_after (h : (pos.after p).rest ≠ []) :
    (p.run pos.rest).length < pos.rest.length := by
  refine Nat.lt_of_not_le fun hle => h ?_
  rw [rest_after]
  exact List.drop_eq_nil_of_le hle

/-- Children that are left after a turn were there before it. -/
theorem rest_ne_nil_of_after (h : (pos.after p).rest ≠ []) : pos.rest ≠ [] := by
  intro hnil
  rw [rest_after, hnil, List.drop_nil] at h
  exact h rfl

theorem rest_ne_nil_of_afterAll (h : (pos.afterAll ps).rest ≠ []) : pos.rest ≠ [] := by
  intro hnil
  rw [rest_afterAll, hnil, List.drop_nil] at h
  exact h rfl

theorem after_grow (h : (pos.after p).rest ≠ []) (more : List Node) :
    (pos.grow more).after p = (pos.after p).grow more := by
  have hlt := length_run_lt_of_after h
  have hrun : p.run (pos.grow more).rest = p.run pos.rest := Pattern.run_append hlt more
  rw [after, hrun, grow, grow, after, List.drop_append_of_le_length hlt.le]

theorem afterAll_grow (h : (pos.afterAll ps).rest ≠ []) (more : List Node) :
    (pos.grow more).afterAll ps = (pos.afterAll ps).grow more := by
  induction ps generalizing pos with
  | nil => rfl
  | cons p ps ih =>
    rw [afterAll_cons] at h
    rw [afterAll_cons, after_grow (rest_ne_nil_of_afterAll h), ih h, afterAll_cons]

theorem leftover?_grow (h : pos.rest ≠ []) (more : List Node) (owner : String) :
    (pos.grow more).leftover? owner = (pos.leftover? owner).map (·.amid 0 more.length) := by
  obtain ⟨cursor, rest⟩ := pos
  cases rest with
  | nil => exact absurd rfl h
  | cons x rest =>
    simp [leftover?, grow, total, Violation.amid, Nat.add_assoc, Nat.add_comm more.length]

end Position

namespace Turn

/-- The turn when more children are appended. -/
def grow (t : Turn) (more : List Node) : Turn :=
  ⟨t.before.grow more, t.pattern⟩

/-- The turn leaves children over. -/
def Settled (t : Turn) : Prop :=
  (t.before.after t.pattern).rest ≠ []

namespace Settled

variable {t : Turn}

theorem taken_grow (h : t.Settled) (more : List Node) : (t.grow more).taken = t.taken :=
  Pattern.run_append (Position.length_run_lt_of_after h) more

theorem event_grow (h : t.Settled) (more : List Node) : (t.grow more).event = t.event :=
  congrArg (fun taken : List Node => Event.turn t.pattern.typeList t.before.cursor taken.length)
    (h.taken_grow more)

theorem result_grow (h : t.Settled) (more : List Node) (parent : Parent) :
    (t.grow more).result parent = t.result parent :=
  congrArg (fun taken : List Node => Result.ofNodes t.pattern.cardinality.isSingle
    (taken.map (t.pattern.project parent))) (h.taken_grow more)

/-- The child that ended the turn ends it still. -/
theorem shortage_grow (h : t.Settled) (more : List Node) (owner : String) :
    (t.grow more).shortage owner = t.shortage owner := by
  have hhead : ((t.before.grow more).after t.pattern).rest.head? =
      (t.before.after t.pattern).rest.head? := by
    rw [Position.after_grow h]
    show ((t.before.after t.pattern).rest ++ more).head? = _
    cases hrest : (t.before.after t.pattern).rest with
    | nil => exact absurd hrest h
    | cons x later => rfl
  show CountMismatch.mk .tooFew t.pattern.typeList owner t.pattern.cardinality.quantifier
    (t.grow more).taken.length
    (((t.before.grow more).after t.pattern).rest.head?.map (·.toElement.markup)) = _
  rw [h.taken_grow, hhead]
  rfl

theorem mismatch?_grow (h : t.Settled) (more : List Node) (owner : String) :
    (t.grow more).mismatch? owner = t.mismatch? owner := by
  have htaken := h.taken_grow more
  by_cases hadmits : t.pattern.cardinality.Admits t.taken.length
  · rw [mismatch?_of_admits hadmits]
    exact mismatch?_of_admits (by rw [htaken]; exact hadmits) owner
  · rw [mismatch?_of_not_admits hadmits, ← h.shortage_grow more]
    exact mismatch?_of_not_admits (by rw [htaken]; exact hadmits) owner

end Settled

end Turn

namespace Position

variable {pos : Position} {ps : List Pattern}

/-- **If the last of some turns leaves children over, then so does each of them.** -/
theorem settled_of_mem_turns (h : (pos.afterAll ps).rest ≠ []) : ∀ t ∈ pos.turns ps, t.Settled := by
  induction ps generalizing pos with
  | nil => simp
  | cons p ps ih =>
    rw [turns_cons, List.forall_mem_cons]
    exact ⟨rest_ne_nil_of_afterAll h, ih h⟩

theorem turns_grow (h : (pos.afterAll ps).rest ≠ []) (more : List Node) :
    (pos.grow more).turns ps = (pos.turns ps).map (·.grow more) := by
  induction ps generalizing pos with
  | nil => rfl
  | cons p ps ih =>
    rw [afterAll_cons] at h
    rw [turns_cons, turns_cons, after_grow (rest_ne_nil_of_afterAll h), ih h]
    rfl

/-- Whatever of a turn does not change when children are appended, is the same for all turns that
leave children over. -/
theorem map_turns_grow {α : Type} {f : Turn → α} {more : List Node}
    (hf : ∀ t, t.Settled → f (t.grow more) = f t) (h : (pos.afterAll ps).rest ≠ []) :
    ((pos.grow more).turns ps).map f = (pos.turns ps).map f := by
  rw [turns_grow h, List.map_map]
  exact List.map_congr_left fun t hmem => hf t (settled_of_mem_turns h t hmem)

end Position

namespace Request

variable {r : Request}

/-! ## Requests with more children -/

/-- The request with more children after the others. -/
def append (r : Request) (more : List Node) : Request :=
  { r with children := r.children ++ more }

theorem start_append (r : Request) (more : List Node) :
    Position.start (r.append more).children = (Position.start r.children).grow more := rfl

theorem take_turns (r : Request) (n : Nat) :
    r.turns.take n = (Position.start r.children).turns (r.patterns.toList.take n) :=
  (Position.turns_take _ _ n).symm

theorem rest_ne_nil_of_cursorAfter {i : Nat} (h : r.cursorAfter i < r.children.length) :
    (r.after i).rest ≠ [] := by
  rw [rest_after]
  intro hnil
  exact Nat.not_le.mpr h (List.drop_eq_nil_iff.mp hnil)

theorem take_map_turns_append {α : Type} {f : Turn → α} {more : List Node}
    (hf : ∀ t, t.Settled → f (t.grow more) = f t) {i : Nat}
    (h : r.cursorAfter i < r.children.length) :
    ((r.append more).turns.map f).take (i + 1) = (r.turns.map f).take (i + 1) := by
  rw [← List.map_take, ← List.map_take, take_turns, take_turns]
  exact Position.map_turns_grow hf (rest_ne_nil_of_cursorAfter h)

theorem mismatchAt?_matchPartial (r : Request) (k : Nat) :
    (Event.mismatchAt? r.matchPartial.events k).map .countMismatch =
      (r.turns.map (·.mismatch? r.owner))[k]?.join := by
  have h := Matching.mismatchAt?_lenient r.parent r.patterns.toList (.start r.children) k
  rw [List.getElem?_map]
  refine Eq.trans h ?_
  show r.turns[k]?.bind _ = _
  cases r.turns[k]? <;> rfl

theorem mismatchAt?_append {i k : Nat} (h : r.cursorAfter i < r.children.length) (hk : k ≤ i)
    (more : List Node) :
    Event.mismatchAt? (r.append more).matchPartial.events k =
      Event.mismatchAt? r.matchPartial.events k := by
  have hturns := take_map_turns_append (f := (·.mismatch? r.owner))
    (fun t ht => ht.mismatch?_grow more r.owner) h
  have hkth := congrArg (·[k]?) hturns
  simp only [List.getElem?_take_of_lt (Nat.lt_succ_of_le hk)] at hkth
  have hinj : Function.Injective (Option.map Violation.countMismatch) :=
    Option.map_injective fun _ _ => Violation.countMismatch.inj
  apply hinj
  rw [mismatchAt?_matchPartial, mismatchAt?_matchPartial]
  exact congrArg Option.join hkth

/-- A pattern that is blamed because of a child leaves children over. -/
theorem Blames.rest_ne_nil {before : List Pattern} {p : Pattern} {v : CountMismatch}
    (h : r.Blames before p v) (hfailed : v.failedOn ≠ none) :
    ((Position.start r.children).afterAll (before ++ [p])).rest ≠ [] := by
  have hmismatch : Turn.mismatch? ⟨(Position.start r.children).afterAll before, p⟩ r.owner =
      some (.countMismatch v) := h.mismatch
  obtain ⟨-, hv⟩ := Turn.mismatch?_eq_some_iff.mp hmismatch
  intro hnil
  rw [Position.afterAll_append] at hnil
  apply hfailed
  rw [← Violation.countMismatch.inj hv]
  show (((Position.start r.children).afterAll before).afterAll [p]).rest.head?.map _ = none
  rw [hnil]
  rfl

/-- A pattern that is blamed because of a child is blamed still. -/
theorem Blames.grow {before : List Pattern} {p : Pattern} {v : CountMismatch}
    (h : r.Blames before p v) (hfailed : v.failedOn ≠ none) (more : List Node) :
    (r.append more).Blames before p v := by
  have hsettled : Turn.Settled ⟨(Position.start r.children).afterAll before, p⟩ := by
    have hrest := h.rest_ne_nil hfailed
    rwa [Position.afterAll_append] at hrest
  have hrest : ((Position.start r.children).afterAll before).rest ≠ [] :=
    Position.rest_ne_nil_of_after hsettled
  refine ⟨h.position, ?_, ?_⟩
  · rw [start_append, Position.turns_grow hrest, List.forall_mem_map]
    intro t hmem
    have htaken := (Position.settled_of_mem_turns hrest t hmem).taken_grow more
    rw [htaken]
    exact h.admits_before t hmem
  · rw [start_append, Position.afterAll_grow hrest, ← h.mismatch]
    exact hsettled.mismatch?_grow more r.owner

theorem final_append (h : r.final.rest ≠ []) (more : List Node) :
    (r.append more).final = r.final.grow more := by
  show (Position.start (r.append more).children).afterAll r.patterns.toList = _
  rw [start_append]
  exact Position.afterAll_grow h more

/-- If children are left over, appending others concerns only how many there are. -/
theorem violations_append (h : r.final.rest ≠ []) (more : List Node) :
    (r.append more).matchPartial.violations =
      r.matchPartial.violations.map (·.amid 0 more.length) := by
  have hviolations : ∀ q : Request, q.matchPartial.violations =
      q.turns.filterMap (·.mismatch? q.owner) ++ (q.final.leftover? q.owner).toList :=
    fun q => Matching.violations_lenient q.parent q.patterns.toList (.start q.children)
  have hturns : (r.append more).turns = r.turns.map (·.grow more) := by
    show (Position.start (r.append more).children).turns r.patterns.toList = _
    rw [start_append]
    exact Position.turns_grow h more
  rw [hviolations, hviolations, hturns, final_append h, List.map_append, List.filterMap_map,
    List.map_filterMap]
  congr 1
  · apply List.filterMap_congr
    intro t hmem
    have hsettled : t.Settled := Position.settled_of_mem_turns h t hmem
    exact (hsettled.mismatch?_grow more r.owner).trans
      (t.before.map_amid_mismatch? t.pattern r.owner 0 more.length).symm
  · show ((r.final.grow more).leftover? r.owner).toList = _
    rw [Position.leftover?_grow h]
    cases r.final.leftover? r.owner <;> rfl

/-- A strict match that fails because of a child fails still, in the same way. -/
theorem matchAll_append_of_mismatch {v : CountMismatch}
    (herror : (r.withStrict true).matchAll.outcome = .error (.countMismatch v))
    (hfailed : v.failedOn ≠ none) (more : List Node) :
    ((r.append more).withStrict true).matchAll = (r.withStrict true).matchAll := by
  obtain ⟨before, p, hblames⟩ := exists_blames (head?_mismatches rfl herror)
  rw [hblames.matchAll_eq rfl]
  refine ((hblames.grow hfailed more).matchAll_eq rfl).trans ?_
  have hevents := Position.map_turns_grow (f := Turn.event) (fun t ht => ht.event_grow more)
    (hblames.rest_ne_nil hfailed)
  exact congrArg (fun events : List Event => Report.mk (events ++ _) _) hevents

/-- A strict match that leaves children over leaves those over too that are appended. -/
theorem outcome_matchAll_append_of_unmatched {v : UnmatchedChildren}
    (herror : (r.withStrict true).matchAll.outcome = .error (.unmatchedChildren v))
    (more : List Node) :
    v.total = r.children.length ∧
      ((r.append more).withStrict true).matchAll.outcome =
        .error (.unmatchedChildren { v with total := r.children.length + more.length }) := by
  have hhead : r.matchPartial.violations.head? = some (.unmatchedChildren v) := by
    rw [matchAll_of_strict rfl] at herror
    exact Report.outcome_cut_eq_error_iff.mp herror
  have hrest : r.final.rest ≠ [] := rest_final_ne_nil (r := r.withStrict true) rfl herror
  obtain ⟨-, rfl⟩ := unmatchedChildren_mem_iff.mp (List.mem_of_mem_head? hhead)
  refine ⟨rfl, ?_⟩
  rw [matchAll_of_strict rfl]
  refine Report.outcome_cut_eq_error_iff.mpr ?_
  show (r.append more).matchPartial.violations.head? = _
  rw [violations_append hrest, List.head?_map, hhead]
  rfl

/-- **A turn that leaves children over is settled.** When children are appended, the patterns up to
it find what they found, and the same is wrong with them. So a strict match that fails because of a
child fails still, in the same way, and one that fails with children left over has left over all
that are appended. Only a match that succeeded, or failed for want of children, can change. -/
theorem settled_turns_stay (r : Request) (more : List Node) :
    (∀ i, r.cursorAfter i < r.children.length →
      (r.append more).matchPartial.outcome.take (i + 1) = r.matchPartial.outcome.take (i + 1) ∧
      ∀ k ≤ i, Event.mismatchAt? (r.append more).matchPartial.events k =
        Event.mismatchAt? r.matchPartial.events k) ∧
    (∀ v, (r.withStrict true).matchAll.outcome = .error (.countMismatch v) → v.failedOn ≠ none →
      ((r.append more).withStrict true).matchAll = (r.withStrict true).matchAll) ∧
    (∀ v, (r.withStrict true).matchAll.outcome = .error (.unmatchedChildren v) →
      v.total = r.children.length ∧
      ((r.append more).withStrict true).matchAll.outcome =
        .error (.unmatchedChildren { v with total := r.children.length + more.length })) ∧
    ((∃ rs, (r.withStrict true).matchAll.outcome = .ok rs) ∨
      (∃ v, (r.withStrict true).matchAll.outcome = .error (.countMismatch v) ∧
        v.failedOn = none) ∨
      ((r.append more).withStrict true).matchAll.outcome =
        (r.withStrict true).matchAll.outcome.mapError (·.amid 0 more.length)) := by
  refine ⟨?_, fun v herror hfailed => matchAll_append_of_mismatch herror hfailed more,
    fun v herror => outcome_matchAll_append_of_unmatched herror more, ?_⟩
  · intro i hi
    refine ⟨?_, fun k hk => mismatchAt?_append hi hk more⟩
    rw [outcome_matchPartial, outcome_matchPartial]
    exact take_map_turns_append (fun t ht => ht.result_grow more r.parent) hi
  · cases houtcome : (r.withStrict true).matchAll.outcome with
    | ok rs => exact Or.inl ⟨rs, rfl⟩
    | error v =>
      right
      cases v with
      | countMismatch v =>
        cases hfailed : v.failedOn with
        | none => exact Or.inl ⟨v, rfl, hfailed⟩
        | some node =>
          right
          rw [matchAll_append_of_mismatch houtcome (by simp [hfailed]), houtcome]
          rfl
      | unmatchedChildren v =>
        obtain ⟨htotal, hmore⟩ := outcome_matchAll_append_of_unmatched houtcome more
        right
        rw [hmore, ← htotal]
        rfl

/-- A third table after two others. The first is still what was found, and the others are left. -/
theorem third_table_left_over :
    twoTables.cursorAfter 3 < twoTables.children.length ∧
      (twoTables.append table.children).matchPartial.outcome.take 4 =
        twoTables.matchPartial.outcome.take 4 ∧
      ((twoTables.append table.children).withStrict true).matchAll.outcome =
        .error (.unmatchedChildren ⟨"Table", 4, 12⟩) := by
  obtain ⟨hresults, -, hunmatched, -⟩ := settled_turns_stay twoTables table.children
  have hcursor : twoTables.cursorAfter 3 < twoTables.children.length := by decide
  exact ⟨hcursor, (hresults 3 hcursor).1, (hunmatched ⟨"Table", 4, 8⟩ rfl).2⟩

/-- A match that succeeded can fail with more children, and one that failed for want of children can
succeed. -/
example : (∃ rs, table.matchAll.outcome = .ok rs) ∧
    (table.append table.children).matchAll.outcome =
      .error (.unmatchedChildren ⟨"Table", 4, 8⟩) ∧
    { table with children := [] }.matchAll.outcome =
      .error (.countMismatch ⟨.tooFew, "row", "Table", .exactly 1, 0, none⟩) ∧
    ∃ rs, ({ table with children := [] }.append table.children).matchAll.outcome = .ok rs :=
  ⟨⟨_, rfl⟩, rfl, rfl, _, rfl⟩

end Request

end ChildRules
