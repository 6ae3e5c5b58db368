import ChildRules.Proofs.Cut

/-!
# Slices of the children

Counts, one for each pattern, lay slices of the children end to end from the first child on. What a
slice has to be is left open: a slicing asks it of every pattern, of the pattern's slice and of the
children that come later. A slicing that uses all children is a split.

A strict match succeeds exactly if the children have a split into slices that are within range and
cannot be made longer. There is at most one such split, and it is what the patterns take.
-/

namespace ChildRules

/-! ## Slices laid end to end -/

/-- Where a slice starts when slices of these lengths are laid end to end. -/
def sliceStart (counts : List Nat) (i : Nat) : Nat :=
  (counts.take i).sum

/-- The children of a slice. -/
def slice (children : List Node) (counts : List Nat) (i : Nat) : List Node :=
  (children.drop (sliceStart counts i)).take (counts.getD i 0)

/-- Counts, one for each pattern, whose slices are what `Ok` asks of a pattern's slice and of the
children after it. -/
structure Slicing (Ok : Pattern → List Node → List Node → Prop) (ps : List Pattern)
    (children : List Node) (counts : List Nat) : Prop where
  length_eq : counts.length = ps.length
  sum_le : counts.sum ≤ children.length
  ok : ∀ i p, ps[i]? = some p →
    Ok p (slice children counts i) (children.drop (sliceStart counts (i + 1)))

/-- A slicing that uses all children. -/
structure Split (Ok : Pattern → List Node → List Node → Prop) (ps : List Pattern)
    (children : List Node) (counts : List Nat) : Prop extends Slicing Ok ps children counts where
  sum_eq : counts.sum = children.length

section Slices

variable {Ok : Pattern → List Node → List Node → Prop} {p : Pattern} {ps : List Pattern}
  {children : List Node} {n : Nat} {counts : List Nat}

@[simp] theorem sliceStart_zero (counts : List Nat) : sliceStart counts 0 = 0 := rfl

@[simp] theorem sliceStart_cons_succ (n : Nat) (counts : List Nat) (i : Nat) :
    sliceStart (n :: counts) (i + 1) = n + sliceStart counts i := by
  simp [sliceStart]

@[simp] theorem slice_cons_zero (children : List Node) (n : Nat) (counts : List Nat) :
    slice children (n :: counts) 0 = children.take n := rfl

@[simp] theorem slice_cons_succ (children : List Node) (n : Nat) (counts : List Nat) (i : Nat) :
    slice children (n :: counts) (i + 1) = slice (children.drop n) counts i := by
  simp [slice, List.drop_drop]

theorem slicing_nil_iff : Slicing Ok [] children counts ↔ counts = [] := by
  constructor
  · intro h
    exact List.length_eq_zero_iff.mp h.length_eq
  · rintro rfl
    exact ⟨rfl, Nat.zero_le _, fun i p h => by simp at h⟩

/-- A slicing is a slice for the first pattern and a slicing of the others for the others. -/
theorem slicing_cons_iff : Slicing Ok (p :: ps) children (n :: counts) ↔
    n ≤ children.length ∧ Ok p (children.take n) (children.drop n) ∧
      Slicing Ok ps (children.drop n) counts := by
  constructor
  · intro h
    have hsum := h.sum_le
    rw [List.sum_cons] at hsum
    refine ⟨by omega, by simpa using h.ok 0 p rfl, ?_, ?_, ?_⟩
    · simpa using h.length_eq
    · rw [List.length_drop]
      omega
    · intro i q hq
      simpa [List.drop_drop] using h.ok (i + 1) q hq
  · rintro ⟨hn, hok, h⟩
    have hsum := h.sum_le
    rw [List.length_drop] at hsum
    refine ⟨by simpa using h.length_eq, by rw [List.sum_cons]; omega, ?_⟩
    intro i q hq
    cases i with
    | zero =>
      cases hq
      simpa using hok
    | succ i => simpa [List.drop_drop] using h.ok i q hq

theorem Slicing.exists_cons (h : Slicing Ok (p :: ps) children counts) :
    ∃ n later, counts = n :: later := by
  cases counts with
  | nil => cases h.length_eq
  | cons n later => exact ⟨n, later, rfl⟩

theorem split_nil_iff : Split Ok [] children counts ↔ counts = [] ∧ children = [] := by
  constructor
  · intro h
    obtain rfl := slicing_nil_iff.mp h.toSlicing
    exact ⟨rfl, List.length_eq_zero_iff.mp h.sum_eq.symm⟩
  · rintro ⟨rfl, rfl⟩
    exact ⟨slicing_nil_iff.mpr rfl, rfl⟩

theorem split_cons_iff : Split Ok (p :: ps) children (n :: counts) ↔
    n ≤ children.length ∧ Ok p (children.take n) (children.drop n) ∧
      Split Ok ps (children.drop n) counts := by
  constructor
  · intro h
    obtain ⟨hn, hok, hlater⟩ := slicing_cons_iff.mp h.toSlicing
    have hsum := h.sum_eq
    rw [List.sum_cons] at hsum
    refine ⟨hn, hok, hlater, ?_⟩
    rw [List.length_drop]
    omega
  · rintro ⟨hn, hok, h⟩
    have hsum := h.sum_eq
    rw [List.length_drop] at hsum
    refine ⟨slicing_cons_iff.mpr ⟨hn, hok, h.toSlicing⟩, ?_⟩
    rw [List.sum_cons]
    omega

theorem Slicing.mono {Ok' : Pattern → List Node → List Node → Prop}
    (h : Slicing Ok ps children counts)
    (himp : ∀ p taken later, Ok p taken later → Ok' p taken later) :
    Slicing Ok' ps children counts :=
  ⟨h.length_eq, h.sum_le, fun i p hp => himp _ _ _ (h.ok i p hp)⟩

theorem Split.mono {Ok' : Pattern → List Node → List Node → Prop}
    (h : Split Ok ps children counts)
    (himp : ∀ p taken later, Ok p taken later → Ok' p taken later) :
    Split Ok' ps children counts :=
  ⟨h.toSlicing.mono himp, h.sum_eq⟩

end Slices

/-! ## What patterns take, as slices -/

namespace Position

theorem sum_counts_le (pos : Position) (ps : List Pattern) :
    (pos.counts ps).sum ≤ pos.rest.length := by
  have h := pos.total_afterAll ps
  rw [total, total, cursor_afterAll] at h
  omega

theorem rest_afterAll_eq_nil_iff {pos : Position} {ps : List Pattern} :
    (pos.afterAll ps).rest = [] ↔ (pos.counts ps).sum = pos.rest.length := by
  have h := pos.sum_counts_le ps
  rw [rest_afterAll, List.drop_eq_nil_iff]
  omega

/-- A pattern takes the slice that its count gives it. -/
theorem taken_eq_slice {pos : Position} {ps : List Pattern} {i : Nat} {t : Turn}
    (h : (pos.turns ps)[i]? = some t) : t.taken = slice pos.rest (pos.counts ps) i := by
  induction ps generalizing pos i with
  | nil => cases h
  | cons p ps ih =>
    cases i with
    | zero =>
      cases h
      exact p.run_eq_take pos.rest
    | succ i =>
      rw [counts_cons, slice_cons_succ]
      exact ih h

/-- A turn is noted with the start and the length of its slice. -/
theorem event_eq_slice {pos : Position} {ps : List Pattern} {i : Nat} {t : Turn}
    (h : (pos.turns ps)[i]? = some t) :
    t.event = .turn t.pattern.typeList (pos.cursor + sliceStart (pos.counts ps) i)
      ((pos.counts ps).getD i 0) := by
  have hcursor : t.before.cursor = pos.cursor + sliceStart (pos.counts ps) i := by
    rw [(getElem?_turns h).2.1, cursor_afterAll, counts, turns_take, List.map_take]
    rfl
  have htaken : (pos.counts ps).getD i 0 = t.taken.length := by
    rw [counts, List.getD_eq_getElem?_getD, List.getElem?_map, h]
    rfl
  rw [← hcursor, htaken]
  rfl

end Position

/-! ## What a slice can be -/

namespace Pattern

/-- A slice within the pattern's maximum, of children that the pattern accepts. -/
structure Capped (p : Pattern) (taken _later : List Node) : Prop where
  le_max : ∀ max ∈ p.cardinality.max, taken.length ≤ max
  accepts : ∀ x ∈ taken, p.accepts x = true

/-- A slice within the pattern's range, of children that the pattern accepts. -/
structure InRange (p : Pattern) (taken _later : List Node) : Prop where
  admits : p.cardinality.Admits taken.length
  accepts : ∀ x ∈ taken, p.accepts x = true

theorem InRange.capped {p : Pattern} {taken later : List Node} (h : p.InRange taken later) :
    p.Capped taken later :=
  ⟨h.admits.2, h.accepts⟩

/-- No such slice at the head is longer than the run. -/
theorem Capped.le_length_run {p : Pattern} {rest later : List Node} {n : Nat}
    (hn : n ≤ rest.length) (hlimit : rest.length ≤ countLimit)
    (h : p.Capped (rest.take n) later) : n ≤ (p.run rest).length := by
  have hmax := h.le_max
  rw [List.length_take_of_le hn] at hmax
  exact Pattern.le_length_run hn (Nat.le_trans hn hlimit) hmax h.accepts

/-- A slice within range that cannot be longer: it is as long as the maximum, no child is left, or
the pattern rejects the next one. -/
structure Maximal (p : Pattern) (taken later : List Node) : Prop extends
    InRange p taken later where
  stops : p.cardinality.max = some taken.length ∨ later = [] ∨
    ∃ x ∈ later.head?, p.accepts x = false

/-- The slice at the head that cannot be longer is the run, if that is within range. -/
theorem maximal_iff {p : Pattern} {rest : List Node} {n : Nat} (hn : n ≤ rest.length)
    (hlimit : rest.length ≤ countLimit) :
    p.Maximal (rest.take n) (rest.drop n) ↔
      n = (p.run rest).length ∧ p.cardinality.Admits (p.run rest).length := by
  have htake : (rest.take n).length = n := List.length_take_of_le hn
  constructor
  · intro h
    have hadmits := h.admits
    rw [htake] at hadmits
    have hle : n ≤ (p.run rest).length := h.capped.le_length_run hn hlimit
    have hge : (p.run rest).length ≤ n := by
      refine Nat.le_of_not_lt fun hlt => ?_
      -- The run would have a child after the slice, so nothing stops the slice there.
      have hlt' : n < rest.length := Nat.lt_of_lt_of_le hlt (p.length_run_le rest)
      rcases h.stops with hmax | hnil | ⟨x, hx, hrejects⟩
      · rw [htake] at hmax
        have := p.length_run_le_max rest n hmax
        omega
      · have := List.drop_eq_nil_iff.mp hnil
        omega
      · have hmem : x ∈ p.run rest := by
          rw [p.run_eq_take rest]
          rw [List.head?_drop] at hx
          exact List.mem_of_getElem? ((List.getElem?_take_of_lt hlt).trans hx)
        rw [accepts_of_mem_run hmem] at hrejects
        exact Bool.noConfusion hrejects
    have heq : n = (p.run rest).length := Nat.le_antisymm hle hge
    exact ⟨heq, heq ▸ hadmits⟩
  · rintro ⟨rfl, hadmits⟩
    rw [← p.run_eq_take rest]
    exact ⟨⟨hadmits, fun x hx => accepts_of_mem_run hx⟩, p.run_ends hlimit⟩

end Pattern

/-- The only slices that cannot be longer are those that the patterns take. -/
theorem slicing_maximal_iff {ps : List Pattern} (pos : Position) {counts : List Nat}
    (hlimit : pos.rest.length ≤ countLimit) :
    Slicing Pattern.Maximal ps pos.rest counts ↔
      counts = pos.counts ps ∧
        ∀ t ∈ pos.turns ps, t.pattern.cardinality.Admits t.taken.length := by
  induction ps generalizing pos counts with
  | nil => simp [slicing_nil_iff]
  | cons p ps ih =>
    have hrest : (pos.after p).rest.length ≤ countLimit := by
      rw [Position.rest_after, List.length_drop]
      omega
    rw [Position.turns_cons, List.forall_mem_cons, Position.counts_cons]
    constructor
    · intro h
      obtain ⟨n, later, rfl⟩ := h.exists_cons
      obtain ⟨hn, hok, hlater⟩ := slicing_cons_iff.mp h
      obtain ⟨rfl, hadmits⟩ := (Pattern.maximal_iff hn hlimit).mp hok
      obtain ⟨rfl, hall⟩ := (ih (pos.after p) hrest).mp hlater
      exact ⟨rfl, hadmits, hall⟩
    · rintro ⟨rfl, hadmits, hall⟩
      have hn := p.length_run_le pos.rest
      exact slicing_cons_iff.mpr
        ⟨hn, (Pattern.maximal_iff hn hlimit).mpr ⟨rfl, hadmits⟩,
          (ih (pos.after p) hrest).mpr ⟨rfl, hall⟩⟩

/-! ## Strict success -/

namespace Request

/-- How many children each pattern takes. -/
def counts (r : Request) : List Nat :=
  (Position.start r.children).counts r.patterns.toList

theorem violations_eq_nil_iff (r : Request) :
    r.matchPartial.violations = [] ↔
      (∀ t ∈ r.turns, t.pattern.cardinality.Admits t.taken.length) ∧
        r.counts.sum = r.children.length := by
  rw [violations_matchPartial, List.append_eq_nil_iff, mismatches, List.map_eq_nil_iff,
    List.map_eq_nil_iff, Option.toList_eq_nil_iff, Position.leftover?_eq_none_iff, final,
    Position.rest_afterAll_eq_nil_iff]
  simp [List.filter_eq_nil_iff, counts, Position.start]

theorem matchAll_ok_iff {r : Request} (hstrict : r.options.strict = true)
    {rs : List (Result Mapped)} :
    r.matchAll.outcome = .ok rs ↔
      ((∀ t ∈ r.turns, t.pattern.cardinality.Admits t.taken.length) ∧
        r.counts.sum = r.children.length) ∧ r.matchPartial.outcome = rs := by
  rw [matchAll_of_strict hstrict, Report.outcome_cut_eq_ok_iff, violations_eq_nil_iff]

/-- The only split into slices that cannot be longer is what the patterns take. -/
theorem split_maximal_iff {r : Request} (hlimit : r.children.length ≤ countLimit)
    {counts : List Nat} :
    Split Pattern.Maximal r.patterns.toList r.children counts ↔
      counts = r.counts ∧ (∀ t ∈ r.turns, t.pattern.cardinality.Admits t.taken.length) ∧
        r.counts.sum = r.children.length := by
  have h : Slicing Pattern.Maximal r.patterns.toList r.children counts ↔ _ :=
    slicing_maximal_iff (.start r.children) hlimit
  constructor
  · intro hsplit
    obtain ⟨rfl, hall⟩ := h.mp hsplit.toSlicing
    exact ⟨rfl, hall, hsplit.sum_eq⟩
  · rintro ⟨rfl, hall, hsum⟩
    exact ⟨h.mpr ⟨rfl, hall⟩, hsum⟩

theorem exists_turn_of_get? {r : Request} {i : Nat} {p : Pattern}
    (hp : r.patterns.get? i = some p) : ∃ t, r.turns[i]? = some t ∧ t.pattern = p := by
  have hmap : (r.turns.map Turn.pattern)[i]? = some p := by
    rw [turns, Position.map_pattern_turns]
    exact hp
  rw [List.getElem?_map] at hmap
  exact Option.map_eq_some_iff.mp hmap

/-- A pattern and its result come of one turn. -/
theorem exists_turn {r : Request} {i : Nat} {p : Pattern} {res : Result Mapped}
    (hp : r.patterns.get? i = some p) (hres : r.matchPartial.outcome[i]? = some res) :
    ∃ t, r.turns[i]? = some t ∧ t.pattern = p ∧ t.result r.parent = res := by
  rw [outcome_matchPartial, List.getElem?_map] at hres
  obtain ⟨t, ht, hres⟩ := Option.map_eq_some_iff.mp hres
  exact ⟨t, ht, Option.some.inj ((Position.getElem?_turns ht).1.symm.trans hp), hres⟩

/-- A result holds the children that a pattern took, in their order and in the form for the
pattern's range: each as it is, or as the pattern's mapper has it if there is one and mappers are
applied. -/
structure Holds (r : Request) (p : Pattern) (taken : List Node) (res : Result Mapped) : Prop where
  form : res.Fits p.cardinality
  unmapped : p.mapper = none ∨ r.options.appliesMappers = false →
    res.nodes = taken.map .existing
  mapped : ∀ mapper, p.mapper = some mapper → r.options.appliesMappers = true →
    res.nodes = taken.map (mapper · r.context)

/-- Each result holds the slice of its pattern. -/
theorem holds_slice {r : Request} {i : Nat} {p : Pattern} {res : Result Mapped}
    (hp : r.patterns.get? i = some p) (hres : r.matchPartial.outcome[i]? = some res) :
    r.Holds p (slice r.children r.counts i) res := by
  obtain ⟨t, ht, rfl, rfl⟩ := exists_turn hp hres
  have htaken : t.taken = slice r.children r.counts i := Position.taken_eq_slice ht
  rw [← htaken]
  refine ⟨t.pattern.fits_result r.parent t.before, ?_, ?_⟩
  · intro hunmapped
    rw [Turn.nodes_result]
    exact List.map_congr_left fun x _ => Pattern.project_of_unmapped hunmapped x
  · intro mapper hmapper happlies
    rw [Turn.nodes_result]
    exact List.map_congr_left fun x _ => Pattern.project_of_mapped hmapper happlies x

theorem length_outcome_matchPartial (r : Request) :
    r.matchPartial.outcome.length = r.patterns.size := by
  rw [outcome_matchPartial, List.length_map, turns, Position.length_turns]
  rfl

/-- A strict match that succeeds notes the slice of each pattern. -/
theorem noted_slice {r : Request} (hstrict : r.options.strict = true) {rs : List (Result Mapped)}
    (hok : r.matchAll.outcome = .ok rs) {i : Nat} {p : Pattern}
    (hp : r.patterns.get? i = some p) :
    r.matchAll.events[i]? =
      some (.turn p.typeList (sliceStart r.counts i) (r.counts.getD i 0)) := by
  have hquiet : r.matchPartial.violations = [] := by
    rw [matchAll_of_strict hstrict] at hok
    exact (Report.outcome_cut_eq_ok_iff.mp hok).1
  have hevents : r.matchAll.events = r.turns.map Turn.event := by
    rw [matchAll_of_ok hok, ← turn_events_matchPartial]
    refine (List.filter_eq_self.mpr fun e he => ?_).symm
    exact Option.isNone_iff_eq_none.mpr (List.filterMap_eq_nil_iff.mp hquiet e he)
  obtain ⟨t, ht, rfl⟩ := exists_turn_of_get? hp
  have hevent := Position.event_eq_slice ht
  rw [Position.start, Nat.zero_add] at hevent
  rw [hevents, List.getElem?_map, ht, Option.map_some, hevent]
  rfl

/-- **A strict match succeeds exactly if the children split into slices that are within range and
cannot be longer.** There is at most one such split, and then there is one result for each pattern,
which holds the children of the pattern's slice. -/
theorem strict_ok_iff_maximal_split (r : Request) (hstrict : r.options.strict = true)
    (hlimit : r.children.length ≤ countLimit) :
    ((∃ rs, r.matchAll.outcome = .ok rs) ↔
      ∃ counts, Split Pattern.Maximal r.patterns.toList r.children counts) ∧
    ∀ counts, Split Pattern.Maximal r.patterns.toList r.children counts →
      (∀ others, Split Pattern.Maximal r.patterns.toList r.children others → others = counts) ∧
      ∃ rs, r.matchAll.outcome = .ok rs ∧ rs.length = r.patterns.size ∧
        ∀ i p res, r.patterns.get? i = some p → rs[i]? = some res →
          r.Holds p (slice r.children counts i) res := by
  refine ⟨⟨?_, ?_⟩, ?_⟩
  · rintro ⟨rs, hok⟩
    exact ⟨r.counts, (split_maximal_iff hlimit).mpr ⟨rfl, ((matchAll_ok_iff hstrict).mp hok).1⟩⟩
  · rintro ⟨counts, hsplit⟩
    obtain ⟨-, hfits⟩ := (split_maximal_iff hlimit).mp hsplit
    exact ⟨_, (matchAll_ok_iff hstrict).mpr ⟨hfits, rfl⟩⟩
  · intro counts hsplit
    obtain ⟨rfl, hfits⟩ := (split_maximal_iff hlimit).mp hsplit
    refine ⟨fun others hothers => ((split_maximal_iff hlimit).mp hothers).1, _,
      (matchAll_ok_iff hstrict).mpr ⟨hfits, rfl⟩, r.length_outcome_matchPartial,
      fun i p res => holds_slice⟩

/-- A table: a caption or none, a row that is reported as the heading, other rows, and a footer or
none. -/
def table : Request where
  owner := "Table"
  options := .strictRendering
  context := .empty
  children :=
    [⟨⟨.tag "row", .empty⟩, ⟨0⟩⟩, ⟨⟨.tag "row", .empty⟩, ⟨1⟩⟩, ⟨⟨.tag "row", .empty⟩, ⟨2⟩⟩,
      ⟨⟨.tag "foot", .empty⟩, ⟨3⟩⟩]
  patterns :=
    { toList :=
        [.zeroOrOne [.tag "caption"],
          (Pattern.one [.tag "row"]).withMapper fun x _ => .built ⟨.tag "heading", x.props⟩,
          .zeroOrMore [.tag "row"], .zeroOrOne [.tag "foot"]]
      wellFormed := by
        simp [Pattern.WellFormed, Pattern.zeroOrOne, Pattern.one, Pattern.zeroOrMore,
          Pattern.ofRange, Pattern.withMapper, Cardinality.WellFormed] }

/-- The table has no caption, a heading, two other rows and a footer. The heading is what the mapper
of its pattern makes of the first row. -/
theorem table_ok_of_split :
    table.options.strict = true ∧ table.children.length ≤ countLimit ∧
      Split Pattern.Maximal table.patterns.toList table.children [0, 1, 2, 1] ∧
      ∃ rs, table.matchAll.outcome = .ok rs ∧ rs.length = 4 ∧
        rs[1]?.map Result.nodes = some [.built ⟨.tag "heading", .empty⟩] := by
  have hlimit : table.children.length ≤ countLimit := by decide
  have hsplit : Split Pattern.Maximal table.patterns.toList table.children [0, 1, 2, 1] :=
    (split_maximal_iff hlimit).mpr ⟨by decide, by decide, by decide⟩
  obtain ⟨-, rs, hok, hlength, hholds⟩ := (strict_ok_iff_maximal_split table rfl hlimit).2 _ hsplit
  refine ⟨rfl, hlimit, hsplit, rs, hok, hlength, ?_⟩
  have hlt : 1 < rs.length := hlength ▸ (by decide : 1 < table.patterns.size)
  have hres : rs[1]? = some rs[1] := List.getElem?_eq_getElem hlt
  rw [hres]
  exact congrArg some ((hholds 1 _ _ rfl hres).mapped _ rfl rfl)

end Request

end ChildRules
