import ChildRules.Proofs.Slicing

/-!
# What a matcher that backtracks could do better

A match never gives a run back. A matcher that backtracks would look for any split of the children
into slices within the patterns' ranges. The two are compared here.

No slices laid end to end reach further than the cursor, so children left over are left over by
every split, and so is a short pattern if those before it take a fixed number of children. A match
rejects children that have a split only if a pattern takes a child that a later one needs. If no
child is accepted by two patterns between which that can happen, then the match succeeds exactly if
there is a split, and finds the only one.
-/

namespace ChildRules

/-! ## No slices reach further than the cursor -/

/-- Slices that lag behind the cursor still do after the next pattern, however long its slice. -/
theorem le_cursor_after {p : Pattern} {children later : List Node} {pos : Position} {a n : Nat}
    (hlimit : children.length ≤ countLimit) (hon : pos.On children) (ha : a ≤ pos.cursor)
    (hn : a + n ≤ children.length) (hcapped : p.Capped ((children.drop a).take n) later) :
    a + n ≤ (pos.after p).cursor := by
  rw [Position.cursor_after]
  rcases Nat.le_total (a + n) pos.cursor with hle | hge
  · omega
  · -- The pattern can take the part of the slice that is past the cursor.
    have hpart : pos.rest.take (a + n - pos.cursor) =
        ((children.drop a).take n).drop (pos.cursor - a) := by
      have hstart : a + (pos.cursor - a) = pos.cursor := by omega
      have hlength : n - (pos.cursor - a) = a + n - pos.cursor := by omega
      rw [hon.rest_eq, List.drop_take, List.drop_drop, hstart, hlength]
    have hrest : pos.rest.length = children.length - pos.cursor := by
      rw [hon.rest_eq, List.length_drop]
    have hpast : p.Capped (pos.rest.take (a + n - pos.cursor)) later := by
      rw [hpart]
      refine ⟨fun max hmax => ?_, fun x hx => hcapped.accepts x (List.mem_of_mem_drop hx)⟩
      rw [List.length_drop]
      exact Nat.le_trans (Nat.sub_le _ _) (hcapped.le_max max hmax)
    have := hpast.le_length_run (by omega) (by omega)
    omega

/-- **Slices laid end to end never get ahead of the cursor.** -/
theorem sum_le_cursor_afterAll {ps : List Pattern} {children : List Node} {pos : Position}
    {a : Nat} {counts : List Nat} (hlimit : children.length ≤ countLimit)
    (hon : pos.On children) (ha : a ≤ pos.cursor) (ha' : a ≤ children.length)
    (h : Slicing Pattern.Capped ps (children.drop a) counts) :
    a + counts.sum ≤ (pos.afterAll ps).cursor := by
  induction ps generalizing pos a counts with
  | nil =>
    obtain rfl := slicing_nil_iff.mp h
    simpa using ha
  | cons p ps ih =>
    obtain ⟨n, later, rfl⟩ := h.exists_cons
    obtain ⟨hn, hcapped, hlater⟩ := slicing_cons_iff.mp h
    rw [List.length_drop] at hn
    rw [List.drop_drop] at hlater
    have hstep := le_cursor_after hlimit hon ha (by omega) hcapped
    rw [List.sum_cons, ← Nat.add_assoc]
    exact ih (hon.after p) hstep (by omega) hlater

/-! ## Errors that no split avoids -/

theorem Cardinality.eq_min_of_admits {c : Cardinality} {n : Nat} (hfixed : c.max = some c.min)
    (h : c.Admits n) : n = c.min :=
  Nat.le_antisymm (h.2 _ hfixed) h.1

/-- A short pattern after patterns of fixed counts is short in every split. -/
theorem not_split_of_short {before later : List Pattern} {p : Pattern} {pos : Position}
    {counts : List Nat} (hlimit : pos.rest.length ≤ countLimit)
    (hfixed : ∀ q ∈ before, q.cardinality.max = some q.cardinality.min)
    (hadmits : ∀ t ∈ pos.turns before, t.pattern.cardinality.Admits t.taken.length)
    (hshort : (p.run (pos.afterAll before).rest).length < p.cardinality.min) :
    ¬ Split Pattern.InRange (before ++ p :: later) pos.rest counts := by
  intro h
  induction before generalizing pos counts with
  | nil =>
    obtain ⟨n, others, rfl⟩ := h.toSlicing.exists_cons
    obtain ⟨hn, hrange, -⟩ := split_cons_iff.mp h
    have hle := hrange.capped.le_length_run hn hlimit
    have hmin := hrange.admits.1
    rw [List.length_take_of_le hn] at hmin
    rw [Position.afterAll_nil] at hshort
    omega
  | cons q before ih =>
    obtain ⟨n, others, rfl⟩ := h.toSlicing.exists_cons
    obtain ⟨hn, hrange, hothers⟩ := split_cons_iff.mp h
    rw [List.forall_mem_cons] at hfixed
    rw [Position.turns_cons, List.forall_mem_cons] at hadmits
    -- Both the slice and the run of a fixed pattern have its count, so they are one.
    have hslice := Cardinality.eq_min_of_admits hfixed.1 hrange.admits
    rw [List.length_take_of_le hn] at hslice
    have hrun := Cardinality.eq_min_of_admits hfixed.1 hadmits.1
    have heq : n = (q.run pos.rest).length := hslice.trans hrun.symm
    rw [heq, ← Position.rest_after] at hothers
    refine ih ?_ hfixed.2 hadmits.2 hshort hothers
    rw [Position.rest_after, List.length_drop]
    omega

namespace Request

/-- The position after a pattern's turn. -/
def after (r : Request) (i : Nat) : Position :=
  (Position.start r.children).afterAll (r.patterns.toList.take (i + 1))

/-- How many children are gone after a pattern's turn. -/
def cursorAfter (r : Request) (j : Nat) : Nat :=
  (r.after j).cursor

theorem rest_after (r : Request) (i : Nat) :
    (r.after i).rest = r.children.drop (r.cursorAfter i) :=
  ((Position.on_start r.children).afterAll _).rest_eq

/-- Each pattern has its turn noted, and at its own index. -/
theorem exists_turn_event {r : Request} {j : Nat} {p : Pattern}
    (hp : r.patterns.get? j = some p) :
    ∃ start taken, (r.matchPartial.events.filter (·.violation?.isNone))[j]? =
      some (.turn p.typeList start taken) := by
  obtain ⟨t, ht, rfl⟩ := exists_turn_of_get? hp
  refine ⟨t.before.cursor, t.taken.length, ?_⟩
  rw [turn_events_matchPartial, List.getElem?_map, ht]
  rfl

theorem cursorAfter_eq {r : Request} {j : Nat} {types : String} {start taken : Nat}
    (h : (r.matchPartial.events.filter (·.violation?.isNone))[j]? =
      some (.turn types start taken)) : r.cursorAfter j = start + taken := by
  rw [turn_events_matchPartial, List.getElem?_map] at h
  obtain ⟨t, ht, hevent⟩ := Option.map_eq_some_iff.mp h
  obtain ⟨-, -, hafter⟩ := Position.getElem?_turns ht
  cases hevent
  rw [cursorAfter, after, ← hafter]
  rfl

/-- **Greedy turns are optimal.** Accepted slices laid end to end from the first child, each within
its pattern's maximum, reach at most to where the turn of the last of these patterns ends. Every
pattern has its turn noted, and it ends where it is noted to. So children that a strict match leaves
over, and a mismatch that it reports after patterns of fixed counts only, are there for every split
of the children into slices within range. -/
theorem greedy_dominates (r : Request) (hlimit : r.children.length ≤ countLimit) :
    (∀ j counts, Slicing Pattern.Capped (r.patterns.toList.take (j + 1)) r.children counts →
      counts.sum ≤ r.cursorAfter j) ∧
    (∀ j p, r.patterns.get? j = some p →
      ∃ start taken, (r.matchPartial.events.filter (·.violation?.isNone))[j]? =
        some (.turn p.typeList start taken)) ∧
    (∀ (j : Nat) (types : String) (start taken : Nat),
      (r.matchPartial.events.filter (·.violation?.isNone))[j]? = some (.turn types start taken) →
        r.cursorAfter j = start + taken) ∧
    (r.options.strict = true → ∀ v, r.matchAll.outcome = .error (.unmatchedChildren v) →
      ¬ ∃ counts, Split Pattern.InRange r.patterns.toList r.children counts) ∧
    (r.options.strict = true → ∀ v, r.matchAll.outcome = .error (.countMismatch v) →
      ∃ before p, r.Blames before p v ∧
        ((∀ q ∈ before, q.cardinality.max = some q.cardinality.min) →
          ¬ ∃ counts, Split Pattern.InRange r.patterns.toList r.children counts)) := by
  have hreach : ∀ ps counts, Slicing Pattern.Capped ps r.children counts →
      counts.sum ≤ ((Position.start r.children).afterAll ps).cursor := by
    intro ps counts h
    have hsum := sum_le_cursor_afterAll hlimit (Position.on_start r.children) (Nat.le_refl 0)
      (Nat.zero_le _) h
    rwa [Nat.zero_add] at hsum
  refine ⟨fun j counts => hreach _ counts, fun _ _ => exists_turn_event,
    fun _ _ _ _ => cursorAfter_eq, ?_, ?_⟩
  · rintro hstrict v herror ⟨counts, hsplit⟩
    have hle := hreach _ counts (hsplit.toSlicing.mono fun _ _ _ => Pattern.InRange.capped)
    rw [hsplit.sum_eq] at hle
    have hon := (Position.on_start r.children).afterAll r.patterns.toList
    refine rest_final_ne_nil hstrict herror ?_
    rw [final, hon.rest_eq]
    exact List.drop_eq_nil_of_le hle
  · intro hstrict v herror
    obtain ⟨before, p, hblames⟩ := exists_blames (head?_mismatches hstrict herror)
    refine ⟨before, p, hblames, ?_⟩
    rintro hfixed ⟨counts, hsplit⟩
    obtain ⟨later, hpatterns⟩ := hblames.position
    have hshort : (p.run ((Position.start r.children).afterAll before).rest).length <
        p.cardinality.min := by
      refine Nat.lt_of_not_le fun hle => ?_
      have h := hblames.mismatch
      rw [Position.mismatch?_eq_none_iff.mpr hle] at h
      cases h
    rw [hpatterns] at hsplit
    exact not_split_of_short hlimit hfixed hblames.admits_before hshort hsplit

/-- The rows of a second table cannot follow the footer of the first, however they are split. -/
theorem two_tables_not_split :
    (table.children ++ table.children).length ≤ countLimit ∧
      { table with children := table.children ++ table.children }.matchAll.outcome =
        .error (.unmatchedChildren ⟨"Table", 4, 8⟩) ∧
      ¬ ∃ counts,
        Split Pattern.InRange table.patterns.toList (table.children ++ table.children) counts := by
  have hlimit : (table.children ++ table.children).length ≤ countLimit := by decide
  have herror : { table with children := table.children ++ table.children }.matchAll.outcome =
      .error (.unmatchedChildren ⟨"Table", 4, 8⟩) := by rfl
  obtain ⟨-, -, -, hleft, -⟩ :=
    greedy_dominates { table with children := table.children ++ table.children } hlimit
  exact ⟨hlimit, herror, hleft rfl _ herror⟩

end Request

/-! ## When there is nothing to give back -/

/-- No child is accepted by two patterns of which the first can take more or fewer children and the
ones in between can take none. -/
def Separated (ps : List Pattern) (children : List Node) : Prop :=
  ∀ (i j : Nat) (p q : Pattern), i < j → ps[i]? = some p → ps[j]? = some q →
    p.cardinality.max ≠ some p.cardinality.min →
    (∀ (k : Nat) (o : Pattern), i < k → k < j → ps[k]? = some o → o.cardinality.min = 0) →
    ∀ x ∈ children, ¬ (p.accepts x = true ∧ q.accepts x = true)

/-- Patterns are separated if no two of them accept one child, the first not being fixed. -/
theorem Separated.of_pairwise {ps : List Pattern} {children : List Node}
    (h : ps.Pairwise fun p q => p.cardinality.max = some p.cardinality.min ∨
      ∀ x ∈ children, ¬ (p.accepts x = true ∧ q.accepts x = true)) :
    Separated ps children := by
  intro i j p q hij hp hq hloose _ x hx
  obtain ⟨hi, rfl⟩ := List.getElem?_eq_some_iff.mp hp
  obtain ⟨hj, rfl⟩ := List.getElem?_eq_some_iff.mp hq
  rcases List.pairwise_iff_getElem.mp h i j hi hj hij with hfixed | hdisjoint
  · exact absurd hfixed hloose
  · exact hdisjoint x hx

theorem Separated.tail {p : Pattern} {ps : List Pattern} {children : List Node}
    (h : Separated (p :: ps) children) (n : Nat) : Separated ps (children.drop n) := by
  intro i j q o hij hq ho hloose hbetween x hx
  refine h (i + 1) (j + 1) q o (Nat.succ_lt_succ hij) hq ho hloose ?_ x (List.mem_of_mem_drop hx)
  intro k o' hik hkj ho'
  cases k with
  | zero => omega
  | succ k => exact hbetween k o' (by omega) (by omega) ho'

/-- In a split the first child belongs to a pattern before which no pattern has a minimum. -/
theorem Split.exists_accepts_head {ps : List Pattern} {x : Node} {children : List Node}
    {counts : List Nat} (h : Split Pattern.InRange ps (x :: children) counts) :
    ∃ (j : Nat) (q : Pattern), ps[j]? = some q ∧ q.accepts x = true ∧
      ∀ (k : Nat) (o : Pattern), k < j → ps[k]? = some o → o.cardinality.min = 0 := by
  induction ps generalizing counts with
  | nil => cases (split_nil_iff.mp h).2
  | cons p ps ih =>
    obtain ⟨n, later, rfl⟩ := h.toSlicing.exists_cons
    obtain ⟨-, hrange, hlater⟩ := split_cons_iff.mp h
    cases n with
    | zero =>
      obtain ⟨j, q, hq, haccepts, hbefore⟩ := ih hlater
      refine ⟨j + 1, q, hq, haccepts, ?_⟩
      intro k o hkj ho
      cases k with
      | zero =>
        cases ho
        exact Nat.le_zero.mp hrange.admits.1
      | succ k => exact hbefore k o (by omega) ho
    | succ n => exact ⟨0, p, rfl, hrange.accepts x List.mem_cons_self, by omega⟩

/-- **Without overlap no slice of a split can be longer.** -/
theorem Split.maximal {ps : List Pattern} {children : List Node} {counts : List Nat}
    (hsep : Separated ps children) (h : Split Pattern.InRange ps children counts) :
    Split Pattern.Maximal ps children counts := by
  induction ps generalizing children counts with
  | nil => exact split_nil_iff.mpr (split_nil_iff.mp h)
  | cons p ps ih =>
    obtain ⟨n, others, rfl⟩ := h.toSlicing.exists_cons
    obtain ⟨hn, hrange, hothers⟩ := split_cons_iff.mp h
    refine split_cons_iff.mpr ⟨hn, ⟨hrange, ?_⟩, ih (hsep.tail n) hothers⟩
    have hadmits := hrange.admits
    rw [List.length_take_of_le hn] at hadmits ⊢
    by_cases hfixed : p.cardinality.max = some p.cardinality.min
    · rw [hfixed, Cardinality.eq_min_of_admits hfixed hadmits]
      exact Or.inl rfl
    · right
      cases hdrop : children.drop n with
      | nil => exact Or.inl rfl
      | cons x later =>
        refine Or.inr ⟨x, rfl, ?_⟩
        -- Another pattern takes the child after the slice, so this one does not accept it.
        rw [hdrop] at hothers
        obtain ⟨j, q, hq, hother, hbefore⟩ := hothers.exists_accepts_head
        have hmem : x ∈ children := by
          apply List.mem_of_mem_drop (i := n)
          rw [hdrop]
          exact List.mem_cons_self
        have hnot := hsep 0 (j + 1) p q (Nat.succ_pos j) rfl hq hfixed ?_ x hmem
        · exact Bool.eq_false_iff.mpr fun haccepts => hnot ⟨haccepts, hother⟩
        · intro k o hk hkj ho
          cases k with
          | zero => omega
          | succ k => exact hbefore k o (by omega) ho

namespace Request

/-- **Without overlap a match rejects nothing that a matcher which backtracks accepts.** If the
patterns are separated, a strict match succeeds exactly if the children split into slices within
range, and the split is the only one. Its slices are what the patterns are noted to take, and what
their results hold. Patterns that are not separated can only make it fail more often. -/
theorem strict_ok_iff_split (r : Request) (hstrict : r.options.strict = true)
    (hlimit : r.children.length ≤ countLimit) :
    ((∃ rs, r.matchAll.outcome = .ok rs) →
      ∃ counts, Split Pattern.InRange r.patterns.toList r.children counts) ∧
    (Separated r.patterns.toList r.children →
      ((∃ rs, r.matchAll.outcome = .ok rs) ↔
        ∃ counts, Split Pattern.InRange r.patterns.toList r.children counts) ∧
      ∀ counts, Split Pattern.InRange r.patterns.toList r.children counts →
        (∀ others, Split Pattern.InRange r.patterns.toList r.children others → others = counts) ∧
        (∀ i p, r.patterns.get? i = some p → r.matchAll.events[i]? =
          some (.turn p.typeList (sliceStart counts i) (counts.getD i 0))) ∧
        ∃ rs, r.matchAll.outcome = .ok rs ∧ rs.length = r.patterns.size ∧
          ∀ i p res, r.patterns.get? i = some p → rs[i]? = some res →
            r.Holds p (slice r.children counts i) res) := by
  have hsound : (∃ rs, r.matchAll.outcome = .ok rs) →
      ∃ counts, Split Pattern.InRange r.patterns.toList r.children counts := by
    rintro ⟨rs, hok⟩
    have hsplit := (split_maximal_iff hlimit).mpr ⟨rfl, ((matchAll_ok_iff hstrict).mp hok).1⟩
    exact ⟨r.counts, hsplit.mono fun _ _ _ => Pattern.Maximal.toInRange⟩
  refine ⟨hsound, fun hsep => ?_⟩
  have hcounts : ∀ counts, Split Pattern.InRange r.patterns.toList r.children counts →
      counts = r.counts ∧ r.matchAll.outcome = .ok r.matchPartial.outcome := by
    intro counts hsplit
    obtain ⟨heq, hfits⟩ := (split_maximal_iff hlimit).mp (hsplit.maximal hsep)
    exact ⟨heq, (matchAll_ok_iff hstrict).mpr ⟨hfits, rfl⟩⟩
  refine ⟨⟨hsound, fun ⟨counts, hsplit⟩ => ⟨_, (hcounts counts hsplit).2⟩⟩, ?_⟩
  intro counts hsplit
  obtain ⟨rfl, hok⟩ := hcounts counts hsplit
  exact ⟨fun others hothers => (hcounts others hothers).1, fun i p => noted_slice hstrict hok,
    _, hok, r.length_outcome_matchPartial, fun i p res => holds_slice⟩

/-- The heading of the table is a row like the others, but one in number, so the patterns are
separated and the rows have only one split. The other rows take two children after the first. -/
theorem table_split_unique :
    table.options.strict = true ∧ table.children.length ≤ countLimit ∧
      Separated table.patterns.toList table.children ∧
      Split Pattern.InRange table.patterns.toList table.children [0, 1, 2, 1] ∧
      (∀ others, Split Pattern.InRange table.patterns.toList table.children others →
        others = [0, 1, 2, 1]) ∧
      table.matchAll.events[2]? = some (.turn "row" 1 2) ∧
      ∃ rs, table.matchAll.outcome = .ok rs ∧ rs.length = 4 ∧
        rs[2]?.map Result.nodes =
          some [.existing ⟨⟨.tag "row", .empty⟩, ⟨1⟩⟩, .existing ⟨⟨.tag "row", .empty⟩, ⟨2⟩⟩] := by
  have hlimit : table.children.length ≤ countLimit := by decide
  have hsep : Separated table.patterns.toList table.children :=
    Separated.of_pairwise (by decide)
  have hmaximal : Split Pattern.Maximal table.patterns.toList table.children [0, 1, 2, 1] :=
    (split_maximal_iff hlimit).mpr ⟨by decide, by decide, by decide⟩
  have hsplit := hmaximal.mono fun _ _ _ => Pattern.Maximal.toInRange
  obtain ⟨hunique, hnoted, rs, hok, hlength, hholds⟩ :=
    ((strict_ok_iff_split table rfl hlimit).2 hsep).2 _ hsplit
  refine ⟨rfl, hlimit, hsep, hsplit, hunique, hnoted 2 _ rfl, rs, hok, hlength, ?_⟩
  have hlt : 2 < rs.length := hlength ▸ (by decide : 2 < table.patterns.size)
  have hres : rs[2]? = some rs[2] := List.getElem?_eq_getElem hlt
  rw [hres]
  exact congrArg some ((hholds 2 _ _ rfl hres).unmapped (Or.inl rfl))

end Request

end ChildRules
