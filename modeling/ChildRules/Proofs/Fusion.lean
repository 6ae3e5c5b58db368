import ChildRules.Proofs.Starvation

/-!
# Patterns that fuse

Two patterns of the same shapes, one right after the other, take what one pattern of these shapes
takes whose range is the sum of theirs. The first takes all it can, and the second goes on only
where the first came to its maximum. So children that satisfy the two satisfy the one. The other way
round there is more to it: a first pattern that could do with less leaves nothing for the second.
-/

namespace ChildRules

/-! ## Ranges in a row -/

namespace Cardinality

/-- The range of two stretches in a row. It is unbounded if either is. -/
instance : Add Cardinality where
  add c d :=
    { min := c.min + d.min
      max := match c.max, d.max with
        | some m, some n => some (m + n)
        | _, _ => none }

@[simp] theorem min_add (c d : Cardinality) : (c + d).min = c.min + d.min := rfl

theorem mem_max_add_iff {c d : Cardinality} {max : Nat} :
    max ∈ (c + d).max ↔ ∃ m ∈ c.max, ∃ n ∈ d.max, m + n = max := by
  show max ∈ (match c.max, d.max with | some m, some n => some (m + n) | _, _ => none) ↔ _
  cases c.max <;> cases d.max <;> simp

theorem WellFormed.add {c d : Cardinality} (hc : c.WellFormed) (hd : d.WellFormed) :
    (c + d).WellFormed := by
  intro max hmax
  obtain ⟨m, hm, n, hn, rfl⟩ := mem_max_add_iff.mp hmax
  exact Nat.add_le_add (hc m hm) (hd n hn)

/-- Cut at the cap of the sum or at the sum of the caps, a list of children is the same. -/
theorem take_cap_add (c d : Cardinality) {rest : List Node} (hlimit : rest.length ≤ countLimit) :
    rest.take (c + d).cap = rest.take (c.cap + d.cap) := by
  obtain ⟨min, max⟩ := c
  obtain ⟨min', max'⟩ := d
  cases max with
  | none =>
    show rest.take countLimit = rest.take (countLimit + _)
    rw [List.take_of_length_le hlimit, List.take_of_length_le (Nat.le_add_right_of_le hlimit)]
  | some m =>
    cases max' with
    | none =>
      show rest.take countLimit = rest.take (m + countLimit)
      rw [List.take_of_length_le hlimit, List.take_of_length_le (Nat.le_add_left_of_le hlimit)]
    | some n => rfl

end Cardinality

/-! ## Runs in a row -/

/-- The longest stretch with a property among the first `m`, and the longest such stretch among the
`n` after it, are the longest one among the first `m + n`. -/
theorem takeWhile_take_append {α : Type} (f : α → Bool) (m n : Nat) (xs : List α) :
    (xs.take m).takeWhile f ++
        ((xs.drop ((xs.take m).takeWhile f).length).take n).takeWhile f =
      (xs.take (m + n)).takeWhile f := by
  induction m generalizing xs with
  | zero => simp
  | succ m ih =>
    cases xs with
    | nil => simp
    | cons x xs =>
      rw [Nat.add_right_comm, List.take_succ_cons, List.take_succ_cons]
      by_cases hx : f x = true
      · simp [hx, ih]
      · cases n <;> simp [hx]

/-- Two patterns of the same shapes, and one of these shapes whose range is the sum of theirs. -/
structure Pattern.Fuses (p q f : Pattern) : Prop where
  shapes_left : p.shapes = f.shapes
  shapes_right : q.shapes = f.shapes
  cardinality : f.cardinality = p.cardinality + q.cardinality

namespace Pattern.Fuses

variable {p q f : Pattern}

theorem wellFormed (h : p.Fuses q f) (hp : p.WellFormed) (hq : q.WellFormed) : f.WellFormed :=
  ⟨h.shapes_left ▸ hp.1, h.cardinality ▸ hp.2.add hq.2⟩

theorem accepts_left (h : p.Fuses q f) : p.accepts = f.accepts := by
  funext x
  rw [accepts, accepts, h.shapes_left]

theorem accepts_right (h : p.Fuses q f) : q.accepts = f.accepts := by
  funext x
  rw [accepts, accepts, h.shapes_right]

/-- **The runs of the two are the run of the one.** -/
theorem run_append (h : p.Fuses q f) {rest : List Node} (hlimit : rest.length ≤ countLimit) :
    p.run rest ++ q.run (rest.drop (p.run rest).length) = f.run rest := by
  unfold run
  rw [h.accepts_left, h.accepts_right, h.cardinality, Cardinality.take_cap_add _ _ hlimit]
  exact takeWhile_take_append f.accepts _ _ rest

theorem length_run (h : p.Fuses q f) {rest : List Node} (hlimit : rest.length ≤ countLimit) :
    (f.run rest).length =
      (p.run rest).length + (q.run (rest.drop (p.run rest).length)).length := by
  rw [← h.run_append hlimit, List.length_append]

/-- The second goes on only where the first came to its maximum. -/
theorem max_eq_of_run_ne_nil (h : p.Fuses q f) {rest : List Node}
    (hlimit : rest.length ≤ countLimit) (hq : q.run (rest.drop (p.run rest).length) ≠ []) :
    p.cardinality.max = some (p.run rest).length := by
  rcases p.run_ends hlimit with hmax | hnil | ⟨x, hx, hrejects⟩
  · exact hmax
  · rw [hnil] at hq
    exact absurd (run_eq_nil (by simp)) hq
  · refine absurd (run_eq_nil fun y hy => ?_) hq
    obtain rfl := Option.some.inj (hx.symm.trans hy)
    rwa [h.accepts_right, ← h.accepts_left]

theorem after_after (h : p.Fuses q f) {pos : Position} (hlimit : pos.rest.length ≤ countLimit) :
    (pos.after p).after q = pos.after f := by
  show Position.mk (pos.cursor + _ + _) ((pos.rest.drop _).drop _) =
    ⟨pos.cursor + (f.run pos.rest).length, pos.rest.drop _⟩
  rw [h.length_run hlimit, List.drop_drop, Nat.add_assoc]
  rfl

/-! ## Numbers of children in a row -/

/-- If each of the two takes enough, the one does. -/
theorem admits_run (h : p.Fuses q f) {rest : List Node} (hlimit : rest.length ≤ countLimit)
    (hp : p.cardinality.Admits (p.run rest).length)
    (hq : q.cardinality.Admits (q.run (rest.drop (p.run rest).length)).length) :
    f.cardinality.Admits (f.run rest).length := by
  rw [admits_run_iff, h.length_run hlimit, h.cardinality, Cardinality.min_add]
  exact Nat.add_le_add hp.1 hq.1

/-- If the one takes enough, each of the two does, unless the first could do with less and the
second needs a child. -/
theorem admits_run_of_fused (h : p.Fuses q f) (hp : p.WellFormed) {rest : List Node}
    (hlimit : rest.length ≤ countLimit)
    (hcond : p.cardinality.max = some p.cardinality.min ∨ q.cardinality.min = 0)
    (hf : f.cardinality.Admits (f.run rest).length) :
    p.cardinality.Admits (p.run rest).length ∧
      q.cardinality.Admits (q.run (rest.drop (p.run rest).length)).length := by
  rw [admits_run_iff, h.length_run hlimit, h.cardinality, Cardinality.min_add] at hf
  rw [admits_run_iff, admits_run_iff]
  have hmax := p.length_run_le_max rest
  by_cases hq : q.run (rest.drop (p.run rest).length) = []
  · rw [hq, List.length_nil] at hf ⊢
    rcases hcond with hexact | hzero
    · have := hmax _ hexact
      omega
    · omega
  · have hfull := h.max_eq_of_run_ne_nil hlimit hq
    have hmin := hp.2 _ hfull
    rcases hcond with hexact | hzero
    · have := hmax _ hexact
      omega
    · omega

/-- Of as many children as both need, a first pattern that could do with less leaves too few for the
second. -/
theorem starves (h : p.Fuses q f) (hp : p.WellFormed) (hf : f.WellFormed)
    (hvariable : p.cardinality.max ≠ some p.cardinality.min) (hneeds : q.cardinality.min ≠ 0)
    {rest : List Node} (hlimit : rest.length ≤ countLimit)
    (hlength : rest.length = f.cardinality.min) (haccepts : ∀ x ∈ rest, f.accepts x = true) :
    f.run rest = rest ∧
      ¬ q.cardinality.Admits (q.run (rest.drop (p.run rest).length)).length := by
  have hmin : f.cardinality.min = p.cardinality.min + q.cardinality.min := by
    rw [h.cardinality, Cardinality.min_add]
  constructor
  · have hwhole : rest.length ≤ (f.run rest).length := by
      refine le_length_run (Nat.le_refl _) hlimit (fun max hmax => ?_) ?_
      · rw [hlength]
        exact hf.2 max hmax
      · rwa [List.take_length]
    rw [f.run_eq_take rest, List.take_of_length_le hwhole]
  · -- The first takes one more than it needs.
    have hmore : p.cardinality.min + 1 ≤ (p.run rest).length := by
      refine le_length_run (by omega) (by omega) (fun max hmax => ?_) fun x hx => ?_
      · have hle := hp.2 max hmax
        have hne : max ≠ p.cardinality.min := fun heq => hvariable (heq ▸ hmax)
        omega
      · rw [h.accepts_left]
        exact haccepts x (List.mem_of_mem_take hx)
    have hleft := q.length_run_le (rest.drop (p.run rest).length)
    rw [List.length_drop] at hleft
    rintro ⟨henough, -⟩
    omega

end Pattern.Fuses

namespace Request

variable {r : Request} {ps qs : List Pattern} {p q f : Pattern} {apart joined : PatternList}

/-- A strict match of the children succeeds. -/
def Satisfied (r : Request) : Prop :=
  ∃ rs, (r.withStrict true).matchAll.outcome = .ok rs

theorem satisfied_iff : r.Satisfied ↔
    (∀ t ∈ r.turns, t.pattern.cardinality.Admits t.taken.length) ∧ r.final.rest = [] := by
  have hok : r.Satisfied ↔ ∃ rs, _ ∧ (r.withStrict true).matchPartial.outcome = rs :=
    exists_congr fun rs => matchAll_ok_iff rfl
  rw [hok, exists_and_left, and_iff_left ⟨_, rfl⟩, final, Position.rest_afterAll_eq_nil_iff]
  rfl

theorem length_rest_le (hlimit : r.children.length ≤ countLimit) (ps : List Pattern) :
    ((Position.start r.children).afterAll ps).rest.length ≤ countLimit :=
  Nat.le_trans (Position.length_rest_afterAll_le ..) hlimit

/-! ## Requests with the two patterns and with the one -/

theorem turns_of_joined (hjoined : joined.toList = ps ++ f :: qs) :
    (r.withPatterns joined).turns = (Position.start r.children).turns ps ++
      ⟨(Position.start r.children).afterAll ps, f⟩ ::
      (((Position.start r.children).afterAll ps).after f).turns qs := by
  show (Position.start r.children).turns joined.toList = _
  rw [hjoined, Position.turns_append, Position.turns_cons]

section Apart

variable (h : p.Fuses q f) (hlimit : r.children.length ≤ countLimit)
  (hapart : apart.toList = ps ++ p :: q :: qs) (hjoined : joined.toList = ps ++ f :: qs)

include h hlimit hapart

/-- The turns before the two are those before the one, and so are the turns after them. -/
theorem turns_of_apart : (r.withPatterns apart).turns = (Position.start r.children).turns ps ++
    ⟨(Position.start r.children).afterAll ps, p⟩ ::
    ⟨((Position.start r.children).afterAll ps).after p, q⟩ ::
    (((Position.start r.children).afterAll ps).after f).turns qs := by
  show (Position.start r.children).turns apart.toList = _
  rw [hapart, Position.turns_append, Position.turns_cons, Position.turns_cons,
    h.after_after (length_rest_le hlimit ps)]

include hjoined

theorem final_of_joined : (r.withPatterns joined).final = (r.withPatterns apart).final := by
  show (Position.start r.children).afterAll joined.toList =
    (Position.start r.children).afterAll apart.toList
  rw [hapart, hjoined, Position.afterAll_append, Position.afterAll_append, Position.afterAll_cons,
    Position.afterAll_cons, Position.afterAll_cons, h.after_after (length_rest_le hlimit ps)]

/-- What satisfies the two satisfies the one. -/
theorem satisfied_of_apart (hsat : (r.withPatterns apart).Satisfied) :
    (r.withPatterns joined).Satisfied := by
  rw [satisfied_iff, turns_of_apart h hlimit hapart, List.forall_mem_append, List.forall_mem_cons,
    List.forall_mem_cons] at hsat
  obtain ⟨⟨hps, hp, hq, hqs⟩, hrest⟩ := hsat
  rw [satisfied_iff, turns_of_joined hjoined, final_of_joined h hlimit hapart hjoined,
    List.forall_mem_append, List.forall_mem_cons]
  exact ⟨⟨hps, h.admits_run (length_rest_le hlimit ps) hp hq, hqs⟩, hrest⟩

/-- What satisfies the one satisfies the two, unless the first of them could do with less and the
second needs a child. -/
theorem satisfied_of_joined
    (hcond : p.cardinality.max = some p.cardinality.min ∨ q.cardinality.min = 0)
    (hsat : (r.withPatterns joined).Satisfied) : (r.withPatterns apart).Satisfied := by
  rw [satisfied_iff, turns_of_joined hjoined, final_of_joined h hlimit hapart hjoined,
    List.forall_mem_append, List.forall_mem_cons] at hsat
  obtain ⟨⟨hps, hf, hqs⟩, hrest⟩ := hsat
  have hwell : p.WellFormed := apart.wellFormed p (by simp [hapart])
  obtain ⟨hp, hq⟩ := h.admits_run_of_fused hwell (length_rest_le hlimit ps) hcond hf
  rw [satisfied_iff, turns_of_apart h hlimit hapart, List.forall_mem_append, List.forall_mem_cons,
    List.forall_mem_cons]
  exact ⟨⟨hps, hp, hq, hqs⟩, hrest⟩

/-- The patterns around the two have the results that they have around the one. -/
theorem exists_outcomes : ∃ before first second both after,
    (∀ report, (r.withPatterns apart).Returns report →
      report.outcome = before ++ first :: second :: after) ∧
    (∀ report, (r.withPatterns joined).Returns report →
      report.outcome = before ++ both :: after) ∧
    before.length = ps.length ∧ after.length = qs.length ∧
    both.nodes.length = first.nodes.length + second.nodes.length ∧
    (r.options.appliesMappers = false → both.nodes = first.nodes ++ second.nodes) := by
  have hrest := length_rest_le hlimit ps
  have hturns := turns_of_apart h hlimit hapart
  have hturns' := turns_of_joined (r := r) hjoined
  generalize (Position.start r.children).afterAll ps = pos at hrest hturns hturns'
  refine ⟨((Position.start r.children).turns ps).map (·.result r.parent), p.result r.parent pos,
    q.result r.parent (pos.after p), f.result r.parent pos,
    ((pos.after f).turns qs).map (·.result r.parent), fun report hreport => ?_,
    fun report hreport => ?_, ?_, ?_, ?_, fun happlies => ?_⟩
  · rw [hreport.eq_matchPartial, outcome_matchPartial, hturns, List.map_append, List.map_cons,
      List.map_cons]
    rfl
  · rw [hreport.eq_matchPartial, outcome_matchPartial, hturns', List.map_append, List.map_cons]
    rfl
  · rw [List.length_map, Position.length_turns]
  · rw [List.length_map, Position.length_turns]
  · rw [Pattern.nodes_result, Pattern.nodes_result, Pattern.nodes_result, List.length_map,
      List.length_map, List.length_map]
    exact h.length_run hrest
  · have hproject : ∀ o : Pattern, o.project r.parent = .existing :=
      fun o => funext (Pattern.project_of_unmapped (Or.inr happlies))
    rw [Pattern.nodes_result, Pattern.nodes_result, Pattern.nodes_result, hproject, hproject,
      hproject, ← h.run_append hrest, List.map_append]
    rfl

end Apart

/-- As many children as both need together satisfy the one, and not the two, if the first of them
could do with less and the second needs a child. -/
theorem starved_apart (h : p.Fuses q f) (hapart : apart.toList = [p, q])
    (hjoined : joined.toList = [f]) (hvariable : p.cardinality.max ≠ some p.cardinality.min)
    (hneeds : q.cardinality.min ≠ 0) (hlimit : r.children.length ≤ countLimit)
    (hlength : r.children.length = f.cardinality.min)
    (haccepts : ∀ x ∈ r.children, f.accepts x = true) :
    (r.withPatterns joined).Satisfied ∧ ¬ (r.withPatterns apart).Satisfied := by
  have hp : p.WellFormed := apart.wellFormed p (by simp [hapart])
  have hf : f.WellFormed := joined.wellFormed f (by simp [hjoined])
  obtain ⟨hwhole, hfew⟩ := h.starves hp hf hvariable hneeds hlimit hlength haccepts
  constructor
  · rw [satisfied_iff, turns, final]
    show (∀ t ∈ (Position.start r.children).turns joined.toList, _) ∧
      ((Position.start r.children).afterAll joined.toList).rest = []
    rw [hjoined, Position.turns_cons, List.forall_mem_cons]
    refine ⟨⟨?_, by simp⟩, ?_⟩
    · show f.cardinality.Admits (f.run r.children).length
      rw [Pattern.admits_run_iff, hwhole, hlength]
    · show r.children.drop (f.run r.children).length = []
      rw [hwhole, List.drop_length]
  · have hlast : ⟨(Position.start r.children).after p, q⟩ ∈ (r.withPatterns apart).turns := by
      show _ ∈ (Position.start r.children).turns apart.toList
      rw [hapart]
      exact List.mem_cons_of_mem _ List.mem_cons_self
    rw [satisfied_iff]
    rintro ⟨hadmits, -⟩
    exact hfew (hadmits _ hlast)

/-- **Patterns of the same shapes fuse.** In the midst of any others, two of them in a row find what
one finds whose range is the sum of theirs, and the patterns around find the same as well, whatever
call returns results. What satisfies the two satisfies the one, and what satisfies the one satisfies
the two if the first of them has an exact count or the second needs no child. There is no way around
this condition: where it fails, and there are no other patterns, children in the least number that
satisfies the one fail the two. -/
theorem adjacent_patterns_fuse (r : Request) (hlimit : r.children.length ≤ countLimit)
    {p q f : Pattern} (h : p.Fuses q f) (ps qs : List Pattern) {apart : PatternList}
    (hapart : PatternList.ofList (ps ++ p :: q :: qs) = .ok apart) :
    ∃ joined, PatternList.ofList (ps ++ f :: qs) = .ok joined ∧
      (∃ before first second both after,
        (∀ report, (r.withPatterns apart).Returns report →
          report.outcome = before ++ first :: second :: after) ∧
        (∀ report, (r.withPatterns joined).Returns report →
          report.outcome = before ++ both :: after) ∧
        before.length = ps.length ∧ after.length = qs.length ∧
        both.nodes.length = first.nodes.length + second.nodes.length ∧
        (r.options.appliesMappers = false → both.nodes = first.nodes ++ second.nodes)) ∧
      ((r.withPatterns apart).Satisfied → (r.withPatterns joined).Satisfied) ∧
      (p.cardinality.max = some p.cardinality.min ∨ q.cardinality.min = 0 →
        (r.withPatterns joined).Satisfied → (r.withPatterns apart).Satisfied) ∧
      (p.cardinality.max ≠ some p.cardinality.min → q.cardinality.min ≠ 0 → ps = [] → qs = [] →
        r.children.length = f.cardinality.min → (∀ x ∈ r.children, f.accepts x = true) →
        (r.withPatterns joined).Satisfied ∧ ¬ (r.withPatterns apart).Satisfied) := by
  have hapart : apart.toList = ps ++ p :: q :: qs := PatternList.ofList_eq_ok_iff.mp hapart
  have hwell : ∀ o ∈ ps ++ p :: q :: qs, o.WellFormed := hapart ▸ apart.wellFormed
  simp only [List.forall_mem_append, List.forall_mem_cons] at hwell
  obtain ⟨hps, hp, hq, hqs⟩ := hwell
  let joined : PatternList :=
    { toList := ps ++ f :: qs
      wellFormed := by
        rw [List.forall_mem_append, List.forall_mem_cons]
        exact ⟨hps, h.wellFormed hp hq, hqs⟩ }
  have hjoined : joined.toList = ps ++ f :: qs := rfl
  refine ⟨joined, PatternList.ofList_eq_ok_iff.mpr rfl, exists_outcomes h hlimit hapart hjoined,
    satisfied_of_apart h hlimit hapart hjoined, satisfied_of_joined h hlimit hapart hjoined, ?_⟩
  rintro hvariable hneeds rfl rfl hlength haccepts
  exact starved_apart h hapart hjoined hvariable hneeds hlimit hlength haccepts

/-- Two rows of a table. -/
def twoRows : Request :=
  { table with children := table.children.take 2 }

/-- The heading of a table and the rows after it are one row or more. But two rows are not one or
two and another, though they are two or three. -/
theorem rows_fuse :
    ((Pattern.one [.tag "row"]).withMapper fun x _ => .built ⟨.tag "heading", x.props⟩).Fuses
        (.zeroOrMore [.tag "row"]) (.oneOrMore [.tag "row"]) ∧
      (∃ joined, PatternList.ofList [.zeroOrOne [.tag "caption"], .oneOrMore [.tag "row"],
        .zeroOrOne [.tag "foot"]] = .ok joined ∧ (table.withPatterns joined).Satisfied) ∧
      (Pattern.between 1 2 [.tag "row"]).Fuses (.one [.tag "row"]) (.between 2 3 [.tag "row"]) ∧
      ∃ apart joined,
        PatternList.ofList [.between 1 2 [.tag "row"], .one [.tag "row"]] = .ok apart ∧
        PatternList.ofList [.between 2 3 [.tag "row"]] = .ok joined ∧
        (twoRows.withPatterns joined).Satisfied ∧ ¬ (twoRows.withPatterns apart).Satisfied := by
  have hheading : ((Pattern.one [.tag "row"]).withMapper fun x _ =>
      .built ⟨.tag "heading", x.props⟩).Fuses (.zeroOrMore [.tag "row"])
      (.oneOrMore [.tag "row"]) := ⟨rfl, rfl, rfl⟩
  have hrows : (Pattern.between 1 2 [.tag "row"]).Fuses (.one [.tag "row"])
      (.between 2 3 [.tag "row"]) := ⟨rfl, rfl, rfl⟩
  have htable : PatternList.ofList table.patterns.toList = .ok table.patterns :=
    PatternList.ofList_eq_ok_iff.mpr rfl
  have hapart : PatternList.ofList [.between 1 2 [.tag "row"], .one [.tag "row"]] = .ok _ := rfl
  obtain ⟨joined, hjoined, -, hsat, -⟩ := adjacent_patterns_fuse table (by decide) hheading
    [.zeroOrOne [.tag "caption"]] [.zeroOrOne [.tag "foot"]] htable
  obtain ⟨joined', hjoined', -, -, -, hstarved⟩ :=
    adjacent_patterns_fuse twoRows (by decide) hrows [] [] hapart
  refine ⟨hheading, ⟨joined, hjoined, hsat ⟨_, rfl⟩⟩, hrows, _, joined', hapart, hjoined', ?_⟩
  refine hstarved (by decide) (by decide) rfl rfl rfl ?_
  decide

end Request

end ChildRules
