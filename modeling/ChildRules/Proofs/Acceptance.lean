import ChildRules.Proofs.Histories
import ChildRules.Proofs.Lineage
import ChildRules.Proofs.Mapping
import ChildRules.Proofs.Rewording

/-!
# What a verdict depends on

Of a child and a pattern a match asks whether some shape of the one accepts the other, and of the
pattern its range. Two requests for which the answers are the same come to the same verdict: they
find children in the same places, and the same is wrong with the same patterns. Only words can
differ, which are what shapes, owners and children are called.
-/

namespace ChildRules

/-! ## Turns that go alike -/

/-- Two positions with the same number of children gone and of children to come. -/
structure Position.Aligned (pos other : Position) : Prop where
  cursor : pos.cursor = other.cursor
  length_rest : pos.rest.length = other.rest.length

theorem Position.aligned_start {xs ys : List Node} (h : xs.length = ys.length) :
    (start xs).Aligned (start ys) :=
  ⟨rfl, h⟩

/-- Two turns that begin at aligned positions, within the same range, and take the same number. -/
structure Turn.Aligned (t u : Turn) : Prop where
  before : t.before.Aligned u.before
  length_taken : t.taken.length = u.taken.length
  cardinality : t.pattern.cardinality = u.pattern.cardinality

/-- Two patterns with the same range, the one of which accepts those of its children that stand
where the other accepts its own. -/
structure Pattern.Agrees (xs ys : List Node) (p q : Pattern) : Prop where
  cardinality : p.cardinality = q.cardinality
  row : xs.map p.accepts = ys.map q.accepts

namespace Pattern

theorem accepts_iff {p : Pattern} {x : Node} :
    p.accepts x = true ↔ ∃ s ∈ p.shapes, s.accepts x = true :=
  List.any_eq_true

/-- The length of a run can be told from the answers. -/
theorem length_run_eq (p : Pattern) (rest : List Node) : (p.run rest).length =
    (((rest.map p.accepts).take p.cardinality.cap).takeWhile id).length := by
  rw [run, ← List.map_take, List.takeWhile_map, List.length_map]
  rfl

variable {p q : Pattern} {xs ys : List Node}

theorem Agrees.length_run (h : p.Agrees xs ys q) : (p.run xs).length = (q.run ys).length := by
  rw [length_run_eq, length_run_eq, h.row, h.cardinality]

theorem Agrees.drop (h : p.Agrees xs ys q) (n : Nat) : p.Agrees (xs.drop n) (ys.drop n) q :=
  ⟨h.cardinality, by rw [List.map_drop, List.map_drop, h.row]⟩

end Pattern

namespace Turn.Aligned

variable {t u : Turn}

theorem after (h : t.Aligned u) :
    (t.before.after t.pattern).Aligned (u.before.after u.pattern) where
  cursor := by
    rw [Position.cursor_after, Position.cursor_after, h.before.cursor]
    exact congrArg (u.before.cursor + ·) h.length_taken
  length_rest := by
    have htaken : (t.pattern.run t.before.rest).length = (u.pattern.run u.before.rest).length :=
      h.length_taken
    rw [Position.rest_after, Position.rest_after, List.length_drop, List.length_drop,
      h.before.length_rest, htaken]

theorem reword_event {w : Rewording} (h : t.Aligned u)
    (htypes : w.types t.pattern.typeList = w.types u.pattern.typeList) :
    t.event.reword w = u.event.reword w := by
  show Event.turn _ t.before.cursor t.taken.length = .turn _ u.before.cursor u.taken.length
  rw [htypes, h.before.cursor, h.length_taken]

/-- What is wrong with the two turns is the same, but for what the rewording keeps apart. -/
theorem reword_mismatch? {w : Rewording} {owner other : String} (h : t.Aligned u)
    (htypes : w.types t.pattern.typeList = w.types u.pattern.typeList)
    (howner : w.owner owner = w.owner other)
    (hchild : (t.shortage owner).failedOn.map w.child = (u.shortage other).failedOn.map w.child) :
    (t.mismatch? owner).map (Violation.reword w) =
      (u.mismatch? other).map (Violation.reword w) := by
  apply (Event.retells_reword w).map_mismatch?_eq
  · rw [h.cardinality, h.length_taken]
  · show CountMismatch.mk .tooFew (w.types t.pattern.typeList) (w.owner owner)
        t.pattern.cardinality.quantifier t.taken.length _ =
      CountMismatch.mk .tooFew (w.types u.pattern.typeList) (w.owner other)
        u.pattern.cardinality.quantifier u.taken.length _
    rw [htypes, howner, h.cardinality, h.length_taken]
    exact congrArg (CountMismatch.mk .tooFew _ _ _ _) hchild

/-- Either both runs were ended by a child or neither was. -/
theorem silent_failedOn (h : t.Aligned u) (owner other : String) :
    (t.shortage owner).failedOn.map Rewording.silent.child =
      (u.shortage other).failedOn.map Rewording.silent.child := by
  have hlength := h.after.length_rest
  rw [shortage, shortage, Position.shortage, Position.shortage]
  cases hrest : (t.before.after t.pattern).rest <;>
    cases hrest' : (u.before.after u.pattern).rest <;> simp_all [Rewording.silent]

end Turn.Aligned

theorem Position.Aligned.reword_leftover? {pos other : Position} (h : pos.Aligned other)
    (owner owner' : String) :
    (pos.leftover? owner).map (Violation.reword .silent) =
      (other.leftover? owner').map (Violation.reword .silent) := by
  have hempty : pos.rest.isEmpty = other.rest.isEmpty := by
    rw [Bool.eq_iff_iff, List.isEmpty_iff_length_eq_zero, List.isEmpty_iff_length_eq_zero,
      h.length_rest]
  unfold leftover?
  rw [hempty, total, total, h.cursor, h.length_rest]
  split <;> rfl

/-- **Patterns that agree have turns that go alike.** -/
theorem Position.Aligned.turns {pos other : Position} (h : pos.Aligned other)
    {ps qs : List Pattern} (hps : List.Forall₂ (Pattern.Agrees pos.rest other.rest) ps qs) :
    List.Forall₂ Turn.Aligned (pos.turns ps) (other.turns qs) ∧
      (pos.afterAll ps).Aligned (other.afterAll qs) := by
  induction ps generalizing pos other qs with
  | nil =>
    cases hps
    exact ⟨.nil, h⟩
  | cons p ps ih =>
    cases hps with
    | @cons _ q _ qs hpq hps =>
      have hturn : Turn.Aligned ⟨pos, p⟩ ⟨other, q⟩ := ⟨h, hpq.length_run, hpq.cardinality⟩
      have hlater :
          List.Forall₂ (Pattern.Agrees (pos.after p).rest (other.after q).rest) ps qs := by
        refine hps.imp fun p' q' h' => ?_
        rw [Position.rest_after, Position.rest_after, hpq.length_run]
        exact h'.drop _
      obtain ⟨hturns, hfinal⟩ := ih hturn.after hlater
      exact ⟨.cons hturn hturns, hfinal⟩

/-! ## Places of children -/

theorem Result.map_map {α β γ : Type} (g : β → γ) (f : α → β) (res : Result α) :
    (res.map f).map g = res.map (g ∘ f) := by
  cases res with
  | one node => rfl
  | many nodes => exact congrArg many List.map_map
  | absent => rfl

namespace Turn

/-- Where the children taken in a turn stand, in the form of its results. -/
def places (t : Turn) : Result Nat :=
  .ofNodes t.pattern.cardinality.isSingle (List.range' t.before.cursor t.taken.length)

theorem Aligned.places_eq {t u : Turn} (h : t.Aligned u) : t.places = u.places := by
  rw [places, places, h.cardinality, h.before.cursor, h.length_taken]

theorem nodes_places (t : Turn) :
    t.places.nodes = List.range' t.before.cursor t.taken.length := by
  apply Result.nodes_ofNodes
  intro hsingle
  rw [List.length_range']
  exact t.pattern.length_run_le_one t.before.rest hsingle

/-- The children that are taken are those that stand there. -/
theorem map_places {t : Turn} {children : List Node} (hon : t.before.On children) :
    t.places.map (children[·]?) = t.bare.map some := by
  have htaken : (List.range' t.before.cursor t.taken.length).map (children[·]?) =
      t.taken.map some := by
    apply List.ext_getElem (by simp)
    intro j _ hj
    rw [List.length_map] at hj
    have hslice : t.taken = t.before.rest.take t.taken.length := t.pattern.run_eq_take _
    have hchild : t.taken[j]? = children[t.before.cursor + j]? := by
      refine (congrArg (·[j]?) hslice).trans ?_
      rw [List.getElem?_take_of_lt hj, hon.rest_eq, List.getElem?_drop]
    rw [List.getElem_map, List.getElem_map, List.getElem_range'_1, ← hchild,
      List.getElem?_eq_getElem hj]
  rw [places, bare, Result.map_ofNodes, Result.map_ofNodes, htaken]

end Turn

theorem Position.flatten_places (pos : Position) (ps : List Pattern) :
    Result.flatten ((pos.turns ps).map Turn.places) =
      List.range' pos.cursor (pos.counts ps).sum := by
  induction ps generalizing pos with
  | nil => rfl
  | cons p ps ih =>
    rw [turns_cons, List.map_cons, Result.flatten_cons, ih, Turn.nodes_places, cursor_after,
      counts_cons, List.sum_cons, ← List.range'_append_1]
    rfl

namespace Request

/-- Where the children that the patterns take stand, in the form of the results. -/
def places (r : Request) : List (Result Nat) :=
  r.turns.map Turn.places

/-- Without mappers, whatever call returns results, they are the children that stand at the places,
each result in the form that its places have. -/
def FoundAt (r : Request) (places : List (Result Nat)) : Prop :=
  ∀ strict report, ((r.withMappers false).withStrict strict).Returns report →
    report.outcome.map (·.map some) = places.map (·.map fun j => r.children[j]?.map .existing)

theorem flatten_places (r : Request) : Result.flatten r.places = List.range r.counts.sum := by
  rw [places, turns, Position.flatten_places, List.range_eq_range']
  rfl

theorem foundAt_places (r : Request) : r.FoundAt r.places := by
  intro strict report hreport
  have houtcome : report.outcome = r.bare.map (·.map .existing) := by
    rw [hreport.eq_matchPartial]
    exact r.outcome_withMappers_false
  rw [houtcome, places, bare, List.map_map, List.map_map, List.map_map]
  apply List.map_congr_left
  intro t ht
  calc (t.bare.map Mapped.existing).map some
    _ = (t.bare.map some).map (Option.map Mapped.existing) := by
      rw [Result.map_map, Result.map_map]
      rfl
    _ = t.places.map fun j => r.children[j]?.map .existing := by
      rw [← Turn.map_places (on_of_mem_turns ht), Result.map_map]
      rfl

/-! ## Requests with the same answers -/

/-- Two requests have as many children and patterns, patterns of the same ranges, and the same
answers to whether some shape of a pattern accepts a child. -/
structure SameMatrix (r s : Request) : Prop where
  length_children : r.children.length = s.children.length
  size_patterns : r.patterns.size = s.patterns.size
  cardinality (i : Nat) (p q : Pattern) : r.patterns.get? i = some p → s.patterns.get? i = some q →
    p.cardinality = q.cardinality
  accepts (i j : Nat) (p q : Pattern) (x y : Node) : r.patterns.get? i = some p →
    s.patterns.get? i = some q → r.children[j]? = some x → s.children[j]? = some y →
      ((∃ a ∈ p.shapes, a.accepts x = true) ↔ ∃ b ∈ q.shapes, b.accepts y = true)

/-- The answers are the same if pattern by pattern they are. -/
theorem sameMatrix_iff {r s : Request} : r.SameMatrix s ↔
    r.children.length = s.children.length ∧
      List.Forall₂ (Pattern.Agrees r.children s.children) r.patterns.toList s.patterns.toList := by
  constructor
  · intro h
    refine ⟨h.length_children, List.forall₂_iff_get.mpr ⟨h.size_patterns, fun i hi hi' => ?_⟩⟩
    have hp : r.patterns.get? i = some r.patterns.toList[i] := List.getElem?_eq_getElem hi
    have hq : s.patterns.get? i = some s.patterns.toList[i] := List.getElem?_eq_getElem hi'
    refine ⟨h.cardinality i _ _ hp hq, List.ext_getElem (by simpa using h.length_children) ?_⟩
    intro j hj hj'
    rw [List.length_map] at hj hj'
    rw [List.getElem_map, List.getElem_map, Bool.eq_iff_iff]
    have haccepts := h.accepts i j _ _ _ _ hp hq (List.getElem?_eq_getElem hj)
      (List.getElem?_eq_getElem hj')
    rwa [← Pattern.accepts_iff, ← Pattern.accepts_iff] at haccepts
  · rintro ⟨hchildren, hpatterns⟩
    have hagrees : ∀ (i : Nat) (p q : Pattern), r.patterns.get? i = some p →
        s.patterns.get? i = some q → p.Agrees r.children s.children q := by
      intro i p q hp hq
      obtain ⟨hi, rfl⟩ := List.getElem?_eq_some_iff.mp hp
      obtain ⟨hi', rfl⟩ := List.getElem?_eq_some_iff.mp hq
      exact (List.forall₂_iff_get.mp hpatterns).2 i hi hi'
    refine ⟨hchildren, hpatterns.length_eq, ?_, ?_⟩
    · exact fun i p q hp hq => (hagrees i p q hp hq).cardinality
    · intro i j p q x y hp hq hx hy
      have hrow := congrArg (·[j]?) (hagrees i p q hp hq).row
      simp only [List.getElem?_map, hx, hy, Option.map_some, Option.some.injEq] at hrow
      rw [← Pattern.accepts_iff, ← Pattern.accepts_iff]
      exact Bool.eq_iff_iff.mp hrow

/-- Whether a strict match fails, and with what, texts apart. -/
def verdict (r : Request) : Except Violation Unit :=
  ((r.withStrict true).matchAll.outcome.map fun _ => ()).mapError (Violation.reword .silent)

/-- Two requests come to the same, texts and nodes apart. -/
structure SameVerdict (r s : Request) : Prop where
  /-- The results have the same forms, and children at the same places, from the first one on. -/
  found : ∃ places count, Result.flatten places = List.range count ∧ r.FoundAt places ∧
    s.FoundAt places
  noted : r.matchPartial.events.map (Event.reword .silent) =
    s.matchPartial.events.map (Event.reword .silent)
  verdict : r.verdict = s.verdict
  /-- A strict match blames the pattern at the same index, and for the same. -/
  blamed : ∀ k,
    (Event.mismatchAt? (r.withStrict true).matchAll.events k).map (CountMismatch.reword .silent) =
      (Event.mismatchAt? (s.withStrict true).matchAll.events k).map (CountMismatch.reword .silent)

/-- The verdict and what is noted on the way can be told from what a lenient match notes. -/
theorem verdict_eq_cut (r : Request) :
    (⟨(r.withStrict true).matchAll.events.map (Event.reword .silent), r.verdict⟩ : Report _) =
      ((r.matchPartial.map fun _ => ()).reword .silent).cut := by
  rw [← Report.rewordAll_cut, Report.cut_map, verdict, matchAll_of_strict rfl]
  rfl

theorem SameMatrix.sameVerdict {r s : Request} (h : r.SameMatrix s) : r.SameVerdict s := by
  obtain ⟨hlength, hagrees⟩ := sameMatrix_iff.mp h
  obtain ⟨hturns, hfinal⟩ := (Position.aligned_start hlength).turns hagrees
  have hplaces : r.places = s.places :=
    map_eq_of_forall₂ hturns fun _ _ ht => ht.places_eq
  have hnoted : r.matchPartial.events.map (Event.reword .silent) =
      s.matchPartial.events.map (Event.reword .silent) :=
    (Event.retells_reword _).map_events_eq hturns (fun _ _ ht => ht.reword_event rfl)
      (fun _ _ ht => ht.reword_mismatch? rfl rfl (ht.silent_failedOn _ _))
      (hfinal.reword_leftover? _ _)
  have hreport : (r.matchPartial.map fun _ => ()).reword .silent =
      (s.matchPartial.map fun _ => ()).reword .silent :=
    congrArg (Report.mk · ()) hnoted
  have hcut := congrArg Report.cut hreport
  rw [← verdict_eq_cut, ← verdict_eq_cut, Report.mk.injEq] at hcut
  refine ⟨⟨r.places, r.counts.sum, r.flatten_places, r.foundAt_places, ?_⟩, hnoted, hcut.2, ?_⟩
  · rw [hplaces]
    exact s.foundAt_places
  · intro k
    rw [← (Event.retells_reword _).mismatchAt?_map, ← (Event.retells_reword _).mismatchAt?_map,
      hcut.1]

end Request

/-! ## Shapes in another order -/

/-- Two patterns with the same range, the same mapper, and the same shapes, in whatever order and
however often each. -/
structure Pattern.SameShapes (p q : Pattern) : Prop where
  shapes : ∀ s, s ∈ p.shapes ↔ s ∈ q.shapes
  cardinality : p.cardinality = q.cardinality
  mapper : p.mapper = q.mapper

theorem Pattern.SameShapes.accepts_eq {p q : Pattern} (h : p.SameShapes q) :
    p.accepts = q.accepts := by
  funext x
  rw [Bool.eq_iff_iff, accepts_iff, accepts_iff]
  exact exists_congr fun s => and_congr_left' (h.shapes s)

theorem Pattern.SameShapes.run_eq {p q : Pattern} (h : p.SameShapes q) : p.run = q.run := by
  funext rest
  rw [run, run, h.cardinality, h.accepts_eq]

theorem Pattern.SameShapes.project_eq {p q : Pattern} (h : p.SameShapes q) (parent : Parent) :
    p.project parent = q.project parent := by
  funext x
  rw [project, project, h.mapper]

theorem Turn.aligned_of_sameShapes {t u : Turn} (h : Paired Pattern.SameShapes t u) :
    t.Aligned u where
  before := ⟨congrArg Position.cursor h.before, congrArg (·.rest.length) h.before⟩
  length_taken := congrArg List.length h.taken
  cardinality := h.patterns.cardinality

namespace Request

/-- Two requests come to the same, nodes included, but for what the shapes are called. -/
structure SameButTypes (r s : Request) : Prop where
  matchPartial : r.matchPartial.reword .untyped = s.matchPartial.reword .untyped
  matchAll : r.matchAll.rewordAll .untyped = s.matchAll.rewordAll .untyped

theorem sameButTypes_withPatterns {r : Request} {qs : PatternList}
    (h : List.Forall₂ Pattern.SameShapes r.patterns.toList qs.toList) :
    r.SameButTypes (r.withPatterns qs) := by
  have hstart : (Position.start r.children).rest.length ≤ r.children.length := Nat.le_refl _
  obtain ⟨hturns, hfinal⟩ :=
    Position.paired_turns (fun _ _ rest hpq _ => congrFun hpq.run_eq rest) h hstart
  have hpartial : r.matchPartial.reword .untyped =
      (r.withPatterns qs).matchPartial.reword .untyped := by
    have hevents : r.matchPartial.events.map (Event.reword .untyped) =
        (r.withPatterns qs).matchPartial.events.map (Event.reword .untyped) :=
      (Event.retells_reword _).map_events_eq hturns
        (fun _ _ ht => (Turn.aligned_of_sameShapes ht).reword_event rfl)
        (fun _ _ ht => (Turn.aligned_of_sameShapes ht).reword_mismatch? rfl rfl
          (congrArg _ (ht.failedOn_eq _ _)))
        (by rw [hfinal]; rfl)
    have houtcome : r.matchPartial.outcome = (r.withPatterns qs).matchPartial.outcome := by
      rw [outcome_matchPartial, outcome_matchPartial]
      exact map_eq_of_forall₂ hturns fun _ _ ht =>
        ht.result_eq (congrArg _ ht.patterns.cardinality) (ht.patterns.project_eq r.parent)
    rw [Report.reword, Report.reword, hevents, houtcome]
  refine ⟨hpartial, ?_⟩
  cases hstrict : r.options.strict with
  | true =>
    rw [matchAll_of_strict hstrict, matchAll_of_strict (r := r.withPatterns qs) hstrict,
      Report.rewordAll_cut, Report.rewordAll_cut, hpartial]
  | false =>
    rw [matchAll_of_not_strict hstrict, matchAll_of_not_strict (r := r.withPatterns qs) hstrict]
    exact congrArg (Report.map Except.ok) hpartial

end Request

/-! ## Shapes that ask for little -/

/-- The shape asks for a tag, for a component, or whether a property is there. -/
inductive Shape.Plain : Shape → Prop where
  | tag (name : String) : Plain (.tag name)
  | component (c : Component) : Plain (.component c)
  | hasProp (key : String) : Plain (.hasProp key)

/-- All shapes of the patterns are plain. -/
def Request.Plain (r : Request) : Prop :=
  ∀ p ∈ r.patterns.toList, ∀ s ∈ p.shapes, s.Plain

/-! ### Other names for components -/

section Rename

variable (f : Component → String)

def Component.rename (c : Component) : Component :=
  { c with name := f c }

def Kind.rename : Kind → Kind
  | .component c => .component (c.rename f)
  | k => k

def Node.rename (n : Node) : Node :=
  { n with kind := n.kind.rename f }

def Shape.rename : Shape → Shape
  | .component c => .component (c.rename f)
  | s => s

def Pattern.rename (p : Pattern) : Pattern :=
  { p with shapes := p.shapes.map (Shape.rename f) }

def PatternList.rename (ps : PatternList) : PatternList where
  toList := ps.toList.map (Pattern.rename f)
  wellFormed := by
    intro p hp
    obtain ⟨q, hq, rfl⟩ := List.mem_map.mp hp
    have h := ps.wellFormed q hq
    exact ⟨mt List.map_eq_nil_iff.mp h.1, h.2⟩

/-- The request with other names for components, in children and in shapes alike. -/
def Request.rename (r : Request) : Request :=
  { r with children := r.children.map (Node.rename f), patterns := r.patterns.rename f }

variable {f}

theorem Shape.Plain.accepts_rename {s : Shape} (h : s.Plain) (x : Node) :
    (s.rename f).accepts (x.rename f) = s.accepts x := by
  obtain ⟨⟨kind, props⟩, identity⟩ := x
  cases h <;> cases kind <;> rfl

theorem Pattern.accepts_rename {p : Pattern} (h : ∀ s ∈ p.shapes, s.Plain) (x : Node) :
    (p.rename f).accepts (x.rename f) = p.accepts x := by
  rw [Bool.eq_iff_iff, accepts_iff, accepts_iff]
  simp only [rename, List.mem_map, exists_exists_and_eq_and]
  exact exists_congr fun s => and_congr_right fun hs => by rw [(h s hs).accepts_rename]

theorem Request.Plain.sameMatrix_rename {r : Request} (h : r.Plain) :
    r.SameMatrix (r.rename f) := by
  refine sameMatrix_iff.mpr ⟨(List.length_map _).symm, List.forall₂_map_right_iff.mpr ?_⟩
  refine List.forall₂_same.mpr fun p hp => ⟨rfl, ?_⟩
  show _ = (r.children.map (Node.rename f)).map _
  rw [List.map_map]
  exact List.map_congr_left fun x _ => (Pattern.accepts_rename (h p hp) x).symm

end Rename

/-! ### Children that look alike -/

theorem Kind.equal_congr {k l : Kind} (h : k.equal l = true) (m : Kind) :
    k.equal m = l.equal m := by
  cases k <;> cases l <;> cases m <;> simp_all [equal, Component.same]

theorem Entries.keys_eq_of_equal {es fs : Entries} (h : equal es fs = true) :
    es.keys = fs.keys := by
  induction es generalizing fs with
  | nil =>
    cases fs with
    | nil => rfl
    | cons f fs => cases h
  | cons e es ih =>
    cases fs with
    | nil => cases h
    | cons f fs =>
      obtain ⟨k, v⟩ := e
      obtain ⟨l, w⟩ := f
      simp only [equal, Bool.and_eq_true, beq_iff_eq] at h
      obtain ⟨⟨rfl, -⟩, hrest⟩ := h
      exact congrArg (k :: ·) (ih hrest)

theorem Props.contains_eq_of_equal {p q : Props} (h : p.equal q = true) (key : String) :
    p.contains key = q.contains key := by
  have hkeys : p.keys = q.keys := Entries.keys_eq_of_equal h
  rw [Bool.eq_iff_iff, ← mem_keys_iff, ← mem_keys_iff, hkeys]

theorem Shape.Plain.accepts_of_equal {s : Shape} (h : s.Plain) {x y : Node}
    (hxy : x.toElement.equal y.toElement = true) : s.accepts x = s.accepts y := by
  obtain ⟨hkind, hprops⟩ := Bool.and_eq_true_iff.mp hxy
  cases h with
  | tag name => exact Kind.equal_congr hkind _
  | component c => exact Kind.equal_congr hkind _
  | hasProp key => exact Props.contains_eq_of_equal hprops key

/-- Equal nodes of one origin have equal elements, or the same. -/
theorem Shape.Plain.accepts_of_node_equal {s : Shape} (h : s.Plain) {x y : Node}
    (hcoherent : x.same y = true → x = y) (hxy : x.equal y = true) :
    s.accepts x = s.accepts y := by
  rcases Bool.or_eq_true_iff.mp hxy with hsame | hequal
  · rw [hcoherent hsame]
  · exact h.accepts_of_equal hequal

namespace Request

/-- The request for other children. -/
def withChildren (r : Request) (children : List Node) : Request :=
  { r with children := children }

theorem Plain.sameMatrix_of_equal {r : Request} (h : r.Plain) {ys : List Node}
    (hequal : List.Forall₂ (fun x y => x.equal y = true) r.children ys)
    (hcoherent : Node.Coherent (r.children ++ ys)) : r.SameMatrix (r.withChildren ys) := by
  have hplain : List.Forall₂ (fun x y => ∀ s : Shape, s.Plain → s.accepts x = s.accepts y)
      r.children ys := by
    obtain ⟨hlength, hget⟩ := List.forall₂_iff_get.mp hequal
    refine List.forall₂_iff_get.mpr ⟨hlength, fun i hi hi' s hs => ?_⟩
    refine hs.accepts_of_node_equal (hcoherent _ ?_ _ ?_) (hget i hi hi')
    · exact List.mem_append_left ys (List.get_mem ..)
    · exact List.mem_append_right r.children (List.get_mem ..)
  refine sameMatrix_iff.mpr ⟨hequal.length_eq, List.forall₂_same.mpr fun p hp => ⟨rfl, ?_⟩⟩
  refine map_eq_of_forall₂ hplain fun x y hxy => ?_
  rw [Bool.eq_iff_iff, Pattern.accepts_iff, Pattern.accepts_iff]
  exact exists_congr fun s => and_congr_right fun hs => by rw [hxy s (h p hp s hs)]

/-- **A verdict depends on nothing but which pattern accepts which child**, and on the ranges of the
patterns. With the same answers, children are found in the same places, and the same is wrong with
the same patterns. So neither the order of shapes nor how often each is given matters beyond what
messages call them. If shapes ask only for tags, components and the presence of properties, then
what components are called does not matter either, though two come to have one name, and neither
does which of several equal nodes a child is. -/
theorem verdict_depends_on_acceptance :
    (∀ r s : Request, r.SameMatrix s → r.SameVerdict s) ∧
    (∀ (r : Request) (qs : PatternList),
      List.Forall₂ Pattern.SameShapes r.patterns.toList qs.toList →
        r.SameButTypes (r.withPatterns qs)) ∧
    (∀ (r : Request) (f : Component → String), r.Plain → r.SameVerdict (r.rename f)) ∧
    ∀ (r : Request) (ys : List Node), r.Plain →
      List.Forall₂ (fun x y => x.equal y = true) r.children ys →
        Node.Coherent (r.children ++ ys) → r.SameVerdict (r.withChildren ys) :=
  ⟨fun _ _ h => h.sameVerdict, fun _ _ h => sameButTypes_withPatterns h,
    fun _ _ h => h.sameMatrix_rename.sameVerdict,
    fun _ _ h hequal hcoherent => (h.sameMatrix_of_equal hequal hcoherent).sameVerdict⟩

/-- A toolbar of buttons, or of whatever has a width, with a separator that is missing. -/
def toolbar : Request where
  owner := "Toolbar"
  options := .validating
  context := .empty
  children :=
    [⟨⟨.component ⟨⟨0⟩, "Button"⟩, .ofList [("width", .float ⟨0⟩)]⟩, ⟨0⟩⟩,
      ⟨⟨.tag "p", .empty⟩, ⟨1⟩⟩]
  patterns :=
    { toList :=
        [.oneOrMore [.component ⟨⟨0⟩, "Button"⟩, .hasProp "width"],
          .one [.component ⟨⟨1⟩, "Separator"⟩]]
      wellFormed := by
        simp [Pattern.WellFormed, Pattern.one, Pattern.oneOrMore, Pattern.ofRange,
          Cardinality.WellFormed] }

/-- A menu of entries, with a heading that is missing. -/
def menu : Request where
  owner := "Menu"
  options := .rendering
  context := .empty
  children := [⟨⟨.tag "entry", .empty⟩, ⟨0⟩⟩, ⟨⟨.unspecified, .empty⟩, ⟨1⟩⟩]
  patterns :=
    { toList := [.oneOrMore [.tag "entry"], .one [.tag "heading"]]
      wellFormed := by
        simp [Pattern.WellFormed, Pattern.one, Pattern.oneOrMore, Pattern.ofRange,
          Cardinality.WellFormed] }

/-- The patterns of the toolbar, with their shapes in another order and one of them twice. -/
def reordered : PatternList where
  toList :=
    [.oneOrMore [.hasProp "width", .component ⟨⟨0⟩, "Button"⟩, .hasProp "width"],
      .one [.component ⟨⟨1⟩, "Separator"⟩]]
  wellFormed := by
    simp [Pattern.WellFormed, Pattern.one, Pattern.oneOrMore, Pattern.ofRange,
      Cardinality.WellFormed]

/-- The children of the toolbar, with a button whose width is the other zero. -/
def mirrored : List Node :=
  [⟨⟨.component ⟨⟨0⟩, "Button"⟩, .ofList [("width", .float ⟨0x8000000000000000⟩)]⟩, ⟨2⟩⟩,
    ⟨⟨.tag "p", .empty⟩, ⟨1⟩⟩]

/-- The toolbar fails as the menu does, and so it does with shapes in another order, with one name
for buttons and separators, and with a button that is equal to its own. -/
theorem toolbar_fails_as_menu :
    toolbar.verdict = .error (.countMismatch ⟨.tooFew, "", "", .exactly 1, 0, some ""⟩) ∧
      menu.verdict = toolbar.verdict ∧
      (toolbar.withPatterns reordered).matchAll.outcome =
        .error (.countMismatch ⟨.tooFew, "Separator", "Toolbar", .exactly 1, 0, some "<p />"⟩) ∧
      (toolbar.withPatterns reordered).matchPartial.outcome = toolbar.matchPartial.outcome ∧
      (toolbar.rename fun _ => "Button").verdict = toolbar.verdict ∧
      (toolbar.withChildren mirrored).verdict = toolbar.verdict := by
  obtain ⟨hmatrix, hshapes, hnames, helements⟩ := verdict_depends_on_acceptance
  have hmenu : menu.SameMatrix toolbar :=
    sameMatrix_iff.mpr ⟨rfl, .cons ⟨rfl, rfl⟩ (.cons ⟨rfl, rfl⟩ .nil)⟩
  have hreordered : List.Forall₂ Pattern.SameShapes toolbar.patterns.toList reordered.toList := by
    refine .cons ⟨fun s => ?_, rfl, rfl⟩ (.cons ⟨fun _ => Iff.rfl, rfl, rfl⟩ .nil)
    simp only [Pattern.oneOrMore, Pattern.ofRange, List.mem_cons, List.not_mem_nil]
    tauto
  have hplain : toolbar.Plain := by
    simp only [Plain, toolbar, Pattern.oneOrMore, Pattern.one, Pattern.ofRange,
      List.forall_mem_cons]
    exact ⟨⟨.component _, .hasProp _, by simp⟩, ⟨.component _, by simp⟩, by simp⟩
  have hequal : List.Forall₂ (fun x y => x.equal y = true) toolbar.children mirrored :=
    .cons rfl (.cons rfl .nil)
  have hcoherent : Node.Coherent (toolbar.children ++ mirrored) := by
    intro n hn m hm hsame
    simp only [toolbar, mirrored, List.cons_append, List.nil_append, List.mem_cons,
      List.not_mem_nil, or_false] at hn hm
    rcases hn with rfl | rfl | rfl | rfl <;> rcases hm with rfl | rfl | rfl | rfl <;>
      first | rfl | exact absurd hsame (by decide)
  exact ⟨rfl, (hmatrix _ _ hmenu).verdict, rfl,
    (congrArg Report.outcome (hshapes _ _ hreordered).matchPartial).symm,
    (hnames _ _ hplain).verdict.symm, (helements _ _ hplain hequal hcoherent).verdict.symm⟩

end Request

end ChildRules
