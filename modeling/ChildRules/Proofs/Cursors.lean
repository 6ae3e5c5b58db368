import ChildRules.Proofs.Slicing

/-!
# Matching by cursor

A position keeps the children that are to come beside its cursor. A match can keep the cursor alone,
as a word of sixty-four bits. It then cuts the children to come out of all children whenever a
pattern has its turn, and goes on with none of them where the cursor is past the last child; after
the turn it moves the cursor on by an addition that wraps.

Such a match comes to what the match with positions does. Its cursor is never past the last child
and the addition never wraps, because a run is no longer than the children that were cut out,
however large its cap is. A turn looks at the children that it takes and at most at the one after
them, so none looks at a child that an earlier one took.
-/

namespace ChildRules

/-- The children from a cursor on, unless it is past the last of them. -/
def childrenFrom? (children : List Node) (cursor : UInt64) : Option (List Node) :=
  if cursor.toNat ≤ children.length then some (children.drop cursor.toNat) else none

namespace Pattern

/-- Asks about one child after the other until `cap` of them are taken, none is left, or one is
rejected. The answer is the children that are taken, and all that were asked about with their
places, of which `place` is the first. -/
def probe (p : Pattern) : (cap place : Nat) → List Node → List Node × List (Node × Nat)
  | 0, _, _ => ([], [])
  | _ + 1, _, [] => ([], [])
  | cap + 1, place, x :: rest =>
    if p.accepts x then
      (x :: (p.probe cap (place + 1) rest).1, (x, place) :: (p.probe cap (place + 1) rest).2)
    else ([], [(x, place)])

/-- What is taken is a run, if the cap is that of the pattern. -/
theorem fst_probe (p : Pattern) (cap place : Nat) (rest : List Node) :
    (p.probe cap place rest).1 = (rest.take cap).takeWhile p.accepts := by
  induction rest generalizing cap place with
  | nil => cases cap <;> rfl
  | cons x rest ih =>
    cases cap with
    | zero => rfl
    | succ cap =>
      rw [probe, List.take_succ_cons, List.takeWhile_cons]
      split
      · rw [ih]
      · rfl

/-- The children asked about are those that are taken and, within the cap, the one after them. -/
theorem snd_probe (p : Pattern) (cap place : Nat) (rest : List Node) :
    (p.probe cap place rest).2 =
      ((rest.take cap).take ((p.probe cap place rest).1.length + 1)).zipIdx place := by
  induction rest generalizing cap place with
  | nil => cases cap <;> rfl
  | cons x rest ih =>
    cases cap with
    | zero => rfl
    | succ cap =>
      rw [probe]
      split
      · rw [ih, List.length_cons, List.take_succ_cons, List.take_succ_cons, List.zipIdx_cons]
      · rfl

end Pattern

/-! ## A turn by cursor -/

/-- A pattern that has its turn when the cursor stands at `entry`. -/
structure Visit where
  children : List Node
  entry : UInt64
  pattern : Pattern

namespace Visit

/-- The children that are to come, if they can be cut out. -/
def rest? (v : Visit) : Option (List Node) :=
  childrenFrom? v.children v.entry

def probed (v : Visit) : List Node × List (Node × Nat) :=
  v.pattern.probe v.pattern.cardinality.cap v.entry.toNat (v.rest?.getD [])

def taken (v : Visit) : List Node :=
  v.probed.1

/-- The cursor after the turn. -/
def next (v : Visit) : UInt64 :=
  v.entry + .ofNat v.taken.length

/-- The child that is named when the run is out of range. -/
def blamed? (v : Visit) : Option Node :=
  if v.pattern.cardinality.Admits v.taken.length then none else v.children[v.next.toNat]?

/-- All children that the turn looks at, each with its place. -/
def examined (v : Visit) : List (Node × Nat) :=
  v.probed.2 ++ v.blamed?.toList.map (·, v.next.toNat)

/-- Whether the turn takes the child at a place. -/
def Consumes (v : Visit) (place : Nat) : Prop :=
  v.entry.toNat ≤ place ∧ place < v.next.toNat

def event (v : Visit) : Event :=
  .turn v.pattern.typeList v.entry.toNat v.taken.length

def result (v : Visit) (parent : Parent) : Result Mapped :=
  .ofNodes v.pattern.cardinality.isSingle (v.taken.map (v.pattern.project parent))

def mismatch? (v : Visit) (owner : String) : Option Violation :=
  if v.pattern.cardinality.Admits v.taken.length then none
  else
    some <| .countMismatch
      { direction := if v.taken.length < v.pattern.cardinality.min then .tooFew else .tooMany
        types := v.pattern.typeList
        owner := owner
        expected := v.pattern.cardinality.quantifier
        received := v.taken.length
        failedOn := v.blamed?.map (·.toElement.markup) }

end Visit

/-! ## A match by cursor -/

/-- The visits of a match, and what it comes to. -/
structure Walk where
  visits : List Visit
  report : Report (Except Violation (List (Result Mapped)))

namespace Walk

/-- The walk with one more visit before its own. -/
def startingWith (w : Walk) (v : Visit) (parent : Parent) : Walk :=
  ⟨v :: w.visits, (w.report.map (·.map (v.result parent :: ·))).precededBy [v.event]⟩

/-- The walk if a possible violation comes up before it. A strict match does not get to it then. -/
def behind (w : Walk) (strict : Bool) : Option Violation → Walk
  | none => w
  | some v =>
    if strict then ⟨[], ⟨[.violation v false], .error v⟩⟩
    else ⟨w.visits, w.report.precededBy [.violation v true]⟩

end Walk

namespace Matching

/-- The children that are left when no pattern is. -/
def unmatched? (parent : Parent) (children : List Node) (cursor : UInt64) : Option Violation :=
  if cursor.toNat < children.length then
    some <| .unmatchedChildren
      { owner := parent.name, matched := cursor.toNat, total := children.length }
  else none

/-- A match that keeps the cursor alone, in either way to go about violations. -/
def walk (parent : Parent) (children : List Node) (strict : Bool) :
    UInt64 → List Pattern → Walk
  | cursor, [] => Walk.behind ⟨[], ⟨[], .ok []⟩⟩ strict (unmatched? parent children cursor)
  | cursor, p :: ps =>
    let v : Visit := ⟨children, cursor, p⟩
    ((walk parent children strict v.next ps).behind strict
      (v.mismatch? parent.name)).startingWith v parent

end Matching

/-! ## The cursor of one turn -/

/-- The position that a cursor stands for. -/
def Position.ofCursor (children : List Node) (cursor : UInt64) : Position :=
  ⟨cursor.toNat, children.drop cursor.toNat⟩

namespace Visit

/-- The turn that begins where the cursor stands. -/
def turn (v : Visit) : Turn :=
  ⟨.ofCursor v.children v.entry, v.pattern⟩

/-- What the arithmetic of a visit to some children comes to when nothing goes wrong. -/
structure Safe (v : Visit) (children : List Node) : Prop where
  children_eq : v.children = children
  entry_le : v.entry.toNat ≤ children.length
  /-- The children to come can be cut out. -/
  rest?_eq : v.rest? = some (children.drop v.entry.toNat)
  /-- The addition does not wrap. -/
  toNat_next : v.next.toNat = v.entry.toNat + v.taken.length
  le_next : v.entry ≤ v.next
  next_le : v.next.toNat ≤ children.length
  /-- What is taken is what stands between the two cursors. -/
  taken_eq : v.taken = (children.drop v.entry.toNat).take v.taken.length
  /-- What is looked at is what is taken and, unless the cap ends a run within range, the child
  after it. -/
  mem_examined_iff (x : Node) (place : Nat) : (x, place) ∈ v.examined ↔
    children[place]? = some x ∧ (v.Consumes place ∨ place = v.next.toNat ∧
      (v.taken.length < v.pattern.cardinality.cap ∨
        ¬ v.pattern.cardinality.Admits v.taken.length))

variable {v : Visit}

theorem rest?_eq_of_le (h : v.entry.toNat ≤ v.children.length) :
    v.rest? = some v.turn.before.rest :=
  if_pos h

theorem taken_eq_of_le (h : v.entry.toNat ≤ v.children.length) : v.taken = v.turn.taken := by
  rw [taken, probed, rest?_eq_of_le h, Option.getD_some, Pattern.fst_probe]
  rfl

/-- **The cursor moves on by the length of the run**, and not past the last child. The cap has no
say: the run is among the children that were cut out. -/
theorem toNat_next_of_le (h : v.entry.toNat ≤ v.children.length)
    (hlimit : v.children.length ≤ countLimit) :
    v.next.toNat = v.entry.toNat + v.taken.length ∧ v.next.toNat ≤ v.children.length := by
  have hrun : v.taken.length ≤ v.children.length - v.entry.toNat := by
    rw [taken_eq_of_le h, ← List.length_drop]
    exact v.pattern.length_run_le _
  have hend : v.entry.toNat + v.taken.length ≤ v.children.length := by omega
  -- The sum is a count of children, so it fits in a word.
  have hword : v.entry.toNat + v.taken.length < UInt64.size :=
    Nat.lt_of_le_of_lt (Nat.le_trans hend hlimit) (by decide)
  have hnext : v.next.toNat = v.entry.toNat + v.taken.length := by
    rw [next, UInt64.toNat_add, UInt64.toNat_ofNat_of_lt' (by omega)]
    exact Nat.mod_eq_of_lt hword
  exact ⟨hnext, hnext ▸ hend⟩

/-- A turn asks about the children that it takes and, within the cap, about the one after them. -/
theorem mem_probed_iff (h : v.entry.toNat ≤ v.children.length)
    (hlimit : v.children.length ≤ countLimit) {x : Node} {place : Nat} :
    (x, place) ∈ v.probed.2 ↔ v.children[place]? = some x ∧
      (v.Consumes place ∨
        place = v.next.toNat ∧ v.taken.length < v.pattern.cardinality.cap) := by
  have hcap : v.taken.length ≤ v.pattern.cardinality.cap := by
    rw [taken_eq_of_le h]
    exact v.pattern.length_run_le_cap _
  have hnext := (toNat_next_of_le h hlimit).1
  have hprobed : v.probed.2 = ((v.turn.before.rest.take v.pattern.cardinality.cap).take
      (v.taken.length + 1)).zipIdx v.entry.toNat := by
    rw [taken, probed, rest?_eq_of_le h, Option.getD_some]
    exact v.pattern.snd_probe ..
  rw [hprobed, List.mem_zipIdx_iff_le_and_getElem?_sub, List.getElem?_take, List.getElem?_take,
    turn, Position.ofCursor, List.getElem?_drop, Consumes, hnext]
  constructor
  · rintro ⟨hle, hchild⟩
    rw [Nat.add_sub_cancel' hle] at hchild
    split at hchild
    · split at hchild
      · exact ⟨hchild, by omega⟩
      · cases hchild
    · cases hchild
  · rintro ⟨hchild, hplace⟩
    have hle : v.entry.toNat ≤ place := by omega
    rw [Nat.add_sub_cancel' hle, if_pos (by omega), if_pos (by omega)]
    exact ⟨hle, hchild⟩

/-- After a run out of range, the child at the cursor is named. -/
theorem mem_blamed_iff {x : Node} {place : Nat} :
    (x, place) ∈ v.blamed?.toList.map (·, v.next.toNat) ↔
      v.children[place]? = some x ∧ place = v.next.toNat ∧
        ¬ v.pattern.cardinality.Admits v.taken.length := by
  rw [List.mem_map]
  constructor
  · rintro ⟨y, hy, heq⟩
    cases heq
    rw [Option.mem_toList, blamed?] at hy
    split at hy
    · cases hy
    · exact ⟨hy, rfl, ‹_›⟩
  · rintro ⟨hchild, rfl, hadmits⟩
    refine ⟨x, ?_, rfl⟩
    rw [Option.mem_toList, blamed?, if_neg hadmits]
    exact hchild

theorem mem_examined_iff (h : v.entry.toNat ≤ v.children.length)
    (hlimit : v.children.length ≤ countLimit) {x : Node} {place : Nat} :
    (x, place) ∈ v.examined ↔
      v.children[place]? = some x ∧ (v.Consumes place ∨ place = v.next.toNat ∧
        (v.taken.length < v.pattern.cardinality.cap ∨
          ¬ v.pattern.cardinality.Admits v.taken.length)) := by
  rw [examined, List.mem_append, mem_probed_iff h hlimit, mem_blamed_iff, ← and_or_left, or_assoc,
    ← and_or_left]

/-- **A turn whose cursor is not past the last child is safe.** -/
theorem safe_of_le (h : v.entry.toNat ≤ v.children.length)
    (hlimit : v.children.length ≤ countLimit) : v.Safe v.children where
  children_eq := rfl
  entry_le := h
  rest?_eq := rest?_eq_of_le h
  toNat_next := (toNat_next_of_le h hlimit).1
  le_next := by
    rw [UInt64.le_iff_toNat_le, (toNat_next_of_le h hlimit).1]
    exact Nat.le_add_right ..
  next_le := (toNat_next_of_le h hlimit).2
  taken_eq := by
    rw [taken_eq_of_le h]
    exact v.pattern.run_eq_take _
  mem_examined_iff := fun _ _ => mem_examined_iff h hlimit

theorem Safe.entry_le_of_mem_examined {children : List Node} (h : v.Safe children)
    {q : Node × Nat} (hq : q ∈ v.examined) : v.entry.toNat ≤ q.2 := by
  rcases ((h.mem_examined_iff q.1 q.2).mp hq).2 with hconsumes | ⟨hnext, -⟩
  · exact hconsumes.1
  · rw [hnext]
    exact UInt64.le_iff_toNat_le.mp h.le_next

/-! A safe visit is the turn that begins where its cursor stands. -/

theorem after_turn (h : v.entry.toNat ≤ v.children.length)
    (hlimit : v.children.length ≤ countLimit) :
    v.turn.before.after v.pattern = .ofCursor v.children v.next := by
  have hlength : v.taken.length = (v.pattern.run v.turn.before.rest).length :=
    congrArg List.length (taken_eq_of_le h)
  rw [Position.after, ← hlength, Position.ofCursor, (toNat_next_of_le h hlimit).1]
  exact congrArg (Position.mk _) List.drop_drop

theorem event_eq (h : v.entry.toNat ≤ v.children.length) : v.event = v.turn.event := by
  rw [event, taken_eq_of_le h]
  rfl

theorem result_eq (h : v.entry.toNat ≤ v.children.length) (parent : Parent) :
    v.result parent = v.turn.result parent := by
  rw [result, taken_eq_of_le h]
  rfl

theorem mismatch?_eq (h : v.entry.toNat ≤ v.children.length)
    (hlimit : v.children.length ≤ countLimit) (owner : String) :
    v.mismatch? owner = v.turn.mismatch? owner := by
  have htaken := taken_eq_of_le h
  by_cases hadmits : v.turn.pattern.cardinality.Admits v.turn.taken.length
  · rw [Turn.mismatch?_of_admits hadmits, mismatch?, if_pos (htaken ▸ hadmits)]
  · have hblamed : v.blamed? = (v.turn.before.after v.pattern).rest.head? := by
      rw [blamed?, if_neg (htaken ▸ hadmits), after_turn h hlimit, Position.ofCursor,
        List.head?_drop]
    rw [mismatch?, if_neg (htaken ▸ hadmits), hblamed, htaken]
    exact (if_neg hadmits).symm

end Visit

/-! ## The cursor of a whole match -/

namespace Walk

/-- The visits of a walk are the turns that its report notes. -/
def Logged (w : Walk) : Prop :=
  w.visits.map Visit.event = w.report.events.filter (·.violation?.isNone)

theorem Logged.startingWith {w : Walk} (h : w.Logged) (v : Visit) (parent : Parent) :
    (w.startingWith v parent).Logged :=
  congrArg (v.event :: ·) h

theorem Logged.behind {w : Walk} (h : w.Logged) (strict : Bool) (violation? : Option Violation) :
    (w.behind strict violation?).Logged := by
  cases violation? with
  | none => exact h
  | some v =>
    cases strict with
    | false => exact h
    | true => rfl

theorem visits_behind (w : Walk) (strict : Bool) (violation? : Option Violation) :
    (w.behind strict violation?).visits.Sublist w.visits := by
  cases violation? with
  | none => exact List.Sublist.refl _
  | some v =>
    cases strict with
    | false => exact List.Sublist.refl _
    | true => exact List.nil_sublist _

end Walk

namespace Matching

variable {parent : Parent} {children : List Node} {strict : Bool} {cursor : UInt64}
  {ps : List Pattern}

theorem logged_walk : (walk parent children strict cursor ps).Logged := by
  induction ps generalizing cursor with
  | nil =>
    have hblank : Walk.Logged ⟨[], ⟨[], .ok []⟩⟩ := rfl
    exact hblank.behind strict _
  | cons p ps ih => exact (ih.behind strict _).startingWith _ parent

/-- The cursor is not past the last child in any turn, and it never goes back. -/
theorem safe_of_mem_visits (hlimit : children.length ≤ countLimit)
    (h : cursor.toNat ≤ children.length) :
    ∀ v ∈ (walk parent children strict cursor ps).visits,
      v.Safe children ∧ cursor.toNat ≤ v.entry.toNat := by
  -- The invariant is `h`. One safe turn hands it on to the patterns that come after.
  induction ps generalizing cursor with
  | nil =>
    intro v hv
    cases (Walk.visits_behind _ strict _).subset hv
  | cons p ps ih =>
    have hsafe : Visit.Safe ⟨children, cursor, p⟩ children := Visit.safe_of_le h hlimit
    intro v hv
    rcases List.mem_cons.mp hv with rfl | hv
    · exact ⟨hsafe, Nat.le_refl _⟩
    · obtain ⟨hlater, hle⟩ := ih hsafe.next_le v ((Walk.visits_behind _ strict _).subset hv)
      exact ⟨hlater, Nat.le_trans (UInt64.le_iff_toNat_le.mp hsafe.le_next) hle⟩

theorem pairwise_visits (hlimit : children.length ≤ countLimit)
    (h : cursor.toNat ≤ children.length) :
    (walk parent children strict cursor ps).visits.Pairwise
      fun v w => v.next.toNat ≤ w.entry.toNat := by
  induction ps generalizing cursor with
  | nil => exact List.Pairwise.nil.sublist (Walk.visits_behind _ strict _)
  | cons p ps ih =>
    have hsafe : Visit.Safe ⟨children, cursor, p⟩ children := Visit.safe_of_le h hlimit
    refine List.pairwise_cons.mpr ⟨?_, (ih hsafe.next_le).sublist (Walk.visits_behind _ strict _)⟩
    intro w hw
    exact (safe_of_mem_visits hlimit hsafe.next_le w
      ((Walk.visits_behind _ strict _).subset hw)).2

theorem unmatched?_eq (h : cursor.toNat ≤ children.length) :
    unmatched? parent children cursor =
      (Position.ofCursor children cursor).leftover? parent.name := by
  have htotal : (Position.ofCursor children cursor).total = children.length := by
    show cursor.toNat + (children.drop cursor.toNat).length = children.length
    rw [List.length_drop]
    omega
  have hempty : (Position.ofCursor children cursor).rest.isEmpty = true ↔
      ¬ cursor.toNat < children.length := by
    rw [List.isEmpty_iff, Position.ofCursor, List.drop_eq_nil_iff, Nat.not_lt]
  rw [unmatched?, Position.leftover?, htotal]
  by_cases hlt : cursor.toNat < children.length
  · rw [if_pos hlt, if_neg (mt hempty.mp (not_not_intro hlt))]
    rfl
  · rw [if_neg hlt, if_pos (hempty.mpr hlt)]

/-- The first turn of a match by cursor is that of the position for which the cursor stands, and the
cursor after it stands for the position after it. -/
theorem report_walk_cons (hlimit : children.length ≤ countLimit)
    (h : cursor.toNat ≤ children.length) (p : Pattern) :
    ∃ next : UInt64, next.toNat ≤ children.length ∧
      (Position.ofCursor children cursor).after p = .ofCursor children next ∧
      (walk parent children strict cursor (p :: ps)).report =
        (((walk parent children strict next ps).behind strict
          ((Position.ofCursor children cursor).mismatch? p parent.name)).report.map
            (·.map (p.result parent (.ofCursor children cursor) :: ·))).precededBy
              [(Position.ofCursor children cursor).turn p] := by
  let v : Visit := ⟨children, cursor, p⟩
  have hmismatch : v.mismatch? parent.name =
      (Position.ofCursor children cursor).mismatch? p parent.name :=
    v.mismatch?_eq h hlimit parent.name
  have hevent : v.event = (Position.ofCursor children cursor).turn p := v.event_eq h
  have hresult : v.result parent = p.result parent (.ofCursor children cursor) :=
    v.result_eq h parent
  refine ⟨v.next, (v.safe_of_le h hlimit).next_le, v.after_turn h hlimit, ?_⟩
  rw [← hmismatch, ← hevent, ← hresult]
  rfl

/-- **A strict match can keep the cursor alone.** -/
theorem report_walk_strict (hlimit : children.length ≤ countLimit)
    (h : cursor.toNat ≤ children.length) :
    (walk parent children true cursor ps).report =
      Matching.strict parent ps (.ofCursor children cursor) := by
  induction ps generalizing cursor with
  | nil =>
    rw [walk, unmatched?_eq h, Matching.strict]
    cases (Position.ofCursor children cursor).leftover? parent.name <;> rfl
  | cons p ps ih =>
    obtain ⟨next, hnext, hafter, hreport⟩ := report_walk_cons hlimit h p
    rw [hreport, Matching.strict, hafter, ← ih hnext]
    cases (Position.ofCursor children cursor).mismatch? p parent.name <;> rfl

/-- **A lenient match can keep the cursor alone.** -/
theorem report_walk_lenient (hlimit : children.length ≤ countLimit)
    (h : cursor.toNat ≤ children.length) :
    (walk parent children false cursor ps).report =
      (lenient parent ps (.ofCursor children cursor)).map .ok := by
  induction ps generalizing cursor with
  | nil =>
    rw [walk, unmatched?_eq h, lenient]
    cases (Position.ofCursor children cursor).leftover? parent.name <;> rfl
  | cons p ps ih =>
    obtain ⟨next, hnext, hafter, hreport⟩ := report_walk_cons hlimit h p
    rw [hreport, lenient_cons, hafter]
    cases (Position.ofCursor children cursor).mismatch? p parent.name with
    | none =>
      show ((walk parent children false next ps).report.map _).precededBy _ = _
      rw [ih hnext]
      rfl
    | some v =>
      show (((walk parent children false next ps).report.precededBy _).map _).precededBy _ = _
      rw [ih hnext]
      rfl

end Matching

/-! ## A request by cursor -/

namespace Request

/-- The match of a request that keeps the cursor alone. -/
def walk (r : Request) (strict : Bool) : Walk :=
  Matching.walk r.parent r.children strict 0 r.patterns.toList

theorem report_walk (r : Request) (hlimit : r.children.length ≤ countLimit) (strict : Bool) :
    (r.walk strict).report = (r.withStrict strict).matchAll := by
  have hzero : UInt64.toNat 0 ≤ r.children.length := Nat.zero_le _
  cases strict with
  | false => exact Matching.report_walk_lenient hlimit hzero
  | true => exact Matching.report_walk_strict hlimit hzero

/-- **A cursor of sixty-four bits is enough, and it stays among the children.** A match that keeps
the cursor alone comes to what the match with positions does, strict or lenient, and its visits are
the turns that are noted. In each of them the cursor is not past the last child, so the children to
come can be cut out; the addition that moves it on does not wrap and does not lead past the last
child, whatever the patterns' bounds are. No turn looks at a child that an earlier one took. -/
theorem cursor_stays_among_children (r : Request) (hlimit : r.children.length ≤ countLimit) :
    (r.walk false).report = r.matchPartial.map .ok ∧
    ∀ strict, (r.walk strict).report = (r.withStrict strict).matchAll ∧
      (r.walk strict).visits.map Visit.event =
        (r.withStrict strict).matchAll.events.filter (·.violation?.isNone) ∧
      (∀ v ∈ (r.walk strict).visits, v.Safe r.children) ∧
      (r.walk strict).visits.Pairwise fun v w => ∀ q ∈ w.examined, ¬ v.Consumes q.2 := by
  have hzero : UInt64.toNat 0 ≤ r.children.length := Nat.zero_le _
  refine ⟨r.report_walk hlimit false, fun strict => ⟨r.report_walk hlimit strict, ?_, ?_, ?_⟩⟩
  · rw [← r.report_walk hlimit strict]
    exact Matching.logged_walk
  · intro v hv
    exact (Matching.safe_of_mem_visits hlimit hzero v hv).1
  · refine (Matching.pairwise_visits hlimit hzero).imp_of_mem ?_
    intro v w _ hw hle q hq hconsumes
    have hsafe := (Matching.safe_of_mem_visits hlimit hzero w hw).1
    exact Nat.not_le_of_lt hconsumes.2 (Nat.le_trans hle (hsafe.entry_le_of_mem_examined hq))

/-- The rows have the largest count for their cap, and their turn ends at the footer. Children that
a pattern rejects are looked at again in the next turn, those that it takes are not. -/
theorem table_walked :
    table.children.length ≤ countLimit ∧
      (table.walk true).report = table.matchAll ∧
      (∀ v ∈ (table.walk true).visits, v.Safe table.children) ∧
      (table.walk true).visits.map (fun v => (v.entry.toNat, v.next.toNat)) =
        [(0, 0), (0, 1), (1, 3), (3, 4)] ∧
      (table.walk true).visits.map (·.examined.map Prod.snd) = [[0], [0], [1, 2, 3], [3]] := by
  have hlimit : table.children.length ≤ countLimit := by decide
  obtain ⟨hreport, -, hsafe, -⟩ := (cursor_stays_among_children table hlimit).2 true
  exact ⟨hlimit, hreport, hsafe, by decide, by decide⟩

end Request

end ChildRules
