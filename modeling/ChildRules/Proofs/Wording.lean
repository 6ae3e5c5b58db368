import ChildRules.Violation

/-!
# What messages tell

A message tells everything of a violation but its owner and, for a mismatch, the list of shapes: of
two violations that agree in these, one text is about one kind, the same numbers and the same child.
Messages can be read from left to right. A number ends where no digit follows, words before a number
end where a digit follows, and the markup of a child, in which anything can stand, comes last.
-/

namespace ChildRules

/-! ## Words and numbers -/

/-- The text does not begin with a digit, so that a number before it ends there. -/
def StopsDigits (s : String) : Prop :=
  ∀ c ∈ s.toList.head?, c.isDigit = false

theorem stopsDigits_append {s : String} {c : Char} (hs : s.toList.head? = some c)
    (hc : c.isDigit = false) (t : String) : StopsDigits (s ++ t) := by
  intro d hd
  rw [String.toList_append, List.head?_append, hs, Option.some_or] at hd
  cases hd
  exact hc

theorem toList_toString (n : Nat) : (toString n).toList = Nat.toDigits 10 n := by
  rw [Nat.toString_eq_repr, Nat.toList_repr]

theorem isDigit_of_mem_toString {n : Nat} {c : Char} (hc : c ∈ (toString n).toList) :
    c.isDigit = true := by
  rw [toList_toString] at hc
  exact Nat.isDigit_of_mem_toDigits (by decide) (by decide) hc

/-- The digits at the head of a text that begins with a number are those of the number. -/
theorem takeWhile_isDigit {n : Nat} {s : String} (hs : StopsDigits s) :
    (toString n ++ s).toList.takeWhile Char.isDigit = Nat.toDigits 10 n := by
  have hstop : s.toList.takeWhile Char.isDigit = [] := by
    cases h : s.toList with
    | nil => rfl
    | cons c cs => rw [List.takeWhile_cons_of_neg (by simp [hs c (by rw [h]; rfl)])]
  rw [String.toList_append, List.takeWhile_append_of_pos fun c => isDigit_of_mem_toString, hstop,
    List.append_nil, toList_toString]

/-- **A number can be told from what follows**, unless that begins with a digit. -/
theorem toString_append_inj {m n : Nat} {s t : String} (hs : StopsDigits s) (ht : StopsDigits t) :
    toString m ++ s = toString n ++ t ↔ m = n ∧ s = t := by
  constructor
  · intro h
    have hdigits : Nat.toDigits 10 m = Nat.toDigits 10 n := by
      rw [← takeWhile_isDigit hs, h, takeWhile_isDigit ht]
    obtain rfl : m = n := by
      rw [← Nat.ofDigitChars_ten_toDigits (n := m), hdigits, Nat.ofDigitChars_ten_toDigits]
    exact ⟨rfl, (String.append_right_inj _).mp h⟩
  · rintro ⟨rfl, rfl⟩
    rfl

/-- What is before the first digit is what is before the first number. -/
theorem takeWhile_not_isDigit {s : String} (hs : ∀ c ∈ s.toList, c.isDigit = false) (n : Nat)
    (t : String) : (s ++ (toString n ++ t)).toList.takeWhile (!·.isDigit) = s.toList := by
  have hnumber : (toString n ++ t).toList.takeWhile (!·.isDigit) = [] := by
    obtain ⟨c, cs, hcs⟩ := List.exists_cons_of_ne_nil (Nat.toDigits_ne_nil (n := n) (b := 10))
    have hc : c.isDigit = true := by
      apply isDigit_of_mem_toString (n := n)
      rw [toList_toString, hcs]
      exact List.mem_cons_self
    rw [String.toList_append, toList_toString, hcs, List.cons_append,
      List.takeWhile_cons_of_neg (by simp [hc])]
  rw [String.toList_append, List.takeWhile_append_of_pos (by simpa using hs), hnumber,
    List.append_nil]

/-- **Words can be told from a number that follows**, unless there is a digit in them. -/
theorem append_toString_inj {s t : String} (hs : ∀ c ∈ s.toList, c.isDigit = false)
    (ht : ∀ c ∈ t.toList, c.isDigit = false) {m n : Nat} {u v : String} :
    s ++ (toString m ++ u) = t ++ (toString n ++ v) ↔
      s = t ∧ toString m ++ u = toString n ++ v := by
  constructor
  · intro h
    obtain rfl : s = t := by
      rw [← String.toList_inj, ← takeWhile_not_isDigit hs m u, h, takeWhile_not_isDigit ht n v]
    exact ⟨rfl, (String.append_right_inj s).mp h⟩
  · rintro ⟨rfl, h⟩
    rw [h]

/-! ## The parts of a message -/

namespace Quantifier

/-- The words before the first number. -/
def lead : Quantifier → String
  | .exactly _ => ""
  | .atLeast _ => "at least "
  | .atMost _ => "at most "
  | .between .. => "between ["

/-- The first number. -/
def first : Quantifier → Nat
  | .exactly n | .atLeast n | .atMost n | .between n _ => n

/-- What follows the first number. -/
def tail : Quantifier → String
  | .exactly _ | .atLeast _ | .atMost _ => ""
  | .between _ high => ", " ++ (toString high ++ "]")

theorem text_append (q : Quantifier) (s : String) :
    q.text ++ s = q.lead ++ (toString q.first ++ (q.tail ++ s)) := by
  cases q <;> simp [text, lead, first, tail, String.append_assoc]

theorem isDigit_of_mem_lead (q : Quantifier) : ∀ c ∈ q.lead.toList, c.isDigit = false := by
  cases q <;> simp [lead]

theorem stopsDigits_tail (q : Quantifier) {s : String} (hs : StopsDigits s) :
    StopsDigits (q.tail ++ s) := by
  cases q with
  | between low high =>
    rw [tail, String.append_assoc]
    exact stopsDigits_append rfl rfl _
  | _ => simpa [tail] using hs

/-- **A wording can be told from what follows**, unless that begins with a digit. -/
theorem text_append_inj {q p : Quantifier} {s t : String} (hs : StopsDigits s)
    (ht : StopsDigits t) : q.text ++ s = p.text ++ t ↔ q = p ∧ s = t := by
  constructor
  · intro h
    rw [text_append, text_append, append_toString_inj q.isDigit_of_mem_lead p.isDigit_of_mem_lead,
      toString_append_inj (q.stopsDigits_tail hs) (p.stopsDigits_tail ht)] at h
    obtain ⟨hlead, hfirst, htail⟩ := h
    -- The words tell which wording it is, so both are of one form.
    cases q with
    | exactly n =>
      cases p with
      | exactly m => exact ⟨congrArg exactly hfirst, by simpa [tail] using htail⟩
      | _ => simp [lead] at hlead
    | atLeast n =>
      cases p with
      | atLeast m => exact ⟨congrArg atLeast hfirst, by simpa [tail] using htail⟩
      | _ => simp [lead] at hlead
    | atMost n =>
      cases p with
      | atMost m => exact ⟨congrArg atMost hfirst, by simpa [tail] using htail⟩
      | _ => simp [lead] at hlead
    | between low high =>
      cases p with
      | between low' high' =>
        simp only [tail, String.append_assoc, String.append_right_inj] at htail
        rw [toString_append_inj (stopsDigits_append rfl rfl s) (stopsDigits_append rfl rfl t),
          String.append_right_inj] at htail
        exact ⟨congr (congrArg between hfirst) htail.1, htail.2⟩
      | _ => simp [lead] at hlead
  · rintro ⟨rfl, rfl⟩
    rfl

end Quantifier

theorem Direction.text_append_inj {d e : Direction} {s t : String} :
    d.text ++ s = e.text ++ t ↔ d = e ∧ s = t := by
  constructor
  · intro h
    cases d <;> cases e
    case tooFew.tooFew => exact ⟨rfl, (String.append_right_inj _).mp h⟩
    case tooMany.tooMany => exact ⟨rfl, (String.append_right_inj _).mp h⟩
    all_goals
      have hletters := congrArg String.toList h
      simp [text] at hletters
  · rintro ⟨rfl, rfl⟩
    rfl

/-- The sentence about the child that ended a run. -/
def CountMismatch.ending (v : CountMismatch) : String :=
  match v.failedOn with
  | some node => " Failed validation on " ++ node ++ "."
  | none => ""

theorem CountMismatch.message_eq (v : CountMismatch) :
    v.message = v.direction.text ++ (" children of type " ++ (v.types ++ (" for <" ++ (v.owner ++
      (" />. Expected " ++ (v.expected.text ++ (", Received: " ++ (toString v.received ++
        ("." ++ v.ending))))))))) := by
  cases h : v.failedOn <;> simp only [message, ending, h, String.append_assoc]

theorem CountMismatch.ending_none {v : CountMismatch} (hv : v.failedOn = none) :
    v.ending = "" := by
  rw [ending, hv]

theorem CountMismatch.ending_some {v : CountMismatch} {node : String}
    (hv : v.failedOn = some node) : v.ending = " Failed validation on " ++ (node ++ ".") := by
  simp only [ending, hv, String.append_assoc]

theorem CountMismatch.ending_inj {v w : CountMismatch} :
    v.ending = w.ending ↔ v.failedOn = w.failedOn := by
  cases hv : v.failedOn with
  | none =>
    cases hw : w.failedOn with
    | none => simp only [ending_none hv, ending_none hw]
    | some node => simp [ending_none hv, ending_some hw]
  | some node =>
    cases hw : w.failedOn with
    | none => simp [ending_some hv, ending_none hw]
    | some node' =>
      rw [ending_some hv, ending_some hw, String.append_right_inj, String.append_left_inj,
        Option.some.injEq]

theorem UnmatchedChildren.message_eq (v : UnmatchedChildren) :
    v.message = "Too many children passed to <" ++ (v.owner ++ (" />. Matched " ++
      (toString v.matched ++ (" of " ++ (toString v.total ++ "."))))) := by
  unfold message
  -- Words at the head are spelled out letter by letter unless they stand under a name.
  generalize "Too many children passed to <" = words
  simp only [String.append_assoc]

/-! ## Messages -/

/-- **A mismatch can be read off its message**, given the owner and the shapes. -/
theorem CountMismatch.message_inj {v w : CountMismatch} (howner : v.owner = w.owner)
    (htypes : v.types = w.types) : v.message = w.message ↔ v = w := by
  constructor
  · intro h
    rw [message_eq, message_eq, htypes, howner, Direction.text_append_inj] at h
    obtain ⟨hdirection, h⟩ := h
    simp only [String.append_right_inj] at h
    rw [Quantifier.text_append_inj (stopsDigits_append rfl rfl _) (stopsDigits_append rfl rfl _),
      String.append_right_inj, toString_append_inj (stopsDigits_append rfl rfl _)
        (stopsDigits_append rfl rfl _), String.append_right_inj, ending_inj] at h
    obtain ⟨hexpected, hreceived, hfailedOn⟩ := h
    cases v
    cases w
    simp_all
  · rintro rfl
    rfl

theorem UnmatchedChildren.message_inj {v w : UnmatchedChildren} (howner : v.owner = w.owner) :
    v.message = w.message ↔ v = w := by
  constructor
  · intro h
    rw [message_eq, message_eq, howner] at h
    simp only [String.append_right_inj] at h
    rw [toString_append_inj (stopsDigits_append rfl rfl _) (stopsDigits_append rfl rfl _),
      String.append_right_inj,
      toString_append_inj (by simp [StopsDigits]) (by simp [StopsDigits])] at h
    obtain ⟨hmatched, htotal, -⟩ := h
    cases v
    cases w
    simp_all
  · rintro rfl
    rfl

/-- The two kinds of messages part after the word children, if not before. -/
theorem CountMismatch.message_ne (v : CountMismatch) (w : UnmatchedChildren) :
    v.message ≠ w.message := by
  intro h
  rw [message_eq, UnmatchedChildren.message_eq] at h
  have hletters := congrArg String.toList h
  cases hdirection : v.direction <;> simp [hdirection, Direction.text] at hletters

namespace Violation

/-- Two violations of one owner, if both are mismatches then about one list of shapes. -/
structure Alike (v w : Violation) : Prop where
  owner : v.owner = w.owner
  types : ∀ a b, v = countMismatch a → w = countMismatch b → a.types = b.types

theorem message_inj {v w : Violation} (h : v.Alike w) : v.message = w.message ↔ v = w := by
  cases v with
  | countMismatch a =>
    cases w with
    | countMismatch b =>
      rw [countMismatch.injEq]
      exact CountMismatch.message_inj h.owner (h.types a b rfl rfl)
    | unmatchedChildren b => simp [message, CountMismatch.message_ne]
  | unmatchedChildren a =>
    cases w with
    | countMismatch b => simpa [message] using (CountMismatch.message_ne b a).symm
    | unmatchedChildren b =>
      rw [unmatchedChildren.injEq]
      exact UnmatchedChildren.message_inj h.owner

theorem warning_inj {v w : Violation} {host : String} :
    v.warning host = w.warning host ↔ v.message = w.message := by
  unfold warning
  generalize "Warning: Failed prop type: " = words
  simp only [String.append_left_inj, String.append_right_inj]

/-- **Violations can be told apart by their messages**, and by the warnings of any one host: of one
owner, and of one list of shapes if both are mismatches, no two have the same text. -/
theorem text_eq_iff {v w : Violation} (h : v.Alike w) :
    (v.message = w.message ↔ v = w) ∧ ∀ host, v.warning host = w.warning host ↔ v = w :=
  ⟨message_inj h, fun _ => warning_inj.trans (message_inj h)⟩

/-- A mismatch that ended at a child whose markup reads like the end of a message. -/
def quoting : CountMismatch where
  direction := .tooMany
  types := "<Column>"
  owner := "Table"
  expected := .between 1 2
  received := 12
  failedOn := some "<p />. Matched 1 of 2"

/-- The text of a child can read like the rest of a message, and still there is no mistaking it. -/
theorem quoting_told_apart :
    (countMismatch quoting).message ≠ (countMismatch { quoting with failedOn := none }).message ∧
      (countMismatch quoting).warning "Page" ≠
        (unmatchedChildren ⟨"Table", 1, 2⟩).warning "Page" := by
  have hmismatch :
      (countMismatch quoting).Alike (countMismatch { quoting with failedOn := none }) :=
    ⟨rfl, by rintro a b ⟨⟩ ⟨⟩; rfl⟩
  have hunmatched : (countMismatch quoting).Alike (unmatchedChildren ⟨"Table", 1, 2⟩) :=
    ⟨rfl, by rintro a b - ⟨⟩⟩
  exact ⟨mt (text_eq_iff hmismatch).1.mp (by decide),
    mt ((text_eq_iff hunmatched).2 "Page").mp (by decide)⟩

end Violation

end ChildRules
