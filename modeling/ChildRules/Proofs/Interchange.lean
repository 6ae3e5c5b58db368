import Mathlib.Data.List.Nodup
import ChildRules.Proofs.Histories

/-!
# Writing in another order

A bag is known by the order of its keys and by what is found at each. Writing at two keys, whichever
comes first, makes no difference to what is found, and so none to the entries but for their order.
The order is the same as well unless both keys are new, for then the first written stands first. At
one key only the last of two writings counts.
-/

namespace ChildRules

namespace Props

theorem nodup_entries (p : Props) : p.entries.Nodup :=
  List.Nodup.of_map Prod.fst p.nodup_keys

/-- Bags in which the same is found differ in the order of their entries at most. -/
theorem perm_entries {p q : Props} (hget : ∀ key, p.get? key = q.get? key) :
    p.entries.Perm q.entries := by
  rw [List.perm_ext_iff_of_nodup p.nodup_entries q.nodup_entries]
  rintro ⟨key, value⟩
  rw [← get?_eq_some_iff, ← get?_eq_some_iff, hget]

/-! ## Two keys -/

section Two

variable (p : Props) {k l : String} (hne : k ≠ l) (v w : Value)

include hne

theorem get?_insert_insert (key : String) :
    ((p.insert k v).insert l w).get? key = ((p.insert l w).insert k v).get? key := by
  simp only [get?_insert]
  by_cases hk : key = k
  · simp [hk, hne]
  · simp [hk]

/-- The keys come in one order unless both are new. -/
theorem keys_insert_insert_iff :
    ((p.insert k v).insert l w).keys = ((p.insert l w).insert k v).keys ↔
      k ∈ p.keys ∨ l ∈ p.keys := by
  simp only [keys_insert]
  by_cases hk : k ∈ p.keys <;> by_cases hl : l ∈ p.keys <;> simp [hk, hl, hne, hne.symm]

theorem entries_insert_insert_iff :
    ((p.insert k v).insert l w).entries = ((p.insert l w).insert k v).entries ↔
      k ∈ p.keys ∨ l ∈ p.keys := by
  rw [← keys_insert_insert_iff p hne v w]
  constructor
  · intro hentries
    exact congrArg Entries.keys hentries
  · intro hkeys
    exact congrArg entries (eq_of_keys_eq hkeys (get?_insert_insert p hne v w))

/-- Writing at one key leaves what writing at the other replaces. -/
theorem fst_exchange_insert : ((p.insert l w).exchange k v).1 = (p.exchange k v).1 := by
  rw [fst_exchange, fst_exchange, get?_insert, if_neg hne]

end Two

/-! ## One key -/

/-- Of two writings at one key the last counts. -/
theorem entries_insert_self (p : Props) (key : String) (v w : Value) :
    ((p.insert key v).insert key w).entries = (p.insert key w).entries := by
  refine congrArg entries (eq_of_keys_eq ?_ ?_)
  · simp only [keys_insert]
    by_cases h : key ∈ p.keys <;> simp [h]
  · intro other
    simp only [get?_insert]
    by_cases h : other = key <;> simp [h]

theorem fst_exchange_self (p : Props) (key : String) (v w : Value) :
    ((p.insert key v).exchange key w).1 = some v := by
  rw [fst_exchange, get?_insert, if_pos rfl]

/-- **Writings at two keys commute up to order.** Whichever comes first, the same is found at every
key, there are as many entries, indeed the same in some order, and each writing tells the same. The
order is one exactly if at least one of the keys was there. Of two writings at one key the second
tells what the first wrote, and leaves what it would leave alone. -/
theorem writings_commute_up_to_order (p : Props) {k l : String} (hne : k ≠ l) (v w : Value) :
    (∀ key, ((p.insert k v).insert l w).get? key = ((p.insert l w).insert k v).get? key) ∧
    ((p.insert k v).insert l w).size = ((p.insert l w).insert k v).size ∧
    ((p.insert k v).insert l w).entries.Perm ((p.insert l w).insert k v).entries ∧
    ((p.insert l w).exchange k v).1 = (p.exchange k v).1 ∧
    ((p.insert k v).exchange l w).1 = (p.exchange l w).1 ∧
    (((p.insert k v).insert l w).entries = ((p.insert l w).insert k v).entries ↔
      p.contains k = true ∨ p.contains l = true) ∧
    ∀ key, ((p.insert key v).insert key w).entries = (p.insert key w).entries ∧
      ((p.insert key v).exchange key w).1 = some v := by
  have hget := get?_insert_insert p hne v w
  have hperm := perm_entries hget
  refine ⟨hget, hperm.length_eq, hperm, fst_exchange_insert p hne v w,
    fst_exchange_insert p hne.symm w v, ?_, fun key => ⟨entries_insert_self p key v w, ?_⟩⟩
  · rw [← mem_keys_iff, ← mem_keys_iff]
    exact entries_insert_insert_iff p hne v w
  · exact fst_exchange_self p key v w

/-- A width that is there and a height that is not can be written in any order. A height and a depth
that are both new come in the order in which they are written. -/
theorem height_and_depth_in_order :
    "width" ≠ "height" ∧ "height" ≠ "depth" ∧
      (((ofList [("width", .int 1)]).insert "width" (.int 2)).insert "height" .null).entries =
        (((ofList [("width", .int 1)]).insert "height" .null).insert "width" (.int 2)).entries ∧
      (((ofList [("width", .int 1)]).insert "height" .null).insert "depth" .null).entries ≠
        (((ofList [("width", .int 1)]).insert "depth" .null).insert "height" .null).entries := by
  have hwidth : "width" ≠ "height" := by decide
  have hheight : "height" ≠ "depth" := by decide
  obtain ⟨-, -, -, -, -, hfirst, -⟩ :=
    writings_commute_up_to_order (ofList [("width", .int 1)]) hwidth (.int 2) .null
  obtain ⟨-, -, -, -, -, hsecond, -⟩ :=
    writings_commute_up_to_order (ofList [("width", .int 1)]) hheight .null .null
  exact ⟨hwidth, hheight, hfirst.mpr (Or.inl (by decide)), mt hsecond.mp (by decide)⟩

end Props

end ChildRules
