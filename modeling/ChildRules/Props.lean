import ChildRules.Value

/-!
# Properties in insertion order

A bag of properties remembers the order in which keys first came, so that a message lists them as
the host declared them. Writing a key that is there changes its value and not its place. No key
stands twice, which the type carries as a proof. Two bags are equal when they list equal entries in
the same order; looking a key up does not depend on the order.
-/

namespace ChildRules

/-- Keys with their values, in the order of the bag. -/
abbrev Entries := List (String × Value)

namespace Entries

def keys (es : Entries) : List String :=
  es.map Prod.fst

/-- One walk that writes `value` at `key`, in the place of the key if it is there and else at the
end. The first part of the answer is the value that was there. -/
def exchange (key : String) (value : Value) : Entries → Option Value × Entries
  | [] => (none, [(key, value)])
  | (k, v) :: rest =>
    if k = key then (some v, (k, value) :: rest)
    else
      let (former, written) := exchange key value rest
      (former, (k, v) :: written)

def equal : Entries → Entries → Bool
  | [], [] => true
  | (k, v) :: es, (l, w) :: fs => k == l && v.equal w && equal es fs
  | _, _ => false

/-- Writing keeps the keys and their order; a key that was not there follows the others. -/
theorem keys_exchange (key : String) (value : Value) (es : Entries) :
    keys (exchange key value es).2 = if key ∈ keys es then keys es else keys es ++ [key] := by
  induction es with
  | nil => rfl
  | cons e rest ih =>
    obtain ⟨k, v⟩ := e
    by_cases h : k = key
    · subst h
      simp [exchange, keys]
    · have h' : ¬ key = k := fun same => h same.symm
      simp only [exchange, h, if_false, keys, List.map_cons, List.mem_cons, h', false_or] at ih ⊢
      rw [ih]
      split <;> simp [*]

/-- The value that writing replaces is the one that looking up finds. -/
theorem fst_exchange (key : String) (value : Value) (es : Entries) :
    (exchange key value es).1 = es.lookup key := by
  induction es with
  | nil => rfl
  | cons e rest ih =>
    obtain ⟨k, v⟩ := e
    by_cases h : k = key
    · simp [exchange, h]
    · have h' : (key == k) = false := beq_eq_false_iff_ne.mpr fun same => h same.symm
      simp [exchange, h, List.lookup_cons, h', ih]

/-- Writing changes what is found at its key and at no other. -/
theorem lookup_exchange (key other : String) (value : Value) (es : Entries) :
    (exchange key value es).2.lookup other =
      if other = key then some value else es.lookup other := by
  induction es with
  | nil =>
    by_cases h : other = key
    · simp [exchange, h]
    · simp [exchange, List.lookup_cons, beq_eq_false_iff_ne.mpr h, h]
  | cons e rest ih =>
    obtain ⟨k, v⟩ := e
    by_cases same : k = key
    · subst same
      by_cases h : other = k
      · simp [exchange, h]
      · simp [exchange, List.lookup_cons, beq_eq_false_iff_ne.mpr h, h]
    · by_cases h : other = k
      · subst h
        simp [exchange, same]
      · simp [exchange, same, List.lookup_cons, beq_eq_false_iff_ne.mpr h, ih]

theorem nodup_keys_exchange (key : String) (value : Value) {es : Entries}
    (distinct : (keys es).Nodup) : (keys (exchange key value es).2).Nodup := by
  rw [keys_exchange]
  split
  · exact distinct
  · next absent =>
    rw [List.nodup_append]
    refine ⟨distinct, by simp, ?_⟩
    intro k mem l same
    rw [List.mem_singleton] at same
    rintro rfl
    exact absent (same ▸ mem)

end Entries

/-- A bag of properties: entries in insertion order, each key once. -/
structure Props where
  entries : Entries
  nodup_keys : entries.keys.Nodup

namespace Props

def empty : Props :=
  ⟨[], List.nodup_nil⟩

instance : Inhabited Props := ⟨empty⟩

def keys (p : Props) : List String :=
  p.entries.keys

/-- Writes a value at a key and gives the value that it replaces. -/
def exchange (p : Props) (key : String) (value : Value) : Option Value × Props :=
  ((p.entries.exchange key value).1,
    ⟨(p.entries.exchange key value).2, Entries.nodup_keys_exchange key value p.nodup_keys⟩)

def insert (p : Props) (key : String) (value : Value) : Props :=
  (p.exchange key value).2

def get? (p : Props) (key : String) : Option Value :=
  p.entries.lookup key

def contains (p : Props) (key : String) : Bool :=
  (p.get? key).isSome

def size (p : Props) : Nat :=
  p.entries.length

def isEmpty (p : Props) : Bool :=
  p.entries.isEmpty

/-- The bag that comes of writing pairs, in order, into an empty one. -/
def ofList (pairs : List (String × Value)) : Props :=
  pairs.foldl (fun p (key, value) => p.insert key value) empty

/-- Equality of bags, order included. -/
def equal (p q : Props) : Bool :=
  p.entries.equal q.entries

/-- Writing tells what looking up would have found. -/
theorem fst_exchange (p : Props) (key : String) (value : Value) :
    (p.exchange key value).1 = p.get? key :=
  Entries.fst_exchange key value p.entries

/-- Writing changes what is found at its key and at no other. -/
theorem get?_insert (p : Props) (key other : String) (value : Value) :
    (p.insert key value).get? other = if other = key then some value else p.get? other :=
  Entries.lookup_exchange key other value p.entries

/-- Writing keeps the order of the keys and puts a new one last. -/
theorem keys_insert (p : Props) (key : String) (value : Value) :
    (p.insert key value).keys = if key ∈ p.keys then p.keys else p.keys ++ [key] :=
  Entries.keys_exchange key value p.entries

end Props

end ChildRules
