import Mathlib.Data.Finset.Card
import ChildRules.Props

/-!
# What a bag of properties remembers

A bag is made empty or from pairs, and then written into. It is known by the pairs written in all,
in order, and by nothing else: its keys are theirs, each in the place where it first came, and each
has the value that came last. That looking up stops at the first entry is harmless because no key
stands twice, so an entry is known by its key and a place by its entry.
-/

namespace ChildRules

/-! ## Entries known by their keys -/

/-- With distinct keys every entry is found. The later of two under one key would be lost. -/
theorem Entries.lookup_eq_some_iff_mem {es : Entries} (distinct : es.keys.Nodup) {key : String}
    {value : Value} : es.lookup key = some value ↔ (key, value) ∈ es := by
  induction es with
  | nil => simp
  | cons e rest ih =>
    obtain ⟨k, v⟩ := e
    obtain ⟨hfresh, hrest⟩ := List.nodup_cons.mp distinct
    rw [List.lookup_cons, List.mem_cons]
    by_cases h : key = k
    · subst h
      have habsent : (key, value) ∉ rest := fun hmem => hfresh (List.mem_map.mpr ⟨_, hmem, rfl⟩)
      simp [habsent, eq_comm]
    · simp [beq_eq_false_iff_ne.mpr h, h, ih hrest]

namespace Props

theorem get?_eq_some_iff {p : Props} {key : String} {value : Value} :
    p.get? key = some value ↔ (key, value) ∈ p.entries :=
  Entries.lookup_eq_some_iff_mem p.nodup_keys

/-- An entry stands where its key does and has the value that looking the key up finds. -/
theorem getElem?_entries {p : Props} {i : Nat} {key : String} {value : Value} :
    p.entries[i]? = some (key, value) ↔ p.keys[i]? = some key ∧ p.get? key = some value := by
  have hkeys : p.keys[i]? = p.entries[i]?.map Prod.fst := List.getElem?_map
  rw [hkeys]
  constructor
  · intro h
    rw [h]
    exact ⟨rfl, get?_eq_some_iff.mpr (List.mem_of_getElem? h)⟩
  · rintro ⟨hkey, hvalue⟩
    obtain ⟨⟨k, v⟩, hentry, rfl⟩ := Option.map_eq_some_iff.mp hkey
    -- The entry at `i` is the one that is found.
    rw [get?_eq_some_iff.mpr (List.mem_of_getElem? hentry)] at hvalue
    rw [hentry, Option.some.inj hvalue]

/-- A bag is known by the order of its keys and by what is found at each. -/
theorem eq_of_keys_eq {p q : Props} (hkeys : p.keys = q.keys)
    (hget : ∀ key, p.get? key = q.get? key) : p = q := by
  have hentries : p.entries = q.entries := by
    apply List.ext_getElem?
    intro i
    ext ⟨key, value⟩
    rw [getElem?_entries, getElem?_entries, hkeys, hget]
  cases p
  cases q
  congr

theorem mem_keys_iff {p : Props} {key : String} : key ∈ p.keys ↔ p.contains key = true := by
  rw [contains, Option.isSome_iff_exists]
  show key ∈ p.entries.map Prod.fst ↔ _
  simp only [get?_eq_some_iff, List.mem_map, Prod.exists, exists_and_right, exists_eq_right]

theorem size_eq_card (p : Props) : p.size = p.keys.toFinset.card := by
  have hkeys : p.keys.Nodup := p.nodup_keys
  rw [List.toFinset_card_of_nodup hkeys]
  exact (List.length_map Prod.fst).symm

/-! ## Writing at one key -/

/-- Writing moves no other key. -/
theorem getElem?_keys_insert {p : Props} {key other : String} (hne : other ≠ key) (value : Value)
    (i : Nat) : (p.insert key value).keys[i]? = some other ↔ p.keys[i]? = some other := by
  rw [keys_insert]
  split
  · rfl
  · rcases Nat.lt_or_ge i p.keys.length with hlt | hge
    · rw [List.getElem?_append_left hlt]
    · -- Nothing stands there but the new key.
      rw [List.getElem?_append_right hge, List.getElem?_eq_none hge]
      cases i - p.keys.length <;> simp [hne.symm]

/-- Writing changes neither the value nor the place of another key. -/
theorem getElem?_entries_insert {p : Props} {key other : String} (hne : other ≠ key)
    (value : Value) (i : Nat) (v : Value) :
    (p.insert key value).entries[i]? = some (other, v) ↔ p.entries[i]? = some (other, v) := by
  rw [getElem?_entries, getElem?_entries, getElem?_keys_insert hne, get?_insert, if_neg hne]

/-! ## Writing pair after pair -/

theorem ofList_concat (pairs : List (String × Value)) (key : String) (value : Value) :
    ofList (pairs ++ [(key, value)]) = (ofList pairs).insert key value := by
  rw [ofList, List.foldl_append]
  rfl

/-- The keys come in the order in which they were first written. -/
theorem keys_ofList (pairs : List (String × Value)) :
    (ofList pairs).keys = (pairs.map Prod.fst).eraseDups := by
  induction pairs using List.reverseRecOn with
  | nil => rfl
  | append_singleton pairs e ih =>
    obtain ⟨key, value⟩ := e
    rw [ofList_concat, keys_insert, ih, List.map_append, List.eraseDups_append]
    by_cases h : key ∈ pairs.map Prod.fst
    · rw [if_pos (List.mem_eraseDups.mpr h)]
      simp [List.removeAll, List.mem_map.mp h]
    · rw [if_neg (mt List.mem_eraseDups.mp h)]
      simp [List.removeAll, h, List.eraseDups_cons]

/-- What is found at a key is what was written there last. -/
theorem get?_ofList (pairs : List (String × Value)) (key : String) :
    (ofList pairs).get? key = pairs.reverse.lookup key := by
  induction pairs using List.reverseRecOn with
  | nil => rfl
  | append_singleton pairs e ih =>
    obtain ⟨k, v⟩ := e
    rw [ofList_concat, get?_insert, ih, List.reverse_concat, List.lookup_cons]
    by_cases h : key = k
    · simp [h]
    · rw [if_neg h, beq_eq_false_iff_ne.mpr h]

theorem contains_ofList {pairs : List (String × Value)} {key : String} :
    (ofList pairs).contains key = true ↔ key ∈ pairs.map Prod.fst := by
  rw [← mem_keys_iff, keys_ofList, List.mem_eraseDups]

theorem size_ofList (pairs : List (String × Value)) :
    (ofList pairs).size = (pairs.map Prod.fst).toFinset.card := by
  have hsame : (ofList pairs).keys.toFinset = (pairs.map Prod.fst).toFinset := by
    ext key
    rw [List.mem_toFinset, List.mem_toFinset, keys_ofList, List.mem_eraseDups]
  rw [size_eq_card, hsame]

/-! ## Bags and their histories -/

theorem eraseDups_of_nodup {keys : List String} (h : keys.Nodup) : keys.eraseDups = keys := by
  induction keys with
  | nil => rfl
  | cons key keys ih =>
    obtain ⟨hfresh, hkeys⟩ := List.nodup_cons.mp h
    have hothers : keys.filter (!· == key) = keys := by
      rw [List.filter_eq_self]
      intro other hmem
      simpa using ne_of_mem_of_not_mem hmem hfresh
    rw [List.eraseDups_cons, hothers, ih hkeys]

/-- Collecting the entries of a bag gives the bag again, so every bag has a history. -/
theorem ofList_entries (p : Props) : ofList p.entries = p := by
  apply eq_of_keys_eq
  · rw [keys_ofList]
    exact eraseDups_of_nodup p.nodup_keys
  · intro key
    have hnodup : (Entries.keys p.entries.reverse).Nodup := by
      rw [Entries.keys, List.map_reverse, List.nodup_reverse]
      exact p.nodup_keys
    ext value
    rw [get?_ofList, get?_eq_some_iff, Entries.lookup_eq_some_iff_mem hnodup, List.mem_reverse]

/-- The bags that come of an empty one or of collected pairs by writing, with all that was written
up to then. Writing may tell what it replaces or only give the bag. -/
inductive Reached : List (String × Value) → Props → Prop
  | empty : Reached [] .empty
  | collected (pairs : List (String × Value)) : Reached pairs (.ofList pairs)
  | exchanged {history : List (String × Value)} {p : Props} (key : String) (value : Value) :
    Reached history p → Reached (history ++ [(key, value)]) (p.exchange key value).2
  | inserted {history : List (String × Value)} {p : Props} (key : String) (value : Value) :
    Reached history p → Reached (history ++ [(key, value)]) (p.insert key value)

/-- A history leaves no choice of the bag. -/
theorem Reached.eq_ofList {history : List (String × Value)} {p : Props} (h : Reached history p) :
    p = ofList history := by
  induction h with
  | empty => rfl
  | collected pairs => rfl
  | exchanged key value _ ih =>
    rw [ofList_concat, ← ih]
    rfl
  | inserted key value _ ih => rw [ofList_concat, ← ih]

/-- What a bag recalls of the pairs that were written into it. -/
structure Recalls (history : List (String × Value)) (p : Props) : Prop where
  nodup_keys : p.keys.Nodup
  /-- The keys come in the order in which they were first written. -/
  keys_eq : p.keys = (history.map Prod.fst).eraseDups
  /-- What is listed is what is found. -/
  mem_entries_iff (key : String) (value : Value) :
    (key, value) ∈ p.entries ↔ p.get? key = some value
  /-- What is found at a key is what was written there last. -/
  get?_eq (key : String) : p.get? key = history.reverse.lookup key
  get?_eq_none_iff (key : String) : p.get? key = none ↔ key ∉ history.map Prod.fst
  contains_eq (key : String) : p.contains key = (p.get? key).isSome
  size_eq : p.size = (history.map Prod.fst).toFinset.card
  /-- Writing tells what was found before. -/
  fst_exchange_eq (key : String) (value : Value) : (p.exchange key value).1 = p.get? key
  /-- Writing at a key leaves the values and the places of the others. -/
  entries_exchange_iff (key other : String) (value v : Value) (i : Nat) : other ≠ key →
    ((p.exchange key value).2.entries[i]? = some (other, v) ↔ p.entries[i]? = some (other, v))
  /-- Collecting the pairs comes to the same. -/
  eq_collected : p = .ofList history
  /-- So does writing them one by one. -/
  eq_written : p = history.foldl (fun q (key, value) => (q.exchange key value).2) .empty

/-- **A bag is a map in insertion order**, whichever way its history went. -/
theorem insertion_ordered {history : List (String × Value)} {p : Props} (h : Reached history p) :
    Recalls history p := by
  obtain rfl := h.eq_ofList
  have hnone : ∀ key, (ofList history).get? key = none ↔ key ∉ history.map Prod.fst := by
    intro key
    rw [← contains_ofList, contains, Option.not_isSome_iff_eq_none]
  exact {
    nodup_keys := (ofList history).nodup_keys
    keys_eq := keys_ofList history
    mem_entries_iff := fun _ _ => get?_eq_some_iff.symm
    get?_eq := get?_ofList history
    get?_eq_none_iff := hnone
    contains_eq := fun _ => rfl
    size_eq := size_ofList history
    fst_exchange_eq := fst_exchange (ofList history)
    entries_exchange_iff := fun _ _ value v i hne => getElem?_entries_insert hne value i v
    eq_collected := rfl
    eq_written := rfl }

/-- A key that is collected and then written again keeps its place before the other. -/
theorem rand_keeps_its_place :
    Reached [("rand", .int 1), ("label", .str "x"), ("rand", .int 100)]
        ((ofList [("rand", .int 1), ("label", .str "x")]).exchange "rand" (.int 100)).2 ∧
      ((ofList [("rand", .int 1), ("label", .str "x")]).exchange "rand" (.int 100)).2.keys =
        ["rand", "label"] ∧
      ((ofList [("rand", .int 1), ("label", .str "x")]).exchange "rand" (.int 100)).2.get? "rand" =
        some (.int 100) := by
  have h : Reached [("rand", .int 1), ("label", .str "x"), ("rand", .int 100)]
      ((ofList [("rand", .int 1), ("label", .str "x")]).exchange "rand" (.int 100)).2 :=
    .exchanged "rand" (.int 100) (.collected [("rand", .int 1), ("label", .str "x")])
  have hrecalls := insertion_ordered h
  exact ⟨h, hrecalls.keys_eq.trans (by decide), (hrecalls.get?_eq "rand").trans rfl⟩

end Props

end ChildRules
