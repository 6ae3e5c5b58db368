import ChildRules.Value

/-!
# What nested values read as

The text of a list has commas and no brackets, so what it tells of a value is the row of its leaves:
what stands in it and is no list, and the empty lists, of which nothing is to be read but the commas
around them. Joining joins is joining all, unless one of them joins nothing at all. That does not
happen here, because every value has a leaf at least.
-/

namespace ChildRules

/-- Joining what was joined is joining all, if something was joined each time. -/
theorem intercalate_flatten {s : String} : ∀ {parts : List (List String)},
    (∀ part ∈ parts, part ≠ []) →
      s.intercalate (parts.map s.intercalate) = s.intercalate parts.flatten
  | [], _ => rfl
  | [part], _ => by simp
  | part :: next :: parts, h => by
    obtain ⟨hpart, hlater⟩ := List.forall_mem_cons.mp h
    have hnext : (next :: parts).flatten ≠ [] := by
      simp [hlater next List.mem_cons_self]
    calc s.intercalate ((part :: next :: parts).map s.intercalate)
      _ = s.intercalate part ++ s ++ s.intercalate ((next :: parts).map s.intercalate) :=
        String.intercalate_cons_of_ne_nil (by simp)
      _ = s.intercalate part ++ s ++ s.intercalate (next :: parts).flatten := by
        rw [intercalate_flatten hlater]
      _ = s.intercalate (part ++ (next :: parts).flatten) :=
        (String.intercalate_append_of_ne_nil hpart hnext).symm

namespace Value

mutual

/-- The texts of the leaves, from left to right. A value that is no list is a leaf, and an empty
list is one without text. -/
def leafTexts : Value → List String
  | .list [] => [""]
  | .list (v :: vs) => leafTexts v ++ leafTextsOf vs
  | v => [v.text]

def leafTextsOf : List Value → List String
  | [] => []
  | v :: vs => leafTexts v ++ leafTextsOf vs

end

theorem texts_eq_map : ∀ vs : List Value, texts vs = vs.map text
  | [] => rfl
  | v :: vs => congrArg (v.text :: ·) (texts_eq_map vs)

theorem text_list (items : List Value) :
    (list items).text = ",".intercalate (items.map text) := by
  rw [text, texts_eq_map]

theorem leafTextsOf_eq : ∀ vs : List Value, leafTextsOf vs = (vs.map leafTexts).flatten
  | [] => rfl
  | v :: vs => congrArg (v.leafTexts ++ ·) (leafTextsOf_eq vs)

/-- A list with items has their leaves. -/
theorem leafTexts_list {items : List Value} (h : items ≠ []) :
    (list items).leafTexts = (items.map leafTexts).flatten := by
  cases items with
  | nil => exact absurd rfl h
  | cons v vs => exact leafTextsOf_eq (v :: vs)

theorem leafTexts_ne_nil : ∀ v : Value, v.leafTexts ≠ []
  | .list [] => List.cons_ne_nil _ _
  | .list (v :: _) => List.append_ne_nil_of_left_ne_nil (leafTexts_ne_nil v) _
  | .null | .bool _ | .int _ | .float _ | .str _ => List.cons_ne_nil _ _

/-- If each of the items reads as its leaves, the list does. -/
theorem text_list_eq {items : List Value}
    (h : items.map text = items.map fun v => ",".intercalate v.leafTexts) :
    (list items).text = ",".intercalate (list items).leafTexts := by
  by_cases hnil : items = []
  · subst hnil
    rfl
  · have hleaves : ∀ part ∈ items.map leafTexts, part ≠ [] := by
      simp [leafTexts_ne_nil]
    rw [text_list, h, leafTexts_list hnil, ← intercalate_flatten hleaves, List.map_map]
    rfl

mutual

/-- **A value reads as its leaves**, whatever its depth. -/
theorem text_eq_join : ∀ v : Value, v.text = ",".intercalate v.leafTexts
  | .list items => text_list_eq (map_text_eq items)
  | .null | .bool _ | .int _ | .float _ | .str _ => String.intercalate_singleton.symm

theorem map_text_eq : ∀ vs : List Value,
    vs.map text = vs.map fun v => ",".intercalate v.leafTexts
  | [] => rfl
  | v :: vs => by rw [List.map_cons, List.map_cons, text_eq_join v, map_text_eq vs]

end

/-- Lists in a list read as one list of all their items, unless one of them is empty. -/
theorem text_list_map_list {lists : List (List Value)} (h : ∀ items ∈ lists, items ≠ []) :
    (list (lists.map list)).text = (list lists.flatten).text := by
  have hitems : ∀ part ∈ lists.map (List.map text), part ≠ [] := by
    simpa using h
  have htexts : (lists.map list).map text =
      (lists.map (List.map text)).map ",".intercalate := by
    rw [List.map_map, List.map_map]
    exact List.map_congr_left fun items _ => text_list items
  rw [text_list, text_list, htexts, intercalate_flatten hitems, List.map_flatten]

/-- **The text of a value erases how its lists nest.** It is the texts of its leaves with commas
between them. Values with the same leaves cannot be told apart, and lists in a list, unless one of
them is empty, not from one list of their items. -/
theorem text_erases_nesting :
    (∀ v : Value, v.text = ",".intercalate v.leafTexts) ∧
    (∀ v w : Value, v.leafTexts = w.leafTexts → v.text = w.text) ∧
    ∀ lists : List (List Value), (∀ items ∈ lists, items ≠ []) →
      (list (lists.map list)).text = (list lists.flatten).text := by
  refine ⟨text_eq_join, fun v w h => ?_, fun lists => text_list_map_list⟩
  rw [text_eq_join v, text_eq_join w, h]

/-- Sizes that are nested in several ways read the same. An empty list after others does not read as
if it were not there. -/
theorem sizes_read_flat :
    (list [list [int 1, list [bool true, list []]], list [null]]).text =
        (list [list [int 1], list [bool true, str ""], list [null]]).text ∧
      (∀ items ∈ [[int 1], [bool true, str ""], [null]], items ≠ []) ∧
      (list [list [int 1], list [bool true, str ""], list [null]]).text =
        (list [int 1, bool true, str "", null]).text ∧
      (list [list [int 1], list []]).text ≠ (list [int 1]).text := by
  obtain ⟨-, hsame, hflat⟩ := text_erases_nesting
  have hfull : ∀ items ∈ [[int 1], [bool true, str ""], [null]], items ≠ [] := by simp
  exact ⟨hsame _ _ rfl, hfull, hflat _ hfull, by decide⟩

end Value

end ChildRules
