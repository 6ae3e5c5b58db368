import ChildRules.Node
import ChildRules.Proofs.Histories

/-!
# Markup after updates

Markup lists properties in the order of the bag, one setting after the other. An update therefore
shows in one setting: in place of the one that was there or, for a new key, after all others. After
any number of updates each key is listed once, where it first came, with the value that came last.
Nothing is said of the texts of keys and values, which can look like markup themselves.
-/

namespace ChildRules

/-! ## Where writing takes place -/

namespace Entries

theorem snd_exchange_of_not_mem {key : String} (value : Value) {es : Entries}
    (h : key ∉ es.keys) : (es.exchange key value).2 = es ++ [(key, value)] := by
  induction es with
  | nil => rfl
  | cons e rest ih =>
    obtain ⟨k, v⟩ := e
    obtain ⟨hne, hrest⟩ := not_or.mp (mt List.mem_cons.mpr h)
    simp [exchange, Ne.symm hne, ih hrest]

theorem snd_exchange_append_cons {key : String} (old value : Value) {before : Entries}
    (h : key ∉ before.keys) (after : Entries) :
    (exchange key value (before ++ (key, old) :: after)).2 =
      before ++ (key, value) :: after := by
  induction before with
  | nil => simp [exchange]
  | cons e rest ih =>
    obtain ⟨k, v⟩ := e
    obtain ⟨hne, hrest⟩ := not_or.mp (mt List.mem_cons.mpr h)
    simp [exchange, Ne.symm hne, ih hrest]

end Entries

namespace Props

/-- What is listed of a bag after pairs were written into it: its keys in their order, then the new
ones in the order of their first use. Each is listed once, with the value that was written last or
else the one that it had. -/
structure Listed (p : Props) (written : List (String × Value)) (listed : Entries) : Prop where
  keys_eq : listed.keys = p.keys ++ ((written.map Prod.fst).removeAll p.keys).eraseDups
  nodup_keys : listed.keys.Nodup
  value_eq {key : String} {value : Value} : (key, value) ∈ listed →
    (written.reverse.lookup key).or (p.get? key) = some value

/-- Writing into a bag goes on with its history. -/
theorem foldl_insert_eq (p : Props) (written : List (String × Value)) :
    written.foldl (fun q (key, value) => q.insert key value) p = ofList (p.entries ++ written) := by
  conv_lhs => rw [← ofList_entries p]
  exact List.foldl_append.symm

theorem listed_ofList (p : Props) (written : List (String × Value)) :
    p.Listed written (ofList (p.entries ++ written)).entries := by
  have hkeys : (p.entries.map Prod.fst).eraseDups = p.keys := eraseDups_of_nodup p.nodup_keys
  refine ⟨?_, (ofList (p.entries ++ written)).nodup_keys, ?_⟩
  · show (ofList (p.entries ++ written)).keys = _
    rw [keys_ofList, List.map_append, List.eraseDups_append, hkeys]
    rfl
  · intro key value hmem
    rw [← get?_eq_some_iff, get?_ofList, List.reverse_append, List.lookup_append,
      ← get?_ofList p.entries, ofList_entries] at hmem
    exact hmem

end Props

/-! ## Settings -/

namespace Element

theorem settings_append (es fs : Entries) : settings (es ++ fs) = settings es ++ settings fs := by
  induction es with
  | nil => simp [settings]
  | cons e es ih => simp [settings, ih, String.append_assoc]

theorem settings_eq_join (es : Entries) :
    settings es = String.join (es.map fun (key, value) => setting key value) := by
  induction es with
  | nil => rfl
  | cons e es ih => rw [settings, ih, List.map_cons, String.join_cons]

/-- A new key is listed after all others. -/
theorem markup_withProp_of_new {e : Element} {key : String} (h : e.prop? key = none)
    (value : Value) : (e.withProp key value).markup =
      "<" ++ e.name ++ settings e.props.entries ++ setting key value ++ " />" := by
  have habsent : key ∉ e.props.entries.keys := by
    intro hmem
    have hcontains : (e.prop? key).isSome = true := Props.mem_keys_iff.mp hmem
    rw [h] at hcontains
    cases hcontains
  show "<" ++ e.name ++ settings (e.props.entries.exchange key value).2 ++ " />" = _
  rw [Entries.snd_exchange_of_not_mem value habsent, settings_append]
  simp [settings, String.append_assoc]

/-- A key that is there keeps its place, and so do all others. -/
theorem markup_withProp_of_entries {e : Element} {key : String} {before after : Entries}
    {old : Value} (h : e.props.entries = before ++ (key, old) :: after) (value : Value) :
    (e.withProp key value).markup =
      "<" ++ e.name ++ settings before ++ setting key value ++ settings after ++ " />" := by
  have hbefore : key ∉ before.keys := by
    have hnodup := e.props.nodup_keys
    rw [h, Entries.keys, List.map_append, List.nodup_append] at hnodup
    intro hmem
    exact hnodup.2.2 key hmem key List.mem_cons_self rfl
  show "<" ++ e.name ++ settings (e.props.entries.exchange key value).2 ++ " />" = _
  rw [h, Entries.snd_exchange_append_cons old value hbefore, settings_append, settings]
  simp only [String.append_assoc]

end Element

/-! ## Updates of a node -/

namespace Node

open Element

/-- One update after the other, each of the node that the one before it gave. -/
def withProps (n : Node) (written : List (String × Value)) : StateM Supply Node :=
  written.foldlM (fun m (key, value) => m.withProp key value) n

theorem toElement_withProps (n : Node) (written : List (String × Value)) (s : Supply) :
    ((n.withProps written).run s).1.toElement =
      ⟨n.kind, written.foldl (fun p (key, value) => p.insert key value) n.props⟩ := by
  induction written generalizing n s with
  | nil => rfl
  | cons e written ih =>
    obtain ⟨key, value⟩ := e
    exact ih ((n.withProp key value).run s).1 ((n.withProp key value).run s).2

/-- **An update shows in its own place alone.** If the key is new, its setting comes right before
the end of the markup. If it is there, its setting changes where it stands. So after any updates
the keys that the node had are listed in their order, and then the new ones in the order in which
they were first used, each once and with its last value. -/
theorem updates_show_in_place (n : Node) (s : Supply) :
    (∀ key value, n.prop? key = none →
      ∃ head, n.markup = head ++ " />" ∧
        ((n.withProp key value).run s).1.markup = head ++ setting key value ++ " />") ∧
    (∀ before key old after value, n.props.entries = before ++ (key, old) :: after →
      n.markup =
        "<" ++ n.name ++ settings before ++ setting key old ++ settings after ++ " />" ∧
      ((n.withProp key value).run s).1.markup =
        "<" ++ n.name ++ settings before ++ setting key value ++ settings after ++ " />") ∧
    ∀ written, ∃ listed, n.props.Listed written listed ∧
      ((n.withProps written).run s).1.markup =
        "<" ++ n.name ++ String.join (listed.map fun (key, value) => setting key value)
          ++ " />" := by
  refine ⟨?_, ?_, ?_⟩
  · intro key value hnew
    exact ⟨"<" ++ n.name ++ settings n.props.entries, rfl, markup_withProp_of_new hnew value⟩
  · intro before key old after value hentries
    refine ⟨?_, markup_withProp_of_entries hentries value⟩
    rw [markup, hentries, settings_append, settings]
    simp only [String.append_assoc]
  · intro written
    refine ⟨_, n.props.listed_ofList written, ?_⟩
    rw [toElement_withProps, Props.foldl_insert_eq, ← settings_eq_join]
    rfl

/-- A row whose title looks like the end of its markup. -/
def titledRow : Node :=
  ⟨⟨.tag "row", .ofList [("width", .int 1), ("title", .str "\x7d />")]⟩, ⟨0⟩⟩

/-- Its width changes in place. Its height is new, and a depth that is written later comes later,
even if the height is written once more. -/
theorem titledRow_updated :
    titledRow.prop? "height" = none ∧
      (∃ head, titledRow.markup = head ++ " />" ∧
        ((titledRow.withProp "height" .null).run ⟨1⟩).1.markup =
          head ++ setting "height" .null ++ " />") ∧
      titledRow.props.entries = [] ++ ("width", .int 1) :: [("title", .str "\x7d />")] ∧
      ((titledRow.withProp "width" (.int 3)).run ⟨1⟩).1.markup =
        "<row width=\x7b3\x7d title=\x7b\x7d />\x7d />" ∧
      ∃ listed : Entries, listed.keys = ["width", "title", "height", "depth"] ∧
        ((titledRow.withProps [("height", .int 2), ("width", .int 3), ("depth", .null),
            ("height", .int 4)]).run ⟨1⟩).1.markup =
          "<row" ++ String.join (listed.map fun (key, value) => setting key value) ++ " />" := by
  obtain ⟨hnew, hplace, hall⟩ := updates_show_in_place titledRow ⟨1⟩
  obtain ⟨listed, hlisted, hmarkup⟩ := hall [("height", .int 2), ("width", .int 3),
    ("depth", .null), ("height", .int 4)]
  refine ⟨rfl, hnew "height" .null rfl, rfl, ?_, listed, ?_, hmarkup⟩
  · exact (hplace [] "width" (.int 1) [("title", .str "\x7d />")] (.int 3) rfl).2.trans (by decide)
  · exact hlisted.keys_eq.trans (by decide)

end Node

end ChildRules
