import Mathlib.Data.Set.Card
import Mathlib.Logic.Relation
import ChildRules.Node.Registry

/-!
# What handles descend from

A registry keeps a handle to everything that its commands made. A handle is made together with a new
thing, or it is a copy of an earlier handle. Going back from copy to copy, every handle descends
from the making of one thing, and two handles share an identity exactly if that is the same making:
not the looks of things count, nor their names, but where they come from.

Whatever commands follow, a handle stays what it was, and so one identity never has two looks.
-/

namespace ChildRules

/-! ## Lineages -/

/-- Where handles come from, in the order in which they were made: a handle is a copy of the one at
an index, or there is none that it is a copy of. -/
abbrev Lineage := List (Option Nat)

namespace Lineage

/-- The handle was made together with a new thing. -/
def Made (l : Lineage) (o : Nat) : Prop :=
  l[o]? = some none

def CopyOf (l : Lineage) (a b : Nat) : Prop :=
  l[a]? = some (some b)

/-- The handle `a` descends through copies alone from the making of the handle `o`. -/
structure Descends (l : Lineage) (a o : Nat) : Prop where
  made : l.Made o
  copies : Relation.ReflTransGen l.CopyOf a o

/-- The makings that some things descend from, `xs` being the things of all handles. -/
def origins {α : Type} (l : Lineage) (xs ds : List α) : Set Nat :=
  {o | ∃ a, ∃ d ∈ ds, xs[a]? = some d ∧ l.Descends a o}

/-- Things whose handles have a lineage. What is made has an identity that nothing before it has,
and a copy is the thing that it is a copy of. -/
inductive Governs {α : Type} (identity : α → Identity) : Lineage → List α → Prop
  | blank : Governs identity [] []
  | made {l : Lineage} {xs : List α} {x : α} : Governs identity l xs →
    (∀ y ∈ xs, identity y ≠ identity x) → Governs identity (l ++ [none]) (xs ++ [x])
  | copied {l : Lineage} {xs : List α} {b : Nat} {x : α} : Governs identity l xs →
    xs[b]? = some x → Governs identity (l ++ [some b]) (xs ++ [x])

theorem getElem?_concat_eq_some_iff {β : Type} {ys : List β} {y z : β} {a : Nat} :
    (ys ++ [y])[a]? = some z ↔ ys[a]? = some z ∨ a = ys.length ∧ y = z := by
  rcases Nat.lt_trichotomy a ys.length with h | rfl | h
  · rw [List.getElem?_append_left h]
    exact ⟨Or.inl, fun hz => hz.resolve_right fun heq => h.ne heq.1⟩
  · simp
  · rw [List.getElem?_append_right h.le, List.getElem?_eq_none h.le,
      List.getElem?_eq_none (Nat.sub_pos_of_lt h)]
    simp [h.ne']

namespace Governs

variable {α : Type} {identity : α → Identity} {l : Lineage} {xs : List α}

theorem length_eq (h : Governs identity l xs) : xs.length = l.length := by
  induction h with
  | blank => rfl
  | made _ _ ih => simp [ih]
  | copied _ _ ih => simp [ih]

/-- Up to a handle of the lineage, one more thing makes no difference. -/
theorem getElem?_concat (h : Governs identity l xs) {o : Nat} {source : Option Nat}
    (ho : l[o]? = some source) {a : Nat} (ha : a ≤ o) (x : α) : (xs ++ [x])[a]? = xs[a]? :=
  List.getElem?_append_left
    (ha.trans_lt (h.length_eq ▸ (List.getElem?_eq_some_iff.mp ho).1))

/-- A copy comes later than what it is a copy of, and is the same thing. -/
theorem of_copyOf (h : Governs identity l xs) {a b : Nat} (hcopy : l.CopyOf a b) :
    b < a ∧ xs[a]? = xs[b]? := by
  induction h with
  | blank => cases hcopy
  | made hl _ ih =>
    rcases getElem?_concat_eq_some_iff.mp hcopy with hcopy | ⟨-, hnone⟩
    · obtain ⟨hlt, hsame⟩ := ih hcopy
      rw [hl.getElem?_concat hcopy le_rfl, hl.getElem?_concat hcopy hlt.le]
      exact ⟨hlt, hsame⟩
    · cases hnone
  | copied hl hx ih =>
    rcases getElem?_concat_eq_some_iff.mp hcopy with hcopy | ⟨rfl, hsome⟩
    · obtain ⟨hlt, hsame⟩ := ih hcopy
      rw [hl.getElem?_concat hcopy le_rfl, hl.getElem?_concat hcopy hlt.le]
      exact ⟨hlt, hsame⟩
    · cases hsome
      have hb := (List.getElem?_eq_some_iff.mp hx).1
      rw [← hl.length_eq, List.getElem?_concat_length, List.getElem?_append_left hb, hx]
      exact ⟨hb, rfl⟩

/-- Nothing before the making of a thing has its identity. -/
theorem ne_of_made (h : Governs identity l xs) {a o : Nat} {x y : α} (hmade : l.Made o)
    (hlt : a < o) (hx : xs[a]? = some x) (hy : xs[o]? = some y) : identity x ≠ identity y := by
  induction h with
  | blank => cases hmade
  | made hl hfresh ih =>
    rcases getElem?_concat_eq_some_iff.mp hmade with hmade | ⟨rfl, -⟩
    · rw [hl.getElem?_concat hmade hlt.le] at hx
      rw [hl.getElem?_concat hmade le_rfl] at hy
      exact ih hmade hx hy
    · rw [← hl.length_eq] at hlt hy
      rw [List.getElem?_append_left hlt] at hx
      rw [List.getElem?_concat_length, Option.some.injEq] at hy
      exact hy ▸ hfresh x (List.mem_of_getElem? hx)
  | copied hl _ ih =>
    rcases getElem?_concat_eq_some_iff.mp hmade with hmade | ⟨-, hsome⟩
    · rw [hl.getElem?_concat hmade hlt.le] at hx
      rw [hl.getElem?_concat hmade le_rfl] at hy
      exact ih hmade hx hy
    · cases hsome

theorem eq_of_made (h : Governs identity l xs) {o o' : Nat} {x y : α} (ho : l.Made o)
    (ho' : l.Made o') (hx : xs[o]? = some x) (hy : xs[o']? = some y)
    (hsame : identity x = identity y) : o = o' := by
  rcases Nat.lt_trichotomy o o' with hlt | heq | hlt
  · exact absurd hsame (h.ne_of_made ho' hlt hx hy)
  · exact heq
  · exact absurd hsame.symm (h.ne_of_made ho hlt hy hx)

/-! ## Handles and what they descend from -/

theorem getElem?_of_copies (h : Governs identity l xs) {a o : Nat}
    (hcopies : Relation.ReflTransGen l.CopyOf a o) : xs[a]? = xs[o]? := by
  induction hcopies with
  | refl => rfl
  | tail _ hcopy ih => rw [ih, (h.of_copyOf hcopy).2]

/-- Going back from copy to copy ends, because each step leads to an earlier handle. -/
theorem exists_descends (h : Governs identity l xs) {a : Nat} (ha : a < xs.length) :
    ∃ o, l.Descends a o := by
  induction a using Nat.strong_induction_on with
  | _ a ih =>
    obtain ⟨source, hsource⟩ : ∃ source, l[a]? = some source :=
      ⟨_, List.getElem?_eq_getElem (h.length_eq ▸ ha)⟩
    cases source with
    | none => exact ⟨a, hsource, Relation.ReflTransGen.refl⟩
    | some b =>
      have hlt := (h.of_copyOf hsource).1
      obtain ⟨o, hmade, hcopies⟩ := ih b hlt (hlt.trans ha)
      exact ⟨o, hmade, hcopies.head hsource⟩

/-- **Two handles share an identity exactly if they descend from one making.** -/
theorem same_iff (h : Governs identity l xs) {a b : Nat} {x y : α} (hx : xs[a]? = some x)
    (hy : xs[b]? = some y) :
    identity x = identity y ↔ ∃ o, l.Descends a o ∧ l.Descends b o := by
  constructor
  · intro hsame
    obtain ⟨o, ho⟩ := h.exists_descends (List.getElem?_eq_some_iff.mp hx).1
    obtain ⟨o', ho'⟩ := h.exists_descends (List.getElem?_eq_some_iff.mp hy).1
    rw [h.getElem?_of_copies ho.copies] at hx
    rw [h.getElem?_of_copies ho'.copies] at hy
    obtain rfl := h.eq_of_made ho.made ho'.made hx hy hsame
    exact ⟨o, ho, ho'⟩
  · rintro ⟨o, ho, ho'⟩
    rw [h.getElem?_of_copies ho.copies] at hx
    rw [h.getElem?_of_copies ho'.copies] at hy
    rw [Option.some.inj (hx.symm.trans hy)]

theorem descends_unique (h : Governs identity l xs) {a o o' : Nat} (ha : a < xs.length)
    (ho : l.Descends a o) (ho' : l.Descends a o') : o = o' := by
  have hx : xs[a]? = some xs[a] := List.getElem?_eq_getElem ha
  exact h.eq_of_made ho.made ho'.made ((h.getElem?_of_copies ho.copies) ▸ hx)
    ((h.getElem?_of_copies ho'.copies) ▸ hx) rfl

theorem existsUnique_descends (h : Governs identity l xs) {a : Nat} (ha : a < xs.length) :
    ∃! o, l.Descends a o := by
  obtain ⟨o, ho⟩ := h.exists_descends ha
  exact ⟨o, ho, fun o' ho' => h.descends_unique ha ho' ho⟩

/-- One identity has one look. -/
theorem eq_of_same (h : Governs identity l xs) {x y : α} (hx : x ∈ xs) (hy : y ∈ xs)
    (hsame : identity x = identity y) : x = y := by
  obtain ⟨a, hx⟩ := List.getElem?_of_mem hx
  obtain ⟨b, hy⟩ := List.getElem?_of_mem hy
  obtain ⟨o, ho, ho'⟩ := (h.same_iff hx hy).mp hsame
  rw [h.getElem?_of_copies ho.copies] at hx
  rw [h.getElem?_of_copies ho'.copies] at hy
  exact Option.some.inj (hx.symm.trans hy)

/-- Of any things as many have different identities as there are makings that they descend from. -/
theorem card_identities (h : Governs identity l xs) {ds : List α} (hds : ∀ d ∈ ds, d ∈ xs) :
    (ds.map identity).toFinset.card = (l.origins xs ds).ncard := by
  have horigin : ∀ o ∈ l.origins xs ds, l.Made o ∧ ∃ d ∈ ds, xs[o]? = some d := by
    rintro o ⟨a, d, hd, hx, ho⟩
    exact ⟨ho.made, d, hd, (h.getElem?_of_copies ho.copies) ▸ hx⟩
  have hinj : Set.InjOn (fun o => xs[o]?.map identity) (l.origins xs ds) := by
    intro o ho o' ho' hsame
    obtain ⟨hmade, d, -, hx⟩ := horigin o ho
    obtain ⟨hmade', d', -, hy⟩ := horigin o' ho'
    refine h.eq_of_made hmade hmade' hx hy (Option.some.inj ?_)
    simpa [hx, hy] using hsame
  have himage : (fun o => xs[o]?.map identity) '' l.origins xs ds =
      ((ds.map identity).toFinset.image some : Finset (Option Identity)) := by
    ext i
    constructor
    · rintro ⟨o, ho, rfl⟩
      obtain ⟨-, d, hd, hx⟩ := horigin o ho
      simpa [hx] using ⟨d, hd, rfl⟩
    · intro hi
      obtain ⟨j, hj, rfl⟩ := Finset.mem_image.mp (Finset.mem_coe.mp hi)
      obtain ⟨d, hd, rfl⟩ := List.mem_map.mp (List.mem_toFinset.mp hj)
      obtain ⟨a, hx⟩ := List.getElem?_of_mem (hds d hd)
      obtain ⟨o, ho⟩ := h.exists_descends (List.getElem?_eq_some_iff.mp hx).1
      refine ⟨o, ⟨a, d, hd, hx, ho⟩, ?_⟩
      simp only [← h.getElem?_of_copies ho.copies, hx, Option.map_some]
  rw [← hinj.ncard_image, himage, Set.ncard_coe_finset,
    Finset.card_image_of_injective _ (Option.some_injective _)]

end Governs

/-! ## Lineages and the supply of identities -/

/-- Things whose handles have a lineage, and whose identities all come from a supply. -/
structure Tracks {α : Type} (identity : α → Identity) (supply : Supply) (l : Lineage)
    (xs : List α) : Prop where
  governs : Governs identity l xs
  issued : ∀ x ∈ xs, supply.Issued (identity x)

namespace Tracks

variable {α : Type} {identity : α → Identity} {supply : Supply} {l : Lineage} {xs : List α}

theorem made (h : Tracks identity supply l xs) {x : α} (hx : identity x = ⟨supply.next⟩) :
    Tracks identity ⟨supply.next + 1⟩ (l ++ [none]) (xs ++ [x]) where
  governs := by
    refine h.governs.made fun y hy hsame => ?_
    -- What is handed out next was not handed out before.
    have hlt : (identity y).serial < supply.next := h.issued y hy
    rw [hsame, hx] at hlt
    exact Nat.lt_irrefl _ hlt
  issued := by
    intro y hy
    rcases List.mem_append.mp hy with hy | hy
    · exact Nat.lt_succ_of_lt (h.issued y hy)
    · rw [List.mem_singleton.mp hy, hx]
      exact Nat.lt_succ_self supply.next

theorem copied (h : Tracks identity supply l xs) {b : Nat} {x : α} (hx : xs[b]? = some x) :
    Tracks identity supply (l ++ [some b]) (xs ++ [x]) where
  governs := h.governs.copied hx
  issued := by
    intro y hy
    rcases List.mem_append.mp hy with hy | hy
    · exact h.issued y hy
    · rw [List.mem_singleton.mp hy]
      exact h.issued x (List.mem_of_getElem? hx)

/-- Identities that are handed out to other things change nothing. -/
theorem later (h : Tracks identity supply l xs) : Tracks identity ⟨supply.next + 1⟩ l xs :=
  ⟨h.governs, fun x hx => Nat.lt_succ_of_lt (h.issued x hx)⟩

end Tracks

end Lineage

theorem Component.countDistinct_eq_card (ds : List Component) :
    countDistinct ds = (ds.map identity).toFinset.card := by
  induction ds with
  | nil => rfl
  | cons d ds ih =>
    have hany : ds.any d.same = true ↔ d.identity ∈ (ds.map identity).toFinset := by
      rw [List.any_eq_true, List.mem_toFinset, List.mem_map]
      constructor
      · rintro ⟨c, hc, hsame⟩
        exact ⟨c, hc, (of_decide_eq_true hsame).symm⟩
      · rintro ⟨c, hc, hsame⟩
        exact ⟨c, hc, decide_eq_true hsame.symm⟩
    rw [countDistinct, ih, List.map_cons, List.toFinset_cons]
    by_cases h : d.identity ∈ (ds.map identity).toFinset
    · rw [if_pos (hany.mpr h), Finset.insert_eq_of_mem h, Nat.zero_add]
    · rw [if_neg (mt hany.mp h), Finset.card_insert_of_notMem h, Nat.add_comm]

/-- Nodes of one identity are one node, as all are that a registry keeps. -/
def Node.Coherent (ns : List Node) : Prop :=
  ∀ n ∈ ns, ∀ m ∈ ns, n.same m = true → n = m

namespace Registry

/-! ## Histories of commands -/

/-- What a command makes a handle to a node from, if it makes one. -/
def Command.nodeSource? : Command → Option (Option Nat)
  | .create _ | .update .. => some none
  | .copy i => some (some i)
  | .declare _ | .copyComponent _ => none

/-- What a command makes a handle to a component from, if it makes one. -/
def Command.componentSource? : Command → Option (Option Nat)
  | .declare _ => some none
  | .copyComponent i => some (some i)
  | .create _ | .copy _ | .update .. => none

def nodeLineage (history : List Command) : Lineage :=
  history.filterMap Command.nodeSource?

def componentLineage (history : List Command) : Lineage :=
  history.filterMap Command.componentSource?

/-- A command names no handle but those that the history before it made. -/
def Command.Refers (history : List Command) : Command → Prop
  | .copy i | .update i _ _ => i < (nodeLineage history).length
  | .copyComponent i => i < (componentLineage history).length
  | .create _ | .declare _ => True

instance Command.decidableRefers (history : List Command) :
    (c : Command) → Decidable (c.Refers history)
  | .copy i => inferInstanceAs (Decidable (i < (nodeLineage history).length))
  | .update i _ _ => inferInstanceAs (Decidable (i < (nodeLineage history).length))
  | .copyComponent i => inferInstanceAs (Decidable (i < (componentLineage history).length))
  | .create _ => inferInstanceAs (Decidable True)
  | .declare _ => inferInstanceAs (Decidable True)

/-- Each of some commands names only handles that were made before it. -/
def Grounded (history : List Command) : List Command → Prop
  | [] => True
  | c :: cs => c.Refers history ∧ Grounded (history ++ [c]) cs

instance decidableGrounded : (history cs : List Command) → Decidable (Grounded history cs)
  | _, [] => inferInstanceAs (Decidable True)
  | history, c :: cs =>
    have := decidableGrounded (history ++ [c]) cs
    inferInstanceAs (Decidable (_ ∧ _))

/-- What commands keep up: handles have the lineage that the history gives them, and the supply has
handed out the identities of all things. -/
structure Sound (history : List Command) (r : Registry) : Prop where
  nodes : Lineage.Tracks Node.identity r.supply (nodeLineage history) r.nodes
  components : Lineage.Tracks Component.identity r.supply (componentLineage history) r.components

theorem sound_blank : Sound [] blank :=
  ⟨⟨.blank, by simp [blank]⟩, ⟨.blank, by simp [blank]⟩⟩

theorem nodeLineage_concat (history : List Command) (c : Command) :
    nodeLineage (history ++ [c]) =
      match c.nodeSource? with
      | some source => nodeLineage history ++ [source]
      | none => nodeLineage history := by
  cases h : c.nodeSource? <;> simp [nodeLineage, h]

theorem componentLineage_concat (history : List Command) (c : Command) :
    componentLineage (history ++ [c]) =
      match c.componentSource? with
      | some source => componentLineage history ++ [source]
      | none => componentLineage history := by
  cases h : c.componentSource? <;> simp [componentLineage, h]

section Run

variable {history cs ds : List Command} {c : Command} {r s : Registry}

theorem Sound.run (h : Sound history r) (hrun : r.run c = some s) :
    Sound (history ++ [c]) s := by
  constructor
  · rw [nodeLineage_concat]
    cases c with
    | create e =>
      cases hrun
      exact h.nodes.made rfl
    | copy i =>
      obtain ⟨n, hn, rfl⟩ := Option.map_eq_some_iff.mp hrun
      exact h.nodes.copied hn
    | update i key value =>
      obtain ⟨n, hn, rfl⟩ := Option.map_eq_some_iff.mp hrun
      exact h.nodes.made rfl
    | declare name =>
      cases hrun
      exact h.nodes.later
    | copyComponent i =>
      obtain ⟨d, hd, rfl⟩ := Option.map_eq_some_iff.mp hrun
      exact h.nodes
  · rw [componentLineage_concat]
    cases c with
    | create e =>
      cases hrun
      exact h.components.later
    | copy i =>
      obtain ⟨n, hn, rfl⟩ := Option.map_eq_some_iff.mp hrun
      exact h.components
    | update i key value =>
      obtain ⟨n, hn, rfl⟩ := Option.map_eq_some_iff.mp hrun
      exact h.components.later
    | declare name =>
      cases hrun
      exact h.components.made rfl
    | copyComponent i =>
      obtain ⟨d, hd, rfl⟩ := Option.map_eq_some_iff.mp hrun
      exact h.components.copied hd

/-- A command that refers to nothing but earlier handles can be carried out. -/
theorem Sound.exists_run (h : Sound history r) (hc : c.Refers history) :
    ∃ s, r.run c = some s := by
  cases c with
  | create e => exact ⟨_, rfl⟩
  | copy i =>
    rw [Command.Refers, ← h.nodes.governs.length_eq] at hc
    exact ⟨_, congrArg (Option.map _) (List.getElem?_eq_getElem hc)⟩
  | update i key value =>
    rw [Command.Refers, ← h.nodes.governs.length_eq] at hc
    exact ⟨_, congrArg (Option.map _) (List.getElem?_eq_getElem hc)⟩
  | declare name => exact ⟨_, rfl⟩
  | copyComponent i =>
    rw [Command.Refers, ← h.components.governs.length_eq] at hc
    exact ⟨_, congrArg (Option.map _) (List.getElem?_eq_getElem hc)⟩

theorem Sound.runAll (h : Sound history r) (hrun : r.runAll cs = some s) :
    Sound (history ++ cs) s := by
  induction cs generalizing history r with
  | nil =>
    cases hrun
    rwa [List.append_nil]
  | cons c cs ih =>
    obtain ⟨q, hc, hcs⟩ := Option.bind_eq_some_iff.mp hrun
    rw [← List.singleton_append, ← List.append_assoc]
    exact ih (h.run hc) hcs

theorem Sound.exists_runAll (h : Sound history r) (hcs : Grounded history cs) :
    ∃ s, r.runAll cs = some s := by
  induction cs generalizing history r with
  | nil => exact ⟨r, rfl⟩
  | cons c cs ih =>
    obtain ⟨q, hc⟩ := h.exists_run hcs.1
    obtain ⟨s, hs⟩ := ih (h.run hc) hcs.2
    exact ⟨s, Option.bind_eq_some_iff.mpr ⟨q, hc, hs⟩⟩

theorem sound_of_runAll (h : blank.runAll cs = some r) : Sound cs r :=
  sound_blank.runAll h

theorem runAll_append (r : Registry) (cs ds : List Command) :
    r.runAll (cs ++ ds) = (r.runAll cs).bind (·.runAll ds) := by
  induction cs generalizing r with
  | nil => rfl
  | cons c cs ih =>
    rw [List.cons_append, runAll, runAll, Option.bind_assoc]
    exact congrArg _ (funext ih)

/-- **Commands only append.** -/
theorem isPrefix_run (h : r.run c = some s) :
    r.nodes <+: s.nodes ∧ r.components <+: s.components := by
  cases c with
  | create e =>
    cases h
    exact ⟨List.prefix_append _ _, List.prefix_rfl⟩
  | copy i =>
    obtain ⟨n, -, rfl⟩ := Option.map_eq_some_iff.mp h
    exact ⟨List.prefix_append _ _, List.prefix_rfl⟩
  | update i key value =>
    obtain ⟨n, -, rfl⟩ := Option.map_eq_some_iff.mp h
    exact ⟨List.prefix_append _ _, List.prefix_rfl⟩
  | declare name =>
    cases h
    exact ⟨List.prefix_rfl, List.prefix_append _ _⟩
  | copyComponent i =>
    obtain ⟨d, -, rfl⟩ := Option.map_eq_some_iff.mp h
    exact ⟨List.prefix_rfl, List.prefix_append _ _⟩

theorem isPrefix_runAll (h : r.runAll cs = some s) :
    r.nodes <+: s.nodes ∧ r.components <+: s.components := by
  induction cs generalizing r with
  | nil =>
    cases h
    exact ⟨List.prefix_rfl, List.prefix_rfl⟩
  | cons c cs ih =>
    obtain ⟨q, hc, hcs⟩ := Option.bind_eq_some_iff.mp h
    exact ⟨(isPrefix_run hc).1.trans (ih hcs).1, (isPrefix_run hc).2.trans (ih hcs).2⟩

theorem getElem?_of_isPrefix {α : Type} {xs ys : List α} (h : xs <+: ys) {a : Nat} {x : α}
    (hx : xs[a]? = some x) : ys[a]? = some x := by
  obtain ⟨ha, rfl⟩ := List.getElem?_eq_some_iff.mp hx
  exact List.prefix_iff_getElem?.mp h a ha

/-- The registries before and after a command of a history. What they hold is there in the end. -/
theorem exists_step (h : blank.runAll (cs ++ c :: ds) = some r) :
    ∃ q s, Sound cs q ∧ q.run c = some s ∧ ∀ (a : Nat) (n : Node), s.nodes[a]? = some n →
      r.nodes[a]? = some n := by
  rw [runAll_append] at h
  obtain ⟨q, hcs, h⟩ := Option.bind_eq_some_iff.mp h
  obtain ⟨s, hc, hds⟩ := Option.bind_eq_some_iff.mp h
  exact ⟨q, s, sound_of_runAll hcs, hc, fun a n => getElem?_of_isPrefix (isPrefix_runAll hds).1⟩

/-- What a history comes to: a registry that it leads to, and what is true of the handles in it. -/
structure Keeps (history : List Command) (r : Registry) : Prop where
  /-- There is a handle for each command that makes one, in order. -/
  length_nodes : r.nodes.length = (nodeLineage history).length
  length_components : r.components.length = (componentLineage history).length
  /-- Whatever commands come later, the thing that a handle stands for is what it was. -/
  stays (before after : List Command) : history = before ++ after →
    ∃ s, blank.runAll before = some s ∧
      (∀ (a : Nat) (n : Node), s.nodes[a]? = some n → r.nodes[a]? = some n) ∧
      ∀ (a : Nat) (d : Component), s.components[a]? = some d → r.components[a]? = some d
  created (before : List Command) (e : Element) (after : List Command) :
    history = before ++ .create e :: after →
      ∃ n, r.nodes[(nodeLineage before).length]? = some n ∧ n.toElement = e
  /-- A node made by setting a property differs from the one that it is made from in the writing of
  that property alone, and is none of the nodes before it. -/
  updated (before : List Command) (i : Nat) (key : String) (value : Value)
    (after : List Command) : history = before ++ .update i key value :: after →
      ∃ n m, i < (nodeLineage before).length ∧ r.nodes[i]? = some n ∧
        r.nodes[(nodeLineage before).length]? = some m ∧ m.kind = n.kind ∧
        m.props = n.props.insert key value ∧
        ∀ (a : Nat) (x : Node), a < (nodeLineage before).length → r.nodes[a]? = some x →
          m.same x = false
  coherent : Node.Coherent r.nodes
  node_origin (a : Nat) : a < r.nodes.length → ∃! o, (nodeLineage history).Descends a o
  same_node_iff (a b : Nat) (n m : Node) : r.nodes[a]? = some n → r.nodes[b]? = some m →
    (n.same m = true ↔
      ∃ o, (nodeLineage history).Descends a o ∧ (nodeLineage history).Descends b o)
  component_origin (a : Nat) :
    a < r.components.length → ∃! o, (componentLineage history).Descends a o
  same_component_iff (a b : Nat) (c d : Component) :
    r.components[a]? = some c → r.components[b]? = some d →
      (c.same d = true ↔
        ∃ o, (componentLineage history).Descends a o ∧ (componentLineage history).Descends b o)
  /-- Among any components as many are different as there are makings that they descend from. -/
  countDistinct_eq (ds : List Component) : (∀ d ∈ ds, d ∈ r.components) →
    Component.countDistinct ds = ((componentLineage history).origins r.components ds).ncard

theorem coherent_of_runAll (h : blank.runAll cs = some r) : Node.Coherent r.nodes :=
  fun _ hn _ hm hsame =>
    (sound_of_runAll h).nodes.governs.eq_of_same hn hm (of_decide_eq_true hsame)

theorem exists_created {e : Element} (h : blank.runAll (cs ++ .create e :: ds) = some r) :
    ∃ n, r.nodes[(nodeLineage cs).length]? = some n ∧ n.toElement = e := by
  obtain ⟨q, s, hsound, hrun, hstays⟩ := exists_step h
  cases hrun
  rw [← hsound.nodes.governs.length_eq]
  exact ⟨_, hstays _ _ List.getElem?_concat_length, rfl⟩

theorem exists_updated {i : Nat} {key : String} {value : Value}
    (h : blank.runAll (cs ++ .update i key value :: ds) = some r) :
    ∃ n m, i < (nodeLineage cs).length ∧ r.nodes[i]? = some n ∧
      r.nodes[(nodeLineage cs).length]? = some m ∧ m.kind = n.kind ∧
      m.props = n.props.insert key value := by
  obtain ⟨q, s, hsound, hrun, hstays⟩ := exists_step h
  obtain ⟨n, hn, rfl⟩ := Option.map_eq_some_iff.mp hrun
  have hi : i < q.nodes.length := (List.getElem?_eq_some_iff.mp hn).1
  rw [← hsound.nodes.governs.length_eq]
  refine ⟨n, _, hi, hstays i n ?_, hstays _ _ List.getElem?_concat_length, rfl, rfl⟩
  exact (List.getElem?_append_left hi).trans hn

theorem made_nodeLineage (h : c.nodeSource? = some none) :
    (nodeLineage (cs ++ c :: ds)).Made (nodeLineage cs).length := by
  simp [Lineage.Made, nodeLineage, h]

/-- **Handles keep what they stand for, and copies alone share an identity.** -/
theorem identity_follows_copies (history : List Command) (h : Grounded [] history) :
    ∃ r, blank.runAll history = some r ∧ Keeps history r := by
  obtain ⟨r, hrun⟩ := sound_blank.exists_runAll h
  have hsound := sound_of_runAll hrun
  refine ⟨r, hrun, ?_⟩
  exact {
    length_nodes := hsound.nodes.governs.length_eq
    length_components := hsound.components.governs.length_eq
    stays := by
      rintro before after rfl
      rw [runAll_append] at hrun
      obtain ⟨s, hs, hafter⟩ := Option.bind_eq_some_iff.mp hrun
      have hprefix := isPrefix_runAll hafter
      exact ⟨s, hs, fun a n => getElem?_of_isPrefix hprefix.1,
        fun a d => getElem?_of_isPrefix hprefix.2⟩
    created := by
      rintro before e after rfl
      exact exists_created hrun
    updated := by
      rintro before i key value after rfl
      obtain ⟨n, m, hi, hn, hm, hkind, hprops⟩ := exists_updated hrun
      refine ⟨n, m, hi, hn, hm, hkind, hprops, fun a x ha hx => decide_eq_false fun hsame => ?_⟩
      exact hsound.nodes.governs.ne_of_made (made_nodeLineage rfl) ha hx hm hsame.symm
    coherent := coherent_of_runAll hrun
    node_origin := fun a => hsound.nodes.governs.existsUnique_descends
    same_node_iff := by
      intro a b n m hn hm
      rw [← hsound.nodes.governs.same_iff hn hm]
      exact decide_eq_true_iff
    component_origin := fun a => hsound.components.governs.existsUnique_descends
    same_component_iff := by
      intro a b c d hc hd
      rw [← hsound.components.governs.same_iff hc hd]
      exact decide_eq_true_iff
    countDistinct_eq := by
      intro ds hds
      rw [Component.countDistinct_eq_card, hsound.components.governs.card_identities hds] }

end Run

/-- Two components of one name and a copy of the first. A node, a copy of it, and two nodes made
from it by setting a property: to the value that it has, and to another. -/
def lookalikes : List Command :=
  [.declare "Row", .declare "Row", .copyComponent 0,
    .create ⟨.tag "row", .ofList [("rand", .int 1), ("cols", .int 3)]⟩, .copy 0,
    .update 0 "rand" (.int 1), .update 0 "rand" (.int 2)]

theorem lookalikes_told_apart : Grounded [] lookalikes ∧
    ∃ r n m o, blank.runAll lookalikes = some r ∧ r.nodes = [n, n, m, o] ∧
      m.toElement = n.toElement ∧ m.same n = false ∧
      n.props = .ofList [("rand", .int 1), ("cols", .int 3)] ∧
      o.props = .ofList [("rand", .int 2), ("cols", .int 3)] ∧
      ((componentLineage lookalikes).origins r.components r.components).ncard = 2 := by
  have hgrounded : Grounded [] lookalikes := by decide
  obtain ⟨r, hrun, hkeeps⟩ := identity_follows_copies lookalikes hgrounded
  obtain ⟨n, m, -, hn, hm, -, -, hnew⟩ :=
    hkeeps.updated (lookalikes.take 5) 0 "rand" (.int 1) (lookalikes.drop 6) rfl
  have hfresh : m.same n = false := hnew 0 n (by decide) hn
  obtain ⟨n', o, -, hn', ho, -, hprops, -⟩ :=
    hkeeps.updated (lookalikes.take 6) 0 "rand" (.int 2) [] rfl
  obtain rfl := Option.some.inj (hn'.symm.trans hn)
  obtain rfl := Option.some.inj (hrun.symm.trans rfl)
  cases hn
  cases hm
  cases ho
  exact ⟨hgrounded, _, _, _, _, rfl, rfl, rfl, hfresh, rfl, hprops,
    (hkeeps.countDistinct_eq _ fun _ hd => hd).symm.trans rfl⟩

end Registry

end ChildRules
