import Mathlib.Data.List.Forall2
import ChildRules.Proofs.Lineage
import ChildRules.Proofs.Numbers

/-!
# Equality of values and of nodes

Equality of values is symmetric and transitive, but a value that holds what is not a number differs
from itself. Nodes have two ways to be equal: they are one node, or they look alike. The first way
in makes every node equal to itself, whatever it holds. It does no harm to the rest, because nodes
of one identity are one node and so look alike to third ones in the same way.
-/

namespace ChildRules

theorem Binary64.equal_trans {x y z : Binary64} (hxy : x.equal y = true)
    (hyz : y.equal z = true) : x.equal z = true := by
  rw [equal_iff_units] at hxy hyz ⊢
  exact ⟨hxy.1, hyz.2.1, hxy.2.2.trans hyz.2.2⟩

/-! ## Values -/

namespace Value

/-- What is not a number stands somewhere in the value, at whatever depth. -/
inductive HoldsNaN : Value → Prop where
  | float {x : Binary64} (nan : x.isNaN = true) : HoldsNaN (.float x)
  | item {v : Value} {items : List Value} (mem : v ∈ items) (holds : v.HoldsNaN) :
    HoldsNaN (.list items)

theorem holdsNaN_float_iff {x : Binary64} : (float x).HoldsNaN ↔ x.isNaN = true := by
  constructor
  · rintro ⟨nan⟩
    exact nan
  · exact .float

theorem holdsNaN_list_iff {items : List Value} :
    (list items).HoldsNaN ↔ ∃ v ∈ items, v.HoldsNaN := by
  constructor
  · rintro (_ | ⟨mem, holds⟩)
    exact ⟨_, mem, holds⟩
  · rintro ⟨v, mem, holds⟩
    exact .item mem holds

/-! Lists of values stand in values, so each fact is proved of both, along one and the other. -/

mutual

theorem equal_comm : ∀ v w : Value, v.equal w = w.equal v
  | .list vs, w => by
    cases w with
    | list ws => exact equalAll_comm vs ws
    | _ => rfl
  | .float x, w => by
    cases w with
    | float y => exact Binary64.equal_comm x y
    | _ => rfl
  | .null, w => by cases w <;> rfl
  | .bool b, w => by
    cases w with
    | bool c => exact BEq.comm
    | _ => rfl
  | .int m, w => by
    cases w with
    | int n => exact BEq.comm
    | _ => rfl
  | .str s, w => by
    cases w with
    | str t => exact BEq.comm
    | _ => rfl

theorem equalAll_comm : ∀ vs ws : List Value, equalAll vs ws = equalAll ws vs
  | [], ws => by cases ws <;> rfl
  | v :: vs, ws => by
    cases ws with
    | nil => rfl
    | cons w ws =>
      show (v.equal w && equalAll vs ws) = (w.equal v && equalAll ws vs)
      rw [equal_comm v w, equalAll_comm vs ws]

end

mutual

theorem equal_trans : ∀ {u v w : Value}, u.equal v = true → v.equal w = true → u.equal w = true
  | .list us, v, w, huv, hvw => by
    cases v with
    | list vs =>
      cases w with
      | list ws => exact equalAll_trans huv hvw
      | _ => cases hvw
    | _ => cases huv
  | .float x, v, w, huv, hvw => by
    cases v with
    | float y =>
      cases w with
      | float z => exact Binary64.equal_trans huv hvw
      | _ => cases hvw
    | _ => cases huv
  | .null, v, w, huv, hvw => by
    cases v with
    | null => exact hvw
    | _ => cases huv
  | .bool b, v, w, huv, hvw => by
    cases v with
    | bool c =>
      obtain rfl : b = c := eq_of_beq huv
      exact hvw
    | _ => cases huv
  | .int m, v, w, huv, hvw => by
    cases v with
    | int n =>
      obtain rfl : m = n := eq_of_beq huv
      exact hvw
    | _ => cases huv
  | .str s, v, w, huv, hvw => by
    cases v with
    | str t =>
      obtain rfl : s = t := eq_of_beq huv
      exact hvw
    | _ => cases huv

theorem equalAll_trans : ∀ {us vs ws : List Value}, equalAll us vs = true →
    equalAll vs ws = true → equalAll us ws = true
  | [], [], _, _, hvw => hvw
  | u :: us, v :: vs, [], _, hvw => hvw
  | u :: us, v :: vs, w :: ws, huv, hvw => by
    obtain ⟨hu, hus⟩ := Bool.and_eq_true_iff.mp huv
    obtain ⟨hv, hvs⟩ := Bool.and_eq_true_iff.mp hvw
    exact Bool.and_eq_true_iff.mpr ⟨equal_trans hu hv, equalAll_trans hus hvs⟩

end

mutual

/-- **A value equals itself unless it holds what is not a number.** -/
theorem equal_self_iff : ∀ v : Value, v.equal v = true ↔ ¬ v.HoldsNaN
  | .list items => by
    show equalAll items items = true ↔ _
    rw [equalAll_self_iff items, holdsNaN_list_iff]
    simp
  | .float x => by
    show x.equal x = true ↔ _
    rw [Binary64.equal_self, holdsNaN_float_iff, Bool.not_eq_true', Bool.not_eq_true]
  | .null => iff_of_true rfl nofun
  | .bool b => iff_of_true (beq_self_eq_true b) nofun
  | .int n => iff_of_true (beq_self_eq_true n) nofun
  | .str s => iff_of_true (beq_self_eq_true s) nofun

theorem equalAll_self_iff : ∀ vs : List Value, equalAll vs vs = true ↔ ∀ v ∈ vs, ¬ v.HoldsNaN
  | [] => iff_of_true rfl (by simp)
  | v :: vs => by
    show (v.equal v && equalAll vs vs) = true ↔ _
    rw [Bool.and_eq_true_iff, equal_self_iff v, equalAll_self_iff vs, List.forall_mem_cons]

end

end Value

/-! ## Properties and kinds -/

/-- The entries have the same keys in the same order, each with equal values. -/
def Entries.Match (es fs : Entries) : Prop :=
  List.Forall₂ (fun e f => e.1 = f.1 ∧ e.2.equal f.2 = true) es fs

namespace Entries

theorem equal_iff_match : ∀ es fs : Entries, equal es fs = true ↔ es.Match fs
  | [], [] => iff_of_true rfl .nil
  | [], f :: fs => iff_of_false nofun nofun
  | e :: es, [] => iff_of_false nofun nofun
  | (k, v) :: es, (l, w) :: fs => by
    rw [equal, Bool.and_eq_true_iff, Bool.and_eq_true_iff, beq_iff_eq, equal_iff_match es fs,
      Match, Match, List.forall₂_cons]

theorem Match.symm {es fs : Entries} (h : es.Match fs) : fs.Match es := by
  refine (List.Forall₂.imp ?_ h).flip
  rintro e f ⟨hkey, hvalue⟩
  exact ⟨hkey.symm, (Value.equal_comm _ _).trans hvalue⟩

theorem Match.trans {es fs gs : Entries} (hef : es.Match fs) (hfg : fs.Match gs) :
    es.Match gs := by
  induction hef generalizing gs with
  | nil => exact hfg
  | cons hentry _ ih =>
    cases hfg with
    | cons hentry' hlater =>
      exact .cons ⟨hentry.1.trans hentry'.1, Value.equal_trans hentry.2 hentry'.2⟩ (ih hlater)

end Entries

/-- Kinds that are the same, whatever components are called. -/
inductive Kind.Alike : Kind → Kind → Prop where
  | tag (name : String) : Alike (.tag name) (.tag name)
  | component {c d : Component} (identity : c.identity = d.identity) :
    Alike (.component c) (.component d)
  | unspecified : Alike .unspecified .unspecified

namespace Kind

theorem equal_iff_alike (k l : Kind) : k.equal l = true ↔ k.Alike l := by
  constructor
  · intro h
    cases k <;> cases l <;> try cases h
    · obtain rfl := eq_of_beq h
      exact .tag _
    · exact .component (of_decide_eq_true h)
    · exact .unspecified
  · rintro (name | identity | -)
    · exact beq_self_eq_true name
    · exact decide_eq_true identity
    · rfl

theorem Alike.symm {k l : Kind} (h : k.Alike l) : l.Alike k := by
  cases h with
  | tag name => exact .tag name
  | component identity => exact .component identity.symm
  | unspecified => exact .unspecified

theorem Alike.trans {k l m : Kind} (hkl : k.Alike l) (hlm : l.Alike m) : k.Alike m := by
  cases hkl with
  | tag name => exact hlm
  | component identity =>
    cases hlm with
    | component identity' => exact .component (identity.trans identity')
  | unspecified => exact hlm

end Kind

/-! ## Elements and nodes -/

namespace Element

/-- Elements are equal if their kinds are the same and their properties match. -/
theorem equal_iff (e f : Element) :
    e.equal f = true ↔ e.kind.Alike f.kind ∧ e.props.entries.Match f.props.entries := by
  rw [← Kind.equal_iff_alike, ← Entries.equal_iff_match]
  exact Bool.and_eq_true_iff

theorem equal_symm {e f : Element} (h : e.equal f = true) : f.equal e = true := by
  rw [equal_iff] at h ⊢
  exact ⟨h.1.symm, h.2.symm⟩

theorem equal_trans {e f g : Element} (hef : e.equal f = true) (hfg : f.equal g = true) :
    e.equal g = true := by
  rw [equal_iff] at hef hfg ⊢
  exact ⟨hef.1.trans hfg.1, hef.2.trans hfg.2⟩

end Element

namespace Node

theorem same_iff {n m : Node} : n.same m = true ↔ n.identity = m.identity :=
  decide_eq_true_iff

theorem equal_iff {n m : Node} :
    n.equal m = true ↔ n.same m = true ∨ n.toElement.equal m.toElement = true :=
  Bool.or_eq_true_iff

theorem equal_of_same {n m : Node} (h : n.same m = true) : n.equal m = true :=
  equal_iff.mpr (Or.inl h)

/-- Nodes that are two are equal if they look alike. -/
theorem equal_iff_of_not_same {n m : Node} (h : n.same m = false) : n.equal m = true ↔
    n.kind.Alike m.kind ∧ n.props.entries.Match m.props.entries := by
  rw [equal, h, Bool.false_or, Element.equal_iff]

theorem equal_refl (n : Node) : n.equal n = true :=
  equal_of_same (same_iff.mpr rfl)

theorem equal_symm {n m : Node} (h : n.equal m = true) : m.equal n = true := by
  rw [equal_iff, same_iff] at h ⊢
  rcases h with hsame | hlook
  · exact Or.inl hsame.symm
  · exact Or.inr (Element.equal_symm hlook)

/-- Among nodes each of which is one thing, equalities chain, whichever way in each of them took. -/
theorem Coherent.equal_trans {ns : List Node} (h : Coherent ns) {a b c : Node} (ha : a ∈ ns)
    (hb : b ∈ ns) (hc : c ∈ ns) (hab : a.equal b = true) (hbc : b.equal c = true) :
    a.equal c = true := by
  -- Where one of them is by identity, the two nodes are one, and the other is the whole of it.
  rcases equal_iff.mp hab with hsame | hlook
  · rwa [h a ha b hb hsame]
  · rcases equal_iff.mp hbc with hsame | hlook'
    · rwa [← h b hb c hc hsame]
    · exact equal_iff.mpr (Or.inr (Element.equal_trans hlook hlook'))

/-- **Equality of nodes is an equivalence**, though equality of values is not. A node equals itself
and any copy of it, whatever it holds. Nodes that are two are equal exactly if they are of one kind
and have the same keys in the same order, with equal values. Equality of values is symmetric and
transitive, but a value that holds what is not a number differs from itself. Of numbers only those
are equal that stand for the same. -/
theorem equality_is_equivalence {ns : List Node} (h : Coherent ns) :
    Equivalence (fun a b : { n // n ∈ ns } => a.val.equal b.val = true) ∧
    (∀ n m : Node, n.same m = true → n.equal m = true) ∧
    (∀ n m : Node, n.same m = false →
      (n.equal m = true ↔ n.kind.Alike m.kind ∧ n.props.entries.Match m.props.entries)) ∧
    (∀ v w : Value, v.equal w = w.equal v) ∧
    (∀ u v w : Value, u.equal v = true → v.equal w = true → u.equal w = true) ∧
    (∀ v : Value, v.equal v = true ↔ ¬ v.HoldsNaN) ∧
    ∀ x y : Binary64, (Value.float x).equal (.float y) = true ↔
      x.isNaN = false ∧ y.isNaN = false ∧ x.units = y.units := by
  refine ⟨?_, fun n m => equal_of_same, fun n m => equal_iff_of_not_same, Value.equal_comm,
    fun u v w => Value.equal_trans, Value.equal_self_iff, fun x y => Binary64.equal_iff_units⟩
  exact {
    refl := fun a => equal_refl a.val
    symm := equal_symm
    trans := fun {a b c} => h.equal_trans a.property b.property c.property }

/-- A row whose width is not a number, though deep in lists, a copy of it, and another such row. A
row of width zero, and one of width minus zero. -/
def widths : List Registry.Command :=
  [.create ⟨.tag "row", .ofList [("width", .list [.int 1, .list [.float ⟨0x7FF8000000000000⟩]])]⟩,
    .copy 0,
    .create ⟨.tag "row", .ofList [("width", .list [.int 1, .list [.float ⟨0x7FF8000000000000⟩]])]⟩,
    .create ⟨.tag "row", .ofList [("width", .float ⟨0⟩)]⟩,
    .create ⟨.tag "row", .ofList [("width", .float ⟨0x8000000000000000⟩)]⟩]

theorem widths_compared :
    ∃ r n m y z, Registry.blank.runAll widths = some r ∧ r.nodes = [n, n, m, y, z] ∧
      Coherent r.nodes ∧
      Equivalence (fun a b : { n // n ∈ r.nodes } => a.val.equal b.val = true) ∧
      m.toElement = n.toElement ∧ m.equal n = false ∧
      y.prop? "width" = some (.float ⟨0⟩) ∧
      z.prop? "width" = some (.float ⟨0x8000000000000000⟩) ∧ z.equal y = true := by
  obtain ⟨r, hrun⟩ : ∃ r, Registry.blank.runAll widths = some r := ⟨_, rfl⟩
  have hcoherent : Coherent r.nodes := Registry.coherent_of_runAll hrun
  have hequivalence := (equality_is_equivalence hcoherent).1
  obtain rfl := Option.some.inj (hrun.symm.trans rfl)
  exact ⟨_, _, _, _, _, hrun, rfl, hcoherent, hequivalence, rfl, rfl, rfl, rfl, rfl⟩

end Node

end ChildRules
