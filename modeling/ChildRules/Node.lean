import ChildRules.Node.Identity
import ChildRules.Props

/-!
# Nodes

A node is a child as its parent gets it: what kind of thing it is, its properties, and an identity.
It never changes. A copy shares its identity; setting a property gives a new node. What a node looks
like without its identity is its element, and two nodes are equal when their elements are, or when
they are one node: the second way in counts for a node with a property that differs from itself.
-/

namespace ChildRules

/-- A class of components. Its name is for messages; two classes may share one. -/
structure Component where
  identity : Identity
  name : String
  deriving Inhabited

namespace Component

/-- Whether two are one class. The names do not count. -/
def same (c d : Component) : Bool :=
  c.identity = d.identity

def create (name : String) : StateM Supply Component := do
  return ⟨← Supply.fresh, name⟩

/-- The number of different classes in a list. -/
def countDistinct : List Component → Nat
  | [] => 0
  | c :: cs => (if cs.any c.same then 0 else 1) + countDistinct cs

end Component

/-- What kind of thing a child is. -/
inductive Kind where
  | tag (name : String)
  | component (c : Component)
  /-- Text, a fragment, or anything else that the parent cannot name. -/
  | unspecified
  deriving Inhabited

namespace Kind

/-- Equality of kinds: equal tags, one component, or both unspecified. -/
def equal : Kind → Kind → Bool
  | .tag s, .tag t => s == t
  | .component c, .component d => c.same d
  | .unspecified, .unspecified => true
  | _, _ => false

def name : Kind → String
  | .tag s => s
  | .component c => c.name
  | .unspecified => "unknown"

end Kind

/-- What a node looks like: its kind and its properties. -/
structure Element where
  kind : Kind
  props : Props
  deriving Inhabited

namespace Element

def name (e : Element) : String :=
  e.kind.name

def prop? (e : Element) (key : String) : Option Value :=
  e.props.get? key

def withProp (e : Element) (key : String) (value : Value) : Element :=
  { e with props := e.props.insert key value }

/-- Equality of elements: equal kinds and equal properties in the same order. -/
def equal (e f : Element) : Bool :=
  e.kind.equal f.kind && e.props.equal f.props

/-- One property in markup, after the blank that sets it off. -/
def setting (key : String) (value : Value) : String :=
  " " ++ key ++ "=\x7b" ++ value.text ++ "\x7d"

def settings : Entries → String
  | [] => ""
  | (key, value) :: rest => setting key value ++ settings rest

/-- An element as a tag without content. -/
def markup (e : Element) : String :=
  "<" ++ e.name ++ settings e.props.entries ++ " />"

end Element

/-- A child: an element with an identity. -/
structure Node extends Element where
  identity : Identity
  deriving Inhabited

namespace Node

def create (e : Element) : StateM Supply Node := do
  return ⟨e, ← Supply.fresh⟩

/-- A new node that differs in one property. The node itself stays as it is. -/
def withProp (n : Node) (key : String) (value : Value) : StateM Supply Node :=
  create (n.toElement.withProp key value)

/-- Whether two are one node. -/
def same (n m : Node) : Bool :=
  n.identity = m.identity

/-- Equality of nodes: one node, or two that look alike. -/
def equal (n m : Node) : Bool :=
  n.same m || n.toElement.equal m.toElement

/-- Where a node first stands in a list, copies included. -/
def indexIn? (n : Node) (nodes : List Node) : Option Nat :=
  nodes.findIdx? n.same

end Node

end ChildRules
