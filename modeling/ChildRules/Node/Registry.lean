import ChildRules.Node

/-!
# A registry of nodes and components

A registry keeps every node and every component made so far, in order, so that a position names
one. Commands only ever append: whatever was put in stays as it was.
-/

namespace ChildRules

/-- All nodes and components made so far, and where the next identity comes from. -/
structure Registry where
  supply : Supply
  components : List Component
  nodes : List Node
  deriving Inhabited

namespace Registry

/-- What adds to a registry. Positions count from zero. -/
inductive Command where
  /-- A new node that looks like an element. -/
  | create (e : Element)
  /-- A copy of a node. -/
  | copy (node : Nat)
  /-- A new node that differs from one in a property. -/
  | update (node : Nat) (key : String) (value : Value)
  /-- A new component. -/
  | declare (name : String)
  /-- A copy of a component. -/
  | copyComponent (component : Nat)

/-- The registry before any command. -/
def blank : Registry :=
  ⟨.full, [], []⟩

/-- Appends the node that an action makes. -/
def addNode (r : Registry) (action : StateM Supply Node) : Registry :=
  let (node, supply) := action.run r.supply
  { r with supply, nodes := r.nodes ++ [node] }

/-- Appends the component that an action makes. -/
def addComponent (r : Registry) (action : StateM Supply Component) : Registry :=
  let (component, supply) := action.run r.supply
  { r with supply, components := r.components ++ [component] }

/-- Carries a command out, unless it names a position where nothing is. -/
def run (r : Registry) : Command → Option Registry
  | .create e => some (r.addNode (Node.create e))
  | .copy i => r.nodes[i]?.map fun n => r.addNode (pure n)
  | .update i key value => r.nodes[i]?.map fun n => r.addNode (n.withProp key value)
  | .declare name => some (r.addComponent (Component.create name))
  | .copyComponent i => r.components[i]?.map fun c => r.addComponent (pure c)

/-- Carries commands out in order. -/
def runAll (r : Registry) : List Command → Option Registry
  | [] => some r
  | c :: cs => (r.run c).bind fun s => s.runAll cs

end Registry

end ChildRules
