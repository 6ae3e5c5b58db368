import ChildRules.Node

/-!
# Mappers

A pattern can have its children mapped before they are reported. A mapper gets the child and the
context of the match and answers with a node. Either it answers with a node that exists, the child
itself for instance, or it describes a new one; the new node gets its identity only when somebody
takes it up. So a mapper is a function, and matching needs no supply of identities.
-/

namespace ChildRules

/-- What a mapper answers. -/
inductive Mapped where
  /-- A node that was there before. -/
  | existing (node : Node)
  /-- A new node that looks like this. -/
  | built (element : Element)
  deriving Inhabited

namespace Mapped

def element : Mapped → Element
  | .existing node => node.toElement
  | .built element => element

/-- Where the node first stands in a list. A new one stands nowhere. -/
def indexIn? (nodes : List Node) : Mapped → Option Nat
  | .existing node => node.indexIn? nodes
  | .built _ => none

/-- Takes the node up: a new one gets its identity here. -/
def take : Mapped → StateM Supply Node
  | .existing node => pure node
  | .built element => Node.create element

end Mapped

/-- What a pattern does to each of its children, given the context of the match. -/
abbrev Mapper := Node → Props → Mapped

end ChildRules
