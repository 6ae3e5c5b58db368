import ChildRules.Node

/-!
# Shapes

A shape says what a pattern takes: a markup tag, a component, or whatever passes a named test. A tag
is told by its name and a component by its identity, so two components of one name are two shapes.
Messages list shapes by name: a single one as it is, several in brackets.
-/

namespace ChildRules

/-- A test of a node under the name that messages give it. -/
structure Predicate where
  name : String
  holds : Node → Bool

/-- One thing that a pattern takes. -/
inductive Shape where
  | tag (name : String)
  | component (c : Component)
  | predicate (p : Predicate)

namespace Shape

/-- The shape of any node that has a property. -/
def hasProp (key : String) : Shape :=
  .predicate ⟨"has_prop(" ++ key ++ ")", fun node => node.props.contains key⟩

def accepts : Shape → Node → Bool
  | .tag name, node => node.kind.equal (.tag name)
  | .component c, node => node.kind.equal (.component c)
  | .predicate p, node => p.holds node

def name : Shape → String
  | .tag name => name
  | .component c => c.name
  | .predicate p => p.name

def anyAccepts (shapes : List Shape) (node : Node) : Bool :=
  shapes.any (·.accepts node)

def listing : List String → String
  | [name] => name
  | names => "[" ++ ", ".intercalate names ++ "]"

end Shape

end ChildRules
