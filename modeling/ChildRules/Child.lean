import ChildRules.Node

/-!
# Lists of children

A list of children is built from new nodes, each as often as wanted, and from further copies of
children that are already in it.
-/

namespace ChildRules

/-- An entry that adds to a list of children. -/
inductive Child where
  | copies (n : Nat) (node : Node)
  /-- Another copy of the child at a position. -/
  | again (index : Nat)

namespace Child

/-- Adds an entry at the end, unless it names a position where no child is. -/
def addTo (children : List Node) : Child → Option (List Node)
  | .copies n node => some (children ++ List.replicate n node)
  | .again index => children[index]?.map fun node => children ++ [node]

def collect (entries : List Child) : Option (List Node) :=
  entries.foldlM addTo []

end Child

end ChildRules
