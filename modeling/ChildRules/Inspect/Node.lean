import ChildRules.Inspect.Form
import ChildRules.Node
import ChildRules.Text.Quoted

/-!
# Detailed text of values and nodes

Values show their kind, so that a text that looks like a number is told from one, and lists show how
they nest. A node goes by its bare name, with its properties as parts.
-/

namespace ChildRules

namespace Value

mutual

def inspect : Value → String
  | .null => "Null"
  | .bool b => Form.tuple "Bool" [Form.truth b]
  | .int n => Form.tuple "Int" [toString n.toInt]
  | .float x => Form.tuple "Float" [NumberStyle.detailed.text x]
  | .str s => Form.tuple "Str" [Quoted.text s]
  | .list items => Form.tuple "List" [Form.list (inspectAll items)]

def inspectAll : List Value → List String
  | [] => []
  | v :: vs => inspect v :: inspectAll vs

end

end Value

/-- The detailed text of a bag: a list of pairs. -/
def Props.inspect (p : Props) : String :=
  let pairs := p.entries.map fun (key, value) => Form.tuple "" [Quoted.text key, value.inspect]
  Form.record "Props" [("entries", Form.list pairs)]

/-- The detailed text of a component. Its name is not quoted. -/
def Component.inspect (c : Component) : String :=
  Form.tuple "ComponentId" [c.name]

def Kind.inspect : Kind → String
  | .tag name => Form.tuple "Tag" [Quoted.text name]
  | .component c => Form.tuple "Component" [c.inspect]
  | .unspecified => "Unspecified"

/-- The detailed text of a node. Neither its name nor a key is quoted. -/
def Element.inspect (e : Element) : String :=
  Form.tuple e.name (e.props.entries.map fun (key, value) => key ++ "=" ++ value.inspect)

end ChildRules
