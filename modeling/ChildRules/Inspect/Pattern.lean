import ChildRules.Inspect.Node
import ChildRules.Pattern

/-!
# Detailed text of patterns and of what can be wrong

A pattern shows its shapes as messages list them, and only whether it has a mapper: a test or a
mapper has nothing in it to show.
-/

namespace ChildRules

/-- The detailed text of a shape. The name of a test is not quoted. -/
def Shape.inspect : Shape → String
  | .tag name => Form.tuple "Tag" [Quoted.text name]
  | .component c => Form.tuple "Component" [c.inspect]
  | .predicate p => Form.tuple "Predicate" [Form.tuple "Predicate" [p.name]]

def Cardinality.inspect (c : Cardinality) : String :=
  Form.record "Cardinality"
    [("min", toString c.min), ("max", Form.optional (c.max.map fun max => toString max))]

def Pattern.inspect (p : Pattern) : String :=
  Form.record "ChildPattern"
    [("shapes", Quoted.text p.typeList), ("cardinality", p.cardinality.inspect),
      ("mapped", Form.truth p.mapper.isSome)]

def PatternList.inspect (ps : PatternList) : String :=
  Form.record "PatternList" [("patterns", Form.list (ps.toList.map Pattern.inspect))]

def Quantifier.inspect : Quantifier → String
  | .exactly n => Form.tuple "Exactly" [toString n]
  | .atLeast n => Form.tuple "AtLeast" [toString n]
  | .atMost n => Form.tuple "AtMost" [toString n]
  | .between low high => Form.tuple "Between" [toString low, toString high]

def Direction.inspect : Direction → String
  | .tooFew => "TooFew"
  | .tooMany => "TooMany"

/-- The detailed text of a violation, which names its kind twice: as a kind and as a record. -/
def Violation.inspect : Violation → String
  | .countMismatch v =>
    Form.tuple "CountMismatch"
      [Form.record "CountMismatch"
        [("direction", v.direction.inspect), ("types", Quoted.text v.types),
          ("owner", Quoted.text v.owner), ("expected", v.expected.inspect),
          ("received", toString v.received),
          ("failed_on", Form.optional (v.failedOn.map Quoted.text))]]
  | .unmatchedChildren v =>
    Form.tuple "UnmatchedChildren"
      [Form.record "UnmatchedChildren"
        [("owner", Quoted.text v.owner), ("matched", toString v.matched),
          ("total", toString v.total)]]

def PatternFault.inspect : PatternFault → String
  | .noShapes index => Form.record "NoShapes" [("index", toString index)]
  | .invertedBounds index min max =>
    Form.record "InvertedBounds"
      [("index", toString index), ("min", toString min), ("max", toString max)]

end ChildRules
