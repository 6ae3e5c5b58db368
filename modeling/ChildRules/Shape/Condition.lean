import ChildRules.Shape

/-!
# Conditions

Conditions are tests of a node as data: what it is called, what kind it is of, what properties it
has, and combinations of these. A condition looks at the element alone, so a node and a copy of it,
or two nodes that look alike, pass the same conditions.
-/

namespace ChildRules

/-- The three kinds, without what they carry. -/
inductive KindLabel where
  | tag
  | component
  | unspecified
  deriving DecidableEq

def Kind.label : Kind → KindLabel
  | .tag _ => .tag
  | .component _ => .component
  | .unspecified => .unspecified

inductive Condition where
  | always
  | never
  | has (key : String)
  /-- A property is there and equals a value. -/
  | equals (key : String) (value : Value)
  /-- A property is an integer no smaller than a bound. -/
  | intAtLeast (key : String) (bound : Int64)
  /-- A property is a text, this one. -/
  | strIs (key : String) (text : String)
  /-- A property is the truth value true. -/
  | isTrue (key : String)
  | named (name : String)
  | ofKind (label : KindLabel)
  /-- The element has so many properties. -/
  | propCount (n : Nat)
  | negation (c : Condition)
  /-- All of the conditions hold; of none, all do. -/
  | conjunction (cs : List Condition)
  /-- One of the conditions holds. -/
  | disjunction (cs : List Condition)
  deriving Inhabited

namespace Condition

mutual

def holds (e : Element) : Condition → Bool
  | .always => true
  | .never => false
  | .has key => e.props.contains key
  | .equals key value => (e.prop? key).any (·.equal value)
  | .intAtLeast key bound => ((e.prop? key).bind Value.asInt?).any (bound ≤ ·)
  | .strIs key text => (e.prop? key).bind Value.asStr? == some text
  | .isTrue key => (e.prop? key).bind Value.asBool? == some true
  | .named name => e.name == name
  | .ofKind label => e.kind.label = label
  | .propCount n => e.props.size = n
  | .negation c => !holds e c
  | .conjunction cs => holdAll e cs
  | .disjunction cs => holdAny e cs

def holdAll (e : Element) : List Condition → Bool
  | [] => true
  | c :: cs => holds e c && holdAll e cs

def holdAny (e : Element) : List Condition → Bool
  | [] => false
  | c :: cs => holds e c || holdAny e cs

end

/-- The shape of the nodes that pass a condition, under a name. -/
def shape (name : String) (c : Condition) : Shape :=
  .predicate ⟨name, fun node => c.holds node.toElement⟩

end Condition

end ChildRules
