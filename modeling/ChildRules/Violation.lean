import ChildRules.Quantifier

/-!
# Violations

What can be wrong, each under a code: a pattern that found too few or too many children, children
that no pattern took, and patterns that were declared wrongly. The first two are violations, found
while matching; the other two are faults of a declaration, and a list with one never gets to match.
-/

namespace ChildRules

inductive DiagnosticCode where
  | countMismatch
  | unmatchedChildren
  | noShapes
  | invertedBounds
  deriving DecidableEq

namespace DiagnosticCode

def all : List DiagnosticCode :=
  [.countMismatch, .unmatchedChildren, .noShapes, .invertedBounds]

/-- The code as it is shown. The second digit tells matching from declaring. -/
def text : DiagnosticCode → String
  | .countMismatch => "M0001"
  | .unmatchedChildren => "M0002"
  | .noShapes => "M0101"
  | .invertedBounds => "M0102"

def description : DiagnosticCode → String
  | .countMismatch => "child count outside the pattern's range"
  | .unmatchedChildren => "unmatched children after the last pattern"
  | .noShapes => "pattern accepts no shapes"
  | .invertedBounds => "pattern minimum exceeds its maximum"

/-- Whether the code comes of matching and not of declaring patterns. -/
def arisesInMatch : DiagnosticCode → Bool
  | .countMismatch | .unmatchedChildren => true
  | .noShapes | .invertedBounds => false

end DiagnosticCode

inductive Direction where
  | tooFew
  | tooMany
  deriving DecidableEq

def Direction.text : Direction → String
  | .tooFew => "Too few"
  | .tooMany => "Too many"

/-- A pattern found a number of children outside its range. -/
structure CountMismatch where
  direction : Direction
  /-- The pattern's shapes, as a message lists them. -/
  types : String
  /-- The component whose children they are. -/
  owner : String
  expected : Quantifier
  received : Nat
  /-- The markup of the child that ended the run, if any child was left. -/
  failedOn : Option String
  deriving DecidableEq

/-- Children were left when every pattern had had its turn. -/
structure UnmatchedChildren where
  owner : String
  matched : Nat
  total : Nat
  deriving DecidableEq

/-- What can be wrong with the children of a component. -/
inductive Violation where
  | countMismatch (v : CountMismatch)
  | unmatchedChildren (v : UnmatchedChildren)
  deriving DecidableEq

/-- The sentence for a count out of range, and a second one if a child ended the run. -/
def CountMismatch.message (v : CountMismatch) : String :=
  v.direction.text ++ " children of type " ++ v.types ++ " for <" ++ v.owner ++ " />. Expected "
    ++ v.expected.text ++ ", Received: " ++ toString v.received ++ "."
    ++ match v.failedOn with
      | some node => " Failed validation on " ++ node ++ "."
      | none => ""

/-- The sentences for children that are left. -/
def UnmatchedChildren.message (v : UnmatchedChildren) : String :=
  "Too many children passed to <" ++ v.owner ++ " />. Matched " ++ toString v.matched ++ " of "
    ++ toString v.total ++ "."

namespace Violation

def code : Violation → DiagnosticCode
  | .countMismatch _ => .countMismatch
  | .unmatchedChildren _ => .unmatchedChildren

def owner : Violation → String
  | .countMismatch v => v.owner
  | .unmatchedChildren v => v.owner

def message : Violation → String
  | .countMismatch v => v.message
  | .unmatchedChildren v => v.message

/-- The warning by which a host passes a violation on. -/
def warning (v : Violation) (host : String) : String :=
  "Warning: Failed prop type: " ++ v.message ++ "\n    in " ++ host

end Violation

/-- What can be wrong with the declaration of a pattern, named by its position. -/
inductive PatternFault where
  | noShapes (index : Nat)
  | invertedBounds (index min max : Nat)
  deriving DecidableEq

namespace PatternFault

def code : PatternFault → DiagnosticCode
  | .noShapes _ => .noShapes
  | .invertedBounds .. => .invertedBounds

def message : PatternFault → String
  | .noShapes index => "pattern " ++ toString index ++ " accepts no shapes"
  | .invertedBounds index min max =>
    "pattern " ++ toString index ++ " expects at least " ++ toString min ++ " but at most "
      ++ toString max ++ " children"

end PatternFault

end ChildRules
