import ChildRules.Number.Style

/-!
# Property values

A value is opaque to matching: predicates look into it and messages print it. Lists nest, so
equality and text are each a pair of functions, one for a value and one for a list of them. The
text of a list has commas between its items and no brackets, so it does not show how lists nest.
Equality follows the numbers': a value that holds what is not a number anywhere differs from itself.
-/

namespace ChildRules

inductive Value where
  | null
  | bool (b : Bool)
  | int (n : Int64)
  | float (x : Binary64)
  | str (s : String)
  | list (items : List Value)
  deriving Inhabited

namespace Value

mutual

/-- Equality of two values: of one kind, with equal contents. -/
def equal : Value → Value → Bool
  | .null, .null => true
  | .bool b, .bool c => b == c
  | .int m, .int n => m == n
  | .float x, .float y => x.equal y
  | .str s, .str t => s == t
  | .list vs, .list ws => equalAll vs ws
  | _, _ => false

def equalAll : List Value → List Value → Bool
  | [], [] => true
  | v :: vs, w :: ws => equal v w && equalAll vs ws
  | _, _ => false

end

mutual

/-- The text of a value, as markup shows it. -/
def text : Value → String
  | .null => "null"
  | .bool b => if b then "true" else "false"
  | .int n => toString n.toInt
  | .float x => NumberStyle.plain.text x
  | .str s => s
  | .list items => ",".intercalate (texts items)

def texts : List Value → List String
  | [] => []
  | v :: vs => text v :: texts vs

end

def asInt? : Value → Option Int64
  | .int n => some n
  | _ => none

def asStr? : Value → Option String
  | .str s => some s
  | _ => none

def asBool? : Value → Option Bool
  | .bool b => some b
  | _ => none

/-- Equality where either value may be missing: two that are missing are equal. -/
def equal? : Option Value → Option Value → Bool
  | some v, some w => equal v w
  | none, none => true
  | _, _ => false

end Value

end ChildRules
