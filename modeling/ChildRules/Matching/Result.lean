/-!
# Results of patterns

What one pattern found has a form that follows from its range alone: a pattern that takes at most
one child gives that child or says that it is absent, and any other gives a list, which may be
empty.
-/

namespace ChildRules

/-- What one pattern found. -/
inductive Result (α : Type) where
  /-- The child of a pattern that takes at most one. -/
  | one (node : α)
  /-- The children of a pattern that can take more than one. -/
  | many (nodes : List α)
  /-- A pattern that takes at most one child found none. -/
  | absent
  deriving Inhabited

namespace Result

variable {α β : Type}

/-- Gives nodes the form for a pattern that takes at most one, or for any other. -/
def ofNodes (single : Bool) (nodes : List α) : Result α :=
  if single then
    match nodes with
    | [] => .absent
    | node :: _ => .one node
  else .many nodes

def nodes : Result α → List α
  | .one node => [node]
  | .many nodes => nodes
  | .absent => []

def map (f : α → β) : Result α → Result β
  | .one node => .one (f node)
  | .many nodes => .many (nodes.map f)
  | .absent => .absent

/-- The nodes of many results, one result after the other. -/
def flatten (results : List (Result α)) : List α :=
  results.flatMap nodes

@[simp] theorem flatten_nil : flatten ([] : List (Result α)) = [] := rfl

@[simp] theorem flatten_cons (res : Result α) (rs : List (Result α)) :
    flatten (res :: rs) = res.nodes ++ flatten rs := rfl

/-- The form loses no node, if a pattern that takes at most one has no more. -/
theorem nodes_ofNodes {single : Bool} {nodes : List α} (few : single = true → nodes.length ≤ 1) :
    (ofNodes single nodes).nodes = nodes := by
  cases single with
  | false => rfl
  | true =>
    match nodes, few rfl with
    | [], _ => rfl
    | [_], _ => rfl

@[simp] theorem nodes_map (f : α → β) (r : Result α) : (r.map f).nodes = r.nodes.map f := by
  cases r <;> rfl

@[simp] theorem map_ofNodes (f : α → β) (single : Bool) (nodes : List α) :
    (ofNodes single nodes).map f = ofNodes single (nodes.map f) := by
  cases single <;> cases nodes <;> rfl

end Result

end ChildRules
