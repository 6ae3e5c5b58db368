import ChildRules.Props

/-!
# Drafts of properties

A draft is a bag under work beside a copy that was put aside. An edit changes or asks about the bag
under work; the copy is there to go back to and to compare with.
-/

namespace ChildRules

/-- The bag under work and the one put aside. -/
structure Draft where
  current : Props
  saved : Props
  deriving Inhabited

namespace Draft

/-- What can be done to a draft, or asked of it. -/
inductive Edit where
  /-- Write a property, and tell what it replaces. -/
  | insert (key : String) (value : Value)
  | add (key : String) (value : Value)
  | get (key : String)
  | contains (key : String)
  /-- Start again from these pairs. -/
  | collect (pairs : List (String × Value))
  /-- Put a copy aside. -/
  | save
  | compare
  /-- Take the copy up and put the bag under work aside. -/
  | swap

inductive Answer where
  | done
  | truth (holds : Bool)
  | found (value? : Option Value)

/-- The draft before any edit: two empty bags. -/
def blank : Draft :=
  ⟨.empty, .empty⟩

def edit (d : Draft) : Edit → Answer × Draft
  | .insert key value =>
    let (former, props) := d.current.exchange key value
    (.found former, { d with current := props })
  | .add key value => (.done, { d with current := d.current.insert key value })
  | .get key => (.found (d.current.get? key), d)
  | .contains key => (.truth (d.current.contains key), d)
  | .collect pairs => (.done, { d with current := .ofList pairs })
  | .save => (.done, { d with saved := d.current })
  | .compare => (.truth (d.current.equal d.saved), d)
  | .swap => (.done, ⟨d.saved, d.current⟩)

end Draft

end ChildRules
