import ChildRules.Mapper

/-!
# Transforms

Transforms are mappers as data: they set properties from constants, from the context or from what
was there, change the tag, or give a fixed node in place of the child. Setting a property or
changing the tag always makes a new node, even one that looks like the old.
-/

namespace ChildRules

/-- One way to map a node. -/
inductive Transform where
  | keep
  | set (key : String) (value : Value)
  /-- Set a property to one of the context, if the context has it. -/
  | setFromContext (key contextKey : String)
  /-- Set a property to `yes` if it equals one of the context, or both are missing, else to `no`. -/
  | setCompared (key contextKey : String) (yes no : Value)
  /-- Multiply a property, wrapping around at sixty-four bits. What is no integer counts as zero. -/
  | scale (key : String) (factor : Int64)
  /-- Change the tag and keep the properties. -/
  | retag (tag : String)
  /-- Always one and the same node. -/
  | constant (node : Node)
  /-- Set a property to the list of the context's keys. -/
  | setContextKeys (key : String)
  | inOrder (transforms : List Transform)
  deriving Inhabited

namespace Transform

mutual

def apply (context : Props) : Transform → Mapped → Mapped
  | .keep, node => node
  | .set key value, node => .built (node.element.withProp key value)
  | .setFromContext key contextKey, node =>
    match context.get? contextKey with
    | some value => .built (node.element.withProp key value)
    | none => node
  | .setCompared key contextKey yes no, node =>
    let agree := Value.equal? (node.element.prop? key) (context.get? contextKey)
    .built (node.element.withProp key (if agree then yes else no))
  | .scale key factor, node =>
    let n := ((node.element.prop? key).bind Value.asInt?).getD 0
    .built (node.element.withProp key (.int (n * factor)))
  | .retag tag, node => .built ⟨.tag tag, node.element.props⟩
  | .constant fixed, _ => .existing fixed
  | .setContextKeys key, node =>
    .built (node.element.withProp key (.list (context.keys.map .str)))
  | .inOrder transforms, node => applyAll context transforms node

def applyAll (context : Props) : List Transform → Mapped → Mapped
  | [], node => node
  | t :: ts, node => applyAll context ts (apply context t node)

end

def mapper (t : Transform) : Mapper :=
  fun node context => t.apply context (.existing node)

end Transform

end ChildRules
