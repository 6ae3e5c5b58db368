import ChildRules.Matching

/-!
# Hosts

A host is an instance of a component: it has properties and children, and its component declares
patterns for the children. It checks the children strictly and without mappers, and takes them apart
leniently and with mappers; its properties are the context of both.
-/

namespace ChildRules

/-- An instance of a component, with the patterns that the component declares. -/
structure Host where
  component : Component
  patterns : PatternList
  props : Props
  children : List Node

/-- What a host says of a violation to whoever listens. -/
structure Warning where
  code : DiagnosticCode
  text : String
  deriving DecidableEq

namespace Host

def request (h : Host) (options : Options) : Request :=
  ⟨h.component.name, options, h.props, h.children, h.patterns⟩

/-- The first violation among the children. -/
def validate (h : Host) : Except Violation Unit :=
  (h.request .validating).matchAll.outcome.map fun _ => ()

/-- The first violation among the children, and the warning about it. -/
def check (h : Host) : List Warning × Except Violation Unit :=
  match h.validate with
  | .ok () => ([], .ok ())
  | .error v => ([⟨v.code, v.warning h.component.name⟩], .error v)

/-- The children taken apart: one result for each pattern. -/
def results (h : Host) : List (Result Mapped) :=
  (h.request .rendering).matchPartial.outcome

def firstResult? (h : Host) : Option (Result Mapped) :=
  h.results.head?

end Host

end ChildRules
