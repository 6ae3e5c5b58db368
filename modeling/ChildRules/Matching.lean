import ChildRules.Matching.Position

/-!
# Matching

A match lets every pattern of a list take its turn at the children, from first to last, and notes
what happens. There are two ways to go about violations. A lenient match notes them and goes on; it
has a result for every pattern, whatever happens. A strict match ends with the first, and later
patterns get no turn. Mappers have no say in either: a turn depends on the children as they came.
-/

namespace ChildRules

/-- One thing that happened in a match. -/
inductive Event where
  /-- A pattern had its turn: its shapes, where it started, and how many children it took. -/
  | turn (types : String) (start taken : Nat)
  /-- A violation came up, and the match went on or ended. -/
  | violation (v : Violation) (tolerated : Bool)
  deriving DecidableEq

/-- What a match comes to, beside what happened on the way. -/
structure Report (α : Type) where
  events : List Event
  outcome : α

namespace Report

variable {α β : Type}

def map (f : α → β) (r : Report α) : Report β :=
  ⟨r.events, f r.outcome⟩

/-- The report with more events before its own. -/
def precededBy (r : Report α) (events : List Event) : Report α :=
  ⟨events ++ r.events, r.outcome⟩

end Report

def Event.violation? : Event → Option Violation
  | .turn .. => none
  | .violation v _ => some v

def Position.turn (pos : Position) (p : Pattern) : Event :=
  .turn p.typeList pos.cursor (p.run pos.rest).length

namespace Matching

/-- What happens when a possible violation is tolerated. -/
def tolerate (violation? : Option Violation) : List Event :=
  violation?.toList.map (.violation · true)

@[simp] theorem tolerate_none : tolerate none = [] := rfl

@[simp] theorem tolerate_some (v : Violation) : tolerate (some v) = [.violation v true] := rfl

/-- A match that goes on after violations. -/
def lenient (parent : Parent) : List Pattern → Position → Report (List (Result Mapped))
  | [], pos => ⟨tolerate (pos.leftover? parent.name), []⟩
  | p :: ps, pos =>
    ((lenient parent ps (pos.after p)).map (p.result parent pos :: ·)).precededBy
      (pos.turn p :: tolerate (pos.mismatch? p parent.name))

/-- A match that ends with the first violation. -/
def strict (parent : Parent) :
    List Pattern → Position → Report (Except Violation (List (Result Mapped)))
  | [], pos =>
    match pos.leftover? parent.name with
    | some v => ⟨[.violation v false], .error v⟩
    | none => ⟨[], .ok []⟩
  | p :: ps, pos =>
    match pos.mismatch? p parent.name with
    | some v => ⟨[pos.turn p, .violation v false], .error v⟩
    | none =>
      ((strict parent ps (pos.after p)).map (·.map (p.result parent pos :: ·))).precededBy
        [pos.turn p]

end Matching

structure Options where
  /-- Whether the first violation ends the match. -/
  strict : Bool
  appliesMappers : Bool
  deriving DecidableEq, Inhabited

namespace Options

/-- Tolerate violations and apply mappers, as where children are shown. -/
def rendering : Options :=
  ⟨false, true⟩

/-- End with a violation and apply no mappers, as where children are only checked. -/
def validating : Options :=
  ⟨true, false⟩

/-- End with a violation and apply mappers. -/
def strictRendering : Options :=
  ⟨true, true⟩

end Options

structure Request where
  owner : String
  options : Options
  context : Props
  children : List Node
  patterns : PatternList

namespace Request

def parent (r : Request) : Parent :=
  ⟨r.owner, r.context, r.options.appliesMappers⟩

/-- The lenient match, which the option for strictness does not concern. -/
def matchPartial (r : Request) : Report (List (Result Mapped)) :=
  Matching.lenient r.parent r.patterns.toList (.start r.children)

/-- The match that the options ask for. -/
def matchAll (r : Request) : Report (Except Violation (List (Result Mapped))) :=
  if r.options.strict then Matching.strict r.parent r.patterns.toList (.start r.children)
  else r.matchPartial.map .ok

end Request

end ChildRules
