import ChildRules.Child
import ChildRules.Matching

/-!
# Sessions

In a session a parent's children and patterns are put together step by step and matched again and
again. What a match found can be fed back: its nodes become the children, and nodes that mappers
built get their identities then.
-/

namespace ChildRules

/-- Everything that steps of a session build on. -/
structure Session where
  supply : Supply
  owner : String
  options : Options
  context : Props
  children : List Node
  patterns : List Pattern
  /-- The results of the last match, until they are fed back; none if it failed. -/
  results : List (Result Mapped)

namespace Session

/-- One step of a session. Positions count from zero. -/
inductive Command where
  | nameOwner (name : String)
  | setOptions (options : Options)
  | setContext (key : String) (value : Value)
  | push (child : Child)
  /-- Remove the first child, if there is one. -/
  | dropFirst
  | addPattern (p : Pattern)
  /-- Remove the last pattern, if there is one. -/
  | dropPattern
  /-- Give a pattern another mapper. -/
  | mapPattern (index : Nat) (mapper : Mapper)
  | matchAll
  | matchPartial
  /-- Make the nodes of the last results the children. -/
  | feed

inductive Reply where
  | owner (name : String)
  | options (options : Options)
  /-- The value replaced in the context, and the context. -/
  | context (former : Option Value) (props : Props)
  /-- The children are so many now. -/
  | childCount (n : Nat)
  /-- What the patterns take, as messages list it. -/
  | typeLists (lists : List String)
  /-- Which of the patterns have a mapper. -/
  | mapped (flags : List Bool)
  | matched (outcome : Except Violation (List (Result Mapped)))
  /-- The patterns make no list. -/
  | fault (f : PatternFault)
  /-- What the children look like. -/
  | markups (texts : List String)

def blank (supply : Supply) : Session :=
  { supply, owner := "Owner", options := .rendering, context := .empty, children := [],
    patterns := [], results := [] }

/-- Makes a match and keeps its results, or none if it fails. -/
def matchWith (s : Session)
    (run : Request → Except Violation (List (Result Mapped))) : Reply × Session :=
  match PatternList.ofList s.patterns with
  | .error f => (.fault f, { s with results := [] })
  | .ok patterns =>
    let outcome := run ⟨s.owner, s.options, s.context, s.children, patterns⟩
    (.matched outcome, { s with results := outcome.toOption.getD [] })

def feed (s : Session) : Session :=
  let (children, supply) := ((Result.flatten s.results).mapM Mapped.take).run s.supply
  { s with supply, children, results := [] }

/-- Carries a step out, unless it names a position where nothing is. -/
def act (s : Session) : Command → Option (Reply × Session)
  | .nameOwner name => some (.owner name, { s with owner := name })
  | .setOptions options => some (.options options, { s with options })
  | .setContext key value =>
    let (former, context) := s.context.exchange key value
    some (.context former context, { s with context })
  | .push child =>
    (child.addTo s.children).map fun children =>
      (.childCount children.length, { s with children })
  | .dropFirst =>
    let children := s.children.drop 1
    some (.childCount children.length, { s with children })
  | .addPattern p =>
    let patterns := s.patterns ++ [p]
    some (.typeLists (patterns.map Pattern.typeList), { s with patterns })
  | .dropPattern =>
    let patterns := s.patterns.dropLast
    some (.typeLists (patterns.map Pattern.typeList), { s with patterns })
  | .mapPattern index mapper =>
    s.patterns[index]?.map fun p =>
      let patterns := s.patterns.set index (p.withMapper mapper)
      (.mapped (patterns.map (·.mapper.isSome)), { s with patterns })
  | .matchAll => some (s.matchWith fun r => r.matchAll.outcome)
  | .matchPartial => some (s.matchWith fun r => .ok r.matchPartial.outcome)
  | .feed =>
    let s := s.feed
    some (.markups (s.children.map (·.toElement.markup)), s)

end Session

end ChildRules
