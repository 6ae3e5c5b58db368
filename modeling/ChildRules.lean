import ChildRules.Host
import ChildRules.Inspect.Pattern
import ChildRules.Mapper.Transform
import ChildRules.Node.Registry
import ChildRules.Props.Draft
import ChildRules.Session
import ChildRules.Shape.Condition
import ChildRules.Proofs.Runs
import ChildRules.Proofs.Turns
import ChildRules.Proofs.Cut
import ChildRules.Proofs.Backtracking
import ChildRules.Proofs.Coverage
import ChildRules.Proofs.Diagnosis
import ChildRules.Proofs.Mapping
import ChildRules.Proofs.Hosts
import ChildRules.Proofs.Stages
import ChildRules.Proofs.Growth
import ChildRules.Proofs.Starvation
import ChildRules.Proofs.Histories
import ChildRules.Proofs.Lineage
import ChildRules.Proofs.Wording
import ChildRules.Proofs.Rematching
import ChildRules.Proofs.Acceptance
import ChildRules.Proofs.Fusion
import ChildRules.Proofs.Bounds
import ChildRules.Proofs.Equality
import ChildRules.Proofs.Faults
import ChildRules.Proofs.Interchange
import ChildRules.Proofs.Leaves
import ChildRules.Proofs.Markup
import ChildRules.Proofs.Cursors
