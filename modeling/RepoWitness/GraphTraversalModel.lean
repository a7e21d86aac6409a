import RepoWitness.PolledComputation
import RepoWitness.SourceIdentity

namespace RepoWitness

open Std

/-!
# Graph traversal requests and results

The data of one bounded trace over an immutable, generation-local relationship
slice: edges, edge-kind allow-lists, limits, start, coverage, truncation flags
and results.  Types whose fields are private in the source carry the check of
their only constructor as a field.
-/

/-- Stable all-or-nothing traversal failure. -/
inductive RustGraphTraceError where
  | invalidLimits
  | invalidEdgeKinds
  | invalidEdge
  | duplicateEdge
  | inputEdgeLimitExceeded
  | inputByteLimitExceeded
  | startUnavailable
  | countOverflow
  | cancelled
  | deadlineExceeded
  | outputLimitExceeded
  deriving DecidableEq

def checkedAdd (first second : Nat) : Except RustGraphTraceError Nat :=
  if first + second < 2 ^ 64 then
    .ok (first + second)
  else
    .error .countOverflow

/-- Relationship categories supported by traversal profile 1. -/
inductive RustGraphEdgeKind where
  | importEdge
  | reference
  | call
  deriving DecidableEq

instance : Ord RustGraphEdgeKind where
  compare := compareOn RustGraphEdgeKind.ctorIdx

instance : TransOrd RustGraphEdgeKind :=
  inferInstanceAs (TransCmp (compareOn RustGraphEdgeKind.ctorIdx))

namespace RustGraphEdgeKind

def fromSiteKind : RustGraphSiteKind → Option RustGraphEdgeKind
  | .importSite => some .importEdge
  | .reference => some .reference
  | .call => some .call
  | .macroCall => none
  | .testMarker => none

end RustGraphEdgeKind

/-- Non-empty allow-list of relationship categories. -/
structure RustGraphEdgeKinds where
  importEdge : Bool
  reference : Bool
  call : Bool
  nonempty : (importEdge || reference || call) = true
  deriving DecidableEq

namespace RustGraphEdgeKinds

/-- Allow every relationship category. -/
def all : RustGraphEdgeKinds where
  importEdge := true
  reference := true
  call := true
  nonempty := rfl

def allows (kinds : RustGraphEdgeKinds) : RustGraphEdgeKind → Bool
  | .importEdge => kinds.importEdge
  | .reference => kinds.reference
  | .call => kinds.call

end RustGraphEdgeKinds

/--
Candidate cardinality retained from the resolver outcome.  The variants are
public in the source, so their fields carry no invariant.
-/
inductive RustGraphRelationshipCardinality where
  | unique
  | ambiguous (candidateCount retainedCandidates : Nat) (candidatesTruncated : Bool)
  deriving DecidableEq

namespace RustGraphRelationshipCardinality

def retainedCandidates : RustGraphRelationshipCardinality → Nat
  | .unique => 1
  | .ambiguous _ retained _ => retained

def candidatesTruncated : RustGraphRelationshipCardinality → Bool
  | .unique => false
  | .ambiguous _ _ truncated => truncated

def isAmbiguous : RustGraphRelationshipCardinality → Bool
  | .unique => false
  | .ambiguous .. => true

/-- The complete candidate count an ordering key needs. -/
def candidateCount : RustGraphRelationshipCardinality → Nat
  | .unique => 1
  | .ambiguous count _ _ => count

/-- `derive(Ord)`: variants by position, then the fields of equal variants. -/
def cmp : RustGraphRelationshipCardinality →
      RustGraphRelationshipCardinality → Ordering :=
  compareLex (compareOn isAmbiguous) <|
  compareLex (compareOn candidateCount) <|
  compareLex (compareOn retainedCandidates) (compareOn candidatesTruncated)

instance : Ord RustGraphRelationshipCardinality where
  compare := cmp

instance : TransOrd RustGraphRelationshipCardinality := inferInstanceAs (TransCmp (compareLex _ _))

instance : LawfulEqOrd RustGraphRelationshipCardinality where
  eq_of_compare {first second} same := by
    change cmp first second = .eq at same
    simp only [cmp, compareLex_eq_eq, compareOn, LawfulEqOrd.compare_eq_iff_eq] at same
    cases first <;> cases second <;>
      simp_all [isAmbiguous, candidateCount, retainedCandidates, candidatesTruncated]

end RustGraphRelationshipCardinality

/-- One exact generation-local relationship with its originating site. -/
structure RustGraphTraversalEdge where
  source : RustGraphDefinitionIdentity
  site : RustGraphSiteIdentity
  target : RustGraphDefinitionIdentity
  extractionEvidence : RustGraphSiteEvidence
  resolutionEvidence : RustGraphResolutionEvidence
  cardinality : RustGraphRelationshipCardinality
  supported : (RustGraphEdgeKind.fromSiteKind site.kind).isSome = true
  sameSlot : source.sourceSlot = site.sourceSlot
  samePath : source.path = site.path
  siteInside : spanContains source.declarationSpan site.occurrenceSpan = true
  deriving DecidableEq

namespace RustGraphTraversalEdge

/-- The relationship category of a validated edge. -/
def kind (edge : RustGraphTraversalEdge) : RustGraphEdgeKind :=
  (RustGraphEdgeKind.fromSiteKind edge.site.kind).get edge.supported

end RustGraphTraversalEdge

/-- Explicit graph traversal direction. -/
inductive RustGraphTraceDirection where
  | outbound
  | inbound
  deriving DecidableEq

/-- Exact starting declaration or raw-site occurrence. -/
inductive RustGraphTraceStart where
  | definition (definition : RustGraphDefinitionIdentity)
  | site (site : RustGraphSiteIdentity)
  deriving DecidableEq

/-- Caller and policy bounds, none zero and none above its compiled ceiling. -/
structure RustGraphTraceLimits where
  maxInputEdges : Nat
  maxInputBytes : Nat
  maxDepth : Nat
  maxResults : Nat
  maxVisitedNodes : Nat
  maxVisitedEdges : Nat
  maxFrontier : Nat
  maxOutputBytes : Nat
  inputEdgesValid : 0 < maxInputEdges ∧ maxInputEdges ≤ 4000000
  inputBytesValid : 0 < maxInputBytes ∧ maxInputBytes ≤ 512 * 1024 * 1024
  depthValid : 0 < maxDepth ∧ maxDepth ≤ 256
  resultsValid : 0 < maxResults ∧ maxResults ≤ 100000
  visitedNodesValid : 0 < maxVisitedNodes ∧ maxVisitedNodes ≤ 1000000
  visitedEdgesValid : 0 < maxVisitedEdges ∧ maxVisitedEdges ≤ 4000000
  frontierValid : 0 < maxFrontier ∧ maxFrontier ≤ 1000000
  outputBytesValid : 0 < maxOutputBytes ∧ maxOutputBytes ≤ 256 * 1024 * 1024

namespace RustGraphTraceLimits

/-- Conservative default bounds below every compiled ceiling. -/
def default : RustGraphTraceLimits where
  maxInputEdges := 500000
  maxInputBytes := 256 * 1024 * 1024
  maxDepth := 16
  maxResults := 10000
  maxVisitedNodes := 100000
  maxVisitedEdges := 500000
  maxFrontier := 100000
  maxOutputBytes := 64 * 1024 * 1024
  inputEdgesValid := by decide
  inputBytesValid := by decide
  depthValid := by decide
  resultsValid := by decide
  visitedNodesValid := by decide
  visitedEdgesValid := by decide
  frontierValid := by decide
  outputBytesValid := by decide

end RustGraphTraceLimits

/-- What the control may answer to one poll besides "continue". -/
inductive RustGraphTraceStop where
  | cancelled
  | deadlineExceeded
  deriving DecidableEq

/--
Cooperative cancellation and deadline, as the answers to successive polls.
The flag and the clock may change between any two polls.
-/
structure RustGraphTraceControl where
  signal : Nat → Option RustGraphTraceStop

namespace RustGraphTraceControl

/-- The control that lets every computation run to its end. -/
def never : RustGraphTraceControl where
  signal := fun _ => none

def outcome (control : RustGraphTraceControl) (poll : Nat) : Option RustGraphTraceError :=
  (control.signal poll).map fun
    | .cancelled => .cancelled
    | .deadlineExceeded => .deadlineExceeded

end RustGraphTraceControl

/-- Generation-level coverage that relationship rows cannot represent. -/
structure RustGraphTraceCoverage where
  unresolvedSites : Nat
  unsupportedSites : Nat
  ambiguousSites : Nat
  truncatedSites : Nat
  unlinkedSites : Nat
  macroSites : Nat
  conditionalSites : Nat
  heuristicSites : Nat
  deriving DecidableEq

namespace RustGraphTraceCoverage

/-- Unsupported or incomplete work limits impact certainty. -/
def hasUnknownImpact (coverage : RustGraphTraceCoverage) : Bool :=
  coverage.unresolvedSites != 0 ||
    coverage.unsupportedSites != 0 ||
    coverage.truncatedSites != 0 ||
    coverage.unlinkedSites != 0 ||
    coverage.macroSites != 0 ||
    coverage.conditionalSites != 0 ||
    coverage.heuristicSites != 0

end RustGraphTraceCoverage

/-- Complete request for one immutable relationship slice. -/
structure RustGraphTraceRequest where
  edges : List RustGraphTraversalEdge
  start : RustGraphTraceStart
  direction : RustGraphTraceDirection
  edgeKinds : RustGraphEdgeKinds
  limits : RustGraphTraceLimits
  coverage : RustGraphTraceCoverage
  control : RustGraphTraceControl

/-- Independent traversal-bound outcomes. -/
structure RustGraphTraceTruncation where
  depth : Bool
  visitedNodes : Bool
  visitedEdges : Bool
  frontier : Bool
  results : Bool
  deriving DecidableEq

namespace RustGraphTraceTruncation

/-- No bound was reached. -/
def none : RustGraphTraceTruncation := ⟨false, false, false, false, false⟩

/-- Some traversal work was omitted. -/
def any (truncation : RustGraphTraceTruncation) : Bool :=
  truncation.depth || truncation.visitedNodes ||
    truncation.visitedEdges || truncation.frontier ||
    truncation.results

end RustGraphTraceTruncation

structure RustGraphTraceEdge where
  depth : Nat
  relationship : RustGraphTraversalEdge
  deriving DecidableEq

/-- Complete bounded trace output. -/
structure RustGraphTraceResult where
  edges : List RustGraphTraceEdge
  visitedNodes : Nat
  visitedEdges : Nat
  maximumCompletedDepth : Nat
  truncation : RustGraphTraceTruncation
  coverage : RustGraphTraceCoverage
  inputBytes : Nat
  outputBytes : Nat
  deriving DecidableEq

end RepoWitness
