import Std.Data.TreeMap
import RepoWitness.GraphTraversalAdmission

namespace RepoWitness

open Std

/-!
# Conservative impact and independence of input order

`analyze_rust_graph_impact` folds an inbound trace into the strongest class and
least depth of every reached declaration.  The trace reads its edge slice only
through admission, and admission sees the slice as a multiset; so neither the
trace nor the impact depends on the order of the input.
-/

def impactOutputFixedBytes : Nat := 64

def impactItemFixedBytes : Nat := 8

/-- Conservative impact classification, strongest first. -/
inductive RustGraphImpactClass where
  | directlyConnected
  | possible
  | unknown
  deriving DecidableEq

instance : Ord RustGraphImpactClass where
  compare := compareOn RustGraphImpactClass.ctorIdx

/-- One impacted declaration and its strongest supported path. -/
structure RustGraphImpact where
  impactClass : RustGraphImpactClass
  definition : RustGraphDefinitionIdentity
  minimumDepth : Nat
  deriving DecidableEq

/-- Complete conservative inbound-impact request. -/
structure RustGraphImpactRequest where
  edges : List RustGraphTraversalEdge
  start : RustGraphDefinitionIdentity
  edgeKinds : RustGraphEdgeKinds
  limits : RustGraphTraceLimits
  coverage : RustGraphTraceCoverage
  control : RustGraphTraceControl

def RustGraphImpactRequest.traceRequest
    (request : RustGraphImpactRequest) : RustGraphTraceRequest where
  edges := request.edges
  start := .definition request.start
  direction := .inbound
  edgeKinds := request.edgeKinds
  limits := request.limits
  coverage := request.coverage
  control := request.control

/-- Complete conservative inbound impact projection. -/
structure RustGraphImpactResult where
  trace : RustGraphTraceResult
  impacted : List RustGraphImpact
  unknownCoverage : Bool
  outputBytes : Nat
  deriving DecidableEq

def propagatedClass (parent : RustGraphImpactClass)
    (relationship : RustGraphTraversalEdge) : RustGraphImpactClass :=
  if parent ≠ .directlyConnected ∨
      relationship.cardinality.isAmbiguous = true ∨
      relationship.extractionEvidence = .syntaxHeuristic ∨
      relationship.resolutionEvidence = .exactNameHeuristic then
    .possible
  else
    .directlyConnected

/-- Strongest class and least depth of every declaration reached so far. -/
abbrev StrongestImpacts := TreeMap RustGraphDefinitionIdentity (RustGraphImpactClass × Nat)

/-- `entry(source).and_modify(..).or_insert(..)`. -/
def StrongestImpacts.record (strongest : StrongestImpacts)
    (definition : RustGraphDefinitionIdentity) (impactClass : RustGraphImpactClass)
    (depth : Nat) : StrongestImpacts :=
  match strongest[definition]? with
  | none => strongest.insert definition (impactClass, depth)
  | some (currentClass, currentDepth) =>
    strongest.insert definition
      (if compare impactClass currentClass = .lt then
          impactClass
        else
          currentClass,
        min currentDepth depth)

def propagateImpacts : List RustGraphTraceEdge → StrongestImpacts → Bool →
      Except RustGraphTraceError (StrongestImpacts × Bool)
  | [], strongest, relationshipUnknown => .ok (strongest, relationshipUnknown)
  | traced :: edges, strongest, relationshipUnknown =>
    match strongest[traced.relationship.target]? with
    | none => .error .invalidEdge
    | some (parentClass, _) =>
      propagateImpacts edges
        (strongest.record traced.relationship.source
          (propagatedClass parentClass traced.relationship)
          traced.depth)
        (relationshipUnknown || traced.relationship.cardinality.candidatesTruncated)

/-- The order of the reported declarations. -/
def compareImpact : RustGraphImpact → RustGraphImpact → Ordering :=
  compareLex (compareOn (·.minimumDepth)) <|
  compareLex (compareOn (·.impactClass)) (compareOn (·.definition))

/-- The output accounting loop. -/
def sumImpactBytes (limits : RustGraphTraceLimits) :
    Nat → List RustGraphImpact → Except RustGraphTraceError Nat
  | outputBytes, [] => .ok outputBytes
  | outputBytes, item :: impacted => do
    let definitionBytes ← encodedDefinitionBytes item.definition
    let fixed ← checkedAdd outputBytes impactItemFixedBytes
    let total ← checkedAdd fixed definitionBytes
    if limits.maxOutputBytes < total then
      .error .outputLimitExceeded
    else
      sumImpactBytes limits total impacted

/-- Compute conservative inbound impact from one exact declaration. -/
def analyzeRustGraphImpact (sorter : UnstableSort) (request : RustGraphImpactRequest) :
    Except RustGraphTraceError RustGraphImpactResult := do
  let trace ← traceRustGraph sorter request.traceRequest
  let initial : StrongestImpacts :=
    (∅ : StrongestImpacts).insert request.start (.directlyConnected, 0)
  let (strongest, relationshipUnknown) ← propagateImpacts trace.edges initial false
  let reached :=
    (strongest.toList.filter
      (fun entry => decide (entry.1 ≠ request.start))).map
        (fun entry => ⟨entry.2.1, entry.1, entry.2.2⟩)
  let impacted := reached.mergeSort (fun left right => (compareImpact left right).isLE)
  let fixed ← checkedAdd trace.outputBytes impactOutputFixedBytes
  let outputBytes ← sumImpactBytes request.limits fixed impacted
  pure
    { trace := trace, impacted := impacted
      unknownCoverage :=
        trace.coverage.hasUnknownImpact || trace.truncation.any || relationshipUnknown
      outputBytes := outputBytes }

/-! ## Independence of input order -/

/-- A control that never fires lets the trace reach its result. -/
theorem traceRustGraph_never (sorter : UnstableSort) (request : RustGraphTraceRequest)
    (unstopped : request.control = .never) :
    traceRustGraph sorter request = (polledTrace sorter request).result := by
  unfold traceRustGraph
  rw [unstopped]
  exact Polled.observe_never _

/-- After admission the trace no longer refers to the input slice. -/
theorem polledTrace_result (sorter : UnstableSort) (request : RustGraphTraceRequest) :
    (polledTrace sorter request).result =
      (AdmittedEdges.new sorter request.edges request.limits).result >>=
        fun admitted =>
          Traversal.new request.limits admitted.inputBytes >>=
            fun initial =>
              (initial.run sorter request.settings admitted request.start).result >>=
                fun explored => (explored.finish request.coverage).result := by
  simp [polledTrace]

/-- Permuting the slice of an uncontrolled request keeps its trace. -/
theorem traceRustGraph_congr (sorter : UnstableSort) {first second : RustGraphTraceRequest}
    (unstopped : first.control = .never) (permutation : first.edges.Perm second.edges)
    (otherwiseEqual : { first with edges := second.edges } = second) :
    traceRustGraph sorter first = traceRustGraph sorter second := by
  have secondUnstopped : second.control = .never := by
    rw [← otherwiseEqual]
    exact unstopped
  have admission := AdmittedEdges.new_result_congr sorter first.limits permutation
  rw [traceRustGraph_never sorter first unstopped,
    traceRustGraph_never sorter second secondUnstopped,
    polledTrace_result, polledTrace_result, admission,
    ← otherwiseEqual]
  rfl

/--
The trace and the impact of a slice are those of each of its permutations,
result order, truncation and errors included.
-/
theorem trace_and_impact_eq_of_perm (sorter : UnstableSort)
    {first second : List RustGraphTraversalEdge} (permutation : first.Perm second) :
    (∀ start direction edgeKinds limits coverage,
      traceRustGraph sorter ⟨first, start, direction, edgeKinds, limits, coverage, .never⟩ =
        traceRustGraph sorter ⟨second, start, direction, edgeKinds, limits, coverage, .never⟩) ∧
      ∀ start edgeKinds limits coverage,
        analyzeRustGraphImpact sorter ⟨first, start, edgeKinds, limits, coverage, .never⟩ =
          analyzeRustGraphImpact sorter ⟨second, start, edgeKinds, limits, coverage, .never⟩ := by
  constructor
  · intro start direction edgeKinds limits coverage
    exact traceRustGraph_congr sorter rfl permutation rfl
  · intro start edgeKinds limits coverage
    have sameTrace : traceRustGraph sorter (RustGraphImpactRequest.traceRequest
              ⟨first, start, edgeKinds, limits, coverage, .never⟩) =
          traceRustGraph sorter (RustGraphImpactRequest.traceRequest
              ⟨second, start, edgeKinds, limits, coverage, .never⟩) :=
      traceRustGraph_congr sorter rfl permutation rfl
    unfold analyzeRustGraphImpact
    rw [sameTrace]

/-- Swapping two calls keeps every impact. -/
theorem trace_and_impact_eq_of_perm_swapped : [Sample.call 1 2 1, Sample.call 2 3 2].Perm
        [Sample.call 2 3 2, Sample.call 1 2 1] ∧
      ∀ start edgeKinds limits coverage, analyzeRustGraphImpact insertionSorter
            ⟨[Sample.call 1 2 1, Sample.call 2 3 2], start, edgeKinds, limits, coverage, .never⟩ =
          analyzeRustGraphImpact insertionSorter
            ⟨[Sample.call 2 3 2, Sample.call 1 2 1], start, edgeKinds, limits, coverage, .never⟩ :=
  ⟨.swap _ _ [], (trace_and_impact_eq_of_perm insertionSorter (.swap _ _ [])).2⟩

end RepoWitness
