import Std.Data.TreeSet
import RepoWitness.GraphTraversalSort

namespace RepoWitness

open Std

/-!
# The traversal engine

`trace_rust_graph` admits an edge slice into three sorted index vectors and
then explores it level by level under independent budgets.  The definitions
follow the engine function by function; an index vector is modelled by the
edges its entries address, and each loop by a recursion over what it iterates.
-/

def traceOutputFixedBytes : Nat := 96

def traceEdgeFixedBytes : Nat := 20

def definitionFixedBytes : Nat := 105

def siteFixedBytes : Nat := 101

/-! ## Byte accounting -/

def encodedDefinitionBytes (definition : RustGraphDefinitionIdentity) :
    Except RustGraphTraceError Nat := checkedAdd definitionFixedBytes definition.path.bytes.length

def encodedRelationshipBytes (edge : RustGraphTraversalEdge) : Except RustGraphTraceError Nat := do
  let source ← encodedDefinitionBytes edge.source
  let target ← encodedDefinitionBytes edge.target
  let site ← checkedAdd siteFixedBytes edge.site.path.bytes.length
  let definitions ← checkedAdd source target
  let identities ← checkedAdd definitions site
  checkedAdd identities 16

/-! ## Orders -/

def compareBySite : RustGraphTraversalEdge → RustGraphTraversalEdge → Ordering :=
  compareLex (compareOn (·.site)) <|
  compareLex (compareOn (·.target)) <|
  compareLex (compareOn (·.source)) <|
  compareLex (compareOn (·.cardinality)) <|
  compareLex (compareOn (·.extractionEvidence)) (compareOn (·.resolutionEvidence))

def compareRelationship : RustGraphTraversalEdge → RustGraphTraversalEdge → Ordering :=
  compareLex (compareOn (·.kind)) <|
  compareLex (compareOn (·.resolutionEvidence)) <|
  compareLex (compareOn (·.extractionEvidence)) <|
  compareLex (compareOn (·.source)) <|
  compareLex (compareOn (·.site)) <|
  compareLex (compareOn (·.target)) (compareOn (·.cardinality))

def compareOutbound : RustGraphTraversalEdge → RustGraphTraversalEdge → Ordering :=
  compareLex (compareOn (·.source)) compareRelationship

def compareInbound : RustGraphTraversalEdge → RustGraphTraversalEdge → Ordering :=
  compareLex (compareOn (·.target)) compareRelationship

def orientedOrigin (direction : RustGraphTraceDirection) (edge : RustGraphTraversalEdge) :
    RustGraphDefinitionIdentity :=
  match direction with
  | .outbound => edge.source
  | .inbound => edge.target

def orientedNeighbor (direction : RustGraphTraceDirection) (edge : RustGraphTraversalEdge) :
    RustGraphDefinitionIdentity :=
  match direction with
  | .outbound => edge.target
  | .inbound => edge.source

/-! ## Admission -/

/-- The admitted slice as its three sorted index vectors. -/
structure AdmittedEdges where
  bySite : List RustGraphTraversalEdge
  outbound : List RustGraphTraversalEdge
  inbound : List RustGraphTraversalEdge
  inputBytes : Nat
  deriving DecidableEq

namespace AdmittedEdges

/-- The accounting loop over the unsorted input. -/
def sumInputBytes (limits : RustGraphTraceLimits) :
    Nat → List RustGraphTraversalEdge → Polled RustGraphTraceError Nat
  | inputBytes, [] => pure inputBytes
  | inputBytes, edge :: edges => do
    Polled.poll
    let encoded ← Polled.done (encodedRelationshipBytes edge)
    let total ← Polled.done (checkedAdd inputBytes encoded)
    if limits.maxInputBytes < total then
      Polled.fail .inputByteLimitExceeded
    else
      sumInputBytes limits total edges

/-- Close a site group: its size must be what its edges declare. -/
def closeSiteGroup (first : RustGraphTraversalEdge) (size : Nat) :
    Polled RustGraphTraceError Unit :=
  if 2 ^ 32 ≤ size then
    Polled.fail .countOverflow
  else if size ≠ first.cardinality.retainedCandidates then
    Polled.fail .invalidEdge
  else
    pure ()

/--
The nested loops over site groups, inside a group that began with `first`,
whose last edge is `previous` and which has `size` edges so far.
-/
def validateSiteGroup (first previous : RustGraphTraversalEdge) (size : Nat) :
    List RustGraphTraversalEdge → Polled RustGraphTraceError Unit
  | [] => closeSiteGroup first size
  | current :: rest =>
    if current.site = first.site then do
      Polled.poll
      if current.source ≠ first.source ∨
          current.extractionEvidence ≠ first.extractionEvidence ∨
          current.cardinality ≠ first.cardinality then
        Polled.fail .invalidEdge
      else if current.target = previous.target then
        Polled.fail .duplicateEdge
      else
        validateSiteGroup first current (size + 1) rest
    else do
      closeSiteGroup first size
      -- The outer loop polls when it opens the next group.
      Polled.poll
      validateSiteGroup current current 1 rest

def validateSiteGroups : List RustGraphTraversalEdge → Polled RustGraphTraceError Unit
  | [] => pure ()
  | first :: rest => do
    Polled.poll
    validateSiteGroup first first 1 rest

def new (sorter : UnstableSort) (edges : List RustGraphTraversalEdge)
    (limits : RustGraphTraceLimits) :
    Polled RustGraphTraceError AdmittedEdges :=
  if limits.maxInputEdges < edges.length then
    Polled.fail .inputEdgeLimitExceeded
  else do
    let inputBytes ← sumInputBytes limits 0 edges
    let bySite ← cancellableSortIndices sorter compareBySite edges
    validateSiteGroups bySite
    let outbound ← cancellableSortIndices sorter compareOutbound bySite
    let inbound ← cancellableSortIndices sorter compareInbound bySite
    Polled.poll
    pure ⟨bySite, outbound, inbound, inputBytes⟩

def adjacent (admitted : AdmittedEdges) (definition : RustGraphDefinitionIdentity)
    (direction : RustGraphTraceDirection) :
    List RustGraphTraversalEdge :=
  let indexes :=
    match direction with
    | .outbound => admitted.outbound
    | .inbound => admitted.inbound
  equalRange (orientedOrigin direction) definition indexes

def matchingSite (admitted : AdmittedEdges) (site : RustGraphSiteIdentity) :
    List RustGraphTraversalEdge := equalRange (·.site) site admitted.bySite

end AdmittedEdges

/-! ## Traversal -/

/-- The part of a request that the exploration itself reads. -/
structure TraversalSettings where
  direction : RustGraphTraceDirection
  edgeKinds : RustGraphEdgeKinds
  limits : RustGraphTraceLimits

def RustGraphTraceRequest.settings (request : RustGraphTraceRequest) : TraversalSettings where
  direction := request.direction
  edgeKinds := request.edgeKinds
  limits := request.limits

abbrev DefinitionSet := TreeSet RustGraphDefinitionIdentity

/-- The mutable state of one exploration. -/
structure Traversal where
  seen : DefinitionSet
  current : DefinitionSet
  next : DefinitionSet
  results : List RustGraphTraceEdge
  visitedEdges : Nat
  maximumCompletedDepth : Nat
  truncation : RustGraphTraceTruncation
  inputBytes : Nat
  outputBytes : Nat
  stop : Bool

namespace Traversal

def new (limits : RustGraphTraceLimits) (inputBytes : Nat) : Except RustGraphTraceError Traversal :=
  if limits.maxOutputBytes < traceOutputFixedBytes then
    .error .outputLimitExceeded
  else
    .ok
      { seen := ∅, current := ∅
        next := ∅
        results := []
        visitedEdges := 0
        maximumCompletedDepth := 0
        truncation := .none
        inputBytes := inputBytes
        outputBytes := traceOutputFixedBytes
        stop := false }

def setDepth (traversal : Traversal) : Traversal :=
  { traversal with
    truncation := { traversal.truncation with depth := true } }

def setVisitedNodes (traversal : Traversal) : Traversal :=
  { traversal with
    truncation := { traversal.truncation with visitedNodes := true } }

def setVisitedEdges (traversal : Traversal) : Traversal :=
  { traversal with
    truncation := { traversal.truncation with visitedEdges := true } }

def setFrontier (traversal : Traversal) : Traversal :=
  { traversal with
    truncation := { traversal.truncation with frontier := true } }

def setResults (traversal : Traversal) : Traversal :=
  { traversal with
    truncation := { traversal.truncation with results := true } }

/-- Charge one examined edge, or refuse it and stop. -/
def admitVisitedEdge (limits : RustGraphTraceLimits) (traversal : Traversal) :
    Except RustGraphTraceError (Bool × Traversal) :=
  if limits.maxVisitedEdges ≤ traversal.visitedEdges then
    .ok (false, { traversal.setVisitedEdges with stop := true })
  else do
    let visitedEdges ← checkedAdd traversal.visitedEdges 1
    pure (true, { traversal with visitedEdges := visitedEdges })

/-- Charge one distinct definition, or refuse it. -/
def admitNode (limits : RustGraphTraceLimits) (traversal : Traversal)
    (definition : RustGraphDefinitionIdentity) :
    Bool × Traversal :=
  if limits.maxVisitedNodes ≤ traversal.seen.size then
    (false, traversal)
  else
    (true, { traversal with seen := traversal.seen.insert definition })

def addOutputBytes (limits : RustGraphTraceLimits) (traversal : Traversal) (bytes : Nat) :
    Except RustGraphTraceError Traversal := do
  let outputBytes ← checkedAdd traversal.outputBytes bytes
  if limits.maxOutputBytes < outputBytes then
    .error .outputLimitExceeded
  else
    pure { traversal with outputBytes := outputBytes }

/--
Emit one edge, or stop when the result budget is spent.  The flag says whether
the emission loop goes on.
-/
def emitEdge (settings : TraversalSettings) (depth : Nat) (edge : RustGraphTraversalEdge)
    (traversal : Traversal) :
    Except RustGraphTraceError (Bool × Traversal) :=
  if settings.limits.maxResults ≤ traversal.results.length then
    .ok (false, { traversal.setResults with stop := true })
  else do
    let encoded ← encodedRelationshipBytes edge
    let bytes ← checkedAdd traceEdgeFixedBytes encoded
    let charged ← traversal.addOutputBytes settings.limits bytes
    pure (true, { charged with results := charged.results ++ [⟨depth, edge⟩] })

/-- Queue a newly admitted definition for the next level if it has room. -/
def queueNeighbor (limits : RustGraphTraceLimits) (traversal : Traversal)
    (neighbor : RustGraphDefinitionIdentity) : Traversal :=
  if limits.maxFrontier ≤ traversal.next.size then
    traversal.setFrontier
  else
    { traversal with next := traversal.next.insert neighbor }

/-- The body of the emission loop for one selected edge. -/
def processSelectedEdge (settings : TraversalSettings) (depth : Nat) (edge : RustGraphTraversalEdge)
    (traversal : Traversal) :
    Except RustGraphTraceError (Bool × Traversal) :=
  let origin := orientedOrigin settings.direction edge
  let neighbor := orientedNeighbor settings.direction edge
  if origin ∉ traversal.seen then
    .ok (true, traversal)
  else if neighbor ∈ traversal.seen then
    traversal.emitEdge settings depth edge
  else
    match traversal.admitNode settings.limits neighbor with
    | (false, refused) => .ok (true, refused.setVisitedNodes)
    | (true, admitted) =>
      (admitted.queueNeighbor settings.limits neighbor).emitEdge settings depth edge

/-- The emission loop over the selected edges of one level. -/
def processSelectedEdges (settings : TraversalSettings) (depth : Nat) :
    List RustGraphTraversalEdge → Traversal → Polled RustGraphTraceError Traversal
  | [], traversal => pure traversal
  | edge :: selected, traversal => do
    Polled.poll
    let (continues, processed) ← Polled.done (traversal.processSelectedEdge settings depth edge)
    if continues then
      processSelectedEdges settings depth selected processed
    else
      pure processed

/-- The edge-selection loop of a site start. -/
def selectMatching (settings : TraversalSettings) :
    List RustGraphTraversalEdge → List RustGraphTraversalEdge → Traversal →
      Polled RustGraphTraceError (List RustGraphTraversalEdge × Traversal)
  | [], selected, traversal => pure (selected, traversal)
  | edge :: matching, selected, traversal => do
    Polled.poll
    if settings.edgeKinds.allows edge.kind then
      let (admitted, charged) ← Polled.done (traversal.admitVisitedEdge settings.limits)
      if admitted then
        selectMatching settings matching (selected ++ [edge]) charged
      else
        pure (selected, charged)
    else
      selectMatching settings matching selected traversal

/-- The edge-selection loop of one frontier definition. -/
def selectAdjacent (settings : TraversalSettings) :
    List RustGraphTraversalEdge → List RustGraphTraversalEdge → Traversal →
      Polled RustGraphTraceError (List RustGraphTraversalEdge × Traversal)
  | [], selected, traversal => pure (selected, traversal)
  | edge :: adjacent, selected, traversal =>
    if settings.edgeKinds.allows edge.kind then do
      let (admitted, charged) ← Polled.done (traversal.admitVisitedEdge settings.limits)
      if admitted then
        selectAdjacent settings adjacent (selected ++ [edge]) charged
      else
        pure (selected, charged)
    else
      selectAdjacent settings adjacent selected traversal

def selectFrontier (settings : TraversalSettings) (admitted : AdmittedEdges) :
    List RustGraphDefinitionIdentity → List RustGraphTraversalEdge → Traversal →
      Polled RustGraphTraceError (List RustGraphTraversalEdge × Traversal)
  | [], selected, traversal => pure (selected, traversal)
  | definition :: current, selected, traversal => do
    Polled.poll
    let (extended, charged) ←
      selectAdjacent settings (admitted.adjacent definition settings.direction) selected traversal
    if charged.stop then
      pure (extended, charged)
    else
      selectFrontier settings admitted current extended charged

def anyAllowed (settings : TraversalSettings) :
    List RustGraphTraversalEdge → Polled RustGraphTraceError Bool
  | [] => pure false
  | edge :: adjacent => do
    Polled.poll
    if settings.edgeKinds.allows edge.kind then
      pure true
    else
      anyAllowed settings adjacent

/-- Probe whether a cut-off frontier still has allowed edges. -/
def frontierHasAllowedEdges (settings : TraversalSettings) (admitted : AdmittedEdges) :
    List RustGraphDefinitionIdentity → Polled RustGraphTraceError Bool
  | [] => pure false
  | definition :: next => do
    Polled.poll
    let found ← anyAllowed settings (admitted.adjacent definition settings.direction)
    if found then
      pure true
    else
      frontierHasAllowedEdges settings admitted next

/-- Record a completed level. -/
def completeDepth (depth : Nat) (traversal : Traversal) : Traversal :=
  if traversal.stop then
    traversal
  else
    { traversal with maximumCompletedDepth := depth }

/-- The depth-limit probe at the end of the last permitted level. -/
def probeDepth (settings : TraversalSettings) (admitted : AdmittedEdges) (traversal : Traversal) :
    Polled RustGraphTraceError Traversal := do
  let found ← frontierHasAllowedEdges settings admitted traversal.next.toList
  if found then
    pure traversal.setDepth
  else
    pure traversal

/-- Make the queued definitions the current frontier. -/
def advance (traversal : Traversal) : Traversal :=
  { traversal with current := traversal.next, next := ∅ }

/-- The level loop over the remaining depths. -/
def runDepths (sorter : UnstableSort) (settings : TraversalSettings) (admitted : AdmittedEdges) :
    List Nat → Traversal → Polled RustGraphTraceError Traversal
  | [], traversal => pure traversal
  | depth :: depths, traversal => do
    Polled.poll
    if traversal.current.isEmpty || traversal.stop then
      pure traversal
    else
      let (selected, charged) ←
        selectFrontier settings admitted traversal.current.toList []
          { traversal with current := ∅ }
      let ordered ← cancellableSortIndices sorter compareRelationship selected
      let processed ← processSelectedEdges settings depth ordered charged
      let completed := processed.completeDepth depth
      if depth = settings.limits.maxDepth then
        completed.probeDepth settings admitted
      else
        runDepths sorter settings admitted depths completed.advance

/-- `for depth in first_depth..=max_depth`. -/
def runFromDepth (sorter : UnstableSort) (settings : TraversalSettings) (admitted : AdmittedEdges)
    (firstDepth : Nat) (traversal : Traversal) :
    Polled RustGraphTraceError Traversal :=
  runDepths sorter settings admitted
    (List.range' firstDepth (settings.limits.maxDepth + 1 - firstDepth))
    traversal

def admitOrigins (settings : TraversalSettings) :
    List RustGraphTraversalEdge → Traversal → Traversal
  | [], traversal => traversal
  | edge :: selected, traversal =>
    let origin := orientedOrigin settings.direction edge
    if origin ∈ traversal.seen then
      admitOrigins settings selected traversal
    else
      match traversal.admitNode settings.limits origin with
      | (true, admitted) => admitOrigins settings selected admitted
      | (false, refused) => admitOrigins settings selected refused.setVisitedNodes

def runFromSite (sorter : UnstableSort) (settings : TraversalSettings) (admitted : AdmittedEdges)
    (site : RustGraphSiteIdentity) (traversal : Traversal) :
    Polled RustGraphTraceError Traversal :=
  let matching := admitted.matchingSite site
  if matching.isEmpty then
    Polled.fail .startUnavailable
  else do
    let (selected, charged) ← selectMatching settings matching [] traversal
    let ordered ← cancellableSortIndices sorter compareRelationship selected
    let processed ← processSelectedEdges settings 1 ordered (charged.admitOrigins settings ordered)
    let completed := if ordered.isEmpty then processed else processed.completeDepth 1
    if settings.limits.maxDepth = 1 then
      completed.probeDepth settings admitted
    else
      runFromDepth sorter settings admitted 2 completed.advance

/-- Begin at one exact declaration. -/
def seedDefinition (definition : RustGraphDefinitionIdentity) (traversal : Traversal) : Traversal :=
  { traversal with
    seen := traversal.seen.insert definition
    current := traversal.current.insert definition }

def run (sorter : UnstableSort) (settings : TraversalSettings) (admitted : AdmittedEdges)
    (start : RustGraphTraceStart) (traversal : Traversal) :
    Polled RustGraphTraceError Traversal :=
  match start with
  | .definition definition =>
    runFromDepth sorter settings admitted 1 (traversal.seedDefinition definition)
  | .site site => runFromSite sorter settings admitted site traversal

def finish (coverage : RustGraphTraceCoverage) (traversal : Traversal) :
    Polled RustGraphTraceError RustGraphTraceResult := do
  Polled.poll
  pure
    { edges := traversal.results, visitedNodes := traversal.seen.size
      visitedEdges := traversal.visitedEdges
      maximumCompletedDepth := traversal.maximumCompletedDepth
      truncation := traversal.truncation
      coverage := coverage
      inputBytes := traversal.inputBytes
      outputBytes := traversal.outputBytes }

end Traversal

/-- The trace as a computation that polls its control. -/
def polledTrace (sorter : UnstableSort) (request : RustGraphTraceRequest) :
    Polled RustGraphTraceError RustGraphTraceResult := do
  Polled.poll
  let admitted ← AdmittedEdges.new sorter request.edges request.limits
  let initial ← Polled.done (Traversal.new request.limits admitted.inputBytes)
  let explored ← initial.run sorter request.settings admitted request.start
  Polled.poll
  explored.finish request.coverage

/-- Trace one complete immutable generation-local relationship slice. -/
def traceRustGraph (sorter : UnstableSort) (request : RustGraphTraceRequest) :
    Except RustGraphTraceError RustGraphTraceResult :=
  (polledTrace sorter request).observe request.control.outcome

/-! ## A small slice -/

namespace Sample

/-- The declaration at bytes `10 n .. 10 n + 9`. -/
def definition (index : UInt8) : RustGraphDefinitionIdentity where
  sourceSlot := 0
  path := path
  artifact := 0
  factOrdinal := index.toNat
  kind := .function
  nameSpan := ⟨10 * index.toNat, 10 * index.toNat + 1, by omega⟩
  declarationSpan := ⟨10 * index.toNat, 10 * index.toNat + 9, by omega⟩
  ordinalBounded := byte_interoperable index
  rustPath := by decide
  nameNonempty := by simp [ByteSpan.isEmpty]
  nameInside := by simp [spanContains]

def site (index : UInt8) (ordinal : Nat) : RustGraphSiteIdentity where
  sourceSlot := 0
  path := path
  artifact := 0
  ordinal := ordinal
  kind := .call
  occurrenceSpan := ⟨10 * index.toNat + 2, 10 * index.toNat + 3, by omega⟩
  targetSpan := ⟨10 * index.toNat + 2, 10 * index.toNat + 3, by omega⟩
  rustPath := by decide
  targetNonempty := by simp [ByteSpan.isEmpty]
  targetInside := by simp [spanContains]

/-- The unique call from one declaration to another. -/
def call (source target : UInt8) (ordinal : Nat) : RustGraphTraversalEdge where
  source := definition source
  site := site source ordinal
  target := definition target
  extractionEvidence := .directSyntax
  resolutionEvidence := .qualifiedSyntax
  cardinality := .unique
  supported := rfl
  sameSlot := rfl
  samePath := rfl
  siteInside := by simp [spanContains, definition, site]

def request (edges : List RustGraphTraversalEdge)
    (start : RustGraphTraceStart) : RustGraphTraceRequest where
  edges := edges
  start := start
  direction := .outbound
  edgeKinds := .all
  limits := .default
  coverage := ⟨0, 0, 0, 0, 0, 0, 0, 0⟩
  control := .never

end Sample

end RepoWitness
