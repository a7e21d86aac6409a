import RepoWitness.ScipOverlayWriter
import Mathlib.Data.List.Dedup
import Mathlib.Data.List.Lex

namespace RepoWitness

/-!
# Retention plans

A bounded policy and the contents of the store determine a plan: which retained
generations one collection may delete, and what it reserves for deleting them.
The two digests are functions of exactly what the writer hashes.  Counts stay
below the row ceiling, so a checked addition that would overflow is already
past the limit it is compared with.
-/

section Policy

def maxRetainedGenerationsPerSourceSlot : Nat := 4096

def maxRetentionGenerationPins : Nat := 4096

def maxRetentionViewPins : Nat := 4096

def maxRetentionGenerationCandidates : Nat := 4096

def maxRetentionRows : Nat := 100000000

def maxRetentionBytes : Nat := 17179869184

/-- Hard work budgets of one collection. -/
structure RetentionLimits where
  maxGenerationCandidates : Nat
  maxRows : Nat
  maxEstimatedBytes : Nat
  candidatesBounded :
    0 < maxGenerationCandidates ∧ maxGenerationCandidates ≤ maxRetentionGenerationCandidates
  rowsBounded : 0 < maxRows ∧ maxRows ≤ maxRetentionRows
  bytesBounded : 0 < maxEstimatedBytes ∧ maxEstimatedBytes ≤ maxRetentionBytes
  deriving DecidableEq

/-- The default limits. -/
def RetentionLimits.default : RetentionLimits where
  maxGenerationCandidates := 64
  maxRows := 1000000
  maxEstimatedBytes := 536870912
  candidatesBounded := by decide
  rowsBounded := by decide
  bytesBounded := by decide

/-- Generations and views held by readers and tasks, in ascending order. -/
structure RetentionPins where
  explicitGenerations : List Nat
  supervisedGenerations : List Nat
  workspaceViews : List Nat
  ascending : explicitGenerations.Pairwise (· < ·) ∧
      supervisedGenerations.Pairwise (· < ·) ∧
      workspaceViews.Pairwise (· < ·)
  generationsBounded :
    explicitGenerations.length + supervisedGenerations.length ≤ maxRetentionGenerationPins
  viewsBounded : workspaceViews.length ≤ maxRetentionViewPins
  deriving DecidableEq

/-- No pin. -/
def RetentionPins.none : RetentionPins where
  explicitGenerations := []
  supervisedGenerations := []
  workspaceViews := []
  ascending := by decide
  generationsBounded := by decide
  viewsBounded := by decide

structure GenerationRetentionPolicy where
  retainedGenerationsPerSourceSlot : Nat
  limits : RetentionLimits
  pins : RetentionPins
  retainedBounded : 0 < retainedGenerationsPerSourceSlot ∧
      retainedGenerationsPerSourceSlot ≤ maxRetainedGenerationsPerSourceSlot
  deriving DecidableEq

end Policy

/-- Logical rows a collection has used and reserved. -/
structure RetentionWorkBudget where
  maximum : Nat
  consumed : Nat
  reserved : Nat
  deriving DecidableEq

namespace RetentionWorkBudget

def new (maximum : Nat) : RetentionWorkBudget where
  maximum := maximum
  consumed := 0
  reserved := 0

def logicalRows (budget : RetentionWorkBudget) : Nat := budget.consumed + budget.reserved

def withinLimit (budget : RetentionWorkBudget) : Except SqliteStoreError RetentionWorkBudget :=
  if budget.logicalRows ≤ budget.maximum then
    .ok budget
  else
    .error .retentionLimitExceeded

def consume (budget : RetentionWorkBudget)
    (rows : Nat) : Except SqliteStoreError RetentionWorkBudget :=
  { budget with consumed := budget.consumed + rows }.withinLimit

def reserve (budget : RetentionWorkBudget)
    (rows : Nat) : Except SqliteStoreError RetentionWorkBudget :=
  { budget with reserved := budget.reserved + rows }.withinLimit

def canReserve (budget : RetentionWorkBudget) (rows : Nat) : Bool :=
  budget.logicalRows + rows ≤ budget.maximum

def releaseReservations (budget : RetentionWorkBudget) : RetentionWorkBudget :=
  { budget with reserved := 0 }

def available (budget : RetentionWorkBudget) : Nat := budget.maximum - budget.logicalRows

end RetentionWorkBudget

section Pins

variable (rows : StoreRows)

/-- Pinned generations and the budget left after recording them. -/
abbrev PinnedGenerations := List Nat × RetentionWorkBudget

/-- A supervised generation may be unfinished; an explicit one must have been
activated. -/
def validateGenerationPin (supervised : Bool) (generation : Nat) : Bool :=
  (rows .indexGenerations).any fun row =>
    row.generation == generation &&
      (if supervised then
        !row.lifecycle.abandoned
      else
        row.lifecycle == .active || row.lifecycle == .retained)

def pinGeneration (supervised : Bool) (state : PinnedGenerations)
    (generation : Nat) : Except SqliteStoreError PinnedGenerations :=
  if validateGenerationPin rows supervised generation then do
    let budget ← state.2.consume 1
    return (state.1.insert generation, budget)
  else
    .error .retentionPinUnavailable

def pinViewMember (state : PinnedGenerations)
    (generation : Nat) : Except SqliteStoreError PinnedGenerations := do
  let budget ← state.2.consume 1
  if (state.1.insert generation).length ≤ maxRetentionGenerationPins then
    return (state.1.insert generation, budget)
  else
    .error .retentionPinUnavailable

def viewGenerations (view : Nat) : List Nat :=
  (((rows .workspaceViewMembers).filter fun row =>
      row.view == view).insertionSort fun first second =>
        first.ordinal ≤ second.ordinal).map fun row => row.generation

def pinView (state : PinnedGenerations) (view : Nat) : Except SqliteStoreError PinnedGenerations :=
  if (rows .workspaceViews).any fun row =>
      row.view == view && row.lifecycle == .published then do
    let budget ← state.2.consume 1
    let pinned ← (viewGenerations rows view).foldlM pinViewMember (state.1, budget)
    if (viewGenerations rows view).isEmpty then
      .error .integrityCheckFailed
    else
      return pinned
  else
    .error .retentionPinUnavailable

def validateRetentionPins (pins : RetentionPins) (budget : RetentionWorkBudget) :
    Except SqliteStoreError PinnedGenerations := do
  let explicit ← pins.explicitGenerations.foldlM (pinGeneration rows false) ([], budget)
  let supervised ← pins.supervisedGenerations.foldlM (pinGeneration rows true) explicit
  pins.workspaceViews.foldlM (pinView rows) supervised

end Pins

section Citations

variable (rows : StoreRows)

def snapshotCited (snapshot : Bytes32) : Bool :=
  ((rows .memoryVersions).any fun row =>
      row.validitySourceSnapshot == some snapshot) ||
    ((rows .memoryEvidence).any fun row => row.sourceSnapshot == snapshot) ||
    ((rows .memoryAudit).any fun row => row.sourceSnapshot == some snapshot) ||
    ((rows .memoryCorrespondenceAudit).any fun row =>
      row.sourceSnapshot == snapshot || row.targetSnapshot == snapshot) ||
    ((rows .memoryProjectionEvidence).any fun row =>
      row.target.any fun target => target.snapshot == snapshot) ||
    (rows .memoryProjectionCandidates).any fun row => row.target.snapshot == snapshot

def artifactCited (artifact : Bytes32) : Bool :=
  ((rows .memoryEvidence).any fun row => row.artifact == artifact) ||
    ((rows .memoryCorrespondenceAudit).any fun row =>
      row.sourceArtifact == artifact || row.targetArtifact == artifact) ||
    ((rows .memoryProjectionEvidence).any fun row =>
      row.target.any fun target => target.artifact == artifact) ||
    (rows .memoryProjectionCandidates).any fun row => row.target.artifact == artifact

def generationHeld (generation : Nat) : Bool :=
  ((rows .workspaces).any fun row =>
      row.activeGeneration == some generation) ||
    ((rows .workspaceViewMembers).any fun member =>
      member.generation == generation && memberOfActiveView rows member) ||
    ((rows .sourceSlotGenerationReceipts).any fun receipt =>
      receipt.generation == generation && receiptIsCurrent rows receipt) ||
    (rows .memoryProjectionGenerations).any fun row => row.indexGeneration == generation

/-- The graph of another generation reads the generation. -/
def isCrossGenerationSource (generation : Nat) : Bool :=
  (rows .generationGraphSources).any fun source =>
    source.sourceGeneration == generation && source.generation != generation

end Citations

section Roots

/-- The relations whose rows a plan records as roots. -/
inductive RetentionRootDomain where
  | workspace
  | slot
  | activeView
  | currentReceipt
  | retainedGenerationFloor
  | graphSourceGeneration
  | memoryProjectionGeneration
  | memoryProjectionSnapshot
  | memoryVersionSnapshot
  | memoryEvidenceSnapshot
  | memoryEvidenceArtifact
  | memoryAuditSnapshot
  | memoryCorrespondenceSourceSnapshot
  | memoryCorrespondenceTargetSnapshot
  | memoryCorrespondenceSourceArtifact
  | memoryCorrespondenceTargetArtifact
  | memoryProjectionEvidenceSnapshot
  | memoryProjectionEvidenceArtifact
  | memoryProjectionCandidateSnapshot
  | memoryProjectionCandidateArtifact
  | scipOverlayReceipt
  | activeScipOverlay
  deriving DecidableEq

/-- One recorded root: the columns the plan hashes, blobs as numbers. -/
structure RetentionRoot where
  domain : RetentionRootDomain
  values : List Nat
  deriving DecidableEq

/-- Rows of one root relation in the order of their columns. -/
def rootRows (domain : RetentionRootDomain) (values : List (List Nat)) : List RetentionRoot :=
  (values.insertionSort (· ≤ ·)).map fun row => { domain, values := row }

def MemoryRevisionKey.values (key : MemoryRevisionKey) : List Nat :=
  [key.workspace, key.record.toNat, key.revision.toNat]

/-- Position of a retained generation among those of its workspace, newest
first. -/
def retainedRank (rows : StoreRows) (generation : IndexGenerationRow) : Nat :=
  1 + (rows .indexGenerations).countP fun other =>
    other.lifecycle == .retained && other.workspace == generation.workspace &&
      (generation.sourceEpoch < other.sourceEpoch ||
        (generation.sourceEpoch == other.sourceEpoch && generation.generation < other.generation))

variable (rows : StoreRows)

def retainedFloorRoots (retained : Nat) : List RetentionRoot :=
  let ranked := (rows .workspaceSourceSlots).flatMap fun slot =>
    ((rows .indexGenerations).filter fun generation =>
      generation.workspace == slot.generationWorkspace &&
        generation.lifecycle == .retained &&
        retainedRank rows generation ≤ retained).map fun generation =>
          (slot.sourceSlot.toNat, retainedRank rows generation,
            generation.sourceEpoch, generation.generation)
  (ranked.insertionSort fun first second =>
    first.1 < second.1 ∨ first.1 = second.1 ∧ first.2.1 ≤ second.2.1).map
    fun (slot, rank, epoch, generation) =>
      { domain := .retainedGenerationFloor, values := [slot, epoch, generation, rank] }

def correspondenceValues (row : MemoryCorrespondenceAuditRow) : List Nat :=
  row.revision.values ++ [row.evidenceOrdinal, row.sourceSnapshot.toNat,
      row.targetSnapshot.toNat, row.sourceArtifact.toNat,
      row.targetArtifact.toNat, row.sourceFactOrdinal,
      row.targetFactOrdinal]

def evidenceTargetValues (column : MemoryProjectionTarget → Bytes32)
    (row : MemoryProjectionEvidenceRow) : Option (List Nat) :=
  row.target.map fun target => row.revision.values ++ [row.evidenceOrdinal, (column target).toNat]

/-- The rows of the enforced relations, in the order they are queried. -/
def enforcedRetentionRoots : List RetentionRoot :=
  rootRows .graphSourceGeneration
    (((rows .generationGraphSources).filter fun row =>
      row.sourceGeneration != row.generation).map fun row =>
        [row.generation, row.ordinal, row.sourceSlot.toNat, row.sourceGeneration]) ++
  rootRows .memoryProjectionGeneration
    ((rows .memoryProjectionGenerations).map fun row => [row.workspace, row.indexGeneration]) ++
  rootRows .memoryProjectionSnapshot
    ((rows .memoryProjectionGenerations).map fun row => [row.workspace, row.snapshot.toNat]) ++
  rootRows .memoryVersionSnapshot
    ((rows .memoryVersions).filterMap fun row =>
      row.validitySourceSnapshot.map fun snapshot => row.revision.values ++ [snapshot.toNat]) ++
  rootRows .memoryEvidenceSnapshot
    ((rows .memoryEvidence).map fun row =>
      row.revision.values ++ [row.ordinal, row.sourceSnapshot.toNat]) ++
  rootRows .memoryEvidenceArtifact
    ((rows .memoryEvidence).map fun row =>
      row.revision.values ++ [row.ordinal, row.artifact.toNat]) ++
  rootRows .memoryAuditSnapshot
    ((rows .memoryAudit).filterMap fun row =>
      row.sourceSnapshot.map fun snapshot => row.revision.values ++ [snapshot.toNat]) ++
  rootRows .memoryCorrespondenceSourceSnapshot
    ((rows .memoryCorrespondenceAudit).map correspondenceValues) ++
  rootRows .memoryCorrespondenceTargetSnapshot
    ((rows .memoryCorrespondenceAudit).map correspondenceValues) ++
  rootRows .memoryCorrespondenceSourceArtifact
    ((rows .memoryCorrespondenceAudit).map correspondenceValues) ++
  rootRows .memoryCorrespondenceTargetArtifact
    ((rows .memoryCorrespondenceAudit).map correspondenceValues) ++
  rootRows .memoryProjectionEvidenceSnapshot
    ((rows .memoryProjectionEvidence).filterMap
      (evidenceTargetValues fun target => target.snapshot)) ++
  rootRows .memoryProjectionEvidenceArtifact
    ((rows .memoryProjectionEvidence).filterMap
      (evidenceTargetValues fun target => target.artifact)) ++
  rootRows .memoryProjectionCandidateSnapshot
    ((rows .memoryProjectionCandidates).map fun row =>
      row.revision.values ++ [row.evidenceOrdinal, row.ordinal, row.target.snapshot.toNat]) ++
  rootRows .memoryProjectionCandidateArtifact
    ((rows .memoryProjectionCandidates).map fun row =>
      row.revision.values ++ [row.evidenceOrdinal, row.ordinal, row.target.artifact.toNat]) ++
  rootRows .scipOverlayReceipt
    ((rows .scipOverlayReceipts).map fun row =>
      [row.overlay.toNat, row.connectedWorkspace.toNat, row.view,
        row.sourceSlot.toNat, row.sourceEpoch, row.generationWorkspace,
        row.generation, row.sourceSnapshot.toNat,
        row.sourceManifest.toNat, row.documentCount,
        row.occurrenceCount, row.relationshipCount]) ++
  rootRows .activeScipOverlay
    ((rows .activeScipOverlays).map fun row =>
      [row.connectedWorkspace.toNat, row.sourceSlot.toNat, row.view, row.overlay.toNat])

/-- Every root the plan records after the pins. -/
def retentionRoots (retained : Nat) : List RetentionRoot := rootRows .workspace
    ((rows .workspaces).map fun row =>
      [row.workspace, row.sourceEpoch, row.activeGeneration.getD 0]) ++
  rootRows .slot
    ((rows .workspaceSourceSlots).map fun row =>
      [row.connectedWorkspace.toNat, row.sourceSlot.toNat,
        row.generationWorkspace, row.sourceEpoch]) ++
  rootRows .activeView
    ((rows .activeWorkspaceViews).map fun row => [row.connectedWorkspace.toNat, row.view]) ++
  rootRows .currentReceipt (((rows .sourceSlotGenerationReceipts).filter
      (receiptIsCurrent rows)).map fun row =>
        [row.sourceSlot.toNat, row.sourceEpoch, row.generation]) ++
  retainedFloorRoots rows retained ++
  enforcedRetentionRoots rows

end Roots

section Eligibility

/-- One generation a collection may delete, with its sort columns. -/
structure EligibleRetentionGeneration where
  generation : Nat
  sortSourceSlot : Bytes32
  sourceEpoch : Nat
  deriving DecidableEq

def EligibleRetentionGeneration.sortKey (eligible : EligibleRetentionGeneration) : List Nat :=
  [eligible.sortSourceSlot.toNat, eligible.sourceEpoch, eligible.generation]

variable (rows : StoreRows)

/-- The conditions of the eligibility query on one generation. -/
def isRetentionEligible (retained : Nat) (pinned : List Nat) (row : IndexGenerationRow) : Bool :=
  row.lifecycle == .retained && retained < retainedRank rows row &&
    !generationHeld rows row.generation &&
    !isCrossGenerationSource rows row.generation &&
    !snapshotCited rows row.snapshot &&
    ((rows .generationFiles).all fun file =>
      !(file.generation == row.generation && artifactCited rows file.artifact)) &&
    !pinned.contains row.generation

def leastSourceSlot (workspace : Nat) : Option Bytes32 :=
  ((((rows .workspaceSourceSlots).filter fun slot =>
    slot.generationWorkspace == workspace).map fun slot =>
      slot.sourceSlot).insertionSort (· ≤ ·)).head?

/-- Eligible generations in collection order, before any limit. -/
def allEligibleGenerations (retained : Nat)
    (pinned : List Nat) : List EligibleRetentionGeneration :=
  ((rows .indexGenerations).filterMap fun row =>
    if isRetentionEligible rows retained pinned row then
      (leastSourceSlot rows row.workspace).map fun sortSourceSlot =>
        { generation := row.generation
          sortSourceSlot
          sourceEpoch := row.sourceEpoch }
    else
      none).insertionSort fun first second => first.sortKey ≤ second.sortKey

/-- A bounded list of eligible generations and whether it is cut off. -/
def eligibleRetentionGenerations (retained : Nat) (pinned : List Nat)
    (budget : RetentionWorkBudget) :
    Except SqliteStoreError (List EligibleRetentionGeneration × Bool × RetentionWorkBudget) :=
  let limit := min (maxRetentionGenerationCandidates + 1) budget.available
  if limit = 0 then
    .ok ([], true, budget)
  else do
    let eligible := (allEligibleGenerations rows retained pinned).take limit
    let consumed ← budget.consume eligible.length
    return (eligible, eligible.length == limit, consumed)

end Eligibility

section Estimate

variable (rows : StoreRows)

/-- Artifacts the selected generations refer to, each once. -/
def candidateArtifacts (selects : Nat → Bool) : List Bytes32 :=
  ((((rows .generationFiles).filter fun row =>
      selects row.generation).map fun row => row.artifact) ++
    (((rows .generationGraphArtifacts).filter fun row =>
      selects row.generation).map fun row => row.graphArtifact) ++
    (((rows .generationGraphDefinitions).filter fun row =>
      selects row.generation).map fun row => row.definition.artifact) ++
    (((rows .generationGraphResolutions).filter fun row =>
      selects row.generation).map fun row => row.site.artifact) ++
    (((rows .generationSyntaxSiteArtifacts).filter fun row =>
      selects row.generation).map fun row => row.syntaxSiteArtifact)).dedup

def viewsOfGeneration (generation : Nat) : List Nat :=
  (((rows .workspaceViewMembers).filter fun row =>
    row.generation == generation).map fun row => row.view).dedup

def isSnapshotOf (generation : Nat) (snapshot : Bytes32) : Bool :=
  (rows .indexGenerations).any fun row => row.generation == generation && row.snapshot == snapshot

def isEstimated (generation : Nat) : (table : StoreTable) → StoreRow table → Bool
  | .generationFiles, row => row.generation == generation
  | .generationFacts, row => row.generation == generation
  | .generationSearch, row => row.generation == generation
  | .generationSearchRebuild, row => row.generation == generation
  | .workspaceViewMembers, row => (viewsOfGeneration rows generation).contains row.view
  | .sourceSlotGenerationReceipts, row => row.generation == generation
  | .generationGraphEdges, row => row.site.generation == generation
  | .generationGraphCandidates, row => row.site.generation == generation
  | .generationGraphResolutions, row => row.generation == generation
  | .generationGraphDefinitions, row => row.generation == generation
  | .generationGraphArtifacts, row => row.generation == generation
  | .generationGraphSources, row => row.generation == generation
  | .generationGraphPublications, row => row.generation == generation
  | .generationGraphRequirements, row => row.generation == generation
  | .generationSyntaxSiteArtifacts, row => row.generation == generation
  | .generationSyntaxSitePublications, row => row.generation == generation
  | .generationSyntaxSiteRequirements, row => row.generation == generation
  | .generationRepositoryTopologyEntries, row => row.generation == generation
  | .generationRepositoryTopologyPublications, row => row.generation == generation
  | .generationRepositoryTopologyRequirements, row => row.generation == generation
  | .sourceSnapshots, row => isSnapshotOf rows generation row.snapshot
  | .sourceManifestEntries, row => isSnapshotOf rows generation row.snapshot
  | .artifactFacts, row => (candidateArtifacts rows (· == generation)).contains row.artifact
  | .artifactFactCorrespondence, row =>
    (candidateArtifacts rows (· == generation)).contains row.artifact
  | .rustGraphArtifacts, row => (candidateArtifacts rows (· == generation)).contains row.artifact
  | .rustGraphSites, row => (candidateArtifacts rows (· == generation)).contains row.artifact
  | .syntaxSiteArtifacts, row => (candidateArtifacts rows (· == generation)).contains row.artifact
  | .syntaxSites, row => (candidateArtifacts rows (· == generation)).contains row.artifact
  | _, _ => false

/-- The tables whose rows the estimate counts. -/
def estimatedTables : List StoreTable :=
  [.generationFiles, .generationFacts, .generationSearch,
    .generationSearchRebuild, .workspaceViewMembers,
    .sourceSlotGenerationReceipts, .generationGraphEdges,
    .generationGraphCandidates, .generationGraphResolutions,
    .generationGraphDefinitions, .generationGraphArtifacts,
    .generationGraphSources, .generationGraphPublications,
    .generationGraphRequirements, .generationSyntaxSiteArtifacts,
    .generationSyntaxSitePublications, .generationSyntaxSiteRequirements,
    .generationRepositoryTopologyEntries,
    .generationRepositoryTopologyPublications,
    .generationRepositoryTopologyRequirements, .sourceSnapshots,
    .sourceManifestEntries, .artifactFacts, .artifactFactCorrespondence,
    .rustGraphArtifacts, .rustGraphSites, .syntaxSiteArtifacts,
    .syntaxSites]

def estimatedRows (generation : Nat) : Nat :=
  1 + (viewsOfGeneration rows generation).length +
    (candidateArtifacts rows (· == generation)).length +
    (estimatedTables.map fun table => (rows table).countP (isEstimated rows generation table)).sum

def estimatedRowBytes : Nat := 256

def u64Max : Nat := 18446744073709551615

def estimateRetentionGeneration (generation : Nat) : Except SqliteStoreError (Nat × Nat) := do
  let row ←
    ((rows .indexGenerations).find? fun row =>
      row.generation == generation).elim (.error .databaseOperationFailed) .ok
  let snapshot ←
    ((rows .sourceSnapshots).find? fun snapshot =>
      snapshot.snapshot == row.snapshot).elim (.error .databaseOperationFailed) .ok
  let counted := estimatedRows rows generation
  let bytes := counted * estimatedRowBytes + snapshot.totalSourceBytes
  if bytes ≤ u64Max then
    return (counted, bytes)
  else
    .error .retentionLimitExceeded

end Estimate

section Selection

variable (rows : StoreRows)

structure RetentionCandidateSelection where
  candidates : List Nat
  estimatedRows : Nat
  estimatedBytes : Nat
  moreWork : Bool
  deriving DecidableEq

/-- Select one more generation, or say that it does not fit. -/
def addRetentionCandidate (limits : RetentionLimits) (generation : Nat)
    (selection : RetentionCandidateSelection) (budget : RetentionWorkBudget) :
    Except SqliteStoreError (Bool × RetentionCandidateSelection × RetentionWorkBudget) := do
  let (candidateRows, candidateBytes) ← estimateRetentionGeneration rows generation
  let nextBytes := selection.estimatedBytes + candidateBytes
  if u64Max < nextBytes then
    .error .retentionLimitExceeded
  else if limits.maxEstimatedBytes < nextBytes ∨
      budget.canReserve (2 * candidateRows + 1) = false then
    if selection.candidates.isEmpty then
      .error .retentionLimitExceeded
    else
      return (false, { selection with moreWork := true }, budget)
  else
    let reserved ← budget.reserve (2 * candidateRows)
    return (true,
      { candidates := selection.candidates ++ [generation]
        estimatedRows := selection.estimatedRows + candidateRows
        estimatedBytes := nextBytes
        moreWork := selection.moreWork },
      reserved)

/-- Select generations in order until a limit is reached. -/
def addRetentionCandidates (limits : RetentionLimits) :
    List EligibleRetentionGeneration →
      RetentionCandidateSelection → RetentionWorkBudget →
      Except SqliteStoreError (RetentionCandidateSelection × RetentionWorkBudget)
  | [], selection, budget => .ok (selection, budget)
  | candidate :: rest, selection, budget =>
    if limits.maxGenerationCandidates ≤ selection.candidates.length then
      .ok ({ selection with moreWork := true }, budget)
    else do
      let (added, next, reserved) ←
        addRetentionCandidate rows limits candidate.generation selection budget
      if added then
        addRetentionCandidates limits rest next reserved
      else
        return (next, reserved)

def selectRetentionCandidates (limits : RetentionLimits)
    (eligible : List EligibleRetentionGeneration) (eligibleTruncated : Bool)
    (budget : RetentionWorkBudget) :
    Except SqliteStoreError (RetentionCandidateSelection × RetentionWorkBudget) := do
  let (selection, reserved) ←
    addRetentionCandidates rows limits eligible
      { candidates := [], estimatedRows := 0, estimatedBytes := 0, moreWork := eligibleTruncated }
      budget
  .ok
    ({ selection with
        moreWork := selection.moreWork || selection.candidates.length < eligible.length },
      reserved)

end Selection

section Plan

/-- What a plan digest is computed from. -/
structure RetentionPlanContent where
  policyDigest : Bytes32
  roots : List RetentionRoot
  eligible : List EligibleRetentionGeneration
  eligibleTruncated : Bool
  candidates : List Nat
  estimatedRows : Nat
  estimatedBytes : Nat
  rootCount : Nat
  unresolvedCount : Nat
  logicalWorkRows : Nat
  moreWork : Bool
  deriving DecidableEq

/-- The hash functions behind the two digests. -/
structure RetentionDigests where
  policy : GenerationRetentionPolicy → Bytes32
  plan : RetentionPlanContent → Bytes32

structure RetentionPlan where
  policyDigest : Bytes32
  planDigest : Bytes32
  candidateGenerations : List Nat
  estimatedRows : Nat
  estimatedBytes : Nat
  rootCount : Nat
  unresolvedCount : Nat
  eligibleTruncated : Bool
  logicalWorkRows : Nat
  moreWork : Bool
  deriving DecidableEq

variable (digests : RetentionDigests)

/-- Plan a collection; the budget keeps what the plan consumed and reserved.
Each recorded root consumes one row, so the count of roots is what has been
consumed when the last of them is recorded. -/
def buildRetentionPlanWithBudget (policy : GenerationRetentionPolicy) (rows : StoreRows) :
    Except SqliteStoreError (RetentionPlan × RetentionWorkBudget) := do
  let retained := policy.retainedGenerationsPerSourceSlot
  let (pinned, afterPins) ← validateRetentionPins rows policy.pins (.new policy.limits.maxRows)
  let roots := retentionRoots rows retained
  let afterRoots ← afterPins.consume roots.length
  let (eligible, eligibleTruncated, afterEligible) ←
    eligibleRetentionGenerations rows retained pinned afterRoots
  let (selection, afterSelection) ←
    selectRetentionCandidates rows policy.limits eligible eligibleTruncated afterEligible
  let budget ← afterSelection.reserve 1
  let unresolvedCount := eligible.length - selection.candidates.length
  let policyDigest := digests.policy policy
  let planDigest := digests.plan
    { policyDigest
      roots
      eligible
      eligibleTruncated
      candidates := selection.candidates
      estimatedRows := selection.estimatedRows
      estimatedBytes := selection.estimatedBytes
      rootCount := afterRoots.consumed
      unresolvedCount
      logicalWorkRows := budget.logicalRows
      moreWork := selection.moreWork }
  .ok
    ({ policyDigest
       planDigest
       candidateGenerations := selection.candidates
       estimatedRows := selection.estimatedRows
       estimatedBytes := selection.estimatedBytes
       rootCount := afterRoots.consumed
       unresolvedCount
       eligibleTruncated
       logicalWorkRows := budget.logicalRows
       moreWork := selection.moreWork },
      budget)

def buildRetentionPlan (policy : GenerationRetentionPolicy)
    (rows : StoreRows) : Except SqliteStoreError RetentionPlan :=
  (buildRetentionPlanWithBudget digests policy rows).map fun built => built.1

end Plan

end RepoWitness
