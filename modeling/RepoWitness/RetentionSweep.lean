import RepoWitness.RetentionPlan

namespace RepoWitness

open Transaction

/-!
# Applying a retention plan

One transaction rebuilds the plan, marks its generations and what only they
hold, deletes the marked rows from the dependent tables to the tables they
depend on, and records the collection.  A mark goes with the row it is on, and
every deletion it authorizes comes before that row's own, so the marks stay as
they are while the tables are swept.
-/

section Marks

variable (rows : StoreRows)

/-- The trigger `retention_generation_garbage_validate_insert`. -/
def generationMarkable (generation : Nat) : Bool :=
  (generationStates rows generation fun state => state == .retained) &&
    !generationHeld rows generation

/-- Mark one generation that exists and is not marked yet. -/
def markGeneration (state : List Nat × RetentionWorkBudget) (generation : Nat) :
    Except SqliteStoreError (List Nat × RetentionWorkBudget) :=
  if !state.1.contains generation &&
      ((rows .indexGenerations).any fun row => row.generation == generation) &&
      generationMarkable rows generation then do
    let budget ← state.2.consume 1
    return (state.1 ++ [generation], budget)
  else
    .error .integrityCheckFailed

variable (generations : List Nat)

def overlayMarks : List Bytes32 :=
  ((rows .scipOverlayReceipts).filter fun receipt =>
    receipt.lifecycle == .complete &&
      generations.contains receipt.generation).map fun receipt => receipt.overlay

/-- The trigger `retention_scip_overlay_garbage_validate_insert`. -/
def overlayMarkable (overlay : Bytes32) : Bool :=
  eachOf (rows .scipOverlayReceipts) (fun receipt => receipt.overlay == overlay)
      (fun receipt => receipt.lifecycle == .complete) &&
    (rows .scipOverlayReceipts).any fun receipt =>
      receipt.overlay == overlay && generations.contains receipt.generation

def viewMarks : List Nat :=
  ((rows .workspaceViews).filter fun row =>
    row.lifecycle == .published &&
      ((rows .workspaceViewMembers).any fun member =>
        member.view == row.view && generations.contains member.generation) &&
      !((rows .activeWorkspaceViews).any fun active =>
        active.view == row.view)).map fun row => row.view

/-- The trigger `retention_workspace_view_garbage_validate_insert`. -/
def viewMarkable (view : Nat) : Bool :=
  eachOf (rows .workspaceViews) (fun row => row.view == view)
      (fun row => row.lifecycle == .published) &&
    !((rows .activeWorkspaceViews).any fun active => active.view == view)

def receiptMarks : List (Bytes32 × Nat) :=
  ((rows .sourceSlotGenerationReceipts).filter fun receipt =>
    generations.contains receipt.generation &&
      !receiptIsCurrent rows receipt).map fun receipt => (receipt.sourceSlot, receipt.sourceEpoch)

/-- The trigger `retention_source_slot_receipt_garbage_validate_insert`. -/
def receiptMarkable (key : Bytes32 × Nat) : Bool :=
  (rows .sourceSlotGenerationReceipts).all fun receipt =>
    !((receipt.sourceSlot, receipt.sourceEpoch) == key && receiptIsCurrent rows receipt)

/-- Only marked generations and no memory record refer to the snapshot. -/
def snapshotUnreferenced (snapshot : Bytes32) : Bool :=
  ((rows .indexGenerations).all fun row =>
      row.snapshot != snapshot || generations.contains row.generation) &&
    !((rows .memoryProjectionGenerations).any fun row => row.snapshot == snapshot) &&
    !snapshotCited rows snapshot

def snapshotMarks : List Bytes32 :=
  (((rows .indexGenerations).filter fun row =>
    generations.contains row.generation &&
      snapshotUnreferenced rows generations row.snapshot).map fun row => row.snapshot).dedup

/-- The trigger `retention_snapshot_garbage_validate_insert`. -/
def snapshotMarkable (snapshot : Bytes32) : Bool :=
  snapshotStates rows snapshot .complete && snapshotUnreferenced rows generations snapshot

/-- Only marked generations and no memory record refer to the artifact. -/
def artifactUnreferenced (artifact : Bytes32) : Bool :=
  ((rows .generationFiles).all fun row =>
      row.artifact != artifact || generations.contains row.generation) &&
    ((rows .generationGraphArtifacts).all fun row =>
      row.graphArtifact != artifact || generations.contains row.generation) &&
    ((rows .generationGraphDefinitions).all fun row =>
      row.definition.artifact != artifact || generations.contains row.generation) &&
    ((rows .generationGraphResolutions).all fun row =>
      row.site.artifact != artifact || generations.contains row.generation) &&
    ((rows .generationSyntaxSiteArtifacts).all fun row =>
      row.syntaxSiteArtifact != artifact || generations.contains row.generation) &&
    !artifactCited rows artifact

def artifactMarks : List Bytes32 :=
  (candidateArtifacts rows generations.contains).filter fun artifact =>
    ((rows .analysisArtifacts).any fun row =>
      row.artifact == artifact && row.lifecycle == .complete) &&
      artifactUnreferenced rows generations artifact

/-- The trigger `retention_artifact_garbage_validate_insert`. -/
def artifactMarkable (artifact : Bytes32) : Bool :=
  artifactComplete rows artifact && artifactUnreferenced rows generations artifact

/-- Insert the marks of one kind, which its trigger must all accept. -/
def insertMarks {α : Type} (markable : α → Bool) (marks : List α) (budget : RetentionWorkBudget) :
    Except SqliteStoreError RetentionWorkBudget :=
  if marks.all markable then
    budget.consume marks.length
  else
    .error .integrityCheckFailed

/-- Everything a collection of the generations marks. -/
def retentionMarks : RetentionMarks where
  generations := generations
  overlays := overlayMarks rows generations
  views := viewMarks rows generations
  receipts := receiptMarks rows generations
  snapshots := snapshotMarks rows generations
  artifacts := artifactMarks rows generations

def markRetentionDependents (budget : RetentionWorkBudget) :
    Except SqliteStoreError RetentionWorkBudget := do
  let marks := retentionMarks rows generations
  let afterOverlays ← insertMarks (overlayMarkable rows generations) marks.overlays budget
  let afterViews ← insertMarks (viewMarkable rows) marks.views afterOverlays
  let afterReceipts ← insertMarks (receiptMarkable rows) marks.receipts afterViews
  let afterSnapshots ← insertMarks (snapshotMarkable rows generations) marks.snapshots afterReceipts
  insertMarks (artifactMarkable rows generations) marks.artifacts afterSnapshots

end Marks

section Deletion

/-- The rows of a table that a collection with the marks deletes. -/
def isMarked (marks : RetentionMarks) : (table : StoreTable) → StoreRow table → Bool
  | .activeScipOverlays, row => marks.overlays.contains row.overlay
  | .scipEnclosedReferenceEdges, row => marks.overlays.contains row.overlay
  | .scipOverlayOccurrences, row => marks.overlays.contains row.overlay
  | .scipOverlayRelationships, row => marks.overlays.contains row.overlay
  | .scipOverlayDocuments, row => marks.overlays.contains row.overlay
  | .scipOverlayReceipts, row => marks.overlays.contains row.overlay
  | .workspaceViewMembers, row => marks.views.contains row.view
  | .workspaceViews, row => marks.views.contains row.view
  | .sourceSlotGenerationReceipts, row => marks.receipts.contains (row.sourceSlot, row.sourceEpoch)
  | .generationGraphEdges, row => marks.generations.contains row.site.generation
  | .generationGraphCandidates, row => marks.generations.contains row.site.generation
  | .generationGraphResolutions, row => marks.generations.contains row.generation
  | .generationGraphDefinitions, row => marks.generations.contains row.generation
  | .generationGraphArtifacts, row => marks.generations.contains row.generation
  | .generationGraphSources, row => marks.generations.contains row.generation
  | .generationGraphPublications, row => marks.generations.contains row.generation
  | .generationGraphRequirements, row => marks.generations.contains row.generation
  | .generationSyntaxSiteArtifacts, row => marks.generations.contains row.generation
  | .generationSyntaxSitePublications, row => marks.generations.contains row.generation
  | .generationSyntaxSiteRequirements, row => marks.generations.contains row.generation
  | .generationRepositoryTopologyEntries, row => marks.generations.contains row.generation
  | .generationRepositoryTopologyPublications, row => marks.generations.contains row.generation
  | .generationRepositoryTopologyRequirements, row => marks.generations.contains row.generation
  | .generationSearch, row => marks.generations.contains row.generation
  | .generationSearchRebuild, row => marks.generations.contains row.generation
  | .generationFacts, row => marks.generations.contains row.generation
  | .generationFiles, row => marks.generations.contains row.generation
  | .indexGenerations, row => marks.generations.contains row.generation
  | .rustGraphSites, row => marks.artifacts.contains row.artifact
  | .rustGraphArtifacts, row => marks.artifacts.contains row.artifact
  | .syntaxSites, row => marks.artifacts.contains row.artifact
  | .syntaxSiteArtifacts, row => marks.artifacts.contains row.artifact
  | .artifactFactCorrespondence, row => marks.artifacts.contains row.artifact
  | .artifactFacts, row => marks.artifacts.contains row.artifact
  | .analysisArtifacts, row => marks.artifacts.contains row.artifact
  | .sourceManifestEntries, row => marks.snapshots.contains row.snapshot
  | .sourceSnapshots, row => marks.snapshots.contains row.snapshot
  | _, _ => false

def retentionDeleteOrder : List StoreTable :=
  [.activeScipOverlays, .scipEnclosedReferenceEdges,
    .scipOverlayOccurrences, .scipOverlayRelationships,
    .scipOverlayDocuments, .scipOverlayReceipts, .workspaceViewMembers,
    .workspaceViews, .sourceSlotGenerationReceipts, .generationGraphEdges,
    .generationGraphCandidates, .generationGraphResolutions,
    .generationGraphDefinitions, .generationGraphArtifacts,
    .generationGraphSources, .generationGraphPublications,
    .generationGraphRequirements, .generationSyntaxSiteArtifacts,
    .generationSyntaxSitePublications, .generationSyntaxSiteRequirements,
    .generationRepositoryTopologyEntries,
    .generationRepositoryTopologyPublications,
    .generationRepositoryTopologyRequirements, .generationSearch,
    .generationSearchRebuild, .generationFacts, .generationFiles,
    .indexGenerations, .rustGraphSites, .rustGraphArtifacts, .syntaxSites,
    .syntaxSiteArtifacts, .artifactFactCorrespondence, .artifactFacts,
    .analysisArtifacts, .sourceManifestEntries, .sourceSnapshots]

def deleteMarkedRows (marks : RetentionMarks) (table : StoreTable) : WriterTransaction Nat := do
  let before ← get
  attempt .integrityCheckFailed fun store => store.delete marks table (isMarked marks table)
  return (before.rows table).countP (isMarked marks table)

def sweepTables (marks : RetentionMarks) :
    List StoreTable → Nat → RetentionWorkBudget → WriterTransaction (Nat × RetentionWorkBudget)
  | [], deleted, budget => return (deleted, budget)
  | table :: rest, deleted, budget => do
    let count ← deleteMarkedRows marks table
    let charged ← fallible (budget.consume count)
    sweepTables marks rest (deleted + count) charged

/-- No row a mark is on is left. -/
def marksConsumed (rows : StoreRows) (marks : RetentionMarks) : Bool :=
  [StoreTable.indexGenerations, .sourceSnapshots, .analysisArtifacts,
    .workspaceViews, .sourceSlotGenerationReceipts,
    .scipOverlayReceipts].all fun table => !(rows table).any (isMarked marks table)

end Deletion

section Collection

/-- What one collection did. -/
structure RetentionApplyOutcome where
  collection : Nat
  generationCount : Nat
  workspaceViewCount : Nat
  sourceSlotReceiptCount : Nat
  snapshotCount : Nat
  artifactCount : Nat
  deletedRows : Nat
  estimatedDeletedBytes : Nat
  moreWork : Bool
  deriving DecidableEq

/-- The outcome of a collection that was recorded under the two digests. -/
def loadAppliedRetention (rows : StoreRows)
    (policyDigest planDigest : Bytes32) : Option RetentionApplyOutcome :=
  ((rows .retentionCollectionAudit).find? fun row =>
    row.policyDigest == policyDigest &&
      row.planDigest == planDigest).map fun row =>
        { collection := row.collection, generationCount := row.generationCount
          workspaceViewCount := row.workspaceViewCount
          sourceSlotReceiptCount := row.sourceSlotReceiptCount
          snapshotCount := row.snapshotCount
          artifactCount := row.artifactCount
          deletedRows := row.deletedRowCount
          estimatedDeletedBytes := row.estimatedDeletedBytes
          moreWork := row.moreWork }

def RetentionApplyOutcome.auditRow (outcome : RetentionApplyOutcome)
    (plan : RetentionPlan) : RetentionCollectionAuditRow where
  collection := outcome.collection
  policyDigest := plan.policyDigest
  planDigest := plan.planDigest
  generationCount := outcome.generationCount
  workspaceViewCount := outcome.workspaceViewCount
  sourceSlotReceiptCount := outcome.sourceSlotReceiptCount
  snapshotCount := outcome.snapshotCount
  artifactCount := outcome.artifactCount
  deletedRowCount := outcome.deletedRows
  estimatedDeletedBytes := outcome.estimatedDeletedBytes
  moreWork := outcome.moreWork
  outcome := if outcome.generationCount = 0 then .noOp else .applied

/-- Delete everything the marks select and check that nothing is left. -/
def sweepMarkedRows (marks : RetentionMarks) (budget : RetentionWorkBudget) :
    WriterTransaction (Nat × RetentionWorkBudget) := do
  if marks.generations.isEmpty then
    return (0, budget)
  else
    let swept ← sweepTables marks retentionDeleteOrder 0 budget
    let store ← get
    require .integrityCheckFailed (marksConsumed store.rows marks)
    return swept

/-- Delete what the plan selects and record the collection. -/
def sweepRetentionPlan (plan : RetentionPlan) (budget : RetentionWorkBudget) :
    WriterTransaction (RetentionApplyOutcome × RetentionWorkBudget) := do
  let before ← get
  let (generations, afterGenerations) ← fallible
    (plan.candidateGenerations.foldlM (markGeneration before.rows) ([], budget))
  let afterMarks ← fallible (markRetentionDependents before.rows generations afterGenerations)
  let marks := retentionMarks before.rows generations
  require .integrityCheckFailed (marks.generations.length == plan.candidateGenerations.length)
  let (deletedRows, afterSweep) ← sweepMarkedRows marks afterMarks
  let swept ← get
  let outcome : RetentionApplyOutcome :=
    { collection :=
        nextRowId ((swept.rows .retentionCollectionAudit).map fun row => row.collection)
      generationCount := marks.generations.length
      workspaceViewCount := marks.views.length
      sourceSlotReceiptCount := marks.receipts.length
      snapshotCount := marks.snapshots.length
      artifactCount := marks.artifacts.length
      deletedRows
      estimatedDeletedBytes := plan.estimatedBytes
      moreWork := plan.moreWork }
  insertRow .integrityCheckFailed .retentionCollectionAudit (outcome.auditRow plan)
  let charged ← fallible (afterSweep.consume 1)
  return (outcome, charged)

def applyGenerationRetention (digests : RetentionDigests) (policy : GenerationRetentionPolicy)
    (expectedPlan : Bytes32) :
    WriterTransaction RetentionApplyOutcome := do
  let store ← get
  match loadAppliedRetention store.rows (digests.policy policy) expectedPlan with
  | some outcome => return outcome
  | none => do
    let (plan, budget) ← fallible (buildRetentionPlanWithBudget digests policy store.rows)
    require .retentionPlanStale (plan.planDigest == expectedPlan)
    let (outcome, _) ← sweepRetentionPlan plan budget.releaseReservations
    return outcome

end Collection

end RepoWitness
