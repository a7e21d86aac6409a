import RepoWitness.WorkspaceWriter

namespace RepoWitness

open Transaction

/-!
# Generation lifecycle

Registration of a repository, the separately committed steps by which a
generation is staged, its activation, and startup recovery.  Staging commits
between its statements, so a crash or a cancellation between two of them is a
run that stops after the first.
-/

section Registration

/-- Find or create a repository's indexing workspace and its default slot. -/
def ensureWorkspace (repository : Bytes32)
    (initialSourceEpoch : Nat) : WriterTransaction (Nat × Nat) := do
  let before ← get
  insertUnlessPresent .databaseOperationFailed .workspaces
    { workspace :=
        nextRowId ((before.rows .workspaces).map fun row => row.workspace)
      repository
      sourceEpoch := initialSourceEpoch
      activeGeneration := none }
    fun row => row.repository == repository
  let store ← get
  let workspace ← present .databaseOperationFailed
    ((store.rows .workspaces).find? fun row => row.repository == repository)
  ensureDefaultWorkspaceMembership repository workspace.workspace workspace.sourceEpoch
  return (workspace.workspace, workspace.sourceEpoch)

/-- Find or create a repository's workspace at an expected epoch.  The
workspace is committed before the epochs are compared. -/
def registerWorkspace (repository : Bytes32) (initialSourceEpoch : Nat) :
    WriterTransaction (Except SqliteStoreError Nat) := do
  let (workspace, storedEpoch) ← ensureWorkspace repository initialSourceEpoch
  if storedEpoch = initialSourceEpoch then
    return .ok workspace
  else
    return .error .staleSourceEpoch

def advanceSourceEpoch (repository : Bytes32) (expected next : Nat) : WriterTransaction Unit := do
  require .invalidSourceEpoch (expected < next)
  updateOneRow .databaseOperationFailed .staleSourceEpoch .workspaces
    (fun row => row.repository == repository && row.sourceEpoch == expected)
    (fun row => { row with sourceEpoch := next })
  updateOneRow .databaseOperationFailed .staleSourceEpoch .workspaceSourceSlots
    (fun row =>
      row.connectedWorkspace == repository &&
        row.sourceSlot == repository && row.sourceEpoch == expected)
    (fun row => { row with sourceEpoch := next })

end Registration

section Staging

/-- A row of the content a staging, graph, syntax-site, topology or memory
writer inserts; snapshots and artifacts begin staging. -/
def isContentRow : (table : StoreTable) → StoreRow table → Bool
  | .sourceSnapshots, row => row.lifecycle == .staging
  | .analysisArtifacts, row => row.lifecycle == .staging
  | .sourceManifestEntries, _ => true
  | .artifactFacts, _ => true
  | .artifactFactCorrespondence, _ => true
  | .generationFiles, _ => true
  | .generationFacts, _ => true
  | .generationSearch, _ => true
  | .generationSearchRebuild, _ => true
  | .rustGraphArtifacts, _ => true
  | .rustGraphSites, _ => true
  | .generationGraphRequirements, _ => true
  | .generationGraphPublications, _ => true
  | .generationGraphSources, _ => true
  | .generationGraphArtifacts, _ => true
  | .generationGraphDefinitions, _ => true
  | .generationGraphResolutions, _ => true
  | .generationGraphCandidates, _ => true
  | .generationGraphEdges, _ => true
  | .syntaxSiteArtifacts, _ => true
  | .syntaxSites, _ => true
  | .generationSyntaxSiteRequirements, _ => true
  | .generationSyntaxSitePublications, _ => true
  | .generationSyntaxSiteArtifacts, _ => true
  | .generationRepositoryTopologyRequirements, _ => true
  | .generationRepositoryTopologyPublications, _ => true
  | .generationRepositoryTopologyEntries, _ => true
  | .memoryVersions, _ => true
  | .memoryEvidence, _ => true
  | .memoryAudit, _ => true
  | .memoryCorrespondenceAudit, _ => true
  | .memoryProjectionGenerations, _ => true
  | .memoryProjectionEvidence, _ => true
  | .memoryProjectionCandidates, _ => true
  | _, _ => false

/-- Insert one row of staged content. -/
def insertContent (table : StoreTable) (row : StoreRow table) : WriterTransaction Unit := do
  require .databaseOperationFailed (isContentRow table row)
  insertRow .databaseOperationFailed table row

def completeSnapshot (snapshot : Bytes32) : WriterTransaction Unit := do
  let store ← get
  let entries := (store.rows .sourceManifestEntries).countP fun row => row.snapshot == snapshot
  updateOneRow .databaseOperationFailed .integrityCheckFailed .sourceSnapshots
    (fun row => row.snapshot == snapshot && row.lifecycle == .staging && row.fileCount == entries)
    (fun row => { row with lifecycle := .complete })

def completeArtifact (artifact : Bytes32) : WriterTransaction Unit := do
  let store ← get
  let facts := (store.rows .artifactFacts).countP fun row => row.artifact == artifact
  let correspondences :=
    (store.rows .artifactFactCorrespondence).countP fun row => row.artifact == artifact
  updateOneRow .databaseOperationFailed .integrityCheckFailed .analysisArtifacts
    (fun row =>
      row.artifact == artifact && row.lifecycle == .staging &&
        row.factCount == facts &&
        (row.language != .rust || row.factCount == correspondences))
    (fun row => { row with lifecycle := .complete })

def completeGraphPublication (generation : Nat) : WriterTransaction Unit :=
  updateRows .databaseOperationFailed .generationGraphPublications
    (fun row => row.generation == generation && row.lifecycle == .staging)
    (fun row => { row with lifecycle := .complete })

def completeSyntaxSitePublication (generation : Nat) : WriterTransaction Unit :=
  updateRows .databaseOperationFailed .generationSyntaxSitePublications
    (fun row => row.generation == generation && row.lifecycle == .staging)
    (fun row => { row with lifecycle := .complete })

def completeTopologyPublication (generation : Nat) : WriterTransaction Unit :=
  updateRows .databaseOperationFailed .generationRepositoryTopologyPublications
    (fun row => row.generation == generation && row.lifecycle == .staging)
    (fun row => { row with lifecycle := .complete })

def deleteStagingSnapshot (snapshot : Bytes32) : WriterTransaction Unit := do
  deleteRows .databaseOperationFailed .sourceManifestEntries fun row => row.snapshot == snapshot
  deleteRows .databaseOperationFailed .sourceSnapshots fun row =>
    row.snapshot == snapshot && row.lifecycle == .staging

def deleteStagingArtifact (artifact : Bytes32) : WriterTransaction Unit := do
  deleteRows .databaseOperationFailed .artifactFactCorrespondence fun row =>
    row.artifact == artifact
  deleteRows .databaseOperationFailed .artifactFacts fun row => row.artifact == artifact
  deleteRows .databaseOperationFailed .analysisArtifacts fun row =>
    row.artifact == artifact && row.lifecycle == .staging

def deleteStagingGraphArtifact (artifact : Bytes32) : WriterTransaction Unit := do
  deleteRows .databaseOperationFailed .rustGraphSites fun row => row.artifact == artifact
  deleteRows .databaseOperationFailed .rustGraphArtifacts fun row => row.artifact == artifact
  deleteRows .databaseOperationFailed .analysisArtifacts fun row =>
    row.artifact == artifact && row.lifecycle == .staging

def deleteStagingSyntaxSiteArtifact (artifact : Bytes32) : WriterTransaction Unit := do
  deleteRows .databaseOperationFailed .syntaxSites fun row => row.artifact == artifact
  deleteRows .databaseOperationFailed .syntaxSiteArtifacts fun row => row.artifact == artifact
  deleteRows .databaseOperationFailed .analysisArtifacts fun row =>
    row.artifact == artifact && row.lifecycle == .staging

def recordArtifactPayload (artifact payload : Bytes32) : WriterTransaction Unit :=
  updateOneRow .integrityCheckFailed .integrityCheckFailed .analysisArtifacts
    (fun row => row.artifact == artifact && row.lifecycle == .complete && row.payload.isNone)
    (fun row => { row with payload := some payload })

/-- The two full-text search tables a projection alternates between. -/
inductive SearchProjection where
  | primary
  | rebuild
  deriving DecidableEq

/-- Empty a search table before it is populated again. -/
def resetProjection : SearchProjection → WriterTransaction Unit
  | .primary => deleteRows .databaseOperationFailed .generationSearch fun _ => true
  | .rebuild => deleteRows .databaseOperationFailed .generationSearchRebuild fun _ => true

def createGeneration (workspace sourceEpoch : Nat)
    (snapshot : Bytes32) : WriterTransaction Nat := do
  let store ← get
  let generation := nextRowId ((store.rows .indexGenerations).map fun row => row.generation)
  insertRow .databaseOperationFailed .indexGenerations
    { generation, workspace, sourceEpoch, snapshot,
      lifecycle := .discovered
      coverage := ⟨0, 0, 0, 0⟩ }
  return generation

/-- The workspace of a repository at an epoch. -/
def workspaceAt (repository : Bytes32) (sourceEpoch : Nat) : WriterTransaction Nat := do
  let store ← get
  let found ← present .staleSourceEpoch
    ((store.rows .workspaces).find? fun row =>
      row.repository == repository && row.sourceEpoch == sourceEpoch)
  return found.workspace

/-- How `stage` begins a generation.  The writer serves no other call between
the check of the epoch and the new row. -/
def stageGeneration (repository : Bytes32) (sourceEpoch : Nat)
    (snapshot : Bytes32) : WriterTransaction Nat := do
  let workspace ← workspaceAt repository sourceEpoch
  createGeneration workspace sourceEpoch snapshot

/-- The steps a staged generation goes through on its way to ready. -/
inductive StagingTransition where
  | extract
  | resolve
  | validate
  | ready (coverage : RustIndexCoverage)
  deriving DecidableEq

def setLifecycle (lifecycle : GenerationLifecycle)
    (row : IndexGenerationRow) : IndexGenerationRow := { row with lifecycle }

namespace StagingTransition

def source : StagingTransition → GenerationLifecycle
  | extract => .discovered
  | resolve => .extracting
  | validate => .resolving
  | ready _ => .validating

/-- The last step also stores the counts. -/
def change : StagingTransition → IndexGenerationRow → IndexGenerationRow
  | extract => setLifecycle .extracting
  | resolve => setLifecycle .resolving
  | validate => setLifecycle .validating
  | ready coverage => fun row => { setLifecycle .ready row with coverage }

def unavailable : StagingTransition → SqliteStoreError
  | ready _ => .integrityCheckFailed
  | _ => .generationUnavailable

end StagingTransition

def transitionGeneration (generation : Nat)
    (transition : StagingTransition) : WriterTransaction Unit :=
  updateOneRow .databaseOperationFailed transition.unavailable .indexGenerations
    (fun row => row.generation == generation && row.lifecycle == transition.source)
    transition.change

/-- A generation that has not been activated and has not been abandoned. -/
def GenerationLifecycle.unfinished : GenerationLifecycle → Bool
  | .discovered | .extracting | .resolving | .validating | .ready => true
  | _ => false

/-- The statement by which failing a generation changes its state. -/
def abandonGeneration (generation : Nat)
    (target : GenerationLifecycle) : WriterTransaction Unit := do
  require .databaseOperationFailed target.abandoned
  updateRows .databaseOperationFailed .indexGenerations
    (fun row => row.generation == generation && row.lifecycle.unfinished)
    (setLifecycle target)

/-- The rows an abandoned generation leaves behind, by table. -/
inductive GenerationRows where
  | search
  | searchRebuild
  | facts
  | files
  deriving DecidableEq

def deleteGenerationRows (generation : Nat) : GenerationRows → WriterTransaction Unit
  | .search =>
    deleteRows .databaseOperationFailed .generationSearch fun row => row.generation == generation
  | .searchRebuild =>
    deleteRows .databaseOperationFailed .generationSearchRebuild
      fun row => row.generation == generation
  | .facts =>
    deleteRows .databaseOperationFailed .generationFacts fun row => row.generation == generation
  | .files =>
    deleteRows .databaseOperationFailed .generationFiles fun row => row.generation == generation

/-- One of the statements that follow the abandonment of a generation. -/
def dropAbandonedRows (generation : Nat) (dropped : GenerationRows) : WriterTransaction Unit := do
  let store ← get
  require .generationUnavailable
    ((store.rows .indexGenerations).any fun row =>
      row.generation == generation && row.lifecycle.abandoned)
  deleteGenerationRows generation dropped

end Staging

section Activation

/-- Make a ready generation its workspace's active one and publish the view of
the repository's own workspace. -/
def activate (generation expectedSourceEpoch : Nat) : WriterTransaction Unit := do
  let store ← get
  let candidate ← present .generationUnavailable
    ((store.rows .indexGenerations).find? fun row => row.generation == generation)
  let workspace ← present .generationUnavailable
    ((store.rows .workspaces).find? fun row => row.workspace == candidate.workspace)
  let slot ← present .databaseOperationFailed
    (findSlot store.rows workspace.repository workspace.repository)
  require .staleSourceEpoch (candidate.lifecycle == .ready &&
      candidate.sourceEpoch == expectedSourceEpoch &&
      workspace.sourceEpoch == expectedSourceEpoch &&
      slot.sourceEpoch == expectedSourceEpoch)
  updateRows .databaseOperationFailed .indexGenerations
    (fun row => row.workspace == candidate.workspace && row.lifecycle == .active)
    (setLifecycle .retained)
  updateOneRow .databaseOperationFailed .generationUnavailable .indexGenerations
    (fun row => row.generation == generation && row.lifecycle == .ready)
    (setLifecycle .active)
  updateRows .databaseOperationFailed .workspaces (fun row => row.workspace == candidate.workspace)
    (fun row => { row with activeGeneration := some generation })
  publishDefaultWorkspaceView workspace.repository candidate.workspace
    expectedSourceEpoch generation

end Activation

section Recovery

def maxStartupRecoveryGenerations : Nat := 4096

def receiptIsCurrent (rows : StoreRows) (receipt : SourceSlotReceiptRow) : Bool :=
  (rows .workspaceSourceSlots).any fun slot =>
    slot.connectedWorkspace == receipt.connectedWorkspace &&
      slot.sourceSlot == receipt.sourceSlot &&
      slot.sourceEpoch == receipt.sourceEpoch

def isRecoverable (rows : StoreRows) (row : IndexGenerationRow) : Bool :=
  match row.lifecycle with
  | .discovered | .extracting | .resolving | .validating => true
  | .ready =>
    !pinnedByActiveView rows row &&
      !((rows .sourceSlotGenerationReceipts).any fun receipt =>
        receipt.generationWorkspace == row.workspace &&
          receipt.generation == row.generation &&
          receiptIsCurrent rows receipt)
  | _ => false

def recoverableGenerationIds (rows : StoreRows) : List Nat :=
  (((rows .indexGenerations).filter (isRecoverable rows)).map fun row =>
    row.generation).insertionSort (· ≤ ·)

/-- Staging artifacts and snapshots a crash left behind, and their rows. -/
def deleteStagingContent : WriterTransaction Unit := do
  let store ← get
  let stagingArtifact := fun (artifact : Bytes32) =>
    (store.rows .analysisArtifacts).any fun row =>
      row.artifact == artifact && row.lifecycle == .staging
  let stagingSnapshot := fun (snapshot : Bytes32) =>
    (store.rows .sourceSnapshots).any fun row =>
      row.snapshot == snapshot && row.lifecycle == .staging
  deleteRows .databaseOperationFailed .rustGraphSites fun row => stagingArtifact row.artifact
  deleteRows .databaseOperationFailed .rustGraphArtifacts fun row => stagingArtifact row.artifact
  deleteRows .databaseOperationFailed .artifactFactCorrespondence fun row =>
    stagingArtifact row.artifact
  deleteRows .databaseOperationFailed .artifactFacts fun row => stagingArtifact row.artifact
  deleteRows .databaseOperationFailed .analysisArtifacts fun row => row.lifecycle == .staging
  deleteRows .databaseOperationFailed .sourceManifestEntries fun row => stagingSnapshot row.snapshot
  deleteRows .databaseOperationFailed .sourceSnapshots fun row => row.lifecycle == .staging

def recoverGeneration (generation : Nat) : WriterTransaction Unit := do
  [GenerationRows.search, .searchRebuild, .facts, .files].forM (deleteGenerationRows generation)
  updateRows .databaseOperationFailed .indexGenerations (fun row => row.generation == generation)
    (setLifecycle .failed)

/-- Fail the unfinished generations a stopped process left behind. -/
def recover : WriterTransaction Nat := do
  let store ← get
  let incomplete := (recoverableGenerationIds store.rows).take (maxStartupRecoveryGenerations + 1)
  require .recoveryGenerationLimitExceeded (incomplete.length ≤ maxStartupRecoveryGenerations)
  incomplete.forM recoverGeneration
  deleteStagingContent
  return incomplete.length

end Recovery

end RepoWitness
