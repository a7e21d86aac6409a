import RepoWitness.WriterTables

namespace RepoWitness

/-!
# Declared keys of the local store

Foreign keys and unique keys as the migrations declare them, by child table.
A unique key whose columns include another one's is implied by it and left out.
-/

/-- A reference whose child columns are never null. -/
def reference (child parent : StoreTable) {Key : Type} [DecidableEq Key]
    (childKey : StoreRow child → Key) (parentKey : StoreRow parent → Key) :
    ForeignKey StoreRow where
  child := child
  parent := parent
  Key := Key
  childKey row := some (childKey row)
  parentKey := parentKey

/-- A reference declared with `ON DELETE CASCADE`. -/
def cascadingReference (child parent : StoreTable) {Key : Type} [DecidableEq Key]
    (childKey : StoreRow child → Key) (parentKey : StoreRow parent → Key) :
    ForeignKey StoreRow := { reference child parent childKey parentKey with cascades := true }

def uniqueColumns (table : StoreTable) {Key : Type} [DecidableEq Key] (key : StoreRow table → Key) :
    UniqueKey StoreRow where
  table := table
  Key := Key
  key row := some (key row)

namespace References

def workspaceActiveGeneration : ForeignKey StoreRow where
  child := .workspaces
  parent := .indexGenerations
  Key := Nat
  childKey row := row.activeGeneration
  parentKey row := row.generation

def manifestEntrySnapshot := reference .sourceManifestEntries .sourceSnapshots
    (fun row => row.snapshot) (fun row => row.snapshot)

def factArtifact :=
  reference .artifactFacts .analysisArtifacts (fun row => row.artifact) (fun row => row.artifact)

def correspondenceFact :=
  reference .artifactFactCorrespondence .artifactFacts (fun row => (row.artifact, row.factOrdinal))
    (fun row => (row.artifact, row.ordinal))

def generationWorkspace :=
  reference .indexGenerations .workspaces (fun row => row.workspace) (fun row => row.workspace)

def generationSnapshot :=
  reference .indexGenerations .sourceSnapshots (fun row => row.snapshot) (fun row => row.snapshot)

def fileGeneration := reference .generationFiles .indexGenerations
    (fun row => row.generation) (fun row => row.generation)

def fileArtifact :=
  reference .generationFiles .analysisArtifacts (fun row => row.artifact) (fun row => row.artifact)

def generationFactGeneration := reference .generationFacts .indexGenerations
    (fun row => row.generation) (fun row => row.generation)

def slotConnectedWorkspace :=
  reference .workspaceSourceSlots .connectedWorkspaces
    (fun row => row.connectedWorkspace) (fun row => row.connectedWorkspace)

def slotWorkspace :=
  reference .workspaceSourceSlots .workspaces (fun row => (row.generationWorkspace, row.repository))
    (fun row => (row.workspace, row.repository))

def receiptSlot := reference .sourceSlotGenerationReceipts .workspaceSourceSlots
    (fun row => (row.connectedWorkspace, row.sourceSlot, row.generationWorkspace))
    (fun row => (row.connectedWorkspace, row.sourceSlot, row.generationWorkspace))

def receiptGeneration :=
  reference .sourceSlotGenerationReceipts .indexGenerations
    (fun row => (row.generationWorkspace, row.generation))
    (fun row => (row.workspace, row.generation))

def viewConnectedWorkspace := reference .workspaceViews .connectedWorkspaces
    (fun row => row.connectedWorkspace) (fun row => row.connectedWorkspace)

def memberView :=
  reference .workspaceViewMembers .workspaceViews (fun row => (row.connectedWorkspace, row.view))
    (fun row => (row.connectedWorkspace, row.view))

def memberSlot := reference .workspaceViewMembers .workspaceSourceSlots
    (fun row => (row.connectedWorkspace, row.sourceSlot, row.generationWorkspace))
    (fun row => (row.connectedWorkspace, row.sourceSlot, row.generationWorkspace))

def memberGeneration := reference .workspaceViewMembers .indexGenerations
    (fun row => (row.generationWorkspace, row.generation))
    (fun row => (row.workspace, row.generation))

def memberReceipt :=
  reference .workspaceViewMembers .sourceSlotGenerationReceipts
    (fun row =>
      (row.connectedWorkspace, row.sourceSlot, row.sourceEpoch,
        row.generationWorkspace, row.generation))
    (fun row =>
      (row.connectedWorkspace, row.sourceSlot, row.sourceEpoch,
        row.generationWorkspace, row.generation))

def activeWorkspaceView :=
  reference .activeWorkspaceViews .workspaceViews (fun row => (row.connectedWorkspace, row.view))
    (fun row => (row.connectedWorkspace, row.view))

def rustGraphArtifact := reference .rustGraphArtifacts .analysisArtifacts
    (fun row => row.artifact) (fun row => row.artifact)

def rustGraphSite :=
  reference .rustGraphSites .rustGraphArtifacts (fun row => row.artifact) (fun row => row.artifact)

def graphRequirementGeneration :=
  reference .generationGraphRequirements .indexGenerations
    (fun row => row.generation) (fun row => row.generation)

def graphPublicationRequirement :=
  reference .generationGraphPublications .generationGraphRequirements
    (fun row => row.generation) (fun row => row.generation)

def graphPublicationWorkspace :=
  reference .generationGraphPublications .connectedWorkspaces
    (fun row => row.connectedWorkspace) (fun row => row.connectedWorkspace)

def graphSourcePublication :=
  reference .generationGraphSources .generationGraphPublications
    (fun row => row.generation) (fun row => row.generation)

def graphSourceGeneration := reference .generationGraphSources .indexGenerations
    (fun row => row.sourceGeneration) (fun row => row.generation)

def graphArtifactSource :=
  reference .generationGraphArtifacts .generationGraphSources
    (fun row => (row.generation, row.sourceSlot, row.sourceGeneration))
    (fun row => (row.generation, row.sourceSlot, row.sourceGeneration))

def graphArtifactArtifact :=
  reference .generationGraphArtifacts .rustGraphArtifacts
    (fun row => row.graphArtifact) (fun row => row.artifact)

def graphDefinitionSource :=
  reference .generationGraphDefinitions .generationGraphSources
    (fun row => (row.generation, row.definition.sourceSlot, row.sourceGeneration))
    (fun row => (row.generation, row.sourceSlot, row.sourceGeneration))

def graphDefinitionFact := reference .generationGraphDefinitions .artifactFacts
    (fun row => (row.definition.artifact, row.definition.factOrdinal))
    (fun row => (row.artifact, row.ordinal))

def graphResolutionSource :=
  reference .generationGraphResolutions .generationGraphSources
    (fun row => (row.generation, row.site.sourceSlot, row.sourceGeneration))
    (fun row => (row.generation, row.sourceSlot, row.sourceGeneration))

def graphResolutionSite := reference .generationGraphResolutions .rustGraphSites
    (fun row =>
      (row.site.artifact, row.site.ordinal, row.site.kind,
        row.site.occurrenceSpan, row.site.targetSpan))
    (fun row => (row.artifact, row.ordinal, row.kind, row.occurrenceSpan, row.targetSpan))

end References

/-- The columns by which a resolution is named. -/
def GraphResolutionRow.key (row : GraphResolutionRow) : GraphSiteKey where
  generation := row.generation
  sourceSlot := row.site.sourceSlot
  path := row.site.path
  artifact := row.site.artifact
  ordinal := row.site.ordinal

namespace References

def graphCandidateResolution :=
  reference .generationGraphCandidates .generationGraphResolutions
    (fun row => row.site) (fun row => row.key)

def graphCandidateDefinition :=
  reference .generationGraphCandidates .generationGraphDefinitions
    (fun row => (row.site.generation, row.target))
    (fun row => (row.generation, row.definition))

def graphEdgeCandidate :=
  reference .generationGraphEdges .generationGraphCandidates
    (fun row => (row.site, 0)) (fun row => (row.site, row.candidateOrdinal))

def syntaxSiteArtifact := reference .syntaxSiteArtifacts .analysisArtifacts
    (fun row => row.artifact) (fun row => row.artifact)

def syntaxSite :=
  reference .syntaxSites .syntaxSiteArtifacts (fun row => row.artifact) (fun row => row.artifact)

def syntaxRequirementGeneration :=
  cascadingReference .generationSyntaxSiteRequirements .indexGenerations
    (fun row => row.generation) (fun row => row.generation)

def syntaxPublicationRequirement :=
  cascadingReference .generationSyntaxSitePublications .generationSyntaxSiteRequirements
    (fun row => row.generation) (fun row => row.generation)

def syntaxArtifactPublication :=
  cascadingReference .generationSyntaxSiteArtifacts .generationSyntaxSitePublications
    (fun row => row.generation) (fun row => row.generation)

def syntaxArtifactArtifact :=
  reference .generationSyntaxSiteArtifacts .syntaxSiteArtifacts
    (fun row => row.syntaxSiteArtifact) (fun row => row.artifact)

def topologyRequirementGeneration :=
  cascadingReference .generationRepositoryTopologyRequirements .indexGenerations
    (fun row => row.generation) (fun row => row.generation)

def topologyPublicationRequirement :=
  cascadingReference .generationRepositoryTopologyPublications
    .generationRepositoryTopologyRequirements
    (fun row => row.generation) (fun row => row.generation)

def topologyEntryPublication :=
  cascadingReference .generationRepositoryTopologyEntries .generationRepositoryTopologyPublications
    (fun row => row.generation) (fun row => row.generation)

def overlayView :=
  reference .scipOverlayReceipts .workspaceViews (fun row => (row.connectedWorkspace, row.view))
    (fun row => (row.connectedWorkspace, row.view))

def overlayMember :=
  reference .scipOverlayReceipts .workspaceViewMembers (fun row => (row.view, row.sourceSlot))
    (fun row => (row.view, row.sourceSlot))

def overlayGeneration := reference .scipOverlayReceipts .indexGenerations
    (fun row => (row.generationWorkspace, row.generation))
    (fun row => (row.workspace, row.generation))

def overlayDocument := reference .scipOverlayDocuments .scipOverlayReceipts
    (fun row => row.overlay) (fun row => row.overlay)

def overlayOccurrence :=
  reference .scipOverlayOccurrences .scipOverlayDocuments (fun row => (row.overlay, row.document))
    (fun row => (row.overlay, row.document))

def overlayRelationship :=
  reference .scipOverlayRelationships .scipOverlayDocuments (fun row => (row.overlay, row.document))
    (fun row => (row.overlay, row.document))

def enclosedReferenceOverlay :=
  reference .scipEnclosedReferenceEdges .scipOverlayReceipts
    (fun row => row.overlay) (fun row => row.overlay)

def activeOverlaySlot := reference .activeScipOverlays .workspaceSourceSlots
    (fun row => (row.connectedWorkspace, row.sourceSlot))
    (fun row => (row.connectedWorkspace, row.sourceSlot))

def activeOverlayView :=
  reference .activeScipOverlays .workspaceViews (fun row => (row.connectedWorkspace, row.view))
    (fun row => (row.connectedWorkspace, row.view))

def activeOverlayReceipt := reference .activeScipOverlays .scipOverlayReceipts
    (fun row => row.overlay) (fun row => row.overlay)

def memoryVersionWorkspace := reference .memoryVersions .workspaces
    (fun row => row.revision.workspace) (fun row => row.workspace)

def memoryAuditVersion :=
  reference .memoryAudit .memoryVersions (fun row => row.revision) (fun row => row.revision)

def memoryCorrespondenceSource :=
  reference .memoryCorrespondenceAudit .artifactFacts
    (fun row => (row.sourceArtifact, row.sourceFactOrdinal))
    (fun row => (row.artifact, row.ordinal))

def memoryCorrespondenceTarget :=
  reference .memoryCorrespondenceAudit .artifactFacts
    (fun row => (row.targetArtifact, row.targetFactOrdinal))
    (fun row => (row.artifact, row.ordinal))

def memoryProjectionWorkspace :=
  reference .memoryProjectionGenerations .workspaces
    (fun row => row.workspace) (fun row => row.workspace)

def memoryProjectionGeneration :=
  reference .memoryProjectionGenerations .indexGenerations
    (fun row => (row.workspace, row.indexGeneration))
    (fun row => (row.workspace, row.generation))

def memoryProjectionSnapshot :=
  reference .memoryProjectionGenerations .sourceSnapshots
    (fun row => row.snapshot) (fun row => row.snapshot)

def memoryProjectionEvidenceFact : ForeignKey StoreRow where
  child := .memoryProjectionEvidence
  parent := .artifactFacts
  Key := Bytes32 × Nat
  childKey row := row.target.map fun target => (target.artifact, target.factOrdinal)
  parentKey row := (row.artifact, row.ordinal)

def memoryProjectionCandidateFact :=
  reference .memoryProjectionCandidates .artifactFacts
    (fun row => (row.target.artifact, row.target.factOrdinal))
    (fun row => (row.artifact, row.ordinal))

end References

open References in
/-- Every declared reference; cascading ones stand after those they follow. -/
def storeForeignKeys : List (ForeignKey StoreRow) :=
  [workspaceActiveGeneration, manifestEntrySnapshot, factArtifact,
    correspondenceFact, generationWorkspace, generationSnapshot,
    fileGeneration, fileArtifact, generationFactGeneration,
    slotConnectedWorkspace, slotWorkspace, receiptSlot, receiptGeneration,
    viewConnectedWorkspace, memberView, memberSlot, memberGeneration,
    memberReceipt, activeWorkspaceView, rustGraphArtifact, rustGraphSite,
    graphRequirementGeneration, graphPublicationRequirement,
    graphPublicationWorkspace, graphSourcePublication,
    graphSourceGeneration, graphArtifactSource, graphArtifactArtifact,
    graphDefinitionSource, graphDefinitionFact, graphResolutionSource,
    graphResolutionSite, graphCandidateResolution,
    graphCandidateDefinition, graphEdgeCandidate, syntaxSiteArtifact,
    syntaxSite, syntaxRequirementGeneration, syntaxPublicationRequirement,
    syntaxArtifactPublication, syntaxArtifactArtifact,
    topologyRequirementGeneration, topologyPublicationRequirement,
    topologyEntryPublication, overlayView, overlayMember,
    overlayGeneration, overlayDocument, overlayOccurrence,
    overlayRelationship, enclosedReferenceOverlay, activeOverlaySlot,
    activeOverlayView, activeOverlayReceipt, memoryVersionWorkspace,
    memoryAuditVersion, memoryCorrespondenceSource,
    memoryCorrespondenceTarget, memoryProjectionWorkspace,
    memoryProjectionGeneration, memoryProjectionSnapshot,
    memoryProjectionEvidenceFact, memoryProjectionCandidateFact]

namespace UniqueKeys

def workspace := uniqueColumns .workspaces fun row => row.workspace

def repository := uniqueColumns .workspaces fun row => row.repository

def snapshot := uniqueColumns .sourceSnapshots fun row => row.snapshot

def artifact := uniqueColumns .analysisArtifacts fun row => row.artifact

def generation := uniqueColumns .indexGenerations fun row => row.generation

def oneActiveGenerationPerWorkspace : UniqueKey StoreRow where
  table := .indexGenerations
  Key := Nat
  key row := if row.lifecycle = .active then some row.workspace else none

def connectedWorkspace := uniqueColumns .connectedWorkspaces fun row => row.connectedWorkspace

def sourceSlot := uniqueColumns .workspaceSourceSlots fun row => row.sourceSlot

def sourceSlotReceipt :=
  uniqueColumns .sourceSlotGenerationReceipts fun row => (row.sourceSlot, row.sourceEpoch)

def view := uniqueColumns .workspaceViews fun row => row.view

def memberOrdinal := uniqueColumns .workspaceViewMembers fun row => (row.view, row.ordinal)

def memberSlot := uniqueColumns .workspaceViewMembers fun row => (row.view, row.sourceSlot)

def activeWorkspaceView := uniqueColumns .activeWorkspaceViews fun row => row.connectedWorkspace

def overlayReceipt := uniqueColumns .scipOverlayReceipts fun row => row.overlay

def activeOverlay :=
  uniqueColumns .activeScipOverlays fun row => (row.connectedWorkspace, row.sourceSlot)

def collectionPlan :=
  uniqueColumns .retentionCollectionAudit fun row => (row.policyDigest, row.planDigest)

end UniqueKeys

open UniqueKeys in
/-- Every declared unique key. -/
def storeUniqueKeys : List (UniqueKey StoreRow) :=
  [workspace, repository, snapshot, artifact, generation,
    oneActiveGenerationPerWorkspace, connectedWorkspace, sourceSlot,
    sourceSlotReceipt, view, memberOrdinal, memberSlot,
    activeWorkspaceView, overlayReceipt, activeOverlay, collectionPlan,
    uniqueColumns .sourceManifestEntries (fun row => (row.snapshot, row.ordinal)),
    uniqueColumns .sourceManifestEntries (fun row => (row.snapshot, row.path)),
    uniqueColumns .artifactFacts (fun row => (row.artifact, row.ordinal)),
    uniqueColumns .artifactFactCorrespondence (fun row => (row.artifact, row.factOrdinal)),
    uniqueColumns .generationFiles (fun row => (row.generation, row.ordinal)),
    uniqueColumns .generationFiles (fun row => (row.generation, row.path)),
    uniqueColumns .generationFacts (fun row => (row.generation, row.ordinal)),
    uniqueColumns .rustGraphArtifacts (fun row => row.artifact),
    uniqueColumns .rustGraphSites (fun row => (row.artifact, row.ordinal)),
    uniqueColumns .generationGraphRequirements (fun row => row.generation),
    uniqueColumns .generationGraphPublications (fun row => row.generation),
    uniqueColumns .generationGraphSources (fun row => (row.generation, row.ordinal)),
    uniqueColumns .generationGraphSources (fun row => (row.generation, row.sourceSlot)),
    uniqueColumns .generationGraphArtifacts (fun row => (row.generation, row.sourceSlot, row.path)),
    uniqueColumns .generationGraphDefinitions
      (fun row =>
        (row.generation, row.definition.sourceSlot, row.definition.path,
          row.definition.artifact, row.definition.factOrdinal)),
    uniqueColumns .generationGraphResolutions (fun row => row.key),
    uniqueColumns .generationGraphCandidates (fun row => (row.site, row.candidateOrdinal)),
    uniqueColumns .generationGraphEdges (fun row => row.site),
    uniqueColumns .syntaxSiteArtifacts (fun row => row.artifact),
    uniqueColumns .syntaxSites (fun row => (row.artifact, row.ordinal)),
    uniqueColumns .generationSyntaxSiteRequirements (fun row => row.generation),
    uniqueColumns .generationSyntaxSitePublications (fun row => row.generation),
    uniqueColumns .generationSyntaxSiteArtifacts (fun row => (row.generation, row.path)),
    uniqueColumns .generationRepositoryTopologyRequirements (fun row => row.generation),
    uniqueColumns .generationRepositoryTopologyPublications (fun row => row.generation),
    uniqueColumns .generationRepositoryTopologyEntries (fun row => (row.generation, row.path)),
    uniqueColumns .scipOverlayDocuments (fun row => (row.overlay, row.document)),
    uniqueColumns .scipOverlayDocuments (fun row => (row.overlay, row.path)),
    uniqueColumns .scipOverlayOccurrences (fun row => (row.overlay, row.document, row.ordinal)),
    uniqueColumns .scipOverlayRelationships (fun row => (row.overlay, row.document, row.ordinal)),
    uniqueColumns .scipEnclosedReferenceEdges (fun row => (row.overlay, row.document, row.ordinal)),
    uniqueColumns .memoryVersions (fun row => row.revision),
    uniqueColumns .memoryEvidence (fun row => (row.revision, row.ordinal)),
    uniqueColumns .memoryAudit (fun row => row.event),
    uniqueColumns .memoryCorrespondenceAudit (fun row => row.event),
    uniqueColumns .memoryProjectionGenerations (fun row => row.projection),
    uniqueColumns .memoryProjectionEvidence
      (fun row => (row.projection, row.recordOrdinal, row.evidenceOrdinal)),
    uniqueColumns .memoryProjectionCandidates
      (fun row => (row.projection, row.recordOrdinal, row.evidenceOrdinal, row.ordinal)),
    uniqueColumns .retentionCollectionAudit (fun row => row.collection)]

end RepoWitness
