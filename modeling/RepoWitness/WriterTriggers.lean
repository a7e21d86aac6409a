import RepoWitness.WriterKeys

namespace RepoWitness

/-!
# Row guards of the local store

The triggers of the migrations, as the last migration leaves them.  A guard
holds where no trigger aborts.  A trigger compares a missing row with nothing
and then does not abort, so a guard on a parent row asks it of every row with
the parent's key; the references say that there is one.  A column an update
leaves as it was counts as not updated.
-/

/-- Retention marks: the rows one collection is authorized to delete. -/
structure RetentionMarks where
  generations : List Nat
  overlays : List Bytes32
  views : List Nat
  receipts : List (Bytes32 × Nat)
  snapshots : List Bytes32
  artifacts : List Bytes32

/-- No mark: the authority of every transaction but a collection. -/
def RetentionMarks.none : RetentionMarks where
  generations := []
  overlays := []
  views := []
  receipts := []
  snapshots := []
  artifacts := []

/-- The condition holds for every row the selection picks. -/
def eachOf {α : Type} (contents : List α) (selects condition : α → Bool) : Bool :=
  contents.all fun row => !selects row || condition row

theorem eachOf_eq_true_iff {α : Type} {contents : List α} {selects condition : α → Bool} :
    eachOf contents selects condition = true ↔
      ∀ row ∈ contents, selects row = true → condition row = true := by
  simp only [eachOf, List.all_eq_true, Bool.or_eq_true, Bool.not_eq_true']
  refine forall₂_congr fun row _ => ?_
  cases selects row <;> simp

section ParentStates

variable (rows : StoreRows)

/-- The analysis artifact with the digest satisfies the condition. -/
def artifactStates (artifact : Bytes32) (condition : AnalysisArtifactRow → Bool) : Bool :=
  eachOf (rows .analysisArtifacts) (fun row => row.artifact == artifact) condition

def artifactStaging (artifact : Bytes32) : Bool :=
  artifactStates rows artifact fun row => row.lifecycle == .staging

def artifactComplete (artifact : Bytes32) : Bool :=
  artifactStates rows artifact fun row => row.lifecycle == .complete

def snapshotStates (snapshot : Bytes32) (lifecycle : ContentLifecycle) : Bool :=
  eachOf (rows .sourceSnapshots) (fun row => row.snapshot == snapshot)
    (fun row => row.lifecycle == lifecycle)

def generationStates (generation : Nat) (condition : GenerationLifecycle → Bool) : Bool :=
  eachOf (rows .indexGenerations) (fun row => row.generation == generation)
    (fun row => condition row.lifecycle)

def viewStates (connectedWorkspace : Bytes32) (view : Nat)
    (lifecycle : WorkspaceViewLifecycle) : Bool :=
  eachOf (rows .workspaceViews)
    (fun row => row.connectedWorkspace == connectedWorkspace && row.view == view)
    (fun row => row.lifecycle == lifecycle)

def graphPublicationStaging (generation : Nat) : Bool :=
  eachOf (rows .generationGraphPublications) (fun row => row.generation == generation)
    (fun row => row.lifecycle == .staging)

def overlayStaging (overlay : Bytes32) : Bool :=
  eachOf (rows .scipOverlayReceipts) (fun row => row.overlay == overlay)
    (fun row => row.lifecycle == .staging)

def hasPublishedView (connectedWorkspace : Bytes32) : Bool :=
  (rows .workspaceViews).any fun row =>
    row.connectedWorkspace == connectedWorkspace && row.lifecycle == .published

def hasActiveView (connectedWorkspace : Bytes32) : Bool :=
  (rows .activeWorkspaceViews).any fun row => row.connectedWorkspace == connectedWorkspace

def memberOfActiveView (member : WorkspaceViewMemberRow) : Bool :=
  (rows .activeWorkspaceViews).any fun row =>
    row.connectedWorkspace == member.connectedWorkspace && row.view == member.view

/-- An exact generation of a workspace is in one of the eligible states. -/
def hasEligibleGeneration (workspace generation : Nat) : Bool :=
  (rows .indexGenerations).any fun row =>
    row.workspace == workspace && row.generation == generation && row.lifecycle.eligible

end ParentStates

/-- The trigger `generation_lifecycle_transition`. -/
def GenerationLifecycle.mayBecome : GenerationLifecycle → GenerationLifecycle → Bool
  | .discovered, .extracting => true
  | .extracting, .resolving => true
  | .resolving, .validating => true
  | .validating, .ready => true
  | .ready, .active => true
  | .active, .retained => true
  | .discovered, .failed | .extracting, .failed | .resolving, .failed
  | .validating, .failed | .ready, .failed => true
  | .discovered, .cancelled | .extracting, .cancelled
  | .resolving, .cancelled | .validating, .cancelled
  | .ready, .cancelled => true
  | _, _ => false

def GenerationLifecycle.abandoned : GenerationLifecycle → Bool
  | .failed | .cancelled => true
  | _ => false

section Insertion

variable (rows : StoreRows)

def slotInsertGuard (row : WorkspaceSourceSlotRow) : Bool :=
  ((rows .workspaceSourceSlots).countP fun slot =>
      slot.connectedWorkspace == row.connectedWorkspace) < 256 &&
    !hasPublishedView rows row.connectedWorkspace

def receiptInsertGuard (row : SourceSlotReceiptRow) : Bool :=
  ((rows .workspaceSourceSlots).any fun slot =>
      slot.connectedWorkspace == row.connectedWorkspace &&
        slot.sourceSlot == row.sourceSlot &&
        slot.generationWorkspace == row.generationWorkspace &&
        slot.sourceEpoch == row.sourceEpoch) &&
    hasEligibleGeneration rows row.generationWorkspace row.generation

def graphSourceInsertGuard (row : GraphSourceRow) : Bool :=
  graphPublicationStaging rows row.generation &&
    (rows .generationGraphPublications).any fun publication =>
      publication.generation == row.generation &&
        (rows .workspaceSourceSlots).any fun slot =>
          slot.connectedWorkspace == publication.connectedWorkspace &&
            slot.sourceSlot == row.sourceSlot &&
            hasEligibleGeneration rows slot.generationWorkspace row.sourceGeneration

def fileHasArtifact (generation : Nat) (path : RepositoryPath) (artifact : Bytes32)
    (agrees : AnalysisArtifactRow → GenerationFileRow → Bool) : Bool :=
  (rows .generationFiles).any fun file =>
    file.generation == generation && file.path == path &&
      (rows .analysisArtifacts).any fun row =>
        row.artifact == artifact && row.lifecycle == .complete &&
          row.sourceContent == file.content && agrees row file

def graphArtifactInsertGuard (row : GraphArtifactRow) : Bool :=
  graphPublicationStaging rows row.generation &&
    fileHasArtifact rows row.sourceGeneration row.path row.graphArtifact fun _ _ => true

def graphDefinitionInsertGuard (row : GraphDefinitionRow) : Bool :=
  graphPublicationStaging rows row.generation &&
    (rows .generationFiles).any fun file =>
      file.generation == row.sourceGeneration &&
        file.path == row.definition.path &&
        file.artifact == row.definition.artifact &&
        (rows .artifactFacts).any fun fact =>
          fact.artifact == file.artifact &&
            fact.ordinal == row.definition.factOrdinal &&
            fact.kind == row.definition.kind &&
            fact.nameSpan == row.definition.nameSpan &&
            fact.declarationSpan == row.definition.declarationSpan

def graphResolutionInsertGuard (row : GraphResolutionRow) : Bool :=
  graphPublicationStaging rows row.generation &&
    (rows .generationGraphArtifacts).any fun occurrence =>
      occurrence.generation == row.generation &&
        occurrence.sourceSlot == row.site.sourceSlot &&
        occurrence.sourceGeneration == row.sourceGeneration &&
        occurrence.path == row.site.path &&
        occurrence.graphArtifact == row.site.artifact

def graphEdgeInsertGuard (row : GraphEdgeRow) : Bool :=
  graphPublicationStaging rows row.site.generation &&
    (rows .generationGraphResolutions).any fun resolution =>
      resolution.key == row.site && resolution.outcome == .unique &&
        resolution.site.kind == row.kind &&
        (rows .generationGraphCandidates).any fun candidate =>
          candidate.site == row.site && candidate.candidateOrdinal == 0 &&
            candidate.evidence == row.evidence

def syntaxArtifactInsertGuard (row : GenerationSyntaxSiteArtifactRow) : Bool :=
  eachOf (rows .generationSyntaxSitePublications)
      (fun publication => publication.generation == row.generation)
      (fun publication => publication.lifecycle == .staging) &&
    fileHasArtifact rows row.generation row.path row.syntaxSiteArtifact
      fun artifact file =>
        (rows .analysisArtifacts).any fun source =>
          source.artifact == file.artifact && source.language == artifact.language

/-- Some exact member of a published view satisfies the condition. -/
def publishedMember (connectedWorkspace : Bytes32) (view : Nat)
    (condition : WorkspaceViewMemberRow → Bool) : Bool :=
  (rows .workspaceViews).any fun published =>
    published.connectedWorkspace == connectedWorkspace &&
      published.view == view && published.lifecycle == .published &&
      (rows .workspaceViewMembers).any fun member =>
        member.view == published.view && condition member

def overlayInsertGuard (row : ScipOverlayReceiptRow) : Bool :=
  row.lifecycle == .staging &&
    publishedMember rows row.connectedWorkspace row.view fun member =>
      member.sourceSlot == row.sourceSlot &&
        member.sourceEpoch == row.sourceEpoch &&
        member.generationWorkspace == row.generationWorkspace &&
        member.generation == row.generation &&
        (rows .indexGenerations).any fun generation =>
          generation.workspace == member.generationWorkspace &&
            generation.generation == member.generation &&
            generation.snapshot == row.sourceSnapshot &&
            (rows .sourceSnapshots).any fun snapshot =>
              snapshot.snapshot == generation.snapshot && snapshot.manifest == row.sourceManifest

def overlayDocumentInsertGuard (row : ScipOverlayDocumentRow) : Bool :=
  overlayStaging rows row.overlay &&
    (rows .scipOverlayReceipts).any fun receipt =>
      receipt.overlay == row.overlay &&
        (rows .generationFiles).any fun file =>
          file.generation == receipt.generation &&
            file.path == row.path && file.content == row.content

/-- The pointer matches a complete receipt in its exact published scope. -/
def activeOverlayGuard (row : ActiveScipOverlayRow) : Bool :=
  (rows .scipOverlayReceipts).any fun receipt =>
    receipt.overlay == row.overlay && receipt.lifecycle == .complete &&
      receipt.connectedWorkspace == row.connectedWorkspace &&
      receipt.view == row.view && receipt.sourceSlot == row.sourceSlot &&
      publishedMember rows receipt.connectedWorkspace receipt.view
        fun member =>
          member.sourceSlot == receipt.sourceSlot &&
            member.sourceEpoch == receipt.sourceEpoch &&
            member.generationWorkspace == receipt.generationWorkspace &&
            member.generation == receipt.generation

def projectionInsertGuard (row : MemoryProjectionGenerationRow) : Bool :=
  (rows .indexGenerations).any fun generation =>
    generation.generation == row.indexGeneration &&
      generation.workspace == row.workspace &&
      generation.sourceEpoch == row.sourceEpoch &&
      generation.snapshot == row.snapshot &&
      generation.lifecycle == .active &&
      (rows .workspaces).any fun workspace =>
        workspace.workspace == generation.workspace &&
          workspace.activeGeneration == some generation.generation &&
          workspace.sourceEpoch == generation.sourceEpoch

def acceptsRequirement (generation : Nat) : Bool :=
  generationStates rows generation fun lifecycle =>
    lifecycle == .resolving || lifecycle == .validating || lifecycle == .ready

def acceptsPublication (requirements : List ProfileRequirementRow) (generation version : Nat)
    (lifecycle : ContentLifecycle) : Bool :=
  lifecycle == .staging &&
    eachOf requirements (fun requirement => requirement.generation == generation)
      (fun requirement => requirement.profileVersion == version) &&
    generationStates rows generation fun state => state == .ready

/-- Whether the triggers let a row be inserted. -/
def storeInsertGuard : (table : StoreTable) → StoreRow table → Bool
  | .sourceManifestEntries, row => snapshotStates rows row.snapshot .staging
  | .artifactFacts, row => artifactStaging rows row.artifact
  | .artifactFactCorrespondence, row =>
    artifactStates rows row.artifact fun artifact =>
      artifact.lifecycle == .staging && artifact.language == .rust
  | .indexGenerations, row => snapshotStates rows row.snapshot .complete
  | .generationFiles, row =>
    (generationStates rows row.generation fun lifecycle =>
      lifecycle == .extracting || lifecycle == .resolving) &&
    artifactComplete rows row.artifact
  | .generationFacts, row =>
    generationStates rows row.generation fun lifecycle =>
      lifecycle == .resolving || lifecycle == .validating
  | .workspaceSourceSlots, row => slotInsertGuard rows row
  | .sourceSlotGenerationReceipts, row => receiptInsertGuard rows row
  | .workspaceViews, row => row.lifecycle == .staging
  | .workspaceViewMembers, row => viewStates rows row.connectedWorkspace row.view .staging
  | .activeWorkspaceViews, row => viewStates rows row.connectedWorkspace row.view .published
  | .rustGraphArtifacts, row =>
    artifactStates rows row.artifact fun artifact =>
      artifact.lifecycle == .staging && artifact.language == .rust && artifact.factCount == 0
  | .rustGraphSites, row => artifactStaging rows row.artifact
  | .generationGraphRequirements, row => acceptsRequirement rows row.generation
  | .generationGraphPublications, row =>
    row.lifecycle == .staging && eachOf (rows .generationGraphRequirements)
        (fun requirement => requirement.generation == row.generation)
        (fun requirement => requirement.resolverProfileVersion == row.resolverProfileVersion) &&
      generationStates rows row.generation fun state => state == .ready
  | .generationGraphSources, row => graphSourceInsertGuard rows row
  | .generationGraphArtifacts, row => graphArtifactInsertGuard rows row
  | .generationGraphDefinitions, row => graphDefinitionInsertGuard rows row
  | .generationGraphResolutions, row => graphResolutionInsertGuard rows row
  | .generationGraphCandidates, row => graphPublicationStaging rows row.site.generation
  | .generationGraphEdges, row => graphEdgeInsertGuard rows row
  | .generationSyntaxSiteRequirements, row => acceptsRequirement rows row.generation
  | .generationSyntaxSitePublications, row =>
    acceptsPublication rows (rows .generationSyntaxSiteRequirements)
      row.generation row.profileVersion row.lifecycle
  | .generationSyntaxSiteArtifacts, row => syntaxArtifactInsertGuard rows row
  | .generationRepositoryTopologyRequirements, row => acceptsRequirement rows row.generation
  | .generationRepositoryTopologyPublications, row =>
    acceptsPublication rows (rows .generationRepositoryTopologyRequirements)
      row.generation row.profileVersion row.lifecycle
  | .generationRepositoryTopologyEntries, row =>
    eachOf (rows .generationRepositoryTopologyPublications)
      (fun publication => publication.generation == row.generation)
      (fun publication => publication.lifecycle == .staging)
  | .scipOverlayReceipts, row => overlayInsertGuard rows row
  | .scipOverlayDocuments, row => overlayDocumentInsertGuard rows row
  | .scipOverlayOccurrences, row => overlayStaging rows row.overlay
  | .scipOverlayRelationships, row => overlayStaging rows row.overlay
  | .activeScipOverlays, row => activeOverlayGuard rows row
  | .memoryProjectionGenerations, row => projectionInsertGuard rows row
  | _, _ => true

end Insertion

section Update

variable (rows : StoreRows)

def pinnedByActiveView (row : IndexGenerationRow) : Bool :=
  (rows .workspaceViewMembers).any fun member =>
    member.generationWorkspace == row.workspace &&
      member.generation == row.generation &&
      memberOfActiveView rows member

def requiredPublicationsComplete (generation : Nat) : Bool :=
  (!((rows .generationGraphRequirements).any fun requirement =>
      requirement.generation == generation) ||
    (rows .generationGraphPublications).any fun publication =>
      publication.generation == generation && publication.lifecycle == .complete) &&
  (!((rows .generationSyntaxSiteRequirements).any fun requirement =>
      requirement.generation == generation) ||
    (rows .generationSyntaxSitePublications).any fun publication =>
      publication.generation == generation && publication.lifecycle == .complete) &&
  (!((rows .generationRepositoryTopologyRequirements).any fun requirement =>
      requirement.generation == generation) ||
    (rows .generationRepositoryTopologyPublications).any fun publication =>
      publication.generation == generation && publication.lifecycle == .complete)

def generationUpdateGuard (before after : IndexGenerationRow) : Bool :=
  before.lifecycle == after.lifecycle ||
    (before.lifecycle.mayBecome after.lifecycle &&
      !(after.lifecycle.abandoned && pinnedByActiveView rows before) &&
      (after.lifecycle != .active || requiredPublicationsComplete rows after.generation))

def slotUpdateGuard (before after : WorkspaceSourceSlotRow) : Bool :=
  before.connectedWorkspace == after.connectedWorkspace &&
    before.sourceSlot == after.sourceSlot &&
    before.repository == after.repository &&
    before.generationWorkspace == after.generationWorkspace &&
    (before.sourceEpoch == after.sourceEpoch ||
      (before.sourceEpoch != 9223372036854775807 && after.sourceEpoch == before.sourceEpoch + 1))

/-- The trigger `workspace_view_publication_requires_complete_membership`. -/
def membershipComplete (view : WorkspaceViewRow) : Bool :=
  let slots := (rows .workspaceSourceSlots).filter fun slot =>
    slot.connectedWorkspace == view.connectedWorkspace
  let members := (rows .workspaceViewMembers).filter fun member => member.view == view.view
  slots.length != 0 && slots.length == members.length &&
    (slots.all fun slot => members.any fun member => member.sourceSlot == slot.sourceSlot) &&
    (members.all fun member =>
      eachOf (rows .workspaceSourceSlots)
        (fun slot =>
          slot.connectedWorkspace == member.connectedWorkspace &&
            slot.sourceSlot == member.sourceSlot)
        (fun slot => member.sourceEpoch == slot.sourceEpoch)) &&
    (members.all fun member =>
      eachOf (rows .indexGenerations)
        (fun generation =>
          generation.workspace == member.generationWorkspace &&
            generation.generation == member.generation)
        (fun generation => generation.lifecycle.eligible)) &&
    (members.all fun member =>
      member.ordinal == members.countP fun prior => prior.sourceSlot < member.sourceSlot)

def viewUpdateGuard (before after : WorkspaceViewRow) : Bool :=
  before.view == after.view &&
    before.connectedWorkspace == after.connectedWorkspace &&
    (before.lifecycle == after.lifecycle ||
      (before.lifecycle == .staging && after.lifecycle == .published &&
        membershipComplete rows after))

def snapshotUpdateGuard (before after : SourceSnapshotRow) : Bool :=
  after == { before with lifecycle := after.lifecycle } &&
    (before.lifecycle == after.lifecycle || before.lifecycle == .staging)

/-- Sites of an artifact that number as declared, from zero without gaps. -/
def sitesNumbered (declared : List Nat) (ordinals : List Nat) : Bool :=
  (declared.all fun siteCount => siteCount == ordinals.length) &&
    ordinals.length == (ordinals.map (· + 1)).foldl max 0

def artifactUpdateGuard (before after : AnalysisArtifactRow) : Bool :=
  after == { before with lifecycle := after.lifecycle, payload := after.payload } &&
    (before.payload == after.payload || (before.payload.isNone && after.payload.isSome)) &&
    (before.lifecycle == after.lifecycle ||
      (before.lifecycle == .staging &&
        (after.language != .rust ||
          after.factCount ==
            (rows .artifactFactCorrespondence).countP fun row => row.artifact == after.artifact) &&
        (let declared := (rows .rustGraphArtifacts).filter fun row => row.artifact == after.artifact
        declared.isEmpty ||
          (after.factCount == 0 && after.payload.isSome &&
            sitesNumbered (declared.map fun row => row.siteCount)
              (((rows .rustGraphSites).filter fun row =>
                row.artifact == after.artifact).map fun row => row.ordinal))) &&
        (let declared := (rows .syntaxSiteArtifacts).filter fun row =>
          row.artifact == after.artifact
        declared.isEmpty ||
          (after.factCount == 0 && after.payload.isSome &&
            sitesNumbered (declared.map fun row => row.siteCount)
              (((rows .syntaxSites).filter fun row =>
                row.artifact == after.artifact).map fun row => row.ordinal)))))

def resolutionComplete (resolution : GraphResolutionRow) : Bool :=
  let retained := (rows .generationGraphCandidates).countP fun candidate =>
    candidate.site == resolution.key
  match resolution.outcome with
  | .unresolved => retained == 0
  | .unique => retained == 1
  | .ambiguous =>
    2 ≤ retained && retained ≤ resolution.candidateCount &&
      resolution.candidatesTruncated == decide (retained < resolution.candidateCount)

/-- The trigger `generation_graph_completion_requires_complete_projection`. -/
def graphPublicationComplete (row : GraphPublicationRow) : Bool :=
  let resolutions := (rows .generationGraphResolutions).filter
    fun resolution => resolution.generation == row.generation
  let outcomes := fun (outcome : GraphOutcomeKind) =>
    resolutions.countP fun resolution => resolution.outcome == outcome
  (generationStates rows row.generation fun state => state == .ready) &&
    row.sourceCount ==
      ((rows .generationGraphSources).countP fun source => source.generation == row.generation) &&
    row.artifactCount ==
      ((rows .generationGraphArtifacts).countP fun artifact =>
        artifact.generation == row.generation) &&
    row.definitionCount ==
      ((rows .generationGraphDefinitions).countP fun definition =>
        definition.generation == row.generation) &&
    row.siteCount == resolutions.length &&
    row.unresolvedCount == outcomes .unresolved &&
    row.uniqueCount == outcomes .unique &&
    row.ambiguousCount == outcomes .ambiguous &&
    row.retainedCandidateCount ==
      ((rows .generationGraphCandidates).countP fun candidate =>
        candidate.site.generation == row.generation) &&
    row.edgeCount ==
      ((rows .generationGraphEdges).countP fun edge => edge.site.generation == row.generation) &&
    row.edgeCount == row.uniqueCount &&
    resolutions.all (resolutionComplete rows)

def graphPublicationUpdateGuard (before after : GraphPublicationRow) : Bool :=
  after == { before with lifecycle := after.lifecycle } &&
    (before.lifecycle == after.lifecycle ||
      (before.lifecycle == .staging && graphPublicationComplete rows after))

def syntaxPublicationUpdateGuard (before after : SyntaxSitePublicationRow) : Bool :=
  let occurrences := (rows .generationSyntaxSiteArtifacts).filter
    fun occurrence => occurrence.generation == after.generation
  after == { before with lifecycle := after.lifecycle } &&
    (before.lifecycle == after.lifecycle ||
      (before.lifecycle == .staging &&
        (generationStates rows after.generation fun state => state == .ready) &&
        after.artifactCount == occurrences.length &&
        after.artifactCount ==
          ((rows .generationFiles).countP fun file => file.generation == after.generation) &&
        after.siteCount ==
          (occurrences.map fun occurrence =>
            (rows .syntaxSites).countP fun site =>
              site.artifact == occurrence.syntaxSiteArtifact).sum))

def topologyPublicationUpdateGuard (before after : TopologyPublicationRow) : Bool :=
  after == { before with lifecycle := after.lifecycle } &&
    (before.lifecycle == after.lifecycle ||
      (before.lifecycle == .staging &&
        (generationStates rows after.generation fun state => state == .ready) &&
        after.totalPathCount ==
          ((rows .generationRepositoryTopologyEntries).countP fun entry =>
            entry.generation == after.generation)))

/-- Ordinals that run from zero without gaps. -/
def contiguous (ordinals : List Nat) : Bool :=
  ordinals.isEmpty ||
    (ordinals.any (· == 0) && (ordinals.map (· + 1)).foldl max 0 == ordinals.length)

/-- The trigger `scip_overlay_receipt_completion_requires_exact_rows`. -/
def overlayComplete (row : ScipOverlayReceiptRow) : Bool :=
  let documents := (rows .scipOverlayDocuments).filter fun document =>
    document.overlay == row.overlay
  let occurrences := (rows .scipOverlayOccurrences).filter
    fun occurrence => occurrence.overlay == row.overlay
  let relationships := (rows .scipOverlayRelationships).filter
    fun relationship => relationship.overlay == row.overlay
  documents.length == row.documentCount &&
    (documents.map fun document => document.occurrenceCount).sum == row.occurrenceCount &&
    (documents.map fun document => document.relationshipCount).sum == row.relationshipCount &&
    occurrences.length == row.occurrenceCount &&
    relationships.length == row.relationshipCount &&
    contiguous (documents.map fun document => document.document) &&
    (occurrences.all fun occurrence =>
      contiguous
        ((occurrences.filter fun other =>
          other.document == occurrence.document).map fun other => other.ordinal)) &&
    (relationships.all fun relationship =>
      contiguous
        ((relationships.filter fun other =>
          other.document == relationship.document).map fun other => other.ordinal))

def overlayUpdateGuard (before after : ScipOverlayReceiptRow) : Bool :=
  after == { before with lifecycle := after.lifecycle } &&
    (before.lifecycle == after.lifecycle ||
      (before.lifecycle == .staging && overlayComplete rows after))

/-- Whether the triggers let a row be changed. -/
def storeUpdateGuard : (table : StoreTable) → StoreRow table → StoreRow table → Bool
  | .workspaces, _, _ => true
  | .sourceSnapshots, before, after => snapshotUpdateGuard before after
  | .analysisArtifacts, before, after => artifactUpdateGuard rows before after
  | .indexGenerations, before, after => generationUpdateGuard rows before after
  | .generationSearch, _, _ => true
  | .generationSearchRebuild, _, _ => true
  | .workspaceSourceSlots, before, after => slotUpdateGuard before after
  | .workspaceViews, before, after => viewUpdateGuard rows before after
  | .activeWorkspaceViews, before, after =>
    before.connectedWorkspace == after.connectedWorkspace &&
      viewStates rows after.connectedWorkspace after.view .published
  | .generationGraphPublications, before, after => graphPublicationUpdateGuard rows before after
  | .generationSyntaxSitePublications, before, after =>
    syntaxPublicationUpdateGuard rows before after
  | .generationRepositoryTopologyPublications, before, after =>
    topologyPublicationUpdateGuard rows before after
  | .scipOverlayReceipts, before, after => overlayUpdateGuard rows before after
  | .scipEnclosedReferenceEdges, _, _ => true
  | .activeScipOverlays, before, after =>
    before.connectedWorkspace == after.connectedWorkspace &&
      before.sourceSlot == after.sourceSlot &&
      activeOverlayGuard rows after
  | _, _, _ => false

end Update

section Deletion

variable (marks : RetentionMarks) (rows : StoreRows)

/-- Rows of a complete artifact go only with the artifact's mark. -/
def artifactDeleteGuard (artifact : Bytes32) : Bool :=
  artifactStaging rows artifact || marks.artifacts.contains artifact

/-- Rows of a complete overlay go only with the overlay's mark. -/
def overlayDeleteGuard (overlay : Bytes32) : Bool :=
  overlayStaging rows overlay || marks.overlays.contains overlay

def slotDeleteGuard (row : WorkspaceSourceSlotRow) : Bool :=
  !hasPublishedView rows row.connectedWorkspace && !hasActiveView rows row.connectedWorkspace

def receiptDeleteGuard (row : SourceSlotReceiptRow) : Bool :=
  marks.receipts.contains (row.sourceSlot, row.sourceEpoch) ||
    (!hasPublishedView rows row.connectedWorkspace && !hasActiveView rows row.connectedWorkspace)

/-- Whether the triggers let a row be deleted under the marks. -/
def storeDeleteGuard : (table : StoreTable) → StoreRow table → Bool
  | .sourceSnapshots, row => row.lifecycle == .staging || marks.snapshots.contains row.snapshot
  | .sourceManifestEntries, row =>
    snapshotStates rows row.snapshot .staging || marks.snapshots.contains row.snapshot
  | .analysisArtifacts, row => row.lifecycle == .staging || marks.artifacts.contains row.artifact
  | .artifactFacts, row => artifactDeleteGuard marks rows row.artifact
  | .artifactFactCorrespondence, row => artifactDeleteGuard marks rows row.artifact
  | .rustGraphArtifacts, row => artifactDeleteGuard marks rows row.artifact
  | .rustGraphSites, row => artifactDeleteGuard marks rows row.artifact
  | .syntaxSiteArtifacts, row => artifactDeleteGuard marks rows row.artifact
  | .syntaxSites, row => artifactDeleteGuard marks rows row.artifact
  | .indexGenerations, row => !row.lifecycle.eligible || marks.generations.contains row.generation
  | .connectedWorkspaces, _ => false
  | .workspaceSourceSlots, row => slotDeleteGuard rows row
  | .sourceSlotGenerationReceipts, row => receiptDeleteGuard marks rows row
  | .workspaceViews, row => row.lifecycle == .staging || marks.views.contains row.view
  | .workspaceViewMembers, row =>
    viewStates rows row.connectedWorkspace row.view .staging || marks.views.contains row.view
  | .activeWorkspaceViews, _ => false
  | .scipOverlayReceipts, row => row.lifecycle == .staging || marks.overlays.contains row.overlay
  | .scipOverlayDocuments, row => overlayDeleteGuard marks rows row.overlay
  | .scipOverlayOccurrences, row => overlayDeleteGuard marks rows row.overlay
  | .scipOverlayRelationships, row => overlayDeleteGuard marks rows row.overlay
  | .activeScipOverlays, row => marks.overlays.contains row.overlay
  | .memoryVersions, _ => false
  | .memoryEvidence, _ => false
  | .memoryAudit, _ => false
  | .memoryCorrespondenceAudit, _ => false
  | .memoryProjectionGenerations, _ => false
  | .memoryProjectionEvidence, _ => false
  | .memoryProjectionCandidates, _ => false
  | .retentionCollectionAudit, _ => false
  | _, _ => true

end Deletion

def storeSchema : Schema StoreRow RetentionMarks where
  foreignKeys := storeForeignKeys
  uniqueKeys := storeUniqueKeys
  insertGuard := storeInsertGuard
  updateGuard := storeUpdateGuard
  deleteGuard := storeDeleteGuard

/-- Store contents whose declared keys hold. -/
abbrev Store := Database storeSchema

/-- The store as the migrations create it. -/
def emptyStore : Store where
  rows := fun _ => []
  consistent := by decide

end RepoWitness
