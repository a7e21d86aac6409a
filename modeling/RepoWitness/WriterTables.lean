import RepoWitness.RelationalTables
import RepoWitness.SourceIdentity

namespace RepoWitness

/-!
# Tables of the local store

One row type per table, with the columns that a key, a trigger or a writer
transaction reads.  Row identifiers are the store's integers; an identity or a
digest is an opaque 32-byte value.
-/

/-- Lifecycle of snapshots, artifacts, publications and overlay receipts. -/
inductive ContentLifecycle where
  | staging
  | complete
  deriving DecidableEq

inductive GenerationLifecycle where
  | discovered
  | extracting
  | resolving
  | validating
  | ready
  | active
  | retained
  | failed
  | cancelled
  deriving DecidableEq

/-- A generation a source slot may be bound to. -/
def GenerationLifecycle.eligible : GenerationLifecycle → Bool
  | .ready | .active | .retained => true
  | _ => false

inductive WorkspaceViewLifecycle where
  | staging
  | published
  deriving DecidableEq

inductive SourceLanguage where
  | rust
  | go
  | typescript
  | tsx
  | python
  deriving DecidableEq

inductive GraphOutcomeKind where
  | unresolved
  | unique
  | ambiguous
  deriving DecidableEq

inductive RetentionOutcomeKind where
  | applied
  | noOp
  deriving DecidableEq

structure WorkspaceRow where
  workspace : Nat
  repository : Bytes32
  sourceEpoch : Nat
  activeGeneration : Option Nat
  deriving DecidableEq

structure SourceSnapshotRow where
  snapshot : Bytes32
  lifecycle : ContentLifecycle
  manifest : Bytes32
  fileCount : Nat
  totalSourceBytes : Nat
  deriving DecidableEq

structure SourceManifestEntryRow where
  snapshot : Bytes32
  ordinal : Nat
  path : RepositoryPath
  deriving DecidableEq

structure AnalysisArtifactRow where
  artifact : Bytes32
  lifecycle : ContentLifecycle
  sourceContent : Bytes32
  factCount : Nat
  payload : Option Bytes32
  language : SourceLanguage
  deriving DecidableEq

structure ArtifactFactRow where
  artifact : Bytes32
  ordinal : Nat
  kind : RustSymbolKind
  nameSpan : ByteSpan
  declarationSpan : ByteSpan
  deriving DecidableEq

structure ArtifactFactCorrespondenceRow where
  artifact : Bytes32
  factOrdinal : Nat
  deriving DecidableEq

/-- The counts a generation reports about the paths it was built from. -/
structure RustIndexCoverage where
  searched : Nat
  skipped : Nat
  unresolved : Nat
  truncated : Nat
  deriving DecidableEq

structure IndexGenerationRow where
  generation : Nat
  workspace : Nat
  sourceEpoch : Nat
  snapshot : Bytes32
  lifecycle : GenerationLifecycle
  coverage : RustIndexCoverage
  deriving DecidableEq

structure GenerationFileRow where
  generation : Nat
  ordinal : Nat
  path : RepositoryPath
  content : Bytes32
  artifact : Bytes32
  deriving DecidableEq

structure GenerationFactRow where
  generation : Nat
  ordinal : Nat
  deriving DecidableEq

/-- A row of either full-text search table. -/
structure GenerationSearchRow where
  generation : Nat
  path : RepositoryPath
  factOrdinal : Nat
  artifact : Bytes32
  deriving DecidableEq

structure ConnectedWorkspaceRow where
  connectedWorkspace : Bytes32
  deriving DecidableEq

structure WorkspaceSourceSlotRow where
  connectedWorkspace : Bytes32
  sourceSlot : Bytes32
  repository : Bytes32
  generationWorkspace : Nat
  sourceEpoch : Nat
  deriving DecidableEq

structure SourceSlotReceiptRow where
  connectedWorkspace : Bytes32
  sourceSlot : Bytes32
  sourceEpoch : Nat
  generationWorkspace : Nat
  generation : Nat
  deriving DecidableEq

structure WorkspaceViewRow where
  view : Nat
  connectedWorkspace : Bytes32
  lifecycle : WorkspaceViewLifecycle
  deriving DecidableEq

structure WorkspaceViewMemberRow where
  view : Nat
  connectedWorkspace : Bytes32
  sourceSlot : Bytes32
  sourceEpoch : Nat
  ordinal : Nat
  generationWorkspace : Nat
  generation : Nat
  deriving DecidableEq

structure ActiveWorkspaceViewRow where
  connectedWorkspace : Bytes32
  view : Nat
  deriving DecidableEq

structure RustGraphArtifactRow where
  artifact : Bytes32
  siteCount : Nat
  deriving DecidableEq

structure RustGraphSiteRow where
  artifact : Bytes32
  ordinal : Nat
  kind : RustGraphSiteKind
  occurrenceSpan : ByteSpan
  targetSpan : ByteSpan
  deriving DecidableEq

structure GraphRequirementRow where
  generation : Nat
  resolverProfileVersion : Nat
  deriving DecidableEq

structure GraphPublicationRow where
  generation : Nat
  connectedWorkspace : Bytes32
  lifecycle : ContentLifecycle
  resolverProfileVersion : Nat
  sourceCount : Nat
  artifactCount : Nat
  definitionCount : Nat
  siteCount : Nat
  unresolvedCount : Nat
  uniqueCount : Nat
  ambiguousCount : Nat
  retainedCandidateCount : Nat
  edgeCount : Nat
  deriving DecidableEq

structure GraphSourceRow where
  generation : Nat
  ordinal : Nat
  sourceSlot : Bytes32
  sourceGeneration : Nat
  deriving DecidableEq

structure GraphArtifactRow where
  generation : Nat
  sourceSlot : Bytes32
  sourceGeneration : Nat
  path : RepositoryPath
  graphArtifact : Bytes32
  deriving DecidableEq

structure GraphDefinitionRow where
  generation : Nat
  sourceGeneration : Nat
  definition : RustGraphDefinitionIdentity
  deriving DecidableEq

structure GraphResolutionRow where
  generation : Nat
  sourceGeneration : Nat
  site : RustGraphSiteIdentity
  outcome : GraphOutcomeKind
  candidateCount : Nat
  candidatesTruncated : Bool
  deriving DecidableEq

/-- The columns by which candidates and edges name a resolved site. -/
structure GraphSiteKey where
  generation : Nat
  sourceSlot : Bytes32
  path : RepositoryPath
  artifact : Bytes32
  ordinal : Nat
  deriving DecidableEq

structure GraphCandidateRow where
  site : GraphSiteKey
  candidateOrdinal : Nat
  target : RustGraphDefinitionIdentity
  evidence : RustGraphResolutionEvidence
  deriving DecidableEq

/-- An edge; its candidate is always the one with ordinal zero. -/
structure GraphEdgeRow where
  site : GraphSiteKey
  kind : RustGraphSiteKind
  evidence : RustGraphResolutionEvidence
  deriving DecidableEq

structure SyntaxSiteArtifactRow where
  artifact : Bytes32
  siteCount : Nat
  deriving DecidableEq

structure SyntaxSiteRow where
  artifact : Bytes32
  ordinal : Nat
  deriving DecidableEq

/-- A profile a generation must publish before activation. -/
structure ProfileRequirementRow where
  generation : Nat
  profileVersion : Nat
  deriving DecidableEq

structure SyntaxSitePublicationRow where
  generation : Nat
  lifecycle : ContentLifecycle
  profileVersion : Nat
  artifactCount : Nat
  siteCount : Nat
  deriving DecidableEq

structure GenerationSyntaxSiteArtifactRow where
  generation : Nat
  path : RepositoryPath
  syntaxSiteArtifact : Bytes32
  deriving DecidableEq

structure TopologyPublicationRow where
  generation : Nat
  lifecycle : ContentLifecycle
  profileVersion : Nat
  totalPathCount : Nat
  deriving DecidableEq

structure TopologyEntryRow where
  generation : Nat
  path : RepositoryPath
  deriving DecidableEq

structure ScipOverlayReceiptRow where
  overlay : Bytes32
  connectedWorkspace : Bytes32
  view : Nat
  sourceSlot : Bytes32
  sourceEpoch : Nat
  generationWorkspace : Nat
  generation : Nat
  sourceSnapshot : Bytes32
  sourceManifest : Bytes32
  lifecycle : ContentLifecycle
  documentCount : Nat
  occurrenceCount : Nat
  relationshipCount : Nat
  deriving DecidableEq

structure ScipOverlayDocumentRow where
  overlay : Bytes32
  document : Nat
  path : RepositoryPath
  content : Bytes32
  occurrenceCount : Nat
  relationshipCount : Nat
  deriving DecidableEq

structure ScipOverlayOccurrenceRow where
  overlay : Bytes32
  document : Nat
  ordinal : Nat
  symbol : Option (List UInt8)
  roles : Nat
  span : ByteSpan
  deriving DecidableEq

/-- A producer-declared relationship or a derived enclosed-reference edge. -/
structure ScipRelationshipRow where
  overlay : Bytes32
  document : Nat
  ordinal : Nat
  sourceSymbol : List UInt8
  targetSymbol : List UInt8
  kinds : Nat
  deriving DecidableEq

structure ActiveScipOverlayRow where
  connectedWorkspace : Bytes32
  sourceSlot : Bytes32
  view : Nat
  overlay : Bytes32
  deriving DecidableEq

/-- The columns that name one revision of an engineering memory record. -/
structure MemoryRevisionKey where
  workspace : Nat
  record : BitVec 128
  revision : Bytes32
  deriving DecidableEq

structure MemoryVersionRow where
  revision : MemoryRevisionKey
  validitySourceSnapshot : Option Bytes32
  deriving DecidableEq

structure MemoryEvidenceRow where
  revision : MemoryRevisionKey
  ordinal : Nat
  sourceSnapshot : Bytes32
  artifact : Bytes32
  factOrdinal : Nat
  deriving DecidableEq

/-- An audit event; `sourceSnapshot` is its source revision where the format is
a source snapshot. -/
structure MemoryAuditRow where
  event : Nat
  revision : MemoryRevisionKey
  sourceSnapshot : Option Bytes32
  deriving DecidableEq

structure MemoryCorrespondenceAuditRow where
  event : Nat
  revision : MemoryRevisionKey
  evidenceOrdinal : Nat
  sourceSnapshot : Bytes32
  sourceArtifact : Bytes32
  sourceFactOrdinal : Nat
  targetSnapshot : Bytes32
  targetArtifact : Bytes32
  targetFactOrdinal : Nat
  deriving DecidableEq

structure MemoryProjectionGenerationRow where
  projection : Nat
  workspace : Nat
  indexGeneration : Nat
  sourceEpoch : Nat
  snapshot : Bytes32
  deriving DecidableEq

/-- The exact target of projected evidence. -/
structure MemoryProjectionTarget where
  snapshot : Bytes32
  artifact : Bytes32
  factOrdinal : Nat
  deriving DecidableEq

structure MemoryProjectionEvidenceRow where
  projection : Nat
  recordOrdinal : Nat
  evidenceOrdinal : Nat
  revision : MemoryRevisionKey
  target : Option MemoryProjectionTarget
  deriving DecidableEq

structure MemoryProjectionCandidateRow where
  projection : Nat
  recordOrdinal : Nat
  evidenceOrdinal : Nat
  ordinal : Nat
  revision : MemoryRevisionKey
  target : MemoryProjectionTarget
  deriving DecidableEq

structure RetentionCollectionAuditRow where
  collection : Nat
  policyDigest : Bytes32
  planDigest : Bytes32
  generationCount : Nat
  workspaceViewCount : Nat
  sourceSlotReceiptCount : Nat
  snapshotCount : Nat
  artifactCount : Nat
  deletedRowCount : Nat
  estimatedDeletedBytes : Nat
  moreWork : Bool
  outcome : RetentionOutcomeKind
  deriving DecidableEq

/-- Tables of the store, named as the migrations name them. -/
inductive StoreTable where
  | workspaces
  | sourceSnapshots
  | sourceManifestEntries
  | analysisArtifacts
  | artifactFacts
  | artifactFactCorrespondence
  | indexGenerations
  | generationFiles
  | generationFacts
  | generationSearch
  | generationSearchRebuild
  | connectedWorkspaces
  | workspaceSourceSlots
  | sourceSlotGenerationReceipts
  | workspaceViews
  | workspaceViewMembers
  | activeWorkspaceViews
  | rustGraphArtifacts
  | rustGraphSites
  | generationGraphRequirements
  | generationGraphPublications
  | generationGraphSources
  | generationGraphArtifacts
  | generationGraphDefinitions
  | generationGraphResolutions
  | generationGraphCandidates
  | generationGraphEdges
  | syntaxSiteArtifacts
  | syntaxSites
  | generationSyntaxSiteRequirements
  | generationSyntaxSitePublications
  | generationSyntaxSiteArtifacts
  | generationRepositoryTopologyRequirements
  | generationRepositoryTopologyPublications
  | generationRepositoryTopologyEntries
  | scipOverlayReceipts
  | scipOverlayDocuments
  | scipOverlayOccurrences
  | scipOverlayRelationships
  | scipEnclosedReferenceEdges
  | activeScipOverlays
  | memoryVersions
  | memoryEvidence
  | memoryAudit
  | memoryCorrespondenceAudit
  | memoryProjectionGenerations
  | memoryProjectionEvidence
  | memoryProjectionCandidates
  | retentionCollectionAudit
  deriving DecidableEq

/-- The row type of each table. -/
@[reducible] def StoreRow : StoreTable → Type
  | .workspaces => WorkspaceRow
  | .sourceSnapshots => SourceSnapshotRow
  | .sourceManifestEntries => SourceManifestEntryRow
  | .analysisArtifacts => AnalysisArtifactRow
  | .artifactFacts => ArtifactFactRow
  | .artifactFactCorrespondence => ArtifactFactCorrespondenceRow
  | .indexGenerations => IndexGenerationRow
  | .generationFiles => GenerationFileRow
  | .generationFacts => GenerationFactRow
  | .generationSearch => GenerationSearchRow
  | .generationSearchRebuild => GenerationSearchRow
  | .connectedWorkspaces => ConnectedWorkspaceRow
  | .workspaceSourceSlots => WorkspaceSourceSlotRow
  | .sourceSlotGenerationReceipts => SourceSlotReceiptRow
  | .workspaceViews => WorkspaceViewRow
  | .workspaceViewMembers => WorkspaceViewMemberRow
  | .activeWorkspaceViews => ActiveWorkspaceViewRow
  | .rustGraphArtifacts => RustGraphArtifactRow
  | .rustGraphSites => RustGraphSiteRow
  | .generationGraphRequirements => GraphRequirementRow
  | .generationGraphPublications => GraphPublicationRow
  | .generationGraphSources => GraphSourceRow
  | .generationGraphArtifacts => GraphArtifactRow
  | .generationGraphDefinitions => GraphDefinitionRow
  | .generationGraphResolutions => GraphResolutionRow
  | .generationGraphCandidates => GraphCandidateRow
  | .generationGraphEdges => GraphEdgeRow
  | .syntaxSiteArtifacts => SyntaxSiteArtifactRow
  | .syntaxSites => SyntaxSiteRow
  | .generationSyntaxSiteRequirements => ProfileRequirementRow
  | .generationSyntaxSitePublications => SyntaxSitePublicationRow
  | .generationSyntaxSiteArtifacts => GenerationSyntaxSiteArtifactRow
  | .generationRepositoryTopologyRequirements => ProfileRequirementRow
  | .generationRepositoryTopologyPublications => TopologyPublicationRow
  | .generationRepositoryTopologyEntries => TopologyEntryRow
  | .scipOverlayReceipts => ScipOverlayReceiptRow
  | .scipOverlayDocuments => ScipOverlayDocumentRow
  | .scipOverlayOccurrences => ScipOverlayOccurrenceRow
  | .scipOverlayRelationships => ScipRelationshipRow
  | .scipEnclosedReferenceEdges => ScipRelationshipRow
  | .activeScipOverlays => ActiveScipOverlayRow
  | .memoryVersions => MemoryVersionRow
  | .memoryEvidence => MemoryEvidenceRow
  | .memoryAudit => MemoryAuditRow
  | .memoryCorrespondenceAudit => MemoryCorrespondenceAuditRow
  | .memoryProjectionGenerations => MemoryProjectionGenerationRow
  | .memoryProjectionEvidence => MemoryProjectionEvidenceRow
  | .memoryProjectionCandidates => MemoryProjectionCandidateRow
  | .retentionCollectionAudit => RetentionCollectionAuditRow

/-- Contents of the store's tables. -/
abbrev StoreRows := TableRows StoreRow

end RepoWitness
