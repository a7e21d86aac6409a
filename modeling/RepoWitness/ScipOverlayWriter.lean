import RepoWitness.LifecycleWriter

namespace RepoWitness

open Transaction

/-!
# SCIP overlays

One transaction binds a prepared overlay to an exact member of a published
view, stages its documents, derives the enclosed-reference edges, completes its
receipt and makes it the active overlay of its source slot.
-/

def maxScipOverlayDocuments : Nat := 100000

/-- The kinds a producer declares for one relationship. -/
structure ScipRelationshipKinds where
  isReference : Bool
  isImplementation : Bool
  isTypeDefinition : Bool
  isDefinition : Bool
  deriving DecidableEq

def relationshipKindBits (kinds : ScipRelationshipKinds) : Nat :=
  kinds.isReference.toNat + 2 * kinds.isImplementation.toNat +
    4 * kinds.isTypeDefinition.toNat + 8 * kinds.isDefinition.toNat

structure ScipOccurrence where
  symbol : Option (List UInt8)
  roles : Nat
  span : ByteSpan
  deriving DecidableEq

structure ScipRelationship where
  source : List UInt8
  target : List UInt8
  kinds : ScipRelationshipKinds
  deriving DecidableEq

structure ScipOverlayDocument where
  path : RepositoryPath
  content : Bytes32
  occurrences : List ScipOccurrence
  relationships : List ScipRelationship
  deriving DecidableEq

/-- The exact scope and source a prepared overlay was decoded for. -/
structure ScipOverlayIdentity where
  connectedWorkspace : Bytes32
  workspaceView : Nat
  sourceSlot : Bytes32
  sourceEpoch : Nat
  generation : Nat
  sourceSnapshot : Bytes32
  sourceManifest : Bytes32
  deriving DecidableEq

/-- A decoded overlay; occurrences are numbered by their position. -/
structure PreparedScipOverlay where
  identity : ScipOverlayIdentity
  digest : Bytes32
  documents : List ScipOverlayDocument
  bounded : documents.length ≤ maxScipOverlayDocuments
  distinctPaths : (documents.map fun document => document.path).Nodup

namespace PreparedScipOverlay

def occurrenceCount (prepared : PreparedScipOverlay) : Nat :=
  (prepared.documents.map fun document => document.occurrences.length).sum

def relationshipCount (prepared : PreparedScipOverlay) : Nat :=
  (prepared.documents.map fun document => document.relationships.length).sum

end PreparedScipOverlay

section Scope

variable (rows : StoreRows)

def workspaceViewIsActive (connectedWorkspace : Bytes32) (view : Nat) : Bool :=
  (rows .activeWorkspaceViews).any fun row =>
    row.connectedWorkspace == connectedWorkspace && row.view == view

/-- The published member an overlay is bound to, with its exact source. -/
structure OverlayScope where
  sourceEpoch : Nat
  generationWorkspace : Nat
  generation : Nat
  sourceSnapshot : Bytes32
  sourceManifest : Bytes32

def loadOverlayScope (connectedWorkspace : Bytes32) (view : Nat)
    (sourceSlot : Bytes32) : Option OverlayScope := do
  let published ← (rows .workspaceViews).find? fun row =>
    row.connectedWorkspace == connectedWorkspace && row.view == view && row.lifecycle == .published
  let member ← (rows .workspaceViewMembers).find? fun row =>
    row.view == published.view && row.sourceSlot == sourceSlot
  let generation ← (rows .indexGenerations).find? fun row =>
    row.workspace == member.generationWorkspace && row.generation == member.generation
  let snapshot ← (rows .sourceSnapshots).find? fun row => row.snapshot == generation.snapshot
  return {
    sourceEpoch := member.sourceEpoch
    generationWorkspace := member.generationWorkspace
    generation := member.generation
    sourceSnapshot := generation.snapshot
    sourceManifest := snapshot.manifest }

/-- The identity an overlay must have to be staged in a scope. -/
def OverlayScope.identity (scope : OverlayScope) (connectedWorkspace : Bytes32)
    (workspaceView : Nat) (sourceSlot : Bytes32) : ScipOverlayIdentity where
  connectedWorkspace := connectedWorkspace
  workspaceView := workspaceView
  sourceSlot := sourceSlot
  sourceEpoch := scope.sourceEpoch
  generation := scope.generation
  sourceSnapshot := scope.sourceSnapshot
  sourceManifest := scope.sourceManifest

def overlayIsComplete (digest : Bytes32) : WriterTransaction Bool :=
  match (rows .scipOverlayReceipts).find? fun row => row.overlay == digest with
  | none => return false
  | some receipt => do
    require .invalidScipOverlay (receipt.lifecycle == .complete)
    return true

end Scope

section EnclosedReferences

variable (rows : StoreRows)

def callableFacts (artifact : Bytes32) : List ArtifactFactRow :=
  (rows .artifactFacts).filter fun fact =>
    fact.artifact == artifact && (fact.kind == .function || fact.kind == .method)

def isDefinitionOccurrence (occurrence : ScipOverlayOccurrenceRow) : Bool :=
  occurrence.roles % 2 == 1

/-- A callable declared strictly inside another encloses the occurrence. -/
def enclosedByNested (fact : ArtifactFactRow) (occurrence : ScipOverlayOccurrenceRow) : Bool :=
  (callableFacts rows fact.artifact).any fun nested =>
    spanContains fact.declarationSpan nested.declarationSpan &&
      nested.declarationSpan != fact.declarationSpan &&
      spanContains nested.declarationSpan occurrence.span

/-- The producer declares a relationship between the two symbols. -/
def relationshipDeclared (overlay : Bytes32) (document : Nat) (source target : List UInt8) : Bool :=
  (rows .scipOverlayRelationships).any fun declared =>
    declared.overlay == overlay && declared.document == document &&
      declared.sourceSymbol == source && declared.targetSymbol == target

def documentOccurrences (overlay : Bytes32) (document : Nat) : List ScipOverlayOccurrenceRow :=
  ((rows .scipOverlayOccurrences).filter fun occurrence =>
    occurrence.overlay == overlay && occurrence.document == document).insertionSort
    fun first second => first.ordinal ≤ second.ordinal

/-- The callables of the exact file a document was indexed as. -/
def documentCallables (overlay : Bytes32) (document generation : Nat) : List ArtifactFactRow :=
  ((rows .scipOverlayDocuments).filter fun row =>
    row.overlay == overlay && row.document == document).flatMap fun row =>
      ((rows .generationFiles).filter fun file =>
        file.generation == generation && file.path == row.path &&
          file.content == row.content).flatMap fun file => callableFacts rows file.artifact

def enclosedPair (overlay : Bytes32) (document generation : Nat)
    (definition occurrence : ScipOverlayOccurrenceRow) :
    Option (List UInt8 × List UInt8) := do
  let source ← definition.symbol
  let target ← occurrence.symbol
  guard (isDefinitionOccurrence definition &&
      !isDefinitionOccurrence occurrence &&
      ((documentCallables rows overlay document generation).any fun fact =>
        spanContains fact.nameSpan definition.span &&
          spanContains fact.declarationSpan occurrence.span &&
          !enclosedByNested rows fact occurrence) &&
      !relationshipDeclared rows overlay document source target)
  return (source, target)

/-- The derived edges of one document, numbered from zero. -/
def enclosedReferenceEdges (overlay : Bytes32)
    (document generation : Nat) : List ScipRelationshipRow :=
  let occurrences := documentOccurrences rows overlay document
  let pairs := occurrences.flatMap fun definition =>
    occurrences.filterMap fun occurrence =>
      enclosedPair rows overlay document generation definition occurrence
  pairs.zipIdx.map fun ((source, target), ordinal) =>
    { overlay
      document
      ordinal
      sourceSymbol := source
      targetSymbol := target
      kinds := 1 }

end EnclosedReferences

section Staging

def stageEnclosedReferenceEdges (digest : Bytes32) (scope : OverlayScope)
    (documentCount : Nat) : WriterTransaction Unit :=
  (List.range documentCount).forM fun document => do
    let store ← get
    (enclosedReferenceEdges store.rows digest document scope.generation).forM fun edge =>
      insertUnlessPresent .invalidScipOverlay .scipEnclosedReferenceEdges edge
        fun row =>
          row.overlay == edge.overlay && row.document == edge.document &&
            row.ordinal == edge.ordinal

def insertOverlayReceipt (connectedWorkspace : Bytes32) (view : Nat) (sourceSlot : Bytes32)
    (prepared : PreparedScipOverlay) (scope : OverlayScope) : WriterTransaction Unit :=
  insertRow .invalidScipOverlay .scipOverlayReceipts
    { overlay := prepared.digest
      connectedWorkspace
      view
      sourceSlot
      sourceEpoch := scope.sourceEpoch
      generationWorkspace := scope.generationWorkspace
      generation := scope.generation
      sourceSnapshot := prepared.identity.sourceSnapshot
      sourceManifest := prepared.identity.sourceManifest
      lifecycle := .staging
      documentCount := prepared.documents.length
      occurrenceCount := prepared.occurrenceCount
      relationshipCount := prepared.relationshipCount }

def stageDocumentOccurrences (overlay : Bytes32) (document : Nat)
    (occurrences : List ScipOccurrence) : WriterTransaction Unit :=
  occurrences.zipIdx.forM fun (occurrence, ordinal) =>
    insertRow .invalidScipOverlay .scipOverlayOccurrences
      { overlay
        document
        ordinal
        symbol := occurrence.symbol
        roles := occurrence.roles
        span := occurrence.span }

def stageDocumentRelationships (overlay : Bytes32) (document : Nat)
    (relationships : List ScipRelationship) : WriterTransaction Unit :=
  relationships.zipIdx.forM fun (relationship, ordinal) =>
    insertRow .invalidScipOverlay .scipOverlayRelationships
      { overlay
        document
        ordinal
        sourceSymbol := relationship.source
        targetSymbol := relationship.target
        kinds := relationshipKindBits relationship.kinds }

def stageOverlayDocuments (prepared : PreparedScipOverlay) : WriterTransaction Unit :=
  prepared.documents.zipIdx.forM fun (document, ordinal) => do
    insertRow .invalidScipOverlay .scipOverlayDocuments
      { overlay := prepared.digest, document := ordinal, path := document.path
        content := document.content
        occurrenceCount := document.occurrences.length
        relationshipCount := document.relationships.length }
    stageDocumentOccurrences prepared.digest ordinal document.occurrences
    stageDocumentRelationships prepared.digest ordinal document.relationships

def completeOverlay (digest : Bytes32) : WriterTransaction Unit :=
  updateOneRow .invalidScipOverlay .invalidScipOverlay .scipOverlayReceipts
    (fun row => row.overlay == digest && row.lifecycle == .staging)
    (fun row => { row with lifecycle := .complete })

/-- Point a source slot at an overlay; the triggers of an insertion and of an
update ask the same of the pointer. -/
def activateOverlay (connectedWorkspace : Bytes32) (view : Nat)
    (sourceSlot digest : Bytes32) : WriterTransaction Unit :=
  attempt .invalidScipOverlay fun store =>
    let pointsAtSlot := fun (row : ActiveScipOverlayRow) =>
      row.connectedWorkspace == connectedWorkspace && row.sourceSlot == sourceSlot
    if (store.rows .activeScipOverlays).any pointsAtSlot then
      store.update .activeScipOverlays pointsAtSlot
        (fun row => { row with view, overlay := digest })
    else
      store.insert .activeScipOverlays { connectedWorkspace, sourceSlot, view, overlay := digest }

def stageScipOverlay (connectedWorkspace : Bytes32) (view : Nat) (sourceSlot : Bytes32)
    (prepared : PreparedScipOverlay) (requireActiveView : Bool) : WriterTransaction Bytes32 := do
  let store ← get
  require .invalidWorkspaceView
    (!requireActiveView || workspaceViewIsActive store.rows connectedWorkspace view)
  let scope ← present .invalidWorkspaceView
    (loadOverlayScope store.rows connectedWorkspace view sourceSlot)
  require .preparedIdentityMismatch
    (prepared.identity == scope.identity connectedWorkspace view sourceSlot)
  let complete ← overlayIsComplete store.rows prepared.digest
  if complete then
    stageEnclosedReferenceEdges prepared.digest scope prepared.documents.length
  else
    insertOverlayReceipt connectedWorkspace view sourceSlot prepared scope
    stageOverlayDocuments prepared
    stageEnclosedReferenceEdges prepared.digest scope prepared.documents.length
    completeOverlay prepared.digest
  activateOverlay connectedWorkspace view sourceSlot prepared.digest
  return prepared.digest

end Staging

end RepoWitness
