import RepoWitness.StoreTransaction
import RepoWitness.WriterTriggers
import Mathlib.Data.List.Sort

namespace RepoWitness

open Transaction

/-!
# Connected workspaces, source slots and views

The transactions by which a connected workspace gets its source slots, a slot's
epoch is reserved and completed, and a complete view is published.  A statement
the store refuses ends its transaction with the error the writer reports there.
-/

/-- The errors these writer transactions report. -/
inductive SqliteStoreError where
  | databaseOperationFailed
  | workspaceUnavailable
  | invalidWorkspaceMembership
  | workspaceSourceSlotLimitExceeded
  | connectedWorkspaceUnavailable
  | invalidWorkspaceView
  | invalidScipOverlay
  | staleSourceEpoch
  | invalidSourceEpoch
  | sourceEpochExhausted
  | preparedIdentityMismatch
  | recoveryGenerationLimitExceeded
  | integrityCheckFailed
  | generationUnavailable
  | retentionPinUnavailable
  | retentionLimitExceeded
  | retentionPlanStale
  deriving DecidableEq

/-- A transaction of the local store's writer. -/
abbrev WriterTransaction := Transaction Store SqliteStoreError

section Statements

/-- Insert one row. -/
def insertRow (error : SqliteStoreError) (table : StoreTable)
    (row : StoreRow table) : WriterTransaction Unit :=
  attempt error fun store => store.insert table row

/-- Insert one row unless one with its key is present, whose insertion the
triggers must allow all the same. -/
def insertUnlessPresent (error : SqliteStoreError) (table : StoreTable) (row : StoreRow table)
    (conflicts : StoreRow table → Bool) : WriterTransaction Unit :=
  attempt error fun store =>
    if (store.rows table).any conflicts then
      if storeInsertGuard store.rows table row then some store else none
    else
      store.insert table row

/-- Change the selected rows of a table. -/
def updateRows (error : SqliteStoreError) (table : StoreTable) (selects : StoreRow table → Bool)
    (change : StoreRow table → StoreRow table) : WriterTransaction Unit :=
  attempt error fun store => store.update table selects change

/-- Delete the selected rows of a table without any retention mark. -/
def deleteRows (error : SqliteStoreError) (table : StoreTable)
    (selects : StoreRow table → Bool) : WriterTransaction Unit :=
  attempt error fun store => store.delete .none table selects

/-- Change exactly one row, as a statement that reports its row count. -/
def updateOneRow (refused unchanged : SqliteStoreError) (table : StoreTable)
    (selects : StoreRow table → Bool)
    (change : StoreRow table → StoreRow table) : WriterTransaction Unit := do
  let store ← get
  let changed := (store.rows table).countP selects
  updateRows refused table selects change
  require unchanged (changed == 1)

/-- The identifier given to a new row. -/
def nextRowId (identifiers : List Nat) : Nat := identifiers.foldl max 0 + 1

end Statements

def maxSourceSlotEpoch : Nat := 9223372036854775807

def maxConnectedWorkspaceSourceSlots : Nat := 256

/-- One source slot requested for a connected workspace. -/
structure WorkspaceSourceSlot where
  sourceSlot : Bytes32
  repository : Bytes32
  deriving DecidableEq

structure WorkspaceViewMember where
  sourceSlot : Bytes32
  sourceEpoch : Nat
  generation : Nat
  deriving DecidableEq

/-- Equal neighbours in a list. -/
def hasEqualNeighbours (slots : List Bytes32) : Bool :=
  (slots.zip slots.tail).any fun pair => pair.1 == pair.2

/-- Bounded, sorted, duplicate-free requests for source slots. -/
def canonicalBySourceSlot {α : Type} (invalid : SqliteStoreError) (sourceSlot : α → Bytes32)
    (requests : List α) : WriterTransaction (List α) := do
  require invalid (!requests.isEmpty)
  require .workspaceSourceSlotLimitExceeded (requests.length ≤ maxConnectedWorkspaceSourceSlots)
  let canonical := requests.insertionSort fun first second => sourceSlot first ≤ sourceSlot second
  require invalid (!hasEqualNeighbours (canonical.map sourceSlot))
  return canonical

def canonicalSourceSlots : List WorkspaceSourceSlot →
      WriterTransaction (List WorkspaceSourceSlot) :=
  canonicalBySourceSlot .invalidWorkspaceMembership fun slot => slot.sourceSlot

def canonicalViewMembers : List WorkspaceViewMember →
      WriterTransaction (List WorkspaceViewMember) :=
  canonicalBySourceSlot .invalidWorkspaceView fun member => member.sourceSlot

def findSlot (rows : StoreRows) (connectedWorkspace sourceSlot : Bytes32) :
    Option WorkspaceSourceSlotRow :=
  (rows .workspaceSourceSlots).find? fun row =>
    row.connectedWorkspace == connectedWorkspace && row.sourceSlot == sourceSlot

def isDefaultSourceSlot (connectedWorkspace sourceSlot repository : Bytes32) : Bool :=
  connectedWorkspace == repository && sourceSlot == repository

section Membership

/-- A requested slot with the workspace its repository is indexed in. -/
abbrev ResolvedSourceSlot := WorkspaceSourceSlot × Nat

def resolveSourceSlotMappings (rows : StoreRows) (sourceSlots : List WorkspaceSourceSlot) :
    Option (List ResolvedSourceSlot) :=
  sourceSlots.mapM fun slot =>
    ((rows .workspaces).find? fun row =>
      row.repository == slot.repository).map fun row => (slot, row.workspace)

def loadSourceSlotMappings (rows : StoreRows)
    (connectedWorkspace : Bytes32) : List ResolvedSourceSlot :=
  (((rows .workspaceSourceSlots).filter fun row =>
      row.connectedWorkspace == connectedWorkspace).insertionSort
    fun first second => first.sourceSlot ≤ second.sourceSlot).map fun row =>
      ({ sourceSlot := row.sourceSlot, repository := row.repository }, row.generationWorkspace)

def clearUnpublishedWorkspaceMembership
    (connectedWorkspace : Bytes32) : WriterTransaction Unit := do
  let store ← get
  require .invalidWorkspaceMembership
    (!(hasPublishedView store.rows connectedWorkspace ||
      hasActiveView store.rows connectedWorkspace))
  deleteRows .invalidWorkspaceMembership .workspaceViewMembers fun row =>
    row.connectedWorkspace == connectedWorkspace
  deleteRows .invalidWorkspaceMembership .workspaceViews fun row =>
    row.connectedWorkspace == connectedWorkspace
  deleteRows .invalidWorkspaceMembership .sourceSlotGenerationReceipts
    fun row => row.connectedWorkspace == connectedWorkspace
  deleteRows .invalidWorkspaceMembership .workspaceSourceSlots fun row =>
    row.connectedWorkspace == connectedWorkspace

def insertSourceSlotMappings (connectedWorkspace : Bytes32)
    (resolved : List ResolvedSourceSlot) : WriterTransaction Unit :=
  resolved.forM fun (slot, generationWorkspace) =>
    insertRow .invalidWorkspaceMembership .workspaceSourceSlots
      { connectedWorkspace
        sourceSlot := slot.sourceSlot
        repository := slot.repository
        generationWorkspace
        sourceEpoch := 0 }

/-- Give a connected workspace its source slots, replacing other ones while no
view of it is published. -/
def connectWorkspace (connectedWorkspace : Bytes32)
    (sourceSlots : List WorkspaceSourceSlot) : WriterTransaction Unit := do
  let canonical ← canonicalSourceSlots sourceSlots
  let store ← get
  let resolved ← present .workspaceUnavailable (resolveSourceSlotMappings store.rows canonical)
  insertUnlessPresent .databaseOperationFailed .connectedWorkspaces { connectedWorkspace }
    fun row => row.connectedWorkspace == connectedWorkspace
  let persisted := loadSourceSlotMappings store.rows connectedWorkspace
  if persisted ≠ resolved then
    if !persisted.isEmpty then
      clearUnpublishedWorkspaceMembership connectedWorkspace
    insertSourceSlotMappings connectedWorkspace resolved

end Membership

section Epochs

/-- Reserve the epoch after the expected current one. -/
def reserveSourceSlotEpoch (connectedWorkspace sourceSlot : Bytes32)
    (expected : Nat) : WriterTransaction Nat := do
  require .sourceEpochExhausted (expected != maxSourceSlotEpoch)
  let next := expected + 1
  let store ← get
  let slot ← present .connectedWorkspaceUnavailable
    (findSlot store.rows connectedWorkspace sourceSlot)
  require .staleSourceEpoch (slot.sourceEpoch == expected)
  updateOneRow .databaseOperationFailed .staleSourceEpoch .workspaceSourceSlots
    (fun row =>
      row.connectedWorkspace == connectedWorkspace &&
        row.sourceSlot == sourceSlot && row.sourceEpoch == expected)
    (fun row => { row with sourceEpoch := next })
  if isDefaultSourceSlot connectedWorkspace sourceSlot slot.repository then
    updateOneRow .databaseOperationFailed .staleSourceEpoch .workspaces
      (fun row => row.workspace == slot.generationWorkspace && row.sourceEpoch == expected)
      (fun row => { row with sourceEpoch := next })
  return next

/-- Bind an epoch of a slot to a generation unless it is bound already, and
require that it is bound to this one. -/
def insertSourceSlotReceipt (receipt : SourceSlotReceiptRow) : WriterTransaction Unit := do
  insertUnlessPresent .invalidWorkspaceView .sourceSlotGenerationReceipts receipt
    fun row => row.sourceSlot == receipt.sourceSlot && row.sourceEpoch == receipt.sourceEpoch
  let store ← get
  require .staleSourceEpoch ((store.rows .sourceSlotGenerationReceipts).contains receipt)

def completeSourceSlotEpoch (connectedWorkspace sourceSlot : Bytes32)
    (sourceEpoch generation : Nat) : WriterTransaction Unit := do
  let store ← get
  let slot ← present .connectedWorkspaceUnavailable
    (findSlot store.rows connectedWorkspace sourceSlot)
  require .staleSourceEpoch (slot.sourceEpoch == sourceEpoch)
  require .invalidWorkspaceView
    (hasEligibleGeneration store.rows slot.generationWorkspace generation)
  insertSourceSlotReceipt
    { connectedWorkspace
      sourceSlot
      sourceEpoch
      generationWorkspace := slot.generationWorkspace
      generation }

end Epochs

section Publication

/-- The indexing workspace of a member whose current epoch it completes. -/
def eligibleGenerationWorkspace (rows : StoreRows) (connectedWorkspace : Bytes32)
    (member : WorkspaceViewMember) : WriterTransaction Nat := do
  let slot ← present .invalidWorkspaceView (findSlot rows connectedWorkspace member.sourceSlot)
  require .staleSourceEpoch (slot.sourceEpoch == member.sourceEpoch)
  require .invalidWorkspaceView ((rows .sourceSlotGenerationReceipts).contains
        { connectedWorkspace
          sourceSlot := member.sourceSlot
          sourceEpoch := member.sourceEpoch
          generationWorkspace := slot.generationWorkspace
          generation := member.generation } &&
      hasEligibleGeneration rows slot.generationWorkspace member.generation)
  return slot.generationWorkspace

def insertStagingView (connectedWorkspace : Bytes32) : WriterTransaction Nat := do
  let store ← get
  let view := nextRowId ((store.rows .workspaceViews).map fun row => row.view)
  insertRow .databaseOperationFailed .workspaceViews
    { view, connectedWorkspace, lifecycle := .staging }
  return view

/-- The staging view a publication selects. -/
def isStagingView (view : Nat) (row : WorkspaceViewRow) : Bool :=
  row.view == view && row.lifecycle == .staging

def publishedView (row : WorkspaceViewRow) : WorkspaceViewRow :=
  { row with lifecycle := .published }

/-- Make a view its workspace's active one. -/
def activateView (refused : SqliteStoreError) (connectedWorkspace : Bytes32)
    (view : Nat) : WriterTransaction Unit :=
  attempt refused fun store =>
    if hasActiveView store.rows connectedWorkspace then
      store.update .activeWorkspaceViews (fun row => row.connectedWorkspace == connectedWorkspace)
        (fun row => { row with view })
    else
      store.insert .activeWorkspaceViews { connectedWorkspace, view }

/-- Publish a view with one current, completed member per source slot. -/
def publishWorkspaceView (connectedWorkspace : Bytes32)
    (members : List WorkspaceViewMember) : WriterTransaction Nat := do
  let canonical ← canonicalViewMembers members
  let store ← get
  let sourceSlotCount :=
    (store.rows .workspaceSourceSlots).countP fun row =>
      row.connectedWorkspace == connectedWorkspace
  require .connectedWorkspaceUnavailable (sourceSlotCount != 0)
  require .invalidWorkspaceView (sourceSlotCount == canonical.length)
  let resolved ← canonical.mapM fun member => do
    let generationWorkspace ← eligibleGenerationWorkspace store.rows connectedWorkspace member
    return (member, generationWorkspace)
  let view ← insertStagingView connectedWorkspace
  resolved.zipIdx.forM fun ((member, generationWorkspace), ordinal) =>
    insertRow .invalidWorkspaceView .workspaceViewMembers
      { view
        connectedWorkspace
        sourceSlot := member.sourceSlot
        sourceEpoch := member.sourceEpoch
        ordinal
        generationWorkspace
        generation := member.generation }
  updateOneRow .invalidWorkspaceView .invalidWorkspaceView .workspaceViews
    (isStagingView view) publishedView
  activateView .invalidWorkspaceView connectedWorkspace view
  return view

def publishDefaultWorkspaceView (repository : Bytes32)
    (generationWorkspace sourceEpoch generation : Nat) :
    WriterTransaction Unit := do
  let view ← insertStagingView repository
  insertSourceSlotReceipt
    { connectedWorkspace := repository, sourceSlot := repository
      sourceEpoch
      generationWorkspace
      generation }
  insertRow .databaseOperationFailed .workspaceViewMembers
    { view
      connectedWorkspace := repository
      sourceSlot := repository
      sourceEpoch
      ordinal := 0
      generationWorkspace
      generation }
  updateRows .databaseOperationFailed .workspaceViews (isStagingView view) publishedView
  activateView .databaseOperationFailed repository view

end Publication

/-- Give a repository's own workspace its default slot. -/
def ensureDefaultWorkspaceMembership (repository : Bytes32)
    (generationWorkspace sourceEpoch : Nat) : WriterTransaction Unit := do
  insertUnlessPresent .databaseOperationFailed .connectedWorkspaces
    { connectedWorkspace := repository }
    fun row => row.connectedWorkspace == repository
  let store ← get
  match findSlot store.rows repository repository with
  | some slot =>
    require .integrityCheckFailed (slot.repository == repository &&
        slot.generationWorkspace == generationWorkspace &&
        slot.sourceEpoch == sourceEpoch)
  | none =>
    insertRow .databaseOperationFailed .workspaceSourceSlots
      { connectedWorkspace := repository, sourceSlot := repository
        repository
        generationWorkspace
        sourceEpoch }

end RepoWitness
