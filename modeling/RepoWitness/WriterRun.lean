import RepoWitness.RetentionSweep
import RepoWitness.TransitionRun

namespace RepoWitness

open Transaction

/-!
# Runs of the writer

The writer serializes the calls of all clients, so an interleaving of calls is
a sequence of transactions.  A call that fails leaves the store as it was and
takes no step.
-/

/-- The transactions the writer commits. -/
inductive WriterOperation where
  | ensureWorkspace (repository : Bytes32) (initialSourceEpoch : Nat)
  | registerWorkspace (repository : Bytes32) (initialSourceEpoch : Nat)
  | advanceSourceEpoch (repository : Bytes32) (expected next : Nat)
  | connectWorkspace (connectedWorkspace : Bytes32) (sourceSlots : List WorkspaceSourceSlot)
  | reserveSourceSlotEpoch (connectedWorkspace sourceSlot : Bytes32) (expected : Nat)
  | completeSourceSlotEpoch (connectedWorkspace sourceSlot : Bytes32) (sourceEpoch generation : Nat)
  | publishWorkspaceView (connectedWorkspace : Bytes32) (members : List WorkspaceViewMember)
  | insertContent (table : StoreTable) (row : StoreRow table)
  | completeSnapshot (snapshot : Bytes32)
  | completeArtifact (artifact : Bytes32)
  | completeGraphPublication (generation : Nat)
  | completeSyntaxSitePublication (generation : Nat)
  | completeTopologyPublication (generation : Nat)
  | recordArtifactPayload (artifact payload : Bytes32)
  | deleteStagingSnapshot (snapshot : Bytes32)
  | deleteStagingArtifact (artifact : Bytes32)
  | deleteStagingGraphArtifact (artifact : Bytes32)
  | deleteStagingSyntaxSiteArtifact (artifact : Bytes32)
  | resetProjection (projection : SearchProjection)
  | stageGeneration (repository : Bytes32) (sourceEpoch : Nat) (snapshot : Bytes32)
  | transitionGeneration (generation : Nat) (transition : StagingTransition)
  | abandonGeneration (generation : Nat) (target : GenerationLifecycle)
  | dropAbandonedRows (generation : Nat) (dropped : GenerationRows)
  | activate (generation expectedSourceEpoch : Nat)
  | recover
  | stageScipOverlay (connectedWorkspace : Bytes32) (view : Nat) (sourceSlot : Bytes32)
      (prepared : PreparedScipOverlay)
      (requireActiveView : Bool)
  | applyGenerationRetention (policy : GenerationRetentionPolicy) (expectedPlan : Bytes32)

/-- What a committed transaction answers. -/
inductive WriterReply where
  | done
  | workspace (workspace sourceEpoch : Nat)
  | refused (error : SqliteStoreError)
  | epoch (sourceEpoch : Nat)
  | view (view : Nat)
  | generation (generation : Nat)
  | recovered (generations : Nat)
  | overlay (digest : Bytes32)
  | collected (outcome : RetentionApplyOutcome)
  deriving DecidableEq

variable (digests : RetentionDigests)

/-- The transaction of an operation. -/
def WriterOperation.transaction : WriterOperation → WriterTransaction WriterReply
  | .ensureWorkspace repository initialSourceEpoch => do
    let (workspace, epoch) ← RepoWitness.ensureWorkspace repository initialSourceEpoch
    return .workspace workspace epoch
  | .registerWorkspace repository initialSourceEpoch => do
    let registered ← RepoWitness.registerWorkspace repository initialSourceEpoch
    match registered with
    | .ok workspace => return .workspace workspace initialSourceEpoch
    | .error error => return .refused error
  | .advanceSourceEpoch repository expected next => do
    RepoWitness.advanceSourceEpoch repository expected next
    return .done
  | .connectWorkspace connectedWorkspace sourceSlots => do
    RepoWitness.connectWorkspace connectedWorkspace sourceSlots
    return .done
  | .reserveSourceSlotEpoch connectedWorkspace sourceSlot expected => do
    let epoch ← RepoWitness.reserveSourceSlotEpoch connectedWorkspace sourceSlot expected
    return .epoch epoch
  | .completeSourceSlotEpoch connectedWorkspace sourceSlot sourceEpoch generation => do
    RepoWitness.completeSourceSlotEpoch connectedWorkspace sourceSlot sourceEpoch generation
    return .done
  | .publishWorkspaceView connectedWorkspace members => do
    let view ← RepoWitness.publishWorkspaceView connectedWorkspace members
    return .view view
  | .insertContent table row => do
    RepoWitness.insertContent table row
    return .done
  | .completeSnapshot snapshot => do
    RepoWitness.completeSnapshot snapshot
    return .done
  | .completeArtifact artifact => do
    RepoWitness.completeArtifact artifact
    return .done
  | .completeGraphPublication generation => do
    RepoWitness.completeGraphPublication generation
    return .done
  | .completeSyntaxSitePublication generation => do
    RepoWitness.completeSyntaxSitePublication generation
    return .done
  | .completeTopologyPublication generation => do
    RepoWitness.completeTopologyPublication generation
    return .done
  | .recordArtifactPayload artifact payload => do
    RepoWitness.recordArtifactPayload artifact payload
    return .done
  | .deleteStagingSnapshot snapshot => do
    RepoWitness.deleteStagingSnapshot snapshot
    return .done
  | .deleteStagingArtifact artifact => do
    RepoWitness.deleteStagingArtifact artifact
    return .done
  | .deleteStagingGraphArtifact artifact => do
    RepoWitness.deleteStagingGraphArtifact artifact
    return .done
  | .deleteStagingSyntaxSiteArtifact artifact => do
    RepoWitness.deleteStagingSyntaxSiteArtifact artifact
    return .done
  | .resetProjection projection => do
    RepoWitness.resetProjection projection
    return .done
  | .stageGeneration repository sourceEpoch snapshot => do
    let generation ← RepoWitness.stageGeneration repository sourceEpoch snapshot
    return .generation generation
  | .transitionGeneration generation transition => do
    RepoWitness.transitionGeneration generation transition
    return .done
  | .abandonGeneration generation target => do
    RepoWitness.abandonGeneration generation target
    return .done
  | .dropAbandonedRows generation dropped => do
    RepoWitness.dropAbandonedRows generation dropped
    return .done
  | .activate generation expectedSourceEpoch => do
    RepoWitness.activate generation expectedSourceEpoch
    return .done
  | .recover => do
    let generations ← RepoWitness.recover
    return .recovered generations
  | .stageScipOverlay connectedWorkspace view sourceSlot prepared requireActiveView => do
    let digest ← RepoWitness.stageScipOverlay connectedWorkspace view
      sourceSlot prepared requireActiveView
    return .overlay digest
  | .applyGenerationRetention policy expectedPlan => do
    let outcome ← RepoWitness.applyGenerationRetention digests policy expectedPlan
    return .collected outcome

/-- A committed call and its answer. -/
structure WriterEvent where
  operation : WriterOperation
  reply : WriterReply

/-- One committed call. -/
def writerStep (before : Store) (event : WriterEvent) (after : Store) : Prop :=
  Succeeds (event.operation.transaction digests) before event.reply after

def Reachable (store : Store) : Prop := ∃ events, Run (writerStep digests) emptyStore events store

/-- Commit the operations in turn, or stop where one fails. -/
def runOperations : List WriterOperation → Store → Option (List WriterEvent × Store)
  | [], store => some ([], store)
  | operation :: rest, store =>
    match (operation.transaction digests).run store with
    | .error _ => none
    | .ok (reply, next) =>
      (runOperations rest next).map fun (events, final) =>
        ({ operation, reply } :: events, final)

variable {digests}

variable {operations : List WriterOperation} {initial final : Store} {events : List WriterEvent}

theorem run_of_runOperations
    (executed : runOperations digests operations initial = some (events, final)) :
    Run (writerStep digests) initial events final := by
  induction operations generalizing initial events with
  | nil =>
    cases executed
    exact .done _
  | cons operation rest hypothesis =>
    unfold runOperations at executed
    split at executed
    next => cases executed
    next reply next first =>
      obtain ⟨⟨laterEvents, _⟩, later, same⟩ := Option.map_eq_some_iff.mp executed
      cases same
      exact .more first (hypothesis later)

/-- The calls of a computed run are the operations with their replies. -/
theorem runOperations_events
    (executed : runOperations digests operations initial = some (events, final)) :
    events = List.zipWith WriterEvent.mk operations (events.map fun event => event.reply) := by
  induction operations generalizing initial events with
  | nil =>
    cases executed
    rfl
  | cons operation rest hypothesis =>
    unfold runOperations at executed
    split at executed
    next => cases executed
    next reply next first =>
      obtain ⟨⟨laterEvents, _⟩, later, same⟩ := Option.map_eq_some_iff.mp executed
      cases same
      rw [List.map_cons, List.zipWith_cons_cons, ← hypothesis later]

theorem run_of_replies {replies : List WriterReply}
    (computed :
      (runOperations digests operations initial).map
          (fun result => result.1.map fun event => event.reply) =
        some replies) :
    ∃ final,
      Run (writerStep digests) initial (List.zipWith WriterEvent.mk operations replies) final := by
  obtain ⟨⟨events, final⟩, executed, rfl⟩ := Option.map_eq_some_iff.mp computed
  refine ⟨final, ?_⟩
  rw [← runOperations_events executed]
  exact run_of_runOperations executed

theorem Reachable.of_runOperations {store : Store}
    (executed : runOperations digests operations emptyStore = some (events, store)) :
    Reachable digests store := ⟨events, run_of_runOperations executed⟩

end RepoWitness
