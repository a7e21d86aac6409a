import RepoWitness.OwnedWorker

namespace RepoWitness

/-!
# Outcomes of mutating commands

What the owner of the index answers for each mutating command, given the faults
that strike it.  A commit that fails is rolled back.  Most commands report it as
an unknown outcome, and each maps what may still fail after its commit in its
own way.
-/

/-- Errors of the store; `other` is any further one, by its position. -/
inductive WriterError where
  | databaseOperationFailed
  | staleSourceEpoch
  | integrityCheckFailed
  | cancelled
  | deadlineExceeded
  | queueFull
  | workerUnavailable
  | replyTimeout
  | mutationOutcomeUnknown
  | other (position : Nat)
  deriving DecidableEq

/-- What a control check reports. -/
inductive ControlError where
  | cancelled
  | deadlineExceeded
  deriving DecidableEq

def ControlError.toWriterError : ControlError → WriterError
  | cancelled => .cancelled
  | deadlineExceeded => .deadlineExceeded

/-- The mutating commands of `WriterCommand`. -/
inductive MutationKind where
  | register
  | ensureWorkspace
  | advanceEpoch
  | stage
  | stageSourceSlot
  | stageGraph
  | stageSyntaxSites
  | stageRepositoryTopology
  | stageScipOverlay
  | importMemory
  | syncTeamMemory
  | importObservedMemoryHistory
  | appendMemoryCorrespondenceReview
  | appendTaskCheckpoint
  | appendTaskVerification
  | appendPersonalMemory
  | publishMemoryProjection
  | activate
  | connectWorkspace
  | reserveSourceSlotEpoch
  | completeSourceSlotEpoch
  | publishWorkspaceView
  | rebuildProjection
  | applyRetention
  | checkpoint
  deriving DecidableEq

/--
What strikes one execution.  `control` is the first control check and
`lateControl` one after a failure; `prepare` is an error between the first check
and the final commit; `applied` tells that the work is found done already, and
`staleEpoch` that the stored source epoch is not the requested one.
-/
structure MutationFaults where
  control : Option ControlError
  installFails : Bool
  prepare : Option WriterError
  applied : Bool
  commitFails : Bool
  clearFails : Bool
  lateControl : Option ControlError
  staleEpoch : Bool
  deriving DecidableEq

/-- The result of a body and whether its final commit was performed. -/
structure MutationAttempt where
  result : Except WriterError Unit
  committed : Bool

namespace MutationFaults

variable (faults : MutationFaults)

def refuse (error : WriterError) : MutationAttempt := ⟨.error error, false⟩

def checkControl (attempt : MutationAttempt) : MutationAttempt :=
  match faults.control with
  | some control => refuse control.toWriterError
  | none => attempt

def checkDeadline (attempt : MutationAttempt) : MutationAttempt :=
  match faults.control with
  | some .deadlineExceeded => refuse .deadlineExceeded
  | _ => attempt

def prepared (attempt : MutationAttempt) : MutationAttempt :=
  match faults.prepare with
  | some error => refuse error
  | none => attempt

/-- A commit whose failure is reported as the given error. -/
def commitOr (error : WriterError) : MutationAttempt :=
  if faults.commitFails then refuse error else ⟨.ok (), true⟩

def commitMutation : MutationAttempt := faults.commitOr .mutationOutcomeUnknown

def controlDatabaseError : WriterError :=
  (faults.lateControl.map ControlError.toWriterError).getD .databaseOperationFailed

/-- A transaction that may find its work done and then only ends. -/
def replayable : MutationAttempt := faults.prepared
    (if faults.applied then
      faults.commitOr faults.controlDatabaseError
    else
      faults.commitMutation)

/-- `ensure_workspace` and, after its commit, the check of the epoch. -/
def registerWorkspace : MutationAttempt :=
  let ensured := faults.checkDeadline (faults.prepared faults.commitMutation)
  match ensured.result with
  | .ok () =>
    if faults.staleEpoch then
      ⟨.error .staleSourceEpoch, ensured.committed⟩
    else
      ensured
  | .error _ => ensured

/-- A body under a progress handler that the command sets and clears. -/
def handled (inner : MutationAttempt) (settle : Except WriterError Unit → Except WriterError Unit) :
    MutationAttempt :=
  faults.checkControl
    (if faults.installFails then
      refuse .databaseOperationFailed
    else
      ⟨settle inner.result, inner.committed⟩)

/-- The result once the handler is cleared, or could not be. -/
def clearHandler : Except WriterError Unit :=
  if faults.clearFails then .error .databaseOperationFailed else .ok ()

/-- The last `match` of `apply_generation_retention`. -/
def settleRetention (result : Except WriterError Unit) : Except WriterError Unit :=
  match result, faults.clearHandler with
  | .error error, _ => .error error
  | .ok (), .error error => .error error
  | .ok (), .ok () => .ok ()

/-- The last `match` of `rebuild_search_projection`. -/
def settleRebuild (result : Except WriterError Unit) : Except WriterError Unit :=
  match result, faults.clearHandler with
  | .error .databaseOperationFailed, .ok () => .error faults.controlDatabaseError
  | .error error, _ => .error error
  | .ok (), .error error => .error error
  | .ok (), .ok () => .ok ()

/-- The last `match` of `stage_scip_overlay`. -/
def settleOverlay (result : Except WriterError Unit) : Except WriterError Unit :=
  match result, faults.clearHandler with
  | .error .mutationOutcomeUnknown, _ => .error .mutationOutcomeUnknown
  | .error error, _ =>
    match faults.lateControl with
    | none => .error error
    | some control => .error control.toWriterError
  | .ok (), .error error => .error error
  | .ok (), .ok () => .ok ()

def applyGenerationRetention : MutationAttempt :=
  faults.handled faults.replayable faults.settleRetention

def rebuildSearchProjection : MutationAttempt :=
  faults.handled (faults.prepared faults.commitMutation) faults.settleRebuild

def stageScipOverlay : MutationAttempt :=
  faults.handled (faults.prepared faults.commitMutation) faults.settleOverlay

/-- `with_mutation_progress_handler`: a stuck handler ends the worker. -/
def managed (inner : MutationAttempt) : Execution WriterError :=
  match faults.control with
  | some control => ⟨.error control.toWriterError, false, true⟩
  | none =>
    if faults.installFails then
      ⟨.error .databaseOperationFailed, false, false⟩
    else
      ⟨inner.result, inner.committed, !faults.clearFails⟩

end MutationFaults

def MutationAttempt.keepConnection (attempt : MutationAttempt) : Execution WriterError :=
  ⟨attempt.result, attempt.committed, true⟩

namespace MutationKind

/-- The arm of `run_writer` for a mutating command. -/
def execute (kind : MutationKind) (faults : MutationFaults) : Execution WriterError :=
  match kind with
  | register => faults.registerWorkspace.keepConnection
  | ensureWorkspace | advanceEpoch | activate =>
    (faults.checkDeadline (faults.prepared faults.commitMutation)).keepConnection
  | stage | stageSourceSlot =>
    (faults.checkControl
      (faults.prepared (faults.commitOr .databaseOperationFailed))).keepConnection
  | stageGraph | stageSyntaxSites | stageRepositoryTopology =>
    (faults.prepared (faults.commitOr .integrityCheckFailed)).keepConnection
  | stageScipOverlay => faults.stageScipOverlay.keepConnection
  | importMemory | syncTeamMemory | importObservedMemoryHistory
  | appendTaskCheckpoint | appendTaskVerification | appendPersonalMemory
  | connectWorkspace | reserveSourceSlotEpoch | completeSourceSlotEpoch
  | publishWorkspaceView =>
    (faults.checkControl (faults.prepared faults.commitMutation)).keepConnection
  | appendMemoryCorrespondenceReview => faults.managed faults.replayable
  | publishMemoryProjection => faults.managed (faults.prepared faults.commitMutation)
  | rebuildProjection => faults.rebuildSearchProjection.keepConnection
  | applyRetention => faults.applyGenerationRetention.keepConnection
  | checkpoint =>
    (faults.checkDeadline
      (faults.prepared (faults.commitOr .databaseOperationFailed))).keepConnection

/--
After its commit, the command fails to clear its own progress handler or finds
the stored epoch stale, and reports that as an ordinary error.
-/
def Disturbed (kind : MutationKind) (faults : MutationFaults) : Prop :=
  faults.prepare = none ∧ faults.commitFails = false ∧
    match kind with
    | register => faults.control ≠ some .deadlineExceeded ∧ faults.staleEpoch = true
    | stageScipOverlay | rebuildProjection | applyRetention =>
      faults.control = none ∧ faults.installFails = false ∧ faults.clearFails = true
    | _ => False

end MutationKind

/-- A command of a call; reads and the shutdown change nothing. -/
inductive OwnerCommand where
  | mutation (kind : MutationKind)
  | read
  | shutdown
  deriving DecidableEq

/-- `OwnedSqliteIndex` and its writer loop, for calls that may meet faults. -/
def writerProtocol {Call : Type} (commands : Call → OwnerCommand)
    (strikes : Call → MutationFaults → Prop) :
    OwnerProtocol Call WriterError where
  capacity := 1
  mutating := fun call =>
    match commands call with
    | .mutation _ => true
    | _ => false
  stops := fun call => commands call == .shutdown
  executes := fun call execution =>
    match commands call with
    | .mutation kind => ∃ faults, strikes call faults ∧ execution = kind.execute faults
    | .read => execution.committed = false ∧ execution.usable = true
    | .shutdown => execution = ⟨.ok (), false, true⟩
  unknown := .mutationOutcomeUnknown
  deadlineExceeded := .deadlineExceeded
  queueFull := .queueFull
  workerUnavailable := .workerUnavailable
  replyTimeout := .replyTimeout
  queueKnown := by simp
  workerKnown := by simp

/-! ## Which executions tell what they did -/

namespace MutationAttempt

/-- A body that commits succeeds, and one that does not is refused. -/
def Clean (attempt : MutationAttempt) : Prop :=
  attempt = ⟨.ok (), true⟩ ∨ ∃ error, attempt = MutationFaults.refuse error

def Tells (attempt : MutationAttempt) : Prop :=
  match attempt.result with
  | .ok () => attempt.committed = true
  | .error error => error = .mutationOutcomeUnknown ∨ attempt.committed = false

theorem tells_of_clean {attempt : MutationAttempt} (clean : attempt.Clean) : attempt.Tells := by
  rcases clean with rfl | ⟨error, rfl⟩
  · exact rfl
  · exact .inr rfl

end MutationAttempt

namespace MutationFaults

open MutationAttempt

variable {faults : MutationFaults} {attempt : MutationAttempt}

theorem clean_refuse (error : WriterError) : (refuse error).Clean := .inr ⟨error, rfl⟩

theorem clean_commitOr (faults : MutationFaults) (error : WriterError) :
    (faults.commitOr error).Clean := by
  unfold commitOr
  split
  · exact clean_refuse error
  · exact .inl rfl

theorem clean_prepared (clean : attempt.Clean) : (faults.prepared attempt).Clean := by
  unfold prepared
  split
  · exact clean_refuse _
  · exact clean

theorem clean_checkControl (clean : attempt.Clean) : (faults.checkControl attempt).Clean := by
  unfold checkControl
  split
  · exact clean_refuse _
  · exact clean

theorem clean_checkDeadline (clean : attempt.Clean) : (faults.checkDeadline attempt).Clean := by
  unfold checkDeadline
  split
  · exact clean_refuse _
  · exact clean

theorem clean_replayable (faults : MutationFaults) : faults.replayable.Clean := by
  refine clean_prepared ?_
  split
  · exact faults.clean_commitOr _
  · exact faults.clean_commitOr _

theorem committed_prepared_iff (error : WriterError) :
    (faults.prepared (faults.commitOr error)).committed = true ↔
      faults.prepare = none ∧ faults.commitFails = false := by
  unfold prepared commitOr refuse
  cases faults.prepare <;> cases faults.commitFails <;> simp

theorem committed_replayable_iff : faults.replayable.committed = true ↔
      faults.prepare = none ∧ faults.commitFails = false := by
  unfold replayable prepared commitMutation commitOr refuse
  cases faults.prepare <;> cases faults.commitFails <;> cases faults.applied <;> simp

/-- A command with its own handler misreports a commit it cannot clear. -/
theorem tells_handled_iff {settle : Except WriterError Unit → Except WriterError Unit}
    (clean : attempt.Clean) (refuses : ∀ error, ∃ other, settle (.error error) = .error other)
    (clears : settle (.ok ()) = faults.clearHandler) :
    (faults.handled attempt settle).Tells ↔
      ¬ (attempt.committed = true ∧ faults.control = none ∧
        faults.installFails = false ∧ faults.clearFails = true) := by
  unfold handled checkControl
  cases control : faults.control with
  | some error => simp [Tells, refuse]
  | none =>
    cases install : faults.installFails with
    | true => simp [Tells, refuse]
    | false =>
      rcases clean with rfl | ⟨error, rfl⟩
      · simp only [clears, clearHandler]
        cases faults.clearFails <;> simp [Tells]
      · obtain ⟨other, settled⟩ := refuses error
        simp [Tells, refuse, settled]

/-- A stuck handler does not change the result of a managed command. -/
theorem managed_clean (faults : MutationFaults) (clean : attempt.Clean) :
    ∃ kept : MutationAttempt, ∃ usable,
      kept.Clean ∧ faults.managed attempt = ⟨kept.result, kept.committed, usable⟩ := by
  unfold managed
  split
  next control _ => exact ⟨refuse control.toWriterError, true, clean_refuse _, rfl⟩
  · split
    · exact ⟨refuse .databaseOperationFailed, false, clean_refuse _, rfl⟩
    · exact ⟨attempt, !faults.clearFails, clean, rfl⟩

theorem settleRetention_error (error : WriterError) :
    ∃ other, faults.settleRetention (.error error) = .error other := by
  unfold settleRetention
  split <;> simp_all

theorem settleRebuild_error (error : WriterError) :
    ∃ other, faults.settleRebuild (.error error) = .error other := by
  unfold settleRebuild
  split <;> simp_all

theorem settleOverlay_error (error : WriterError) :
    ∃ other, faults.settleOverlay (.error error) = .error other := by
  unfold settleOverlay
  split
  · simp
  · split <;> simp
  · simp_all
  · simp_all

theorem settle_ok : faults.settleRetention (.ok ()) = faults.clearHandler ∧
      faults.settleRebuild (.ok ()) = faults.clearHandler ∧
      faults.settleOverlay (.ok ()) = faults.clearHandler := by
  unfold settleRetention settleRebuild settleOverlay clearHandler
  cases faults.clearFails <;> simp

theorem tells_registerWorkspace_iff : faults.registerWorkspace.Tells ↔
      ¬ (faults.prepare = none ∧ faults.commitFails = false ∧
        faults.control ≠ some .deadlineExceeded ∧
        faults.staleEpoch = true) := by
  unfold registerWorkspace checkDeadline prepared commitMutation commitOr refuse
  rcases faults.control with _ | (_ | _) <;> cases faults.prepare <;>
    cases faults.commitFails <;> cases faults.staleEpoch <;> simp [Tells]

end MutationFaults

namespace MutationKind

open MutationAttempt MutationFaults

variable {faults : MutationFaults}

theorem tells_keepConnection_iff {Call : Type} {commands : Call → OwnerCommand}
    {strikes : Call → MutationFaults → Prop} {attempt : MutationAttempt} {usable : Bool} :
    (writerProtocol commands strikes).Honest ⟨attempt.result, attempt.committed, usable⟩ ↔
      attempt.Tells := by
  obtain ⟨_ | _, committed⟩ := attempt <;> cases committed <;>
    simp [OwnerProtocol.Honest, OwnerProtocol.Tells, Tells, writerProtocol]

/-- Exactly the disturbed executions misreport their commit. -/
theorem honest_execute_iff {Call : Type} (commands : Call → OwnerCommand)
    (strikes : Call → MutationFaults → Prop) (kind : MutationKind) (faults : MutationFaults) :
    (writerProtocol commands strikes).Honest (kind.execute faults) ↔ ¬ kind.Disturbed faults := by
  have undisturbed {attempt : MutationAttempt} {usable : Bool} (clean : attempt.Clean) :
      (writerProtocol commands strikes).Honest ⟨attempt.result, attempt.committed, usable⟩ ↔
        ¬ (faults.prepare = none ∧ faults.commitFails = false ∧ False) := by
    simp [tells_keepConnection_iff, tells_of_clean clean]
  have committed := @committed_prepared_iff faults .mutationOutcomeUnknown
  cases kind with
  | register => exact tells_keepConnection_iff.trans tells_registerWorkspace_iff
  | stageScipOverlay =>
    refine tells_keepConnection_iff.trans
      ((tells_handled_iff (clean_prepared (faults.clean_commitOr _))
        settleOverlay_error settle_ok.2.2).trans (not_congr ?_))
    exact (and_congr_left fun _ => committed).trans and_assoc
  | rebuildProjection =>
    refine tells_keepConnection_iff.trans
      ((tells_handled_iff (clean_prepared (faults.clean_commitOr _))
        settleRebuild_error settle_ok.2.1).trans (not_congr ?_))
    exact (and_congr_left fun _ => committed).trans and_assoc
  | applyRetention =>
    refine tells_keepConnection_iff.trans
      ((tells_handled_iff faults.clean_replayable settleRetention_error
        settle_ok.1).trans (not_congr ?_))
    exact (and_congr_left fun _ => committed_replayable_iff).trans and_assoc
  | appendMemoryCorrespondenceReview =>
    obtain ⟨kept, usable, clean, same⟩ := faults.managed_clean faults.clean_replayable
    rw [execute, same]
    exact undisturbed clean
  | publishMemoryProjection =>
    obtain ⟨kept, usable, clean, same⟩ :=
      faults.managed_clean (clean_prepared (faults.clean_commitOr .mutationOutcomeUnknown))
    rw [execute, commitMutation, same]
    exact undisturbed clean
  | ensureWorkspace | advanceEpoch | activate | checkpoint =>
    exact undisturbed (clean_checkDeadline (clean_prepared (faults.clean_commitOr _)))
  | stageGraph | stageSyntaxSites | stageRepositoryTopology =>
    exact undisturbed (clean_prepared (faults.clean_commitOr _))
  | _ => exact undisturbed (clean_checkControl (clean_prepared (faults.clean_commitOr _)))

end MutationKind

/--
Clients may rely on the results of their mutating calls exactly when no
execution is disturbed after its commit.
-/
theorem writerProtocol_resolves_iff {Call : Type} [DecidableEq Call]
    (commands : Call → OwnerCommand) (strikes : Call → MutationFaults → Prop) :
    (writerProtocol commands strikes).Resolves ↔
      ∀ call kind faults, commands call = .mutation kind →
        strikes call faults → ¬ kind.Disturbed faults := by
  refine (OwnerProtocol.resolves_iff Nat.one_pos).trans ?_
  constructor
  · intro honest call kind faults isKind struck
    refine (kind.honest_execute_iff commands strikes faults).mp (honest call _ ?_ ?_)
    · simp only [writerProtocol, isKind]
      exact ⟨faults, struck, rfl⟩
    · simp only [writerProtocol, isKind]
  · intro undisturbed call execution possible mutates
    cases isKind : commands call with
    | mutation kind =>
      simp only [writerProtocol, isKind] at possible
      obtain ⟨faults, struck, rfl⟩ := possible
      exact (kind.honest_execute_iff commands strikes faults).mpr
        (undisturbed call kind faults isKind struck)
    | read | shutdown => simp [writerProtocol, isKind] at mutates

/-- Only the removal of the progress handler fails. -/
def stuckHandler : MutationFaults where
  control := none
  installFails := false
  prepare := none
  applied := false
  commitFails := false
  clearFails := true
  lateControl := none
  staleEpoch := false

/-- One client stages one overlay. -/
def stuckOverlay : OwnerProtocol Unit WriterError :=
  writerProtocol (fun _ => .mutation .stageScipOverlay) fun _ faults => faults = stuckHandler

/-- An overlay is staged, and its client hears that the operation failed. -/
theorem stageScipOverlay_misreports : ∃ events state, Run stuckOverlay.Step .initial events state ∧
        state.phase () = .returned (.error .databaseOperationFailed) ∧
        state.commits () = 1 := by
  have possible : stuckOverlay.executes () (MutationKind.stageScipOverlay.execute stuckHandler) :=
    ⟨stuckHandler, rfl, rfl⟩
  refine OwnerProtocol.exists_run_returning Nat.one_pos possible ?_
  intro _ unknown
  cases unknown

end RepoWitness
