import RepoWitness.RelationalChanges
import RepoWitness.RetentionCollection
import RepoWitness.WriterRun

namespace RepoWitness

open Transaction

/-!
# What each writer transaction may change

Every transaction but a collection is a sequence of statements that the guards
accept without any mark.  Its scope says which of the delicate changes it may
make: staging a view or an overlay, and clearing the slots of a workspace.  The
pointer to an active view is moved by publication alone.
-/

/-- The delicate changes a transaction may make. -/
structure WriterScope where
  stagesView : Nat → Prop
  stagesOverlay : Bytes32 → Prop
  clears : Bytes32 → Prop

namespace WriterScope

/-- No delicate change. -/
def ordinary : WriterScope where
  stagesView _ := False
  stagesOverlay _ := False
  clears _ := False

/-- Stage one view. -/
def staging (view : Nat) : WriterScope :=
  { ordinary with stagesView := fun staged => staged = view }

/-- Stage one overlay. -/
def overlaying (digest : Bytes32) : WriterScope :=
  { ordinary with stagesOverlay := fun staged => staged = digest }

def clearing (connectedWorkspace : Bytes32) : WriterScope :=
  { ordinary with clears := fun cleared => cleared = connectedWorkspace }

variable (scope : WriterScope)

def inserts : (table : StoreTable) → StoreRow table → Prop
  | .workspaceViews, row => scope.stagesView row.view
  | .scipOverlayReceipts, row => scope.stagesOverlay row.overlay
  | .activeWorkspaceViews, _ => False
  | _, _ => True

/-- A generation keeps everything but its lifecycle, and the counts that it gets
when it becomes ready. -/
def updates : (table : StoreTable) → StoreRow table → StoreRow table → Prop
  | .indexGenerations, before, after =>
    after = { setLifecycle after.lifecycle before with coverage := after.coverage } ∧
      (after.coverage = before.coverage ∨
        before.lifecycle = .validating ∧ after.lifecycle = .ready)
  | .activeWorkspaceViews, _, _ => False
  | _, _, _ => True

def deletes : (table : StoreTable) → StoreRow table → Prop
  | .workspaceSourceSlots, row => scope.clears row.connectedWorkspace
  | .indexGenerations, _ => False
  | _, _ => True

/-- The changes the guards accept within a scope. -/
def rules : ChangeRules StoreRow where
  inserts rows table row := storeInsertGuard rows table row = true ∧ scope.inserts table row
  updates rows table before after :=
    storeUpdateGuard rows table before after = true ∧ updates table before after
  deletes rows table row := storeDeleteGuard .none rows table row = true ∧ scope.deletes table row

/-- Statements within a scope, one after another. -/
abbrev Evolves : Store → Store → Prop := ChangeRules.Evolves scope.rules

end WriterScope

section Statements

variable {scope : WriterScope} {error : SqliteStoreError} {before after : Store}

variable {table : StoreTable} {row : StoreRow table} {selects : StoreRow table → Bool}
  {change : StoreRow table → StoreRow table}

theorem inserted_evolves
    (inserted : before.insert table row = some after) (allowed : scope.inserts table row) :
    scope.Evolves before after :=
  .of_allows (Database.insert_allowed inserted
    ⟨(Database.insert_eq_some_iff.mp inserted).1, allowed⟩)

theorem updated_evolves (updated : before.update table selects change = some after)
    (allowed : ∀ row, selects row = true → WriterScope.updates table row (change row)) :
    scope.Evolves before after := by
  obtain ⟨guarded, _⟩ := Database.update_eq_some_iff.mp updated
  exact .of_allows (Database.update_allowed updated
    fun row member selected => ⟨guarded row member selected, allowed row selected⟩)

theorem insertRow_evolves (allowed : scope.inserts table row) :
    Keeps scope.Evolves (insertRow error table row) :=
  fun _ _ _ execution => inserted_evolves (succeeds_attempt.mp execution) allowed

theorem insertUnlessPresent_evolves
    {conflicts : StoreRow table → Bool} (allowed : scope.inserts table row) :
    Keeps scope.Evolves (insertUnlessPresent error table row conflicts) := by
  intro before value after execution
  have attempted := succeeds_attempt.mp execution
  split at attempted
  · split at attempted
    · cases attempted
      exact refl_of scope.Evolves before
    · cases attempted
  · exact inserted_evolves attempted allowed

theorem updateRows_evolves
    (allowed : ∀ row, selects row = true → WriterScope.updates table row (change row)) :
    Keeps scope.Evolves (updateRows error table selects change) :=
  fun _ _ _ execution => updated_evolves (succeeds_attempt.mp execution) allowed

theorem updateOneRow_evolves {unchanged : SqliteStoreError}
    (allowed : ∀ row, selects row = true → WriterScope.updates table row (change row)) :
    Keeps scope.Evolves (updateOneRow error unchanged table selects change) := by
  unfold updateOneRow
  refine .bind .get fun _ => .bind (updateRows_evolves allowed) fun _ => ?_
  exact .require _ _

/-- Rows that go with a deleted parent are free to go. -/
theorem cascaded_deletes {rows : StoreRows} (table : StoreTable)
    (cascaded : storeSchema.isCascaded table = true) (row : StoreRow table) :
    scope.rules.deletes rows table row := by
  cases table <;>
    first
      | exact ⟨rfl, trivial⟩
      | exact absurd cascaded (by decide)

theorem deleteRows_evolves (allowed : ∀ row, selects row = true → scope.deletes table row) :
    Keeps scope.Evolves (deleteRows error table selects) := by
  intro before value after execution
  have deleted := succeeds_attempt.mp execution
  obtain ⟨guarded, _⟩ := Database.delete_eq_some_iff.mp deleted
  exact .of_allows (Database.delete_allowed deleted
    (fun row member selected => ⟨guarded row member selected, allowed row selected⟩)
    (fun table cascaded row _ => cascaded_deletes table cascaded row))

end Statements

section Transactions

variable {scope : WriterScope}

variable {repository : Bytes32} {initialSourceEpoch expected : Nat}
  {connectedWorkspace sourceSlot : Bytes32} {sourceEpoch generation : Nat}
  {snapshot artifact : Bytes32} {dropped : GenerationRows}

theorem ensureWorkspace_evolves :
    Keeps scope.Evolves (ensureWorkspace repository initialSourceEpoch) := by
  unfold ensureWorkspace ensureDefaultWorkspaceMembership
  refine .bind .get fun _ =>
    .bind (insertUnlessPresent_evolves trivial) fun _ =>
    .bind .get fun _ => .bind (.present _ _) fun _ => .bind ?_ fun _ =>
    .pure _
  refine .bind (insertUnlessPresent_evolves trivial) fun _ => .bind .get fun _ => ?_
  split
  · exact .require _ _
  · exact insertRow_evolves trivial

theorem registerWorkspace_evolves :
    Keeps scope.Evolves (registerWorkspace repository initialSourceEpoch) := by
  unfold registerWorkspace
  exact .bind ensureWorkspace_evolves fun _ => .ite (fun _ => .pure _) (fun _ => .pure _)

theorem advanceSourceEpoch_evolves {next : Nat} :
    Keeps scope.Evolves (advanceSourceEpoch repository expected next) := by
  unfold advanceSourceEpoch
  exact .bind (.require _ _) fun _ =>
    .bind (updateOneRow_evolves fun _ _ => trivial) fun _ =>
    updateOneRow_evolves fun _ _ => trivial

theorem reserveSourceSlotEpoch_evolves :
    Keeps scope.Evolves (reserveSourceSlotEpoch connectedWorkspace sourceSlot expected) := by
  unfold reserveSourceSlotEpoch
  refine .bind (.require _ _) fun _ => .bind .get fun _ =>
    .bind (.present _ _) fun _ => .bind (.require _ _) fun _ =>
    .bind (updateOneRow_evolves fun _ _ => trivial) fun _ => ?_
  refine .ite (fun _ => ?_) (fun _ => .pure _)
  exact .bind (updateOneRow_evolves fun _ _ => trivial) fun _ => .pure _

theorem insertSourceSlotReceipt_evolves {receipt : SourceSlotReceiptRow} :
    Keeps scope.Evolves (insertSourceSlotReceipt receipt) := by
  unfold insertSourceSlotReceipt
  exact .bind (insertUnlessPresent_evolves trivial) fun _ => .bind .get fun _ => .require _ _

theorem completeSourceSlotEpoch_evolves : Keeps scope.Evolves
      (completeSourceSlotEpoch connectedWorkspace sourceSlot sourceEpoch generation) := by
  unfold completeSourceSlotEpoch
  exact .bind .get fun _ => .bind (.present _ _) fun _ =>
    .bind (.require _ _) fun _ => .bind (.require _ _) fun _ =>
    insertSourceSlotReceipt_evolves

theorem insertContent_evolves {table : StoreTable} {row : StoreRow table} :
    Keeps scope.Evolves (insertContent table row) := by
  intro before value after execution
  unfold insertContent at execution
  simp only [succeeds_bind, succeeds_require] at execution
  obtain ⟨_, _, ⟨isContent, rfl⟩, inserted⟩ := execution
  refine insertRow_evolves ?_ _ _ _ inserted
  cases table <;> first | exact trivial | simp [isContentRow] at isContent

theorem completeSnapshot_evolves : Keeps scope.Evolves (completeSnapshot snapshot) := by
  unfold completeSnapshot
  exact .bind .get fun _ => updateOneRow_evolves fun _ _ => trivial

theorem completeArtifact_evolves : Keeps scope.Evolves (completeArtifact artifact) := by
  unfold completeArtifact
  exact .bind .get fun _ => updateOneRow_evolves fun _ _ => trivial

theorem deleteStagingSnapshot_evolves : Keeps scope.Evolves (deleteStagingSnapshot snapshot) := by
  unfold deleteStagingSnapshot
  exact .bind (deleteRows_evolves fun _ _ => trivial) fun _ => deleteRows_evolves fun _ _ => trivial

theorem deleteStagingArtifact_evolves : Keeps scope.Evolves (deleteStagingArtifact artifact) := by
  unfold deleteStagingArtifact
  iterate 2 refine .bind (deleteRows_evolves fun _ _ => trivial) fun _ => ?_
  exact deleteRows_evolves fun _ _ => trivial

theorem deleteStagingGraphArtifact_evolves :
    Keeps scope.Evolves (deleteStagingGraphArtifact artifact) := by
  unfold deleteStagingGraphArtifact
  iterate 2 refine .bind (deleteRows_evolves fun _ _ => trivial) fun _ => ?_
  exact deleteRows_evolves fun _ _ => trivial

theorem deleteStagingSyntaxSiteArtifact_evolves :
    Keeps scope.Evolves (deleteStagingSyntaxSiteArtifact artifact) := by
  unfold deleteStagingSyntaxSiteArtifact
  iterate 2 refine .bind (deleteRows_evolves fun _ _ => trivial) fun _ => ?_
  exact deleteRows_evolves fun _ _ => trivial

theorem resetProjection_evolves {projection : SearchProjection} :
    Keeps scope.Evolves (resetProjection projection) := by
  cases projection <;> exact deleteRows_evolves fun _ _ => trivial

theorem stageGeneration_evolves {repository : Bytes32} :
    Keeps scope.Evolves (stageGeneration repository sourceEpoch snapshot) := by
  unfold stageGeneration workspaceAt createGeneration
  exact .bind (.bind .get fun _ => .bind (.present _ _) fun _ => .pure _) fun _ =>
    .bind .get fun _ => .bind (insertRow_evolves trivial) fun _ => .pure _

theorem transitionGeneration_evolves {transition : StagingTransition} :
    Keeps scope.Evolves (transitionGeneration generation transition) := by
  refine updateOneRow_evolves fun row selected => ?_
  have isSource := eq_of_beq (Bool.and_eq_true_iff.mp selected).2
  cases transition with
  | ready => exact ⟨rfl, .inr ⟨isSource, rfl⟩⟩
  | _ => exact ⟨rfl, .inl rfl⟩

theorem abandonGeneration_evolves {target : GenerationLifecycle} :
    Keeps scope.Evolves (abandonGeneration generation target) := by
  unfold abandonGeneration
  exact .bind (.require _ _) fun _ => updateRows_evolves fun _ _ => ⟨rfl, .inl rfl⟩

theorem deleteGenerationRows_evolves :
    Keeps scope.Evolves (deleteGenerationRows generation dropped) := by
  cases dropped <;> exact deleteRows_evolves fun _ _ => trivial

theorem dropAbandonedRows_evolves : Keeps scope.Evolves (dropAbandonedRows generation dropped) := by
  unfold dropAbandonedRows
  exact .bind .get fun _ => .bind (.require _ _) fun _ => deleteGenerationRows_evolves

theorem recoverGeneration_evolves : Keeps scope.Evolves (recoverGeneration generation) := by
  unfold recoverGeneration
  exact .bind (.forM fun _ _ => deleteGenerationRows_evolves) fun _ =>
    updateRows_evolves fun _ _ => ⟨rfl, .inl rfl⟩

theorem deleteStagingContent_evolves : Keeps scope.Evolves deleteStagingContent := by
  unfold deleteStagingContent
  refine .bind .get fun _ => ?_
  iterate 6 refine .bind (deleteRows_evolves fun _ _ => trivial) fun _ => ?_
  exact deleteRows_evolves fun _ _ => trivial

theorem recover_evolves : Keeps scope.Evolves recover := by
  unfold recover
  exact .bind .get fun _ => .bind (.require _ _) fun _ =>
    .bind (.forM fun _ _ => recoverGeneration_evolves) fun _ =>
    .bind deleteStagingContent_evolves fun _ => .pure _

end Transactions

section Connection

/-- The requested slots are the ones the workspace has. -/
def KeepsMembership (rows : StoreRows) (connectedWorkspace : Bytes32)
    (sourceSlots : List WorkspaceSourceSlot) : Prop :=
  resolveSourceSlotMappings rows
      (sourceSlots.insertionSort fun first second => first.sourceSlot ≤ second.sourceSlot) =
    some (loadSourceSlotMappings rows connectedWorkspace)

variable {connectedWorkspace : Bytes32}

theorem clearUnpublishedWorkspaceMembership_evolves :
    Keeps (WriterScope.clearing connectedWorkspace).Evolves
      (clearUnpublishedWorkspaceMembership connectedWorkspace) := by
  unfold clearUnpublishedWorkspaceMembership
  refine .bind .get fun _ => .bind (.require _ _) fun _ => ?_
  iterate 3 refine .bind (deleteRows_evolves fun _ _ => trivial) fun _ => ?_
  exact deleteRows_evolves fun row selected => eq_of_beq selected

theorem insertSourceSlotMappings_evolves {scope : WriterScope}
    {resolved : List ResolvedSourceSlot} :
    Keeps scope.Evolves (insertSourceSlotMappings connectedWorkspace resolved) := by
  unfold insertSourceSlotMappings
  exact .forM fun _ _ => insertRow_evolves trivial

/-- A connection that keeps the membership changes nothing delicate; any
other one may clear the slots of its workspace. -/
theorem connectWorkspace_succeeds {sourceSlots : List WorkspaceSourceSlot} {before after : Store}
    (execution : Succeeds (connectWorkspace connectedWorkspace sourceSlots) before () after) :
    WriterScope.ordinary.Evolves before after ∨
      (¬KeepsMembership before.rows connectedWorkspace sourceSlots ∧
        (WriterScope.clearing connectedWorkspace).Evolves before after) := by
  unfold connectWorkspace canonicalSourceSlots canonicalBySourceSlot at execution
  simp only [succeeds_bind, succeeds_get, succeeds_require, succeeds_pure,
    succeeds_present] at execution
  obtain ⟨canonical, _, ⟨_, _, ⟨_, rfl⟩, _, _, ⟨_, rfl⟩, _, _, ⟨_, rfl⟩,
    rfl, rfl⟩, _, _, ⟨rfl, rfl⟩, resolved, _, ⟨resolves, rfl⟩, _, middle,
    connected, rest⟩ := execution
  have inserted : ∀ scope : WriterScope, scope.Evolves before middle := by
    intro scope
    refine insertUnlessPresent_evolves ?_ _ _ _ connected
    exact trivial
  split at rest
  next changed =>
    refine .inr ⟨?_, ?_⟩
    · intro same
      unfold KeepsMembership at same
      rw [resolves] at same
      exact changed (Option.some.inj same).symm
    · refine trans_of _ (inserted _) ?_
      refine Keeps.ite (fun _ => ?_) (fun _ => ?_) _ _ _ rest
      · exact .bind clearUnpublishedWorkspaceMembership_evolves fun _ =>
          insertSourceSlotMappings_evolves
      · exact insertSourceSlotMappings_evolves
  next =>
    obtain ⟨_, rfl⟩ := succeeds_pure.mp rest
    exact .inl (inserted _)

end Connection

end RepoWitness
