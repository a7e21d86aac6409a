import RepoWitness.WriterChanges

namespace RepoWitness

open Transaction

/-!
# What a committed call does to the store

Publication stages a view, publishes it as a whole and moves the pointer of its
workspace.  An overlay is staged and completed within one call.  Every call is
one of these, a sequence of ordinary statements, a connection that clears slots
or a collection; what each statement, activation and collection keeps, every
call keeps.
-/

section Publication

structure Activated (connectedWorkspace : Bytes32) (view : Nat) (before after : Store) : Prop where
  others : ∀ table, table ≠ .activeWorkspaceViews → after.rows table = before.rows table
  pointers : ∀ row ∈ after.rows .activeWorkspaceViews,
      row = { connectedWorkspace, view } ∨
        (row ∈ before.rows .activeWorkspaceViews ∧ row.connectedWorkspace ≠ connectedWorkspace)
  kept : ∀ row ∈ before.rows .activeWorkspaceViews,
      row.connectedWorkspace ≠ connectedWorkspace → row ∈ after.rows .activeWorkspaceViews
  present : { connectedWorkspace, view } ∈ after.rows .activeWorkspaceViews
  published : viewStates before.rows connectedWorkspace view .published = true

variable {connectedWorkspace : Bytes32} {view : Nat} {before after : Store} {table : StoreTable}
  {generation : Nat}

theorem activateView_succeeds {error : SqliteStoreError}
    (execution : Succeeds (activateView error connectedWorkspace view) before () after) :
    Activated connectedWorkspace view before after := by
  have attempted := succeeds_attempt.mp execution
  split at attempted
  next hasActive =>
    obtain ⟨guarded, result⟩ := Database.update_eq_some_iff.mp attempted
    obtain ⟨pointer, pointerMember, pointerSame⟩ := List.any_eq_true.mp hasActive
    have moved : ∀ row : ActiveWorkspaceViewRow,
          (row.connectedWorkspace == connectedWorkspace) = true →
            ({ row with view } : ActiveWorkspaceViewRow) = { connectedWorkspace, view } := by
      intro row same
      rw [eq_of_beq same]
    refine ⟨fun table different => ?_, ?_, ?_, ?_, ?_⟩
    · rw [result, setTable_of_ne _ _ different]
    · intro row member
      rw [result, setTable_same] at member
      obtain ⟨old, oldMember, rfl⟩ := List.mem_map.mp member
      split
      next same => exact .inl (moved old same)
      next different => exact .inr ⟨oldMember, by simpa using different⟩
    · intro row member different
      rw [result, setTable_same]
      exact List.mem_map.mpr ⟨row, member, by simp [different]⟩
    · rw [result, setTable_same]
      refine List.mem_map.mpr ⟨pointer, pointerMember, ?_⟩
      rw [if_pos pointerSame, moved pointer pointerSame]
    · have guard := guarded pointer pointerMember pointerSame
      rw [moved pointer pointerSame] at guard
      exact (Bool.and_eq_true _ _ ▸ guard).2
  next noActive =>
    obtain ⟨guarded, result⟩ := Database.insert_eq_some_iff.mp attempted
    have different :
        ∀ row ∈ before.rows .activeWorkspaceViews, row.connectedWorkspace ≠ connectedWorkspace := by
      intro row member same
      refine noActive (List.any_eq_true.mpr ⟨row, member, ?_⟩)
      simp [same]
    refine ⟨fun table other => ?_, ?_, ?_, ?_, guarded⟩
    · rw [result, setTable_of_ne _ _ other]
    · intro row member
      rw [result, setTable_same, List.mem_append, List.mem_singleton] at member
      rcases member with old | rfl
      · exact .inr ⟨old, different row old⟩
      · exact .inl rfl
    · intro row member _
      rw [result, setTable_same]
      exact List.mem_append_left _ member
    · rw [result, setTable_same]
      exact List.mem_append_right _ (List.mem_singleton.mpr rfl)

/-- A staging view was published. -/
structure PublishedFrom (view : Nat) (staged published : Store) : Prop where
  selected : ∃ row ∈ staged.rows .workspaceViews, isStagingView view row = true
  updated : staged.update .workspaceViews (isStagingView view) publishedView = some published

structure Publishes (connectedWorkspace : Bytes32) (view : Nat)
    (before staged published after : Store) : Prop where
  stages : (WriterScope.staging view).Evolves before staged
  publishes : PublishedFrom view staged published
  activates : Activated connectedWorkspace view published after

theorem insertStagingView_succeeds
    (execution : Succeeds (insertStagingView connectedWorkspace) before view after) :
    (WriterScope.staging view).Evolves before after ∧
      ∃ row ∈ after.rows .workspaceViews, isStagingView view row = true := by
  unfold insertStagingView insertRow at execution
  simp only [succeeds_bind, succeeds_get, succeeds_attempt, succeeds_pure] at execution
  obtain ⟨_, _, ⟨rfl, rfl⟩, _, _, inserted, rfl, rfl⟩ := execution
  obtain ⟨_, result⟩ := Database.insert_eq_some_iff.mp inserted
  refine ⟨inserted_evolves inserted ?_, ?_⟩
  · exact rfl
  · rw [result, setTable_same]
    exact ⟨_, List.mem_append_right _ (List.mem_singleton.mpr rfl), by simp [isStagingView]⟩

/-- A member whose current epoch and receipt were checked. -/
theorem eligibleGenerationWorkspace_succeeds {rows : StoreRows}
    {member : WorkspaceViewMember} {workspace : Nat}
    (execution :
      Succeeds (eligibleGenerationWorkspace rows connectedWorkspace member)
        before workspace after) :
    before = after ∧
      ∃ slot, findSlot rows connectedWorkspace member.sourceSlot = some slot ∧
        slot.sourceEpoch = member.sourceEpoch := by
  unfold eligibleGenerationWorkspace at execution
  simp only [succeeds_bind, succeeds_present, succeeds_require, succeeds_pure] at execution
  obtain ⟨slot, _, ⟨found, rfl⟩, _, _, ⟨current, rfl⟩, _, _, ⟨_, rfl⟩, _, rfl⟩ := execution
  exact ⟨rfl, slot, found, by simpa using current⟩

theorem updateOneRow_succeeds {refused unchanged : SqliteStoreError}
    {selects : StoreRow table → Bool} {change : StoreRow table → StoreRow table}
    (execution : Succeeds (updateOneRow refused unchanged table selects change) before () after) :
    before.update table selects change = some after ∧ (before.rows table).countP selects = 1 := by
  unfold updateOneRow updateRows at execution
  simp only [succeeds_bind, succeeds_get, succeeds_attempt, succeeds_require] at execution
  obtain ⟨_, _, ⟨rfl, rfl⟩, _, _, updated, one, rfl⟩ := execution
  exact ⟨updated, by simpa using one⟩

theorem publishWorkspaceView_succeeds {members : List WorkspaceViewMember}
    (execution : Succeeds (publishWorkspaceView connectedWorkspace members) before view after) :
    (∃ staged published,
        Publishes connectedWorkspace view before staged published after) ∧
      ∀ member ∈ members, ∃ slot,
          findSlot before.rows connectedWorkspace member.sourceSlot = some slot ∧
            slot.sourceEpoch = member.sourceEpoch := by
  unfold publishWorkspaceView canonicalViewMembers canonicalBySourceSlot at execution
  simp only [succeeds_bind, succeeds_get, succeeds_require, succeeds_pure] at execution
  obtain ⟨_, _, ⟨_, _, ⟨_, rfl⟩, _, _, ⟨_, rfl⟩, _, _, ⟨_, rfl⟩, rfl, rfl⟩,
    _, _, ⟨rfl, rfl⟩, _, _, ⟨_, rfl⟩, _, _, ⟨_, rfl⟩, resolved, _, checked,
    _, _, staging, _, staged, inserting, _, published, publishing,
    _, _, activating, rfl, rfl⟩ := execution
  obtain ⟨rfl, each⟩ := succeeds_mapM_readonly
      (fun member first result second mapped => by
        simp only [succeeds_bind, succeeds_pure] at mapped
        obtain ⟨_, _, eligible, _, rfl⟩ := mapped
        exact (eligibleGenerationWorkspace_succeeds eligible).1)
      checked
  obtain ⟨updated, one⟩ := updateOneRow_succeeds publishing
  refine ⟨⟨staged, published, ?_, ⟨?_, updated⟩, activateView_succeeds activating⟩, ?_⟩
  · refine trans_of _ (insertStagingView_succeeds staging).1 ?_
    refine Keeps.forM (fun _ _ => insertRow_evolves ?_) _ _ _ inserting
    exact trivial
  · exact List.countP_pos_iff.mp (by omega)
  · intro member listed
    obtain ⟨result, mapped⟩ := each member ((List.mem_insertionSort _).mpr listed)
    simp only [succeeds_bind, succeeds_pure] at mapped
    obtain ⟨_, _, eligible, _⟩ := mapped
    exact (eligibleGenerationWorkspace_succeeds eligible).2

theorem insertSourceSlotReceipt_others {receipt : SourceSlotReceiptRow}
    (execution : Succeeds (insertSourceSlotReceipt receipt) before () after)
    (different : table ≠ .sourceSlotGenerationReceipts) :
    after.rows table = before.rows table := by
  unfold insertSourceSlotReceipt insertUnlessPresent at execution
  simp only [succeeds_bind, succeeds_get, succeeds_attempt, succeeds_require] at execution
  obtain ⟨_, _, attempted, _, _, ⟨rfl, rfl⟩, _, rfl⟩ := execution
  split at attempted
  · split at attempted
    · cases attempted
      rfl
    · cases attempted
  · obtain ⟨_, result⟩ := Database.insert_eq_some_iff.mp attempted
    rw [result, setTable_of_ne _ _ different]

theorem publishDefaultWorkspaceView_succeeds {repository : Bytes32}
    {generationWorkspace sourceEpoch : Nat}
    (execution :
      Succeeds (publishDefaultWorkspaceView repository generationWorkspace sourceEpoch generation)
        before () after) :
    ∃ view staged published, Publishes repository view before staged published after := by
  unfold publishDefaultWorkspaceView insertRow updateRows at execution
  simp only [succeeds_bind, succeeds_attempt] at execution
  obtain ⟨view, _, staging, _, _, completing, _, staged, inserting,
    _, published, publishing, activating⟩ := execution
  obtain ⟨stages, row, member, isStaging⟩ := insertStagingView_succeeds staging
  refine ⟨view, staged, published, ?_, ⟨⟨row, ?_, isStaging⟩, publishing⟩,
    activateView_succeeds activating⟩
  · refine trans_of _ stages ?_
    refine trans_of _ (insertSourceSlotReceipt_evolves _ _ _ completing) ?_
    exact inserted_evolves inserting trivial
  · obtain ⟨_, result⟩ := Database.insert_eq_some_iff.mp inserting
    rw [result, setTable_of_ne _ _ (by decide),
      insertSourceSlotReceipt_others completing (by decide)]
    exact member

/-- An activation changes lifecycles and publishes a view of its
repository's own workspace. -/
theorem activate_succeeds {expectedSourceEpoch : Nat}
    (execution : Succeeds (activate generation expectedSourceEpoch) before () after) :
    ∃ repository view middle staged published,
      WriterScope.ordinary.Evolves before middle ∧
        Publishes repository view middle staged published after := by
  unfold activate at execution
  simp only [succeeds_bind, succeeds_get, succeeds_present, succeeds_require] at execution
  obtain ⟨_, _, ⟨rfl, rfl⟩, _, _, ⟨_, rfl⟩, workspace, _, ⟨_, rfl⟩, _, _,
    ⟨_, rfl⟩, _, _, ⟨_, rfl⟩, _, _, retains, _, _, activates, _, middle,
    points, publishes⟩ := execution
  obtain ⟨view, staged, published, publication⟩ := publishDefaultWorkspaceView_succeeds publishes
  refine ⟨workspace.repository, view, middle, staged, published, ?_, publication⟩
  refine trans_of _ (updateRows_evolves ?_ _ _ _ retains) ?_
  · exact fun _ _ => ⟨rfl, .inl rfl⟩
  refine trans_of _ (updateOneRow_evolves ?_ _ _ _ activates) ?_
  · exact fun _ _ => ⟨rfl, .inl rfl⟩
  refine updateRows_evolves ?_ _ _ _ points
  exact fun _ _ => trivial

end Publication

section Overlay

variable {scope : WriterScope}

variable {digest : Bytes32} {prepared : PreparedScipOverlay} {connectedWorkspace : Bytes32}
  {view : Nat} {sourceSlot : Bytes32} {before after : Store}

theorem stageEnclosedReferenceEdges_evolves {overlayScope : OverlayScope} {documentCount : Nat} :
    Keeps scope.Evolves (stageEnclosedReferenceEdges digest overlayScope documentCount) := by
  unfold stageEnclosedReferenceEdges
  refine .forM fun _ _ => .bind .get fun _ => .forM fun _ _ => ?_
  exact insertUnlessPresent_evolves trivial

theorem stageOverlayDocuments_evolves : Keeps scope.Evolves (stageOverlayDocuments prepared) := by
  unfold stageOverlayDocuments stageDocumentOccurrences stageDocumentRelationships
  refine .forM fun _ _ => .bind (insertRow_evolves trivial) fun _ => .bind ?_ fun _ => ?_
  · exact .forM fun _ _ => insertRow_evolves trivial
  · exact .forM fun _ _ => insertRow_evolves trivial

theorem activateOverlay_evolves :
    Keeps scope.Evolves (activateOverlay connectedWorkspace view sourceSlot digest) := by
  intro before value after execution
  have attempted := succeeds_attempt.mp execution
  dsimp only at attempted
  split at attempted
  · exact updated_evolves attempted fun _ _ => trivial
  · exact inserted_evolves attempted trivial

/-- The staging receipt of an overlay. -/
def isStagingOverlay (digest : Bytes32) (row : ScipOverlayReceiptRow) : Bool :=
  row.overlay == digest && row.lifecycle == .staging

def completedOverlay (row : ScipOverlayReceiptRow) : ScipOverlayReceiptRow :=
  { row with lifecycle := .complete }

structure StagesOverlay (digest : Bytes32) (before staged completed after : Store) : Prop where
  stages : (WriterScope.overlaying digest).Evolves before staged
  completes :
    staged.update .scipOverlayReceipts (isStagingOverlay digest) completedOverlay = some completed
  activates : WriterScope.ordinary.Evolves completed after

theorem overlayIsComplete_succeeds {rows : StoreRows} {complete : Bool}
    (execution : Succeeds (overlayIsComplete rows digest) before complete after) :
    before = after := by
  unfold overlayIsComplete at execution
  split at execution
  · exact (succeeds_pure.mp execution).2
  · simp only [succeeds_bind, succeeds_require, succeeds_pure] at execution
    obtain ⟨_, _, ⟨_, rfl⟩, _, rfl⟩ := execution
    rfl

theorem stageScipOverlay_succeeds {requireActiveView : Bool}
    (execution :
      Succeeds (stageScipOverlay connectedWorkspace view sourceSlot prepared requireActiveView)
        before digest after) :
    WriterScope.ordinary.Evolves before after ∨
      ∃ staged completed, StagesOverlay prepared.digest before staged completed after := by
  unfold stageScipOverlay at execution
  simp only [succeeds_bind, succeeds_get, succeeds_present, succeeds_require] at execution
  obtain ⟨_, _, ⟨rfl, rfl⟩, _, _, ⟨_, rfl⟩, _, _, ⟨_, rfl⟩, _, _, ⟨_, rfl⟩,
    complete, _, checked, rest⟩ := execution
  have unchanged := overlayIsComplete_succeeds checked
  subst unchanged
  split at rest
  · simp only [succeeds_bind, succeeds_pure] at rest
    obtain ⟨_, _, edges, _, _, activates, _, rfl⟩ := rest
    exact .inl (trans_of _ (stageEnclosedReferenceEdges_evolves _ _ _ edges)
      (activateOverlay_evolves _ _ _ activates))
  · simp only [succeeds_bind, succeeds_pure] at rest
    obtain ⟨_, _, receipt, _, _, documents, _, staged, edges, _, completed,
      completes, _, _, activates, _, rfl⟩ := rest
    refine .inr ⟨staged, completed, ?_,
      (updateOneRow_succeeds completes).1,
      activateOverlay_evolves _ _ _ activates⟩
    refine trans_of _ (insertRow_evolves ?_ _ _ _ receipt) ?_
    · exact rfl
    exact trans_of _ (stageOverlayDocuments_evolves _ _ _ documents)
      (stageEnclosedReferenceEdges_evolves _ _ _ edges)

end Overlay

section Effects

def WriterOperation.Collects (operation : WriterOperation) : Prop :=
  ∃ policy expectedPlan, operation = .applyGenerationRetention policy expectedPlan

inductive WriterEffect (digests : RetentionDigests) (operation : WriterOperation)
    (before after : Store) : Prop where
  | evolves (ordinary : WriterScope.ordinary.Evolves before after)
  | connects {connectedWorkspace : Bytes32} {sourceSlots : List WorkspaceSourceSlot}
      (called : operation = .connectWorkspace connectedWorkspace sourceSlots)
      (changed : ¬KeepsMembership before.rows connectedWorkspace sourceSlots)
      (clears : (WriterScope.clearing connectedWorkspace).Evolves before after)
  | publishes {connectedWorkspace : Bytes32} {view : Nat} {middle staged published : Store}
      (prepares : WriterScope.ordinary.Evolves before middle)
      (publication : Publishes connectedWorkspace view middle staged published after)
  | overlays {digest : Bytes32} {staged completed : Store}
      (overlay : StagesOverlay digest before staged completed after)
  | collects {policy : GenerationRetentionPolicy} {plan : RetentionPlan}
      {budget : RetentionWorkBudget} (called : operation.Collects)
      (built : buildRetentionPlanWithBudget digests policy before.rows = .ok (plan, budget))
      (collected : Collected before after plan.candidateGenerations)

variable {digests : RetentionDigests} {operation : WriterOperation} {before after : Store}

theorem WriterEffect.of_keeps {reply : WriterReply}
    (keeps : Keeps WriterScope.ordinary.Evolves (operation.transaction digests))
    (execution : Succeeds (operation.transaction digests) before reply after) :
    WriterEffect digests operation before after := .evolves (keeps _ _ _ execution)

/-- A committed call has one of the effects. -/
theorem step_effect {event : WriterEvent} (step : writerStep digests before event after) :
    WriterEffect digests event.operation before after := by
  obtain ⟨operation, reply⟩ := event
  unfold writerStep at step
  cases operation with
  | ensureWorkspace => exact .of_keeps (.bind ensureWorkspace_evolves fun _ => .pure _) step
  | registerWorkspace =>
    refine .of_keeps (.bind registerWorkspace_evolves fun registered => ?_) step
    cases registered with
    | ok => exact .pure _
    | error => exact .pure _
  | advanceSourceEpoch => exact .of_keeps (.bind advanceSourceEpoch_evolves fun _ => .pure _) step
  | connectWorkspace connectedWorkspace sourceSlots =>
    obtain ⟨_, _, connected, answered⟩ := succeeds_bind.mp step
    obtain ⟨_, rfl⟩ := succeeds_pure.mp answered
    rcases connectWorkspace_succeeds connected with ordinary | ⟨changed, clears⟩
    · exact .evolves ordinary
    · exact .connects rfl changed clears
  | reserveSourceSlotEpoch =>
    exact .of_keeps (.bind reserveSourceSlotEpoch_evolves fun _ => .pure _) step
  | completeSourceSlotEpoch =>
    exact .of_keeps (.bind completeSourceSlotEpoch_evolves fun _ => .pure _) step
  | publishWorkspaceView =>
    obtain ⟨_, _, published, answered⟩ := succeeds_bind.mp step
    obtain ⟨_, rfl⟩ := succeeds_pure.mp answered
    obtain ⟨⟨_, _, publication⟩, _⟩ := publishWorkspaceView_succeeds published
    exact .publishes (refl_of _ before) publication
  | insertContent => exact .of_keeps (.bind insertContent_evolves fun _ => .pure _) step
  | completeSnapshot => exact .of_keeps (.bind completeSnapshot_evolves fun _ => .pure _) step
  | completeArtifact => exact .of_keeps (.bind completeArtifact_evolves fun _ => .pure _) step
  | completeGraphPublication =>
    exact .of_keeps (.bind (updateRows_evolves fun _ _ => trivial) fun _ => .pure _) step
  | completeSyntaxSitePublication =>
    exact .of_keeps (.bind (updateRows_evolves fun _ _ => trivial) fun _ => .pure _) step
  | completeTopologyPublication =>
    exact .of_keeps (.bind (updateRows_evolves fun _ _ => trivial) fun _ => .pure _) step
  | recordArtifactPayload =>
    exact .of_keeps (.bind (updateOneRow_evolves fun _ _ => trivial) fun _ => .pure _) step
  | deleteStagingSnapshot =>
    exact .of_keeps (.bind deleteStagingSnapshot_evolves fun _ => .pure _) step
  | deleteStagingArtifact =>
    exact .of_keeps (.bind deleteStagingArtifact_evolves fun _ => .pure _) step
  | deleteStagingGraphArtifact =>
    exact .of_keeps (.bind deleteStagingGraphArtifact_evolves fun _ => .pure _) step
  | deleteStagingSyntaxSiteArtifact =>
    exact .of_keeps (.bind deleteStagingSyntaxSiteArtifact_evolves fun _ => .pure _) step
  | resetProjection => exact .of_keeps (.bind resetProjection_evolves fun _ => .pure _) step
  | stageGeneration => exact .of_keeps (.bind stageGeneration_evolves fun _ => .pure _) step
  | transitionGeneration =>
    exact .of_keeps (.bind transitionGeneration_evolves fun _ => .pure _) step
  | abandonGeneration => exact .of_keeps (.bind abandonGeneration_evolves fun _ => .pure _) step
  | dropAbandonedRows => exact .of_keeps (.bind dropAbandonedRows_evolves fun _ => .pure _) step
  | activate =>
    obtain ⟨_, _, activated, answered⟩ := succeeds_bind.mp step
    obtain ⟨_, rfl⟩ := succeeds_pure.mp answered
    obtain ⟨_, _, _, _, _, prepares, publication⟩ := activate_succeeds activated
    exact .publishes prepares publication
  | recover => exact .of_keeps (.bind recover_evolves fun _ => .pure _) step
  | stageScipOverlay =>
    obtain ⟨_, _, staged, answered⟩ := succeeds_bind.mp step
    obtain ⟨_, rfl⟩ := succeeds_pure.mp answered
    rcases stageScipOverlay_succeeds staged with ordinary | ⟨_, _, overlay⟩
    · exact .evolves ordinary
    · exact .overlays overlay
  | applyGenerationRetention =>
    obtain ⟨_, _, applied, answered⟩ := succeeds_bind.mp step
    obtain ⟨_, rfl⟩ := succeeds_pure.mp answered
    rcases applyGenerationRetention_succeeds applied with ⟨_, rfl⟩ | ⟨_, _, fresh⟩
    · exact .evolves (refl_of _ _)
    · exact .collects ⟨_, _, rfl⟩ fresh.built fresh.collected

def WriterOperation.Clears (operation : WriterOperation) (rows : StoreRows)
    (connectedWorkspace : Bytes32) : Prop :=
  ∃ sourceSlots, operation = .connectWorkspace connectedWorkspace sourceSlots ∧
      ¬KeepsMembership rows connectedWorkspace sourceSlots

/-- What every statement, activation and collection keeps, a call keeps. -/
theorem WriterEffect.preserves (holds : Store → Prop)
    (effect : WriterEffect digests operation before after)
    (statement : ∀ (scope : WriterScope) (first second : Store),
        (∀ connectedWorkspace, scope.clears connectedWorkspace →
          operation.Clears before.rows connectedWorkspace) →
        scope.rules.Allows first.rows second.rows → holds first → holds second)
    (activation : ∀ connectedWorkspace view staged first second,
        PublishedFrom view staged first →
        Activated connectedWorkspace view first second → holds first → holds second)
    (collection : ∀ policy plan budget, operation.Collects →
        buildRetentionPlanWithBudget digests policy before.rows = .ok (plan, budget) →
          Collected before after plan.candidateGenerations → holds before → holds after)
    (initially : holds before) :
    holds after := by
  have evolution : ∀ (scope : WriterScope) (first second : Store),
        (∀ connectedWorkspace, scope.clears connectedWorkspace →
          operation.Clears before.rows connectedWorkspace) →
        scope.Evolves first second → holds first → holds second :=
    fun scope _ _ clears evolves =>
      ChangeRules.Evolves.invariant
        (fun first second => statement scope first second clears) evolves
  have unclearing : ∀ (scope : WriterScope) (first second : Store),
        (∀ connectedWorkspace, ¬scope.clears connectedWorkspace) →
        scope.Evolves first second → holds first → holds second :=
    fun scope _ _ never => evolution scope _ _ fun _ clears => absurd clears (never _)
  cases effect with
  | evolves ordinary => exact unclearing _ _ _ (fun _ => id) ordinary initially
  | connects called changed clears =>
    refine evolution _ _ _ ?_ clears initially
    rintro _ rfl
    exact ⟨_, called, changed⟩
  | publishes prepares publication =>
    have prepared := unclearing _ _ _ (fun _ => id) prepares initially
    have staged := unclearing _ _ _ (fun _ => id) publication.stages prepared
    have published := unclearing WriterScope.ordinary _ _ (fun _ => id)
        (updated_evolves publication.publishes.updated fun _ _ => trivial)
        staged
    exact activation _ _ _ _ _ publication.publishes publication.activates published
  | overlays overlay =>
    have staged := unclearing _ _ _ (fun _ => id) overlay.stages initially
    have completed := unclearing WriterScope.ordinary _ _ (fun _ => id)
        (updated_evolves overlay.completes fun _ _ => trivial) staged
    exact unclearing _ _ _ (fun _ => id) overlay.activates completed
  | collects called built collected => exact collection _ _ _ called built collected initially

end Effects

end RepoWitness
