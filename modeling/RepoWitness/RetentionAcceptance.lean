import RepoWitness.RetentionClosure

namespace RepoWitness

open Transaction

/-!
# What a collection needs

A collection whose marks are closed fails for one reason only: its marks, its
deleted rows and its audit row do not fit in what planning left of the budget.
One whose marks are not closed leaves a row that names a deleted one, so the
store refuses it.
-/

section Collection

variable {store : Store} {plan : RetentionPlan} {budget : RetentionWorkBudget}

theorem dependentsMarkable_of_settled {store : Store} (settled : Settled store)
    (generations : List Nat) :
    DependentsMarkable store.rows generations := by
  constructor
  · refine List.all_eq_true.mpr fun overlay marked => ?_
    obtain ⟨receipt, selected, rfl⟩ := List.mem_map.mp marked
    obtain ⟨present, conditions⟩ := List.mem_filter.mp selected
    rw [Bool.and_eq_true] at conditions
    rw [overlayMarkable, Bool.and_eq_true]
    refine ⟨eachOf_eq_true_iff.mpr fun other member _ => ?_,
      List.any_eq_true.mpr ⟨receipt, present, by
        rw [beq_self_eq_true, conditions.2, Bool.true_and]⟩⟩
    rw [settled.overlay_complete member]
    rfl
  · refine List.all_eq_true.mpr fun view marked => ?_
    obtain ⟨row, selected, rfl⟩ := List.mem_map.mp marked
    obtain ⟨_, conditions⟩ := List.mem_filter.mp selected
    rw [Bool.and_eq_true] at conditions
    rw [viewMarkable, Bool.and_eq_true]
    refine ⟨eachOf_eq_true_iff.mpr fun other member _ => ?_, conditions.2⟩
    rw [settled.view_published member]
    rfl
  · refine List.all_eq_true.mpr fun key marked => ?_
    obtain ⟨receipt, selected, rfl⟩ := List.mem_map.mp marked
    obtain ⟨present, conditions⟩ := List.mem_filter.mp selected
    rw [Bool.and_eq_true] at conditions
    refine List.all_eq_true.mpr fun other member => ?_
    rw [Bool.not_eq_true', Bool.and_eq_false_iff]
    by_cases sameKey :
        (other.sourceSlot, other.sourceEpoch) = (receipt.sourceSlot, receipt.sourceEpoch)
    · simp only [Prod.mk.injEq] at sameKey
      rw [receipt_eq_of_epoch store member present sameKey.1 sameKey.2]
      exact .inr (by simpa using conditions.2)
    · exact .inl (beq_eq_false_iff_ne.mpr sameKey)
  · refine List.all_eq_true.mpr fun snapshot marked => ?_
    obtain ⟨row, selected, rfl⟩ := List.mem_map.mp (List.mem_dedup.mp marked)
    obtain ⟨present, conditions⟩ := List.mem_filter.mp selected
    rw [Bool.and_eq_true] at conditions
    rw [snapshotMarkable, Bool.and_eq_true]
    refine ⟨eachOf_eq_true_iff.mpr fun other member same => ?_, conditions.2⟩
    rw [settled.snapshots row present other member (eq_of_beq same)]
    rfl
  · refine List.all_eq_true.mpr fun artifact marked => ?_
    obtain ⟨_, conditions⟩ := List.mem_filter.mp marked
    rw [Bool.and_eq_true] at conditions
    obtain ⟨row, present, isComplete⟩ := List.any_eq_true.mp conditions.1
    rw [Bool.and_eq_true] at isComplete
    rw [artifactMarkable, Bool.and_eq_true]
    refine ⟨eachOf_eq_true_iff.mpr fun other member same => ?_, conditions.2⟩
    rw [artifact_eq_of_artifact store member present
      ((eq_of_beq same).trans (eq_of_beq isComplete.1).symm)]
    exact isComplete.2

/-- Nothing is in the way of a collection that no overlay blocks. -/
theorem Collectable.sweepable (collectable : Collectable store.rows plan.candidateGenerations)
    (settled : Settled store) (unblocked : Unblocked store.rows plan.candidateGenerations)
    (unrecorded : loadAppliedRetention store.rows plan.policyDigest plan.planDigest = none) :
    Sweepable store.rows plan where
  distinct := collectable.distinct
  ready generation member :=
    ⟨collectable.present generation member, collectable.markable generation member⟩
  dependents := dependentsMarkable_of_settled settled plan.candidateGenerations
  closed := collectable.closed settled unblocked
  unrecorded

theorem Collected.view_absent {after : Store} {generations : List Nat} (settled : Settled store)
    (collected : Collected store after generations) {view : WorkspaceViewRow}
    (kept : view ∈ after.rows .workspaceViews) :
    ¬IsCollectedView store.rows generations view.view := by
  intro isCollected
  obtain ⟨_, unmarked⟩ := (collected.mem_iff (by decide)).mp kept
  change (retentionMarks store.rows generations).views.contains view.view = false at unmarked
  rw [(viewMark_iff settled).mpr isCollected] at unmarked
  cases unmarked

/-- A collection that was applied had no overlay in its way. -/
theorem Collected.unblocked {after : Store} {generations : List Nat} (settled : Settled store)
    (collected : Collected store after generations) :
    Unblocked store.rows generations := by
  constructor
  · intro receipt present isCollected
    by_contra uncollected
    have kept : receipt ∈ after.rows .scipOverlayReceipts := by
      refine (collected.mem_iff (by decide)).mpr ⟨present, ?_⟩
      rw [← Bool.not_eq_true]
      intro marked
      obtain ⟨other, otherMember, same, isMarked⟩ := (overlayMark_iff settled).mp marked
      rw [eq_of_columns (show UniqueKeys.overlayReceipt ∈ storeUniqueKeys by simp [storeUniqueKeys])
        store otherMember present same] at isMarked
      exact uncollected isMarked
    obtain ⟨view, viewMember, sameView⟩ :=
      resolved_columns (show References.overlayView ∈ storeForeignKeys by simp [storeForeignKeys])
        after kept
    refine collected.view_absent settled viewMember ?_
    rwa [show view.view = receipt.view from congrArg Prod.snd sameView]
  · intro pointer present isCollected
    refine (overlayMark_iff settled).mp ?_
    by_contra unmarked
    have kept : pointer ∈ after.rows .activeScipOverlays :=
      (collected.mem_iff (by decide)).mpr ⟨present, Bool.eq_false_iff.mpr unmarked⟩
    obtain ⟨view, viewMember, sameView⟩ := resolved_columns
        (show References.activeOverlayView ∈ storeForeignKeys by simp [storeForeignKeys])
        after kept
    refine collected.view_absent settled viewMember ?_
    rwa [show view.view = pointer.view from congrArg Prod.snd sameView]

variable {digests : RetentionDigests} {policy : GenerationRetentionPolicy}

/-- A plan that no overlay blocks is applied unless the limit stops it. -/
theorem sweepable_of_build (settled : Settled store)
    (built : buildRetentionPlanWithBudget digests policy store.rows = .ok (plan, budget))
    (unblocked : Unblocked store.rows plan.candidateGenerations)
    (unrecorded : loadAppliedRetention store.rows (digests.policy policy) plan.planDigest = none) :
    Sweepable store.rows plan := by
  obtain ⟨planned, samePolicy⟩ := planned_of_build built
  exact planned.collectable.sweepable settled unblocked (samePolicy ▸ unrecorded)

theorem consume_released_iff (planned : PlannedRetention policy store.rows plan budget)
    {rows : Nat} :
    (∃ charged, budget.releaseReservations.consume rows = .ok charged) ↔
      budget.consumed + rows ≤ policy.limits.maxRows := by
  simp only [RetentionWorkBudget.consume_eq_ok_iff, exists_and_left, exists_eq', and_true]
  change budget.consumed + rows + 0 ≤ budget.maximum ↔ _
  rw [planned.maximum, Nat.add_zero]

end Collection

/-- In a reachable store a plan is applied exactly when it was applied before,
or no overlay is in its way and its charge fits the limit.  Where no overlay is
in its way only the limit stops it. -/
theorem retention_applies_iff {digests : RetentionDigests} {policy : GenerationRetentionPolicy}
    {store : Store} {plan : RetentionPlan} {budget : RetentionWorkBudget}
    (reachable : Reachable digests store)
    (built : buildRetentionPlanWithBudget digests policy store.rows = .ok (plan, budget)) :
    ((∃ outcome after,
        Succeeds (applyGenerationRetention digests policy plan.planDigest) store outcome after) ↔
      (loadAppliedRetention store.rows (digests.policy policy) plan.planDigest).isSome = true ∨
        Unblocked store.rows plan.candidateGenerations ∧
          budget.consumed +
              collectionCharge store.rows plan.candidateGenerations ≤
            policy.limits.maxRows) ∧
      (Unblocked store.rows plan.candidateGenerations → ∀ error,
          (applyGenerationRetention digests policy plan.planDigest).run store = .error error →
            error = .retentionLimitExceeded) := by
  have settled := settled_of_reachable reachable
  obtain ⟨planned, _⟩ := planned_of_build built
  cases recorded : loadAppliedRetention store.rows (digests.policy policy) plan.planDigest with
  | some outcome =>
    have replays :
        Succeeds (applyGenerationRetention digests policy plan.planDigest)
          store outcome store := by
      unfold applyGenerationRetention
      refine succeeds_bind.mpr ⟨store, store, succeeds_get.mpr ⟨rfl, rfl⟩, ?_⟩
      simp only [recorded]
      exact succeeds_pure.mpr ⟨rfl, rfl⟩
    refine ⟨⟨fun _ => .inl rfl, fun _ => ⟨outcome, store, replays⟩⟩, ?_⟩
    intro _ error failed
    rw [show _ = _ from replays] at failed
    cases failed
  | none =>
    refine ⟨⟨?_, ?_⟩, ?_⟩
    · rintro ⟨outcome, after, applied⟩
      obtain ⟨_, _, fresh⟩ := (applyGenerationRetention_spends built recorded).spent applied
      exact .inr ⟨fresh.collected.unblocked settled,
        (consume_released_iff planned).mp fresh.charged⟩
    · rintro (impossible | ⟨unblocked, charge⟩)
      · cases impossible
      · obtain ⟨charged, consumed⟩ := (consume_released_iff planned).mpr charge
        exact (applyGenerationRetention_spends built recorded).succeeds
          ⟨sweepable_of_build settled built unblocked recorded, rfl⟩ consumed
    · intro unblocked error failed
      exact (applyGenerationRetention_spends built recorded).limit
        ⟨sweepable_of_build settled built unblocked recorded, rfl⟩ failed

/-- The oldest of three generations has no overlay in its way. -/
theorem retention_applies_to_three_generations : ∃ store plan budget,
      Reachable Sample.digests store ∧
        buildRetentionPlanWithBudget Sample.digests Sample.policy store.rows =
          .ok (plan, budget) ∧
        plan.candidateGenerations = [1] ∧
        ((loadAppliedRetention store.rows (Sample.digests.policy Sample.policy)
              plan.planDigest).isSome = true ∨
          Unblocked store.rows plan.candidateGenerations ∧
            budget.consumed +
                collectionCharge store.rows plan.candidateGenerations ≤
              Sample.policy.limits.maxRows) := by
  obtain ⟨⟨store, plan, result⟩, computed, observed⟩ :=
    Option.map_eq_some_iff.mp Sample.activatedCollection_computed
  obtain ⟨candidates, deleted⟩ := Prod.ext_iff.mp observed
  obtain ⟨⟨outcome, after⟩, applied, _⟩ := Option.map_eq_some_iff.mp deleted
  obtain ⟨reachable, planned, executed⟩ := Sample.collection_eq_some computed
  obtain ⟨budget, built⟩ := buildRetentionPlan_eq_ok_iff.mp planned
  have success :
      Succeeds (applyGenerationRetention Sample.digests Sample.policy plan.planDigest)
        store outcome after :=
    executed.trans (except_toOption_eq_some_iff.mp applied)
  exact ⟨store, plan, budget, reachable, built, candidates,
    (retention_applies_iff reachable built).1.mp ⟨outcome, after, success⟩⟩

namespace Sample

/-- An overlay without documents on the second member of a view. -/
def mixedViewOverlay : PreparedScipOverlay where
  identity :=
    { connectedWorkspace := 10, workspaceView := 2, sourceSlot := 12, sourceEpoch := 1
      generation := 2
      sourceSnapshot := 52
      sourceManifest := 52 }
  digest := 99
  documents := []
  bounded := by decide
  distinctPaths := by decide

/-- A view of two repositories, with an overlay of the second one's member;
then the first repository moves on until the view's member of it is too old
to keep. -/
def mixedViewOperations : List WriterOperation :=
  [.ensureWorkspace 1 0,
    .ensureWorkspace 2 0,
    .connectWorkspace 10
      [{ sourceSlot := 11, repository := 1 }, { sourceSlot := 12, repository := 2 }],
    .advanceSourceEpoch 1 0 1] ++
    readyGeneration 1 1 1 51 ++
    readyGeneration 2 0 2 52 ++
    [.activate 1 1,
      .reserveSourceSlotEpoch 10 11 0,
      .reserveSourceSlotEpoch 10 12 0,
      .completeSourceSlotEpoch 10 11 1 1,
      .completeSourceSlotEpoch 10 12 1 2,
      .publishWorkspaceView 10
        [{ sourceSlot := 11, sourceEpoch := 1, generation := 1 },
          { sourceSlot := 12, sourceEpoch := 1, generation := 2 }],
      .stageScipOverlay 10 2 12 mixedViewOverlay true,
      .advanceSourceEpoch 1 1 2] ++
    readyGeneration 1 2 3 53 ++
    [.activate 3 2,
      .reserveSourceSlotEpoch 10 11 1,
      .completeSourceSlotEpoch 10 11 2 3,
      .publishWorkspaceView 10
        [{ sourceSlot := 11, sourceEpoch := 2, generation := 3 },
          { sourceSlot := 12, sourceEpoch := 1, generation := 2 }],
      .advanceSourceEpoch 1 2 3] ++
    readyGeneration 1 3 4 54 ++
    [.activate 4 3]

def failure {ε α : Type} : Except ε α → Option ε
  | .ok _ => none
  | .error error => some error

theorem failure_eq_some_iff {ε α : Type} {computation : Except ε α} {error : ε} :
    failure computation = some error ↔ computation = .error error := by
  cases computation <;> simp [failure]

theorem mixedViewCollection_computed : (collection mixedViewOperations policy).map
        (fun computed => (computed.2.1.candidateGenerations, failure computed.2.2)) =
      some ([1], some .integrityCheckFailed) := by
  decide +kernel

end Sample

/-- The surviving member's overlay keeps a collected view from being
deleted. -/
theorem retention_blocked_by_overlay : ∃ store plan, Reachable Sample.digests store ∧
        buildRetentionPlan Sample.digests Sample.policy store.rows = .ok plan ∧
        plan.candidateGenerations = [1] ∧
        (applyGenerationRetention Sample.digests Sample.policy plan.planDigest).run store =
          .error .integrityCheckFailed := by
  obtain ⟨⟨store, plan, result⟩, computed, observed⟩ :=
    Option.map_eq_some_iff.mp Sample.mixedViewCollection_computed
  obtain ⟨candidates, failed⟩ := Prod.ext_iff.mp observed
  obtain ⟨reachable, planned, executed⟩ := Sample.collection_eq_some computed
  exact ⟨store, plan, reachable, planned, candidates,
    executed.trans (Sample.failure_eq_some_iff.mp failed)⟩

end RepoWitness
