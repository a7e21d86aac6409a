import RepoWitness.WriterTriggers

namespace RepoWitness

/-!
# What the declared keys say

Rows of a store with one key are one row, and a row that names another one has
it in the store.
-/

section Columns

variable {Key : Type} [DecidableEq Key] {child parent table : StoreTable}

variable {key : StoreRow table → Key}

theorem eq_of_columns (declared : uniqueColumns table key ∈ storeUniqueKeys) (store : Store)
    {first second : StoreRow table} (firstMember : first ∈ store.rows table)
    (secondMember : second ∈ store.rows table) (same : key first = key second) :
    first = second :=
  store.eq_of_key declared firstMember secondMember rfl (congrArg some same.symm)

theorem nodup_columns (declared : uniqueColumns table key ∈ storeUniqueKeys) (store : Store) :
    ((store.rows table).map key).Nodup := by
  have holds := store.consistent.2 _ declared
  simpa [UniqueKey.Holds, uniqueColumns] using holds

theorem resolved_columns {childKey : StoreRow child → Key} {parentKey : StoreRow parent → Key}
    (declared : reference child parent childKey parentKey ∈ storeForeignKeys) (store : Store)
    {row : StoreRow child} (member : row ∈ store.rows child) :
    ∃ parentRow ∈ store.rows parent, parentKey parentRow = childKey row :=
  store.resolved declared member rfl

end Columns

section UniqueRows

open UniqueKeys

variable (store : Store)

def IsKey (table : StoreTable) {Key : Type} (key : StoreRow table → Key) : Prop :=
  ∀ ⦃first second⦄, first ∈ store.rows table → second ∈ store.rows table →
    key first = key second → first = second

theorem slot_eq_of_sourceSlot : IsKey store .workspaceSourceSlots (·.sourceSlot) := fun _ _ =>
  eq_of_columns (show sourceSlot ∈ storeUniqueKeys by simp [storeUniqueKeys]) store

theorem receipt_eq_of_epoch {first second : SourceSlotReceiptRow}
    (firstMember : first ∈ store.rows .sourceSlotGenerationReceipts)
    (secondMember : second ∈ store.rows .sourceSlotGenerationReceipts)
    (sameSlot : first.sourceSlot = second.sourceSlot)
    (sameEpoch : first.sourceEpoch = second.sourceEpoch) :
    first = second :=
  eq_of_columns (show sourceSlotReceipt ∈ storeUniqueKeys by simp [storeUniqueKeys])
    store firstMember secondMember (Prod.ext sameSlot sameEpoch)

theorem view_eq_of_view : IsKey store .workspaceViews (·.view) := fun _ _ =>
  eq_of_columns (show view ∈ storeUniqueKeys by simp [storeUniqueKeys]) store

theorem member_eq_of_slot {first second : WorkspaceViewMemberRow}
    (firstMember : first ∈ store.rows .workspaceViewMembers)
    (secondMember : second ∈ store.rows .workspaceViewMembers) (sameView : first.view = second.view)
    (sameSlot : first.sourceSlot = second.sourceSlot) :
    first = second :=
  eq_of_columns (show memberSlot ∈ storeUniqueKeys by simp [storeUniqueKeys])
    store firstMember secondMember (Prod.ext sameView sameSlot)

theorem pointer_eq_of_workspace : IsKey store .activeWorkspaceViews (·.connectedWorkspace) :=
  fun _ _ =>
    eq_of_columns (show activeWorkspaceView ∈ storeUniqueKeys by simp [storeUniqueKeys]) store

theorem generation_eq_of_generation : IsKey store .indexGenerations (·.generation) := fun _ _ =>
  eq_of_columns (show generation ∈ storeUniqueKeys by simp [storeUniqueKeys]) store

theorem snapshot_eq_of_snapshot : IsKey store .sourceSnapshots (·.snapshot) := fun _ _ =>
  eq_of_columns (show snapshot ∈ storeUniqueKeys by simp [storeUniqueKeys]) store

theorem artifact_eq_of_artifact : IsKey store .analysisArtifacts (·.artifact) := fun _ _ =>
  eq_of_columns (show artifact ∈ storeUniqueKeys by simp [storeUniqueKeys]) store

end UniqueRows

section ReferencedRows

open References

variable (store : Store)

theorem pointer_view {pointer : ActiveWorkspaceViewRow}
    (member : pointer ∈ store.rows .activeWorkspaceViews) :
    ∃ view ∈ store.rows .workspaceViews,
      view.connectedWorkspace = pointer.connectedWorkspace ∧ view.view = pointer.view := by
  simpa using
    resolved_columns (show activeWorkspaceView ∈ storeForeignKeys by simp [storeForeignKeys])
      store member

variable {member : WorkspaceViewMemberRow}

section Present

variable (present : member ∈ store.rows .workspaceViewMembers)

include present

theorem member_view : ∃ view ∈ store.rows .workspaceViews,
      view.connectedWorkspace = member.connectedWorkspace ∧ view.view = member.view := by
  simpa using
    resolved_columns (show memberView ∈ storeForeignKeys by simp [storeForeignKeys]) store present

theorem member_slot : ∃ slot ∈ store.rows .workspaceSourceSlots,
      slot.connectedWorkspace = member.connectedWorkspace ∧
        slot.sourceSlot = member.sourceSlot ∧
        slot.generationWorkspace = member.generationWorkspace := by
  simpa using
    resolved_columns (show memberSlot ∈ storeForeignKeys by simp [storeForeignKeys])
      store present

theorem member_generation : ∃ generation ∈ store.rows .indexGenerations,
      generation.workspace = member.generationWorkspace ∧
        generation.generation = member.generation := by
  simpa using
    resolved_columns (show memberGeneration ∈ storeForeignKeys by simp [storeForeignKeys])
      store present

theorem member_receipt : ∃ receipt ∈ store.rows .sourceSlotGenerationReceipts,
      receipt.sourceSlot = member.sourceSlot ∧
        receipt.sourceEpoch = member.sourceEpoch ∧
        receipt.generation = member.generation := by
  obtain ⟨receipt, receiptMember, same⟩ :=
    resolved_columns (show memberReceipt ∈ storeForeignKeys by simp [storeForeignKeys])
      store present
  simp only [Prod.mk.injEq] at same
  exact ⟨receipt, receiptMember, same.2.1, same.2.2.1, same.2.2.2.2⟩

end Present

theorem receipt_slot {receipt : SourceSlotReceiptRow}
    (present : receipt ∈ store.rows .sourceSlotGenerationReceipts) :
    ∃ slot ∈ store.rows .workspaceSourceSlots,
      slot.connectedWorkspace = receipt.connectedWorkspace ∧
        slot.sourceSlot = receipt.sourceSlot := by
  obtain ⟨slot, slotMember, same⟩ :=
    resolved_columns (show receiptSlot ∈ storeForeignKeys by simp [storeForeignKeys])
      store present
  simp only [Prod.mk.injEq] at same
  exact ⟨slot, slotMember, same.1, same.2.1⟩

theorem generation_snapshot {generation : IndexGenerationRow}
    (present : generation ∈ store.rows .indexGenerations) :
    ∃ snapshot ∈ store.rows .sourceSnapshots, snapshot.snapshot = generation.snapshot :=
  resolved_columns (show generationSnapshot ∈ storeForeignKeys by simp [storeForeignKeys])
    store present

theorem overlay_generation {receipt : ScipOverlayReceiptRow}
    (present : receipt ∈ store.rows .scipOverlayReceipts) :
    ∃ generation ∈ store.rows .indexGenerations,
      generation.workspace = receipt.generationWorkspace ∧
        generation.generation = receipt.generation := by
  simpa using
    resolved_columns (show overlayGeneration ∈ storeForeignKeys by simp [storeForeignKeys])
      store present

end ReferencedRows

end RepoWitness
