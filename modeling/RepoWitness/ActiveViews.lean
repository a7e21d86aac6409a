import RepoWitness.SourceSlotEpochs

namespace RepoWitness

open Transaction

/-!
# Active views

An active view is published and complete: every slot of its workspace has one
member, whose epoch the slot has come to and whose generation is still
eligible.  The guards keep a published view and its members as they are, keep
the slots and receipts of a workspace with an active view, and keep a pinned
generation from being abandoned; a collection leaves alone what an active view
or a current receipt holds.
-/

theorem GenerationLifecycle.eligible_of_mayBecome {old new : GenerationLifecycle}
    (becomes : old.mayBecome new = true) (eligible : old.eligible = true)
    (kept : new.abandoned = false) :
    new.eligible = true := by
  cases old <;> cases eligible <;> cases new <;>
    first
      | rfl
      | exact absurd becomes (by decide)
      | exact absurd kept (by decide)

/-- A view's members belong to its workspace. -/
theorem member_workspace (store : Store) {member : WorkspaceViewMemberRow} {view : WorkspaceViewRow}
    (present : member ∈ store.rows .workspaceViewMembers)
    (viewMember : view ∈ store.rows .workspaceViews) (sameView : view.view = member.view) :
    view.connectedWorkspace = member.connectedWorkspace := by
  obtain ⟨owner, ownerMember, ownerWorkspace, ownerView⟩ := member_view store present
  rw [← ownerWorkspace,
    view_eq_of_view store ownerMember viewMember (ownerView.trans sameView.symm)]

section Statements

variable {scope : WriterScope} {before after : Store}
  (allowed : scope.rules.Allows before.rows after.rows)

include allowed

variable {pointer : ActiveWorkspaceViewRow} {view : WorkspaceViewRow}
  {member : WorkspaceViewMemberRow} {slot : WorkspaceSourceSlotRow}

theorem pointer_kept (member : pointer ∈ before.rows .activeWorkspaceViews) :
    pointer ∈ after.rows .activeWorkspaceViews := by
  rcases allowed.fate .activeWorkspaceViews pointer member with
    kept | ⟨_, _, _, impossible⟩ | ⟨impossible, _⟩
  · exact kept
  · exact impossible.elim
  · cases impossible

theorem pointer_origin (member : pointer ∈ after.rows .activeWorkspaceViews) :
    pointer ∈ before.rows .activeWorkspaceViews := by
  rcases allowed.origin .activeWorkspaceViews pointer member with
    kept | ⟨_, impossible⟩ | ⟨_, _, _, impossible⟩
  · exact kept
  · exact impossible.elim
  · exact impossible.elim

theorem publishedView_kept (member : view ∈ before.rows .workspaceViews)
    (published : view.lifecycle = .published) :
    view ∈ after.rows .workspaceViews := by
  rcases allowed.fate .workspaceViews view member with
    kept | ⟨new, newMember, guarded, _⟩ | ⟨guarded, _⟩
  · exact kept
  · have same : new = view := by
      change viewUpdateGuard before.rows view new = true at guarded
      simp only [viewUpdateGuard, published, Bool.and_eq_true,
        Bool.or_eq_true, beq_iff_eq] at guarded
      obtain ⟨⟨sameView, sameWorkspace⟩, sameLifecycle | ⟨⟨staging, _⟩, _⟩⟩ := guarded
      · cases new
        cases view
        simp_all
      · cases staging
    exact same ▸ newMember
  · simp [storeDeleteGuard, RetentionMarks.none, published] at guarded

theorem publishedMember_kept (present : member ∈ before.rows .workspaceViewMembers)
    (viewMember : view ∈ before.rows .workspaceViews) (sameView : view.view = member.view)
    (published : view.lifecycle = .published) :
    member ∈ after.rows .workspaceViewMembers := by
  rcases allowed.fate .workspaceViewMembers member present with
    kept | ⟨_, _, impossible, _⟩ | ⟨guarded, _⟩
  · exact kept
  · cases impossible
  · exfalso
    have sameWorkspace := member_workspace before present viewMember sameView
    change (viewStates _ _ _ _ || _) = true at guarded
    simp only [RetentionMarks.none, List.contains_nil, Bool.or_false] at guarded
    have staging :=
      eachOf_eq_true_iff.mp guarded view viewMember (by simp [sameWorkspace, sameView])
    rw [published] at staging
    cases staging

/-- A published view gets no new members. -/
theorem publishedMember_origin (present : member ∈ after.rows .workspaceViewMembers)
    (viewMember : view ∈ before.rows .workspaceViews) (sameView : view.view = member.view)
    (published : view.lifecycle = .published) :
    member ∈ before.rows .workspaceViewMembers := by
  rcases allowed.origin .workspaceViewMembers member present with
    kept | ⟨guarded, _⟩ | ⟨_, _, impossible, _⟩
  · exact kept
  · exfalso
    have sameWorkspace :=
      member_workspace after present (publishedView_kept allowed viewMember published) sameView
    have staging :=
      eachOf_eq_true_iff.mp guarded view viewMember (by simp [sameWorkspace, sameView])
    rw [published] at staging
    cases staging
  · cases impossible

theorem slot_kept_of_active (member : slot ∈ before.rows .workspaceSourceSlots)
    (pointerMember : pointer ∈ before.rows .activeWorkspaceViews)
    (sameWorkspace : pointer.connectedWorkspace = slot.connectedWorkspace) :
    ∃ new ∈ after.rows .workspaceSourceSlots,
      new.connectedWorkspace = slot.connectedWorkspace ∧
        new.sourceSlot = slot.sourceSlot ∧
        slot.sourceEpoch ≤ new.sourceEpoch := by
  rcases allowed.fate .workspaceSourceSlots slot member with
    kept | ⟨new, newMember, guarded, _⟩ | ⟨guarded, _⟩
  · exact ⟨slot, kept, rfl, rfl, le_refl _⟩
  · obtain ⟨newWorkspace, newSlot, _, advanced⟩ := slotUpdateGuard_epoch guarded
    exact ⟨new, newMember, newWorkspace, newSlot, advanced⟩
  · exfalso
    change slotDeleteGuard before.rows slot = true at guarded
    have active : hasActiveView before.rows slot.connectedWorkspace = true :=
      List.any_eq_true.mpr ⟨pointer, pointerMember, by simp [sameWorkspace]⟩
    simp [slotDeleteGuard, active] at guarded

theorem slot_origin_of_published (member : slot ∈ after.rows .workspaceSourceSlots)
    (viewMember : view ∈ before.rows .workspaceViews)
    (sameWorkspace : view.connectedWorkspace = slot.connectedWorkspace)
    (published : view.lifecycle = .published) :
    ∃ old ∈ before.rows .workspaceSourceSlots,
      old.connectedWorkspace = slot.connectedWorkspace ∧ old.sourceSlot = slot.sourceSlot := by
  rcases allowed.origin .workspaceSourceSlots slot member with
    kept | ⟨guarded, _⟩ | ⟨old, oldMember, guarded, _⟩
  · exact ⟨slot, kept, rfl, rfl⟩
  · exfalso
    change slotInsertGuard before.rows slot = true at guarded
    have hasView : hasPublishedView before.rows slot.connectedWorkspace = true :=
      List.any_eq_true.mpr ⟨view, viewMember, by simp [sameWorkspace, published]⟩
    simp [slotInsertGuard, hasView] at guarded
  · obtain ⟨newWorkspace, newSlot, _⟩ := slotUpdateGuard_epoch guarded
    exact ⟨old, oldMember, newWorkspace.symm, newSlot.symm⟩

theorem eligible_kept_of_pinned {generation : IndexGenerationRow}
    (present : generation ∈ before.rows .indexGenerations)
    (eligible : generation.lifecycle.eligible = true)
    (pinned : pinnedByActiveView before.rows generation = true) :
    ∃ new ∈ after.rows .indexGenerations, new.workspace = generation.workspace ∧
        new.generation = generation.generation ∧
        new.lifecycle.eligible = true := by
  rcases allowed.fate .indexGenerations generation present with
    kept | ⟨new, newMember, guarded, relabelled, -⟩ | ⟨_, impossible⟩
  · exact ⟨generation, kept, rfl, rfl, eligible⟩
  · change generationUpdateGuard before.rows generation new = true at guarded
    refine ⟨new, newMember, by rw [relabelled]; rfl, by rw [relabelled]; rfl, ?_⟩
    simp only [generationUpdateGuard, pinned, Bool.and_true,
      Bool.or_eq_true, Bool.and_eq_true, beq_iff_eq, Bool.not_eq_true']
      at guarded
    rcases guarded with same | ⟨⟨becomes, notAbandoned⟩, _⟩
    · rwa [← same]
    · exact GenerationLifecycle.eligible_of_mayBecome becomes eligible notAbandoned
  · exact impossible.elim

theorem receipt_kept_of_active {receipt : SourceSlotReceiptRow}
    (present : receipt ∈ before.rows .sourceSlotGenerationReceipts)
    (pointerMember : pointer ∈ before.rows .activeWorkspaceViews)
    (sameWorkspace : pointer.connectedWorkspace = receipt.connectedWorkspace) :
    receipt ∈ after.rows .sourceSlotGenerationReceipts := by
  rcases allowed.fate .sourceSlotGenerationReceipts receipt present with
    kept | ⟨_, _, impossible, _⟩ | ⟨guarded, _⟩
  · exact kept
  · cases impossible
  · exfalso
    change receiptDeleteGuard .none before.rows receipt = true at guarded
    have active : hasActiveView before.rows receipt.connectedWorkspace = true :=
      List.any_eq_true.mpr ⟨pointer, pointerMember, by simp [sameWorkspace]⟩
    simp [receiptDeleteGuard, RetentionMarks.none, active] at guarded

end Statements

section Completeness

structure ViewComplete (rows : StoreRows) (connectedWorkspace : Bytes32) (view : Nat) : Prop where
  published : ∃ row ∈ rows .workspaceViews,
      row.connectedWorkspace = connectedWorkspace ∧ row.view = view ∧ row.lifecycle = .published
  covered : ∀ slot ∈ rows .workspaceSourceSlots,
      slot.connectedWorkspace = connectedWorkspace →
        ∃ member ∈ rows .workspaceViewMembers,
          member.view = view ∧ member.sourceSlot = slot.sourceSlot
  current : ∀ member ∈ rows .workspaceViewMembers, member.view = view →
      ∃ slot ∈ rows .workspaceSourceSlots,
        slot.connectedWorkspace = connectedWorkspace ∧
          slot.sourceSlot = member.sourceSlot ∧
          member.sourceEpoch ≤ slot.sourceEpoch
  eligible : ∀ member ∈ rows .workspaceViewMembers, member.view = view →
      ∃ generation ∈ rows .indexGenerations,
        generation.workspace = member.generationWorkspace ∧
          generation.generation = member.generation ∧
          generation.lifecycle.eligible = true

/-- Every active view is complete. -/
def ActiveViewsComplete (store : Store) : Prop :=
  ∀ pointer ∈ store.rows .activeWorkspaceViews,
    ViewComplete store.rows pointer.connectedWorkspace pointer.view

variable {connectedWorkspace : Bytes32} {view : Nat} {before after : Store}

variable {member : WorkspaceViewMemberRow} {rows : StoreRows} {pointer : ActiveWorkspaceViewRow}
  {staged published : Store}

theorem memberOfActiveView_iff : memberOfActiveView rows member = true ↔
      ∃ pointer ∈ rows .activeWorkspaceViews,
        pointer.connectedWorkspace = member.connectedWorkspace ∧ pointer.view = member.view := by
  simp [memberOfActiveView]

theorem memberOfActiveView_of_pointer (pointerMember : pointer ∈ before.rows .activeWorkspaceViews)
    (present : member ∈ before.rows .workspaceViewMembers) (sameView : pointer.view = member.view) :
    memberOfActiveView before.rows member = true := by
  obtain ⟨row, rowMember, rowWorkspace, rowView⟩ := pointer_view before pointerMember
  have sameWorkspace := member_workspace before present rowMember (rowView.trans sameView)
  exact memberOfActiveView_iff.mpr
    ⟨pointer, pointerMember, rowWorkspace.symm.trans sameWorkspace, sameView⟩

/-- A statement keeps an active view complete. -/
theorem ViewComplete.of_allows {scope : WriterScope}
    (complete : ViewComplete before.rows pointer.connectedWorkspace pointer.view)
    (pointerMember : pointer ∈ before.rows .activeWorkspaceViews)
    (allowed : scope.rules.Allows before.rows after.rows) :
    ViewComplete after.rows pointer.connectedWorkspace pointer.view := by
  obtain ⟨row, rowMember, rowWorkspace, rowView, published⟩ := complete.published
  constructor
  · exact ⟨row, publishedView_kept allowed rowMember published, rowWorkspace, rowView, published⟩
  · intro slot slotMember sameWorkspace
    obtain ⟨old, oldMember, oldWorkspace, oldSlot⟩ :=
      slot_origin_of_published allowed slotMember rowMember
        (rowWorkspace.trans sameWorkspace.symm) published
    obtain ⟨member, present, sameView, sameSlot⟩ :=
      complete.covered old oldMember (oldWorkspace.trans sameWorkspace)
    exact ⟨member,
      publishedMember_kept allowed present rowMember (rowView.trans sameView.symm) published,
      sameView, sameSlot.trans oldSlot⟩
  · intro member present sameView
    have old :=
      publishedMember_origin allowed present rowMember (rowView.trans sameView.symm) published
    obtain ⟨slot, slotMember, slotWorkspace, sameSlot, reached⟩ :=
      complete.current member old sameView
    obtain ⟨new, newMember, newWorkspace, newSlot, advanced⟩ :=
      slot_kept_of_active allowed slotMember pointerMember slotWorkspace.symm
    exact ⟨new, newMember, newWorkspace.trans slotWorkspace,
      newSlot.trans sameSlot, reached.trans advanced⟩
  · intro member present sameView
    have old :=
      publishedMember_origin allowed present rowMember (rowView.trans sameView.symm) published
    obtain ⟨generation, generationMember, sameOwner, sameGeneration,
      eligible⟩ := complete.eligible member old sameView
    have pinned : pinnedByActiveView before.rows generation = true :=
      List.any_eq_true.mpr ⟨member, old, by
        simp [sameOwner, sameGeneration,
          memberOfActiveView_of_pointer pointerMember old sameView.symm]⟩
    obtain ⟨new, newMember, newOwner, newGeneration, newEligible⟩ :=
      eligible_kept_of_pinned allowed generationMember eligible pinned
    exact ⟨new, newMember, newOwner.trans sameOwner,
      newGeneration.trans sameGeneration, newEligible⟩

/-- A view sees neither the pointers nor other tables. -/
theorem ViewComplete.congr {changed : StoreRows}
    (complete : ViewComplete rows connectedWorkspace view)
    (same : ∀ table, table ≠ .activeWorkspaceViews → changed table = rows table) :
    ViewComplete changed connectedWorkspace view := by
  constructor
  · rw [same .workspaceViews (by decide)]
    exact complete.published
  · rw [same .workspaceSourceSlots (by decide), same .workspaceViewMembers (by decide)]
    exact complete.covered
  · rw [same .workspaceSourceSlots (by decide), same .workspaceViewMembers (by decide)]
    exact complete.current
  · rw [same .workspaceViewMembers (by decide), same .indexGenerations (by decide)]
    exact complete.eligible

/-- The parts of the publication trigger that outlast a publication. -/
theorem membershipComplete_eq_true {row : WorkspaceViewRow}
    (complete : membershipComplete rows row = true) :
    (∀ slot ∈ rows .workspaceSourceSlots,
      slot.connectedWorkspace = row.connectedWorkspace →
        ∃ member ∈ rows .workspaceViewMembers,
          member.view = row.view ∧ member.sourceSlot = slot.sourceSlot) ∧
    (∀ member ∈ rows .workspaceViewMembers, member.view = row.view →
      ∀ slot ∈ rows .workspaceSourceSlots,
        slot.connectedWorkspace = member.connectedWorkspace →
          slot.sourceSlot = member.sourceSlot → member.sourceEpoch = slot.sourceEpoch) ∧
    ∀ member ∈ rows .workspaceViewMembers, member.view = row.view →
      ∀ generation ∈ rows .indexGenerations,
        generation.workspace = member.generationWorkspace →
          generation.generation = member.generation → generation.lifecycle.eligible = true := by
  simp only [membershipComplete, Bool.and_eq_true, List.all_eq_true,
    eachOf_eq_true_iff, List.any_eq_true, List.mem_filter, beq_iff_eq,
    and_imp] at complete
  obtain ⟨⟨⟨⟨_, covered⟩, current⟩, eligible⟩, _⟩ := complete
  refine ⟨fun slot member same => ?_, current, eligible⟩
  obtain ⟨found, ⟨present, sameView⟩, sameSlot⟩ := covered slot member same
  exact ⟨found, present, sameView, sameSlot⟩

/-- What the publication trigger says about the view it publishes. -/
theorem membershipComplete_of_published (publication : PublishedFrom view staged published) :
    ∃ row ∈ published.rows .workspaceViews,
      row.view = view ∧ row.lifecycle = .published ∧ membershipComplete staged.rows row = true := by
  obtain ⟨row, rowMember, selected⟩ := publication.selected
  obtain ⟨guarded, result⟩ := Database.update_eq_some_iff.mp publication.updated
  have guard := guarded row rowMember selected
  change viewUpdateGuard staged.rows row (publishedView row) = true at guard
  simp only [isStagingView, Bool.and_eq_true, beq_iff_eq] at selected
  simp only [viewUpdateGuard, publishedView, selected.2, Bool.and_eq_true,
    Bool.or_eq_true, beq_iff_eq] at guard
  refine ⟨publishedView row, ?_, selected.1, rfl, ?_⟩
  · rw [result, setTable_same]
    refine List.mem_map.mpr ⟨row, rowMember, ?_⟩
    rw [if_pos (by simp [isStagingView, selected])]
  · rcases guard.2 with impossible | complete
    · cases impossible
    · exact complete.2

/-- A view that was published and activated is complete, and its members have
the current epochs of their slots. -/
theorem published_complete (publication : PublishedFrom view staged published)
    (activated : Activated connectedWorkspace view published after) :
    ViewComplete published.rows connectedWorkspace view ∧
      ∀ member ∈ published.rows .workspaceViewMembers, member.view = view →
          ∀ slot ∈ published.rows .workspaceSourceSlots,
            slot.sourceSlot = member.sourceSlot → slot.sourceEpoch ≤ member.sourceEpoch := by
  obtain ⟨row, rowMember, rowView, rowPublished, trigger⟩ :=
    membershipComplete_of_published publication
  obtain ⟨_, result⟩ := Database.update_eq_some_iff.mp publication.updated
  have others : ∀ table, table ≠ .workspaceViews → published.rows table = staged.rows table := by
    intro table different
    rw [result, setTable_of_ne _ _ different]
  have rowWorkspace : row.connectedWorkspace = connectedWorkspace := by
    obtain ⟨owner, ownerMember, ownerWorkspace, ownerView⟩ := pointer_view after activated.present
    rw [activated.others _ (by decide)] at ownerMember
    have same : row = owner :=
      view_eq_of_view published rowMember ownerMember (rowView.trans ownerView.symm)
    rw [same, ownerWorkspace]
  obtain ⟨covered, current, eligible⟩ := membershipComplete_eq_true trigger
  rw [← others .workspaceSourceSlots (by decide),
    ← others .workspaceViewMembers (by decide), rowView] at covered current
  rw [← others .workspaceViewMembers (by decide),
    ← others .indexGenerations (by decide), rowView] at eligible
  have slotOf : ∀ member ∈ published.rows .workspaceViewMembers,
        member.view = view → ∀ slot ∈ published.rows .workspaceSourceSlots,
            slot.sourceSlot = member.sourceSlot →
              slot.connectedWorkspace = connectedWorkspace ∧
                member.sourceEpoch = slot.sourceEpoch := by
    intro member present sameView slot slotMember sameSlot
    have sameWorkspace :=
      member_workspace published present rowMember (rowView.trans sameView.symm)
    obtain ⟨bound, boundMember, boundWorkspace, boundSlot, _⟩ := member_slot published present
    have sameBound : slot = bound :=
      slot_eq_of_sourceSlot published slotMember boundMember (sameSlot.trans boundSlot.symm)
    refine ⟨?_, current member present sameView slot slotMember
      (sameBound ▸ boundWorkspace) sameSlot⟩
    rw [sameBound, boundWorkspace, ← sameWorkspace, rowWorkspace]
  refine ⟨⟨⟨row, rowMember, rowWorkspace, rowView, rowPublished⟩,
    fun slot slotMember sameWorkspace =>
      covered slot slotMember (sameWorkspace.trans rowWorkspace.symm),
    ?_, ?_⟩, ?_⟩
  · intro member present sameView
    obtain ⟨slot, slotMember, _, sameSlot, _⟩ := member_slot published present
    obtain ⟨slotWorkspace, sameEpoch⟩ := slotOf member present sameView slot slotMember sameSlot
    exact ⟨slot, slotMember, slotWorkspace, sameSlot, sameEpoch.le⟩
  · intro member present sameView
    obtain ⟨generation, generationMember, sameOwner, sameGeneration⟩ :=
      member_generation published present
    exact ⟨generation, generationMember, sameOwner, sameGeneration,
      eligible member present sameView generation generationMember sameOwner sameGeneration⟩
  · intro member present sameView slot slotMember sameSlot
    exact (slotOf member present sameView slot slotMember sameSlot).2.ge

end Completeness

section Collections

variable {generations : List Nat} {before after : Store}

variable {pointer : ActiveWorkspaceViewRow}

theorem activeView_unmarked {rows : StoreRows}
    (pointerMember : pointer ∈ rows .activeWorkspaceViews) :
    (retentionMarks rows generations).views.contains pointer.view =
      false := by
  rw [← Bool.not_eq_true, List.contains_iff_mem]
  intro marked
  obtain ⟨row, rowMember, sameView⟩ := List.mem_map.mp marked
  have conditions := (List.mem_filter.mp rowMember).2
  rw [Bool.and_eq_true] at conditions
  have inactive := conditions.2
  rw [Bool.not_eq_true', ← Bool.not_eq_true] at inactive
  exact inactive (List.any_eq_true.mpr ⟨pointer, pointerMember, by simp [sameView]⟩)

section Collected

variable (collected : Collected before after generations)

include collected

/-- A collection does not delete a generation something holds. -/
theorem Collected.held_unmarked {generation : Nat}
    (held : generationHeld before.rows generation = true) :
    generations.contains generation = false := by
  rw [← Bool.not_eq_true, List.contains_iff_mem]
  intro marked
  have markable := collected.markable generation marked
  simp [generationMarkable, held] at markable

variable {pointer : ActiveWorkspaceViewRow}

theorem Collected.pointer_iff :
    pointer ∈ after.rows .activeWorkspaceViews ↔ pointer ∈ before.rows .activeWorkspaceViews := by
  rw [collected.mem_iff (by decide)]
  simp [isMarked]

theorem Collected.slot_iff {slot : WorkspaceSourceSlotRow} :
    slot ∈ after.rows .workspaceSourceSlots ↔ slot ∈ before.rows .workspaceSourceSlots := by
  rw [collected.mem_iff (by decide)]
  simp [isMarked]

theorem Collected.activeMember_iff (pointerMember : pointer ∈ before.rows .activeWorkspaceViews)
    {member : WorkspaceViewMemberRow} (sameView : member.view = pointer.view) :
    member ∈ after.rows .workspaceViewMembers ↔ member ∈ before.rows .workspaceViewMembers := by
  rw [collected.mem_iff (by decide)]
  simp only [isMarked, sameView, activeView_unmarked pointerMember, and_true]

end Collected

theorem ViewComplete.of_collected
    (complete : ViewComplete before.rows pointer.connectedWorkspace pointer.view)
    (pointerMember : pointer ∈ before.rows .activeWorkspaceViews)
    (collected : Collected before after generations) :
    ViewComplete after.rows pointer.connectedWorkspace pointer.view := by
  constructor
  · obtain ⟨row, rowMember, rowWorkspace, rowView, published⟩ := complete.published
    refine ⟨row, (collected.mem_iff (by decide)).mpr ⟨rowMember, ?_⟩,
      rowWorkspace, rowView, published⟩
    rw [← activeView_unmarked pointerMember, ← rowView]
    rfl
  · intro slot slotMember sameWorkspace
    obtain ⟨member, present, sameView, sameSlot⟩ :=
      complete.covered slot (collected.slot_iff.mp slotMember) sameWorkspace
    exact ⟨member,
      (collected.activeMember_iff pointerMember sameView).mpr present,
      sameView, sameSlot⟩
  · intro member present sameView
    obtain ⟨slot, slotMember, facts⟩ :=
      complete.current member ((collected.activeMember_iff pointerMember sameView).mp present)
        sameView
    exact ⟨slot, collected.slot_iff.mpr slotMember, facts⟩
  · intro member present sameView
    have old := (collected.activeMember_iff pointerMember sameView).mp present
    obtain ⟨generation, generationMember, sameOwner, sameGeneration,
      eligible⟩ := complete.eligible member old sameView
    have isActive := memberOfActiveView_of_pointer pointerMember old sameView.symm
    have held : generationHeld before.rows generation.generation = true := by
      have found :
          ((before.rows .workspaceViewMembers).any fun member =>
            member.generation == generation.generation &&
              memberOfActiveView before.rows member) = true :=
        List.any_eq_true.mpr ⟨member, old, by simp [sameGeneration, isActive]⟩
      simp [generationHeld, found]
    exact ⟨generation,
      (collected.mem_iff (by decide)).mpr ⟨generationMember, collected.held_unmarked held⟩,
      sameOwner, sameGeneration, eligible⟩

end Collections

section Invariant

variable {digests : RetentionDigests} {operation : WriterOperation} {before after : Store}

theorem ActiveViewsComplete.of_allows {scope : WriterScope} (complete : ActiveViewsComplete before)
    (allowed : scope.rules.Allows before.rows after.rows) :
    ActiveViewsComplete after := by
  intro pointer pointerMember
  have old := pointer_origin allowed pointerMember
  exact (complete pointer old).of_allows old allowed

theorem ActiveViewsComplete.of_collected {generations : List Nat}
    (complete : ActiveViewsComplete before) (collected : Collected before after generations) :
    ActiveViewsComplete after := by
  intro pointer pointerMember
  have old := collected.pointer_iff.mp pointerMember
  exact (complete pointer old).of_collected old collected

theorem ActiveViewsComplete.of_activated {connectedWorkspace : Bytes32} {view : Nat}
    {staged : Store} (complete : ActiveViewsComplete before)
    (publication : PublishedFrom view staged before)
    (activated : Activated connectedWorkspace view before after) :
    ActiveViewsComplete after := by
  intro pointer pointerMember
  refine ViewComplete.congr ?_ activated.others
  rcases activated.pointers pointer pointerMember with rfl | ⟨oldMember, _⟩
  · exact (published_complete publication activated).1
  · exact complete pointer oldMember

theorem ActiveViewsComplete.of_effect (complete : ActiveViewsComplete before)
    (effect : WriterEffect digests operation before after) :
    ActiveViewsComplete after := by
  refine effect.preserves _ ?_ ?_ ?_ complete
  · exact fun _ _ _ _ allowed current => current.of_allows allowed
  · exact fun _ _ _ _ _ publication activated current => current.of_activated publication activated
  · exact fun _ _ _ _ _ collected current => current.of_collected collected

end Invariant

section History

def ActiveEpochReached (connectedWorkspace sourceSlot : Bytes32) (epoch : Nat)
    (store : Store) : Prop :=
  ∃ pointer ∈ store.rows .activeWorkspaceViews,
    pointer.connectedWorkspace = connectedWorkspace ∧
      ∃ member ∈ store.rows .workspaceViewMembers,
        member.view = pointer.view ∧ member.sourceSlot = sourceSlot ∧ epoch ≤ member.sourceEpoch

/-- The epoch of a slot of a workspace with an active view is bound to no
other generation, and no other receipt for it can come. -/
structure EpochBound (sourceSlot : Bytes32) (epoch generation : Nat) (store : Store) : Prop where
  slot : ∃ slot ∈ store.rows .workspaceSourceSlots,
      slot.sourceSlot = sourceSlot ∧ epoch ≤ slot.sourceEpoch ∧
        (∃ pointer ∈ store.rows .activeWorkspaceViews,
          pointer.connectedWorkspace = slot.connectedWorkspace) ∧
        (slot.sourceEpoch = epoch →
          ∃ receipt ∈ store.rows .sourceSlotGenerationReceipts,
            receipt.sourceSlot = sourceSlot ∧ receipt.sourceEpoch = epoch)
  receipts : ∀ receipt ∈ store.rows .sourceSlotGenerationReceipts,
      receipt.sourceSlot = sourceSlot → receipt.sourceEpoch = epoch →
        receipt.generation = generation

variable {digests : RetentionDigests} {operation : WriterOperation}
  {connectedWorkspace sourceSlot : Bytes32} {epoch generation : Nat} {before after : Store}

variable {view : Nat} {receipt : SourceSlotReceiptRow} {slot : WorkspaceSourceSlotRow}
  {generations : List Nat} {events : List WriterEvent}

theorem ActiveEpochReached.of_activated {activatedWorkspace : Bytes32} {staged : Store}
    (reached : ActiveEpochReached connectedWorkspace sourceSlot epoch before)
    (complete : ActiveViewsComplete before) (publication : PublishedFrom view staged before)
    (activated : Activated activatedWorkspace view before after) :
    ActiveEpochReached connectedWorkspace sourceSlot epoch after := by
  obtain ⟨pointer, pointerMember, rfl, member, present, sameView, rfl, reachedEpoch⟩ := reached
  by_cases same : pointer.connectedWorkspace = activatedWorkspace
  · subst same
    obtain ⟨slot, slotMember, slotWorkspace, sameSlot, current⟩ :=
      (complete pointer pointerMember).current member present sameView
    obtain ⟨viewComplete, newest⟩ := published_complete publication activated
    obtain ⟨new, newPresent, newView, newSlot⟩ := viewComplete.covered slot slotMember slotWorkspace
    have advanced := newest new newPresent newView slot slotMember newSlot.symm
    refine ⟨_, activated.present, rfl, new, ?_, newView, newSlot.trans sameSlot, by omega⟩
    rw [activated.others _ (by decide)]
    exact newPresent
  · refine ⟨pointer, activated.kept pointer pointerMember same, rfl, member,
      ?_, sameView, rfl, reachedEpoch⟩
    rw [activated.others _ (by decide)]
    exact present

/-- The epochs of active members never go back. -/
theorem ActiveEpochReached.of_effect
    (reached : ActiveEpochReached connectedWorkspace sourceSlot epoch before)
    (complete : ActiveViewsComplete before) (effect : WriterEffect digests operation before after) :
    ActiveEpochReached connectedWorkspace sourceSlot epoch after := by
  refine (effect.preserves
    (fun store =>
      ActiveViewsComplete store ∧ ActiveEpochReached connectedWorkspace sourceSlot epoch store)
    ?_ ?_ ?_ ⟨complete, reached⟩).2
  · rintro scope first second _ allowed ⟨current, pointer, pointerMember,
      samePointer, member, present, sameView, facts⟩
    refine ⟨current.of_allows allowed, ?_⟩
    obtain ⟨row, rowMember, _, rowView, published⟩ := (current pointer pointerMember).published
    exact ⟨pointer, pointer_kept allowed pointerMember, samePointer, member,
      publishedMember_kept allowed present rowMember
        (rowView.trans sameView.symm) published, sameView, facts⟩
  · rintro _ _ _ _ _ publication activated ⟨current, currentReached⟩
    exact ⟨current.of_activated publication activated,
      currentReached.of_activated current publication activated⟩
  · rintro _ _ _ _ _ collected ⟨current, pointer, pointerMember, samePointer,
      member, present, sameView, facts⟩
    exact ⟨current.of_collected collected, pointer, collected.pointer_iff.mpr pointerMember,
      samePointer, member,
      (collected.activeMember_iff pointerMember sameView).mpr present,
      sameView, facts⟩

theorem receipt_workspace (present : receipt ∈ before.rows .sourceSlotGenerationReceipts)
    (slotMember : slot ∈ before.rows .workspaceSourceSlots)
    (sameSlot : receipt.sourceSlot = slot.sourceSlot) :
    receipt.connectedWorkspace = slot.connectedWorkspace := by
  obtain ⟨bound, boundMember, boundWorkspace, boundSlot⟩ := receipt_slot before present
  have same : bound = slot :=
    slot_eq_of_sourceSlot before boundMember slotMember (boundSlot.trans sameSlot)
  rw [← boundWorkspace, same]

theorem EpochBound.of_allows {scope : WriterScope}
    (bound : EpochBound sourceSlot epoch generation before)
    (allowed : scope.rules.Allows before.rows after.rows) :
    EpochBound sourceSlot epoch generation after := by
  obtain ⟨⟨slot, slotMember, sameSlot, reached, ⟨pointer, pointerMember,
    samePointer⟩, existing⟩, receipts⟩ := bound
  obtain ⟨new, newMember, newWorkspace, newSlot, advanced⟩ :=
    slot_kept_of_active allowed slotMember pointerMember samePointer
  have keptReceipt : slot.sourceEpoch = epoch →
        ∃ receipt ∈ before.rows .sourceSlotGenerationReceipts,
          receipt ∈ after.rows .sourceSlotGenerationReceipts ∧
            receipt.sourceSlot = sourceSlot ∧
            receipt.sourceEpoch = epoch := by
    intro current
    obtain ⟨receipt, present, receiptSlot, receiptEpoch⟩ := existing current
    refine ⟨receipt, present, ?_, receiptSlot, receiptEpoch⟩
    refine receipt_kept_of_active allowed present pointerMember ?_
    rw [samePointer, receipt_workspace present slotMember (receiptSlot.trans sameSlot.symm)]
  constructor
  · refine ⟨new, newMember, newSlot.trans sameSlot, reached.trans advanced,
      ⟨pointer, pointer_kept allowed pointerMember, samePointer.trans newWorkspace.symm⟩, ?_⟩
    intro current
    obtain ⟨receipt, _, kept, facts⟩ := keptReceipt (by omega)
    exact ⟨receipt, kept, facts⟩
  · intro receipt present receiptSlot receiptEpoch
    rcases allowed.origin .sourceSlotGenerationReceipts receipt present with
      old | ⟨guarded, _⟩ | ⟨_, _, impossible, _⟩
    · exact receipts receipt old receiptSlot receiptEpoch
    · change receiptInsertGuard before.rows receipt = true at guarded
      rw [receiptInsertGuard, Bool.and_eq_true, List.any_eq_true] at guarded
      obtain ⟨⟨named, namedMember, agrees⟩, _⟩ := guarded
      simp only [Bool.and_eq_true, beq_iff_eq] at agrees
      have sameNamed : named = slot :=
        slot_eq_of_sourceSlot before namedMember slotMember
          ((agrees.1.1.2.trans receiptSlot).trans sameSlot.symm)
      obtain ⟨kept, wasPresent, keptMember, keptSlot, keptEpoch⟩ :=
        keptReceipt (by rw [← sameNamed, agrees.2, receiptEpoch])
      have same : receipt = kept :=
        receipt_eq_of_epoch after present keptMember (receiptSlot.trans keptSlot.symm)
          (receiptEpoch.trans keptEpoch.symm)
      rw [same]
      exact receipts kept wasPresent keptSlot keptEpoch
    · cases impossible

theorem EpochBound.of_activated (bound : EpochBound sourceSlot epoch generation before)
    (activated : Activated connectedWorkspace view before after) :
    EpochBound sourceSlot epoch generation after := by
  obtain ⟨⟨slot, slotMember, sameSlot, reached, ⟨pointer, pointerMember,
    samePointer⟩, existing⟩, receipts⟩ := bound
  constructor
  · rw [activated.others .workspaceSourceSlots (by decide),
      activated.others .sourceSlotGenerationReceipts (by decide)]
    refine ⟨slot, slotMember, sameSlot, reached, ?_, existing⟩
    by_cases same : pointer.connectedWorkspace = connectedWorkspace
    · exact ⟨_, activated.present, same.symm.trans samePointer⟩
    · exact ⟨pointer, activated.kept pointer pointerMember same, samePointer⟩
  · rw [activated.others .sourceSlotGenerationReceipts (by decide)]
    exact receipts

theorem Collected.currentReceipt_kept (collected : Collected before after generations)
    (present : receipt ∈ before.rows .sourceSlotGenerationReceipts)
    (current : receiptIsCurrent before.rows receipt = true) :
    receipt ∈ after.rows .sourceSlotGenerationReceipts := by
  refine (collected.mem_iff (by decide)).mpr ⟨present, ?_⟩
  change List.contains _ _ = false
  rw [← Bool.not_eq_true, List.contains_iff_mem]
  intro marked
  obtain ⟨other, otherMember, sameKey⟩ := List.mem_map.mp marked
  obtain ⟨otherPresent, conditions⟩ := List.mem_filter.mp otherMember
  simp only [Prod.mk.injEq] at sameKey
  have same : other = receipt := receipt_eq_of_epoch before otherPresent present sameKey.1 sameKey.2
  simp [same, current] at conditions

theorem EpochBound.of_collected (bound : EpochBound sourceSlot epoch generation before)
    (collected : Collected before after generations) :
    EpochBound sourceSlot epoch generation after := by
  obtain ⟨⟨slot, slotMember, sameSlot, reached, ⟨pointer, pointerMember,
    samePointer⟩, existing⟩, receipts⟩ := bound
  constructor
  · refine ⟨slot, collected.slot_iff.mpr slotMember, sameSlot, reached,
      ⟨pointer, collected.pointer_iff.mpr pointerMember, samePointer⟩, ?_⟩
    intro current
    obtain ⟨receipt, present, receiptSlot, receiptEpoch⟩ := existing current
    have isCurrent : receiptIsCurrent before.rows receipt = true :=
      List.any_eq_true.mpr ⟨slot, slotMember, by
        simp [receiptSlot, receiptEpoch, sameSlot, current,
          receipt_workspace present slotMember (receiptSlot.trans sameSlot.symm)]⟩
    exact ⟨receipt, collected.currentReceipt_kept present isCurrent, receiptSlot, receiptEpoch⟩
  · intro receipt present
    exact receipts receipt ((collected.mem_iff (by decide)).mp present).1

/-- What a slot's epoch was bound to once, it stays bound to. -/
theorem EpochBound.of_effect (bound : EpochBound sourceSlot epoch generation before)
    (effect : WriterEffect digests operation before after) :
    EpochBound sourceSlot epoch generation after :=
  effect.preserves _ (fun _ _ _ _ allowed current => current.of_allows allowed)
    (fun _ _ _ _ _ _ activated current => current.of_activated activated)
    (fun _ _ _ _ _ collected current => current.of_collected collected) bound

theorem EpochBound.of_activeMember (complete : ActiveViewsComplete before)
    {member : WorkspaceViewMemberRow} (present : member ∈ before.rows .workspaceViewMembers)
    (active : memberOfActiveView before.rows member = true) :
    EpochBound member.sourceSlot member.sourceEpoch member.generation
      before := by
  obtain ⟨pointer, pointerMember, _, sameView⟩ := memberOfActiveView_iff.mp active
  obtain ⟨slot, slotMember, slotWorkspace, sameSlot, reached⟩ :=
    (complete pointer pointerMember).current member present sameView.symm
  obtain ⟨receipt, receiptMember, receiptSlot, receiptEpoch,
    receiptGeneration⟩ := member_receipt before present
  constructor
  · exact ⟨slot, slotMember, sameSlot, reached,
      ⟨pointer, pointerMember, slotWorkspace.symm⟩,
      fun _ => ⟨receipt, receiptMember, receiptSlot, receiptEpoch⟩⟩
  · intro other otherMember otherSlot otherEpoch
    have same : other = receipt :=
      receipt_eq_of_epoch before otherMember receiptMember (otherSlot.trans receiptSlot.symm)
        (otherEpoch.trans receiptEpoch.symm)
    rw [same, receiptGeneration]

theorem activeViewsComplete_of_run
    (run : Run (writerStep digests) before events after) (complete : ActiveViewsComplete before) :
    ActiveViewsComplete after :=
  run.invariant (fun _ _ _ step current => current.of_effect (step_effect step)) complete

theorem activeMember_of_run
    (run : Run (writerStep digests) before events after) (complete : ActiveViewsComplete before)
    {old new : WorkspaceViewMemberRow} (oldPresent : old ∈ before.rows .workspaceViewMembers)
    (oldActive : memberOfActiveView before.rows old = true)
    (newPresent : new ∈ after.rows .workspaceViewMembers)
    (newActive : memberOfActiveView after.rows new = true)
    (sameSlot : new.sourceSlot = old.sourceSlot) :
    (new.sourceEpoch = old.sourceEpoch → new.generation = old.generation) ∧
      (new.connectedWorkspace = old.connectedWorkspace → old.sourceEpoch ≤ new.sourceEpoch) := by
  constructor
  · intro sameEpoch
    have bound :=
      run.invariant (fun _ _ _ step current => current.of_effect (step_effect step))
        (EpochBound.of_activeMember complete oldPresent oldActive)
    obtain ⟨receipt, receiptMember, receiptSlot, receiptEpoch,
      receiptGeneration⟩ := member_receipt after newPresent
    rw [← receiptGeneration]
    exact bound.receipts receipt receiptMember
      (receiptSlot.trans sameSlot) (receiptEpoch.trans sameEpoch)
  · intro sameWorkspace
    obtain ⟨pointer, pointerMember, agrees⟩ := memberOfActiveView_iff.mp oldActive
    have initially : ActiveViewsComplete before ∧
          ActiveEpochReached old.connectedWorkspace old.sourceSlot old.sourceEpoch before :=
      ⟨complete, pointer, pointerMember, agrees.1, old, oldPresent, agrees.2.symm, rfl, le_refl _⟩
    obtain ⟨_, later, laterMember, laterWorkspace, member, present,
      sameView, memberSlot, reached⟩ :=
      run.invariant
        (fun _ _ _ step current =>
          And.intro (current.1.of_effect (step_effect step))
            (current.2.of_effect current.1 (step_effect step)))
        initially
    obtain ⟨active, activeMember, newAgrees⟩ := memberOfActiveView_iff.mp newActive
    have samePointer : active = later :=
      pointer_eq_of_workspace after activeMember laterMember
        ((newAgrees.1.trans sameWorkspace).trans laterWorkspace.symm)
    have same : member = new := member_eq_of_slot after present newPresent
        ((sameView.trans (congrArg _ samePointer.symm)).trans newAgrees.2)
        (memberSlot.trans sameSlot.symm)
    rw [← same]
    exact reached

theorem ViewComplete.existsUnique_member
    (complete : ViewComplete before.rows connectedWorkspace view)
    (slotMember : slot ∈ before.rows .workspaceSourceSlots)
    (sameWorkspace : slot.connectedWorkspace = connectedWorkspace) :
    ∃! member, member ∈ before.rows .workspaceViewMembers ∧
      member.view = view ∧ member.sourceSlot = slot.sourceSlot := by
  obtain ⟨member, present, sameView, sameSlot⟩ := complete.covered slot slotMember sameWorkspace
  refine ⟨member, ⟨present, sameView, sameSlot⟩, ?_⟩
  rintro other ⟨otherPresent, otherView, otherSlot⟩
  exact member_eq_of_slot before otherPresent present
    (otherView.trans sameView.symm) (otherSlot.trans sameSlot.symm)

end History

namespace Sample

def publishingOperations (epoch generation : Nat) : List WriterOperation :=
  [.reserveSourceSlotEpoch 10 11 (epoch - 1)] ++
    readyGeneration 1 0 generation (BitVec.ofNat 256 (50 + epoch)) ++
    [.completeSourceSlotEpoch 10 11 epoch generation,
      .publishWorkspaceView 10 [{ sourceSlot := 11, sourceEpoch := epoch, generation }]]

theorem publishedPointers_computed :
    ((runOperations digests (connectedOperations ++ publishingOperations 1 1)
        emptyStore).bind fun first =>
      (runOperations digests (publishingOperations 2 2) first.2).map
        fun second => (first.2.rows .activeWorkspaceViews, second.2.rows .activeWorkspaceViews)) =
      some
        ([{ connectedWorkspace := 10, view := 1 }], [{ connectedWorkspace := 10, view := 2 }]) := by
  decide +kernel

end Sample

structure ActiveViewsSound (earlier later : Store) : Prop where
  complete : ∀ pointer ∈ later.rows .activeWorkspaceViews,
      ViewComplete later.rows pointer.connectedWorkspace pointer.view
  oneMemberPerSlot : ∀ pointer ∈ later.rows .activeWorkspaceViews,
      ∀ slot ∈ later.rows .workspaceSourceSlots,
        slot.connectedWorkspace = pointer.connectedWorkspace →
          ∃! member, member ∈ later.rows .workspaceViewMembers ∧
            member.view = pointer.view ∧
            member.sourceSlot = slot.sourceSlot
  oneGenerationPerEpoch : ∀ old ∈ earlier.rows .workspaceViewMembers,
      memberOfActiveView earlier.rows old = true →
        ∀ new ∈ later.rows .workspaceViewMembers,
          memberOfActiveView later.rows new = true →
            new.sourceSlot = old.sourceSlot →
              new.sourceEpoch = old.sourceEpoch → new.generation = old.generation
  epochsAdvance : ∀ old ∈ earlier.rows .workspaceViewMembers,
      memberOfActiveView earlier.rows old = true →
        ∀ new ∈ later.rows .workspaceViewMembers,
          memberOfActiveView later.rows new = true →
            new.sourceSlot = old.sourceSlot →
              new.connectedWorkspace = old.connectedWorkspace → old.sourceEpoch ≤ new.sourceEpoch

/-- In every run an active view has exactly one member per slot and eligible
member generations; an epoch of a slot is bound to one generation in all views
that are ever active; and the epochs of a workspace's active members never go
back. -/
theorem active_views_sound {digests : RetentionDigests}
    {earlierEvents laterEvents : List WriterEvent} {earlier later : Store}
    (reached : Run (writerStep digests) emptyStore earlierEvents earlier)
    (continued : Run (writerStep digests) earlier laterEvents later) :
    ActiveViewsSound earlier later := by
  have initially : ActiveViewsComplete emptyStore := by
    intro pointer member
    cases member
  have earlierComplete := activeViewsComplete_of_run reached initially
  have laterComplete := activeViewsComplete_of_run continued earlierComplete
  constructor
  · exact laterComplete
  · intro pointer pointerMember slot slotMember sameWorkspace
    exact (laterComplete pointer pointerMember).existsUnique_member slotMember sameWorkspace
  · intro old oldPresent oldActive new newPresent newActive sameSlot
    exact (activeMember_of_run continued earlierComplete oldPresent
      oldActive newPresent newActive sameSlot).1
  · intro old oldPresent oldActive new newPresent newActive sameSlot
    exact (activeMember_of_run continued earlierComplete oldPresent
      oldActive newPresent newActive sameSlot).2

/-- One view is published after another. -/
theorem active_views_sound_of_two_views : ∃ earlierEvents laterEvents earlier later,
      Run (writerStep Sample.digests) emptyStore earlierEvents earlier ∧
        Run (writerStep Sample.digests) earlier laterEvents later ∧
        earlier.rows .activeWorkspaceViews =
          [{ connectedWorkspace := 10, view := 1 }] ∧
        later.rows .activeWorkspaceViews = [{ connectedWorkspace := 10, view := 2 }] ∧
        ActiveViewsSound earlier later := by
  obtain ⟨⟨_, earlier⟩, first, rest⟩ := Option.bind_eq_some_iff.mp Sample.publishedPointers_computed
  obtain ⟨⟨_, later⟩, second, same⟩ := Option.map_eq_some_iff.mp rest
  have reached := run_of_runOperations first
  have continued := run_of_runOperations second
  exact ⟨_, _, earlier, later, reached, continued,
    (Prod.ext_iff.mp same).1, (Prod.ext_iff.mp same).2,
    active_views_sound reached continued⟩

end RepoWitness
