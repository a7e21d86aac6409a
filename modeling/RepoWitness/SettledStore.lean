import RepoWitness.ActiveViews

namespace RepoWitness

open Transaction

/-!
# Stores between calls

A view is published and an overlay completed by the call that stages it, so
between calls no view and no overlay is staging.  The snapshot of a generation
is complete from the generation's creation on, and the source snapshot of an
overlay is that of its generation.
-/

section Views

/-- Every view is published, apart from the ones a scope stages. -/
def ViewsPublished (staging : Nat → Prop) (store : Store) : Prop :=
  ∀ row ∈ store.rows .workspaceViews, row.lifecycle = .published ∨ staging row.view

/-- Every overlay is complete, apart from the ones a scope stages. -/
def OverlaysComplete (staging : Bytes32 → Prop) (store : Store) : Prop :=
  ∀ row ∈ store.rows .scipOverlayReceipts, row.lifecycle = .complete ∨ staging row.overlay

variable {scope : WriterScope} {before after : Store}

theorem ViewsPublished.of_allows (published : ViewsPublished scope.stagesView before)
    (allowed : scope.rules.Allows before.rows after.rows) :
    ViewsPublished scope.stagesView after := by
  intro row member
  rcases allowed.origin .workspaceViews row member with
    kept | ⟨_, staged⟩ | ⟨old, oldMember, guarded, _⟩
  · exact published row kept
  · exact .inr staged
  · change viewUpdateGuard before.rows old row = true at guarded
    simp only [viewUpdateGuard, Bool.and_eq_true, Bool.or_eq_true, beq_iff_eq] at guarded
    obtain ⟨⟨sameView, _⟩, same | ⟨⟨_, newPublished⟩, _⟩⟩ := guarded
    · rw [← same, ← sameView]
      exact published old oldMember
    · exact .inl newPublished

theorem OverlaysComplete.of_allows (complete : OverlaysComplete scope.stagesOverlay before)
    (allowed : scope.rules.Allows before.rows after.rows) :
    OverlaysComplete scope.stagesOverlay after := by
  intro row member
  rcases allowed.origin .scipOverlayReceipts row member with
    kept | ⟨_, staged⟩ | ⟨old, oldMember, guarded, _⟩
  · exact complete row kept
  · exact .inr staged
  · change overlayUpdateGuard before.rows old row = true at guarded
    simp only [overlayUpdateGuard, Bool.and_eq_true, Bool.or_eq_true, beq_iff_eq] at guarded
    obtain ⟨sameColumns, same | ⟨wasStaging, _⟩⟩ := guarded
    · rw [← same, sameColumns]
      exact complete old oldMember
    · rcases complete old oldMember with impossible | staged
      · rw [wasStaging] at impossible
        cases impossible
      · rw [sameColumns]
        exact .inr staged

theorem settledRows_of_evolves (evolves : scope.Evolves before after)
    (published : ViewsPublished scope.stagesView before)
    (complete : OverlaysComplete scope.stagesOverlay before) :
    ViewsPublished scope.stagesView after ∧ OverlaysComplete scope.stagesOverlay after :=
  ⟨evolves.invariant (fun _ _ allowed current => current.of_allows allowed) published,
    evolves.invariant (fun _ _ allowed current => current.of_allows allowed) complete⟩

variable {view : Nat} {staged published : Store} {digest : Bytes32} {completed : Store}

theorem ViewsPublished.of_publishedFrom
    (others : ViewsPublished (fun staging => staging = view) staged)
    (publication : PublishedFrom view staged published) :
    ViewsPublished (fun _ => False) published := by
  obtain ⟨_, result⟩ := Database.update_eq_some_iff.mp publication.updated
  intro row member
  rw [result, setTable_same] at member
  obtain ⟨old, oldMember, rfl⟩ := List.mem_map.mp member
  left
  split
  next => rfl
  next notStaging =>
    rcases others old oldMember with done | sameView
    · exact done
    · cases lifecycle : old.lifecycle with
      | staging => exact absurd (by simp [isStagingView, sameView, lifecycle]) notStaging
      | published => rfl

theorem OverlaysComplete.of_completed
    (others : OverlaysComplete (fun staging => staging = digest) staged)
    (completes :
      staged.update .scipOverlayReceipts (isStagingOverlay digest) completedOverlay =
        some completed) :
    OverlaysComplete (fun _ => False) completed := by
  obtain ⟨_, result⟩ := Database.update_eq_some_iff.mp completes
  intro row member
  rw [result, setTable_same] at member
  obtain ⟨old, oldMember, rfl⟩ := List.mem_map.mp member
  left
  split
  next => rfl
  next notStaging =>
    rcases others old oldMember with done | sameOverlay
    · exact done
    · cases lifecycle : old.lifecycle with
      | staging => exact absurd (by simp [isStagingOverlay, sameOverlay, lifecycle]) notStaging
      | complete => rfl

/-- Between calls no view and no overlay is staging. -/
def NothingStaging (store : Store) : Prop :=
  ViewsPublished (fun _ => False) store ∧ OverlaysComplete (fun _ => False) store

theorem NothingStaging.of_subset (settled : NothingStaging before)
    (views : after.rows .workspaceViews ⊆ before.rows .workspaceViews)
    (overlays : after.rows .scipOverlayReceipts ⊆ before.rows .scipOverlayReceipts) :
    NothingStaging after :=
  ⟨fun row member => settled.1 row (views member),
    fun row member => settled.2 row (overlays member)⟩

theorem NothingStaging.of_publishes {connectedWorkspace : Bytes32} (settled : NothingStaging before)
    (publication : Publishes connectedWorkspace view before staged published after) :
    NothingStaging after := by
  obtain ⟨stagedViews, stagedOverlays⟩ :=
    settledRows_of_evolves publication.stages
      (fun row member => (settled.1 row member).imp_right False.elim)
      settled.2
  have publishedViews := stagedViews.of_publishedFrom publication.publishes
  obtain ⟨_, result⟩ := Database.update_eq_some_iff.mp publication.publishes.updated
  have settledPublished : NothingStaging published := by
    refine ⟨publishedViews, fun row member => stagedOverlays row ?_⟩
    rw [result, setTable_of_ne _ _ (by decide)] at member
    exact member
  refine settledPublished.of_subset ?_ ?_
  · rw [publication.activates.others _ (by decide)]
    exact List.Subset.refl _
  · rw [publication.activates.others _ (by decide)]
    exact List.Subset.refl _

theorem NothingStaging.of_overlay (settled : NothingStaging before)
    (overlay : StagesOverlay digest before staged completed after) :
    NothingStaging after := by
  obtain ⟨stagedViews, stagedOverlays⟩ :=
    settledRows_of_evolves overlay.stages settled.1
      (fun row member => (settled.2 row member).imp_right False.elim)
  have completedOverlays := stagedOverlays.of_completed overlay.completes
  obtain ⟨_, result⟩ := Database.update_eq_some_iff.mp overlay.completes
  refine settledRows_of_evolves overlay.activates ?_ completedOverlays
  intro row member
  rw [result, setTable_of_ne _ _ (by decide)] at member
  exact stagedViews row member

theorem NothingStaging.of_effect {digests : RetentionDigests} {operation : WriterOperation}
    (settled : NothingStaging before) (effect : WriterEffect digests operation before after) :
    NothingStaging after := by
  cases effect with
  | evolves ordinary => exact settledRows_of_evolves ordinary settled.1 settled.2
  | connects called changed clears => exact settledRows_of_evolves clears settled.1 settled.2
  | publishes prepares publication =>
    exact NothingStaging.of_publishes
      (settledRows_of_evolves prepares settled.1 settled.2) publication
  | overlays overlay => exact settled.of_overlay overlay
  | collects _ _ collected =>
    exact settled.of_subset (fun _ member => ((collected.mem_iff (by decide)).mp member).1)
      (fun _ member => ((collected.mem_iff (by decide)).mp member).1)

end Views

section Sources

def SnapshotsComplete (store : Store) : Prop :=
  ∀ generation ∈ store.rows .indexGenerations,
    ∀ snapshot ∈ store.rows .sourceSnapshots,
      snapshot.snapshot = generation.snapshot → snapshot.lifecycle = .complete

def OverlaySourcesExact (store : Store) : Prop :=
  ∀ receipt ∈ store.rows .scipOverlayReceipts,
    ∀ generation ∈ store.rows .indexGenerations,
      generation.generation = receipt.generation → generation.snapshot = receipt.sourceSnapshot

variable {scope : WriterScope} {before after : Store} {generation : IndexGenerationRow}
  {snapshot : SourceSnapshotRow} (allowed : scope.rules.Allows before.rows after.rows)

include allowed

/-- A generation stays and keeps its snapshot. -/
theorem generation_kept (present : generation ∈ before.rows .indexGenerations) :
    ∃ new ∈ after.rows .indexGenerations,
      new.generation = generation.generation ∧ new.snapshot = generation.snapshot := by
  rcases allowed.fate .indexGenerations generation present with
    kept | ⟨new, newMember, _, relabelled, -⟩ | ⟨_, impossible⟩
  · exact ⟨generation, kept, rfl, rfl⟩
  · refine ⟨new, newMember, ?_, ?_⟩
    · rw [relabelled]
      rfl
    · rw [relabelled]
      rfl
  · exact impossible.elim

theorem completeSnapshot_kept (present : snapshot ∈ before.rows .sourceSnapshots)
    (complete : snapshot.lifecycle = .complete) :
    ∃ new ∈ after.rows .sourceSnapshots,
      new.snapshot = snapshot.snapshot ∧ new.lifecycle = .complete := by
  rcases allowed.fate .sourceSnapshots snapshot present with
    kept | ⟨new, newMember, guarded, _⟩ | ⟨guarded, _⟩
  · exact ⟨snapshot, kept, rfl, complete⟩
  · change snapshotUpdateGuard snapshot new = true at guarded
    simp only [snapshotUpdateGuard, complete, Bool.and_eq_true,
      Bool.or_eq_true, beq_iff_eq] at guarded
    obtain ⟨sameColumns, same | impossible⟩ := guarded
    · refine ⟨new, newMember, ?_, same.symm⟩
      rw [sameColumns]
    · cases impossible
  · simp [storeDeleteGuard, RetentionMarks.none, complete] at guarded

/-- The snapshot of a generation that is in the store stays complete. -/
theorem SnapshotsComplete.of_kept (complete : SnapshotsComplete before)
    (present : generation ∈ before.rows .indexGenerations)
    (snapshotMember : snapshot ∈ after.rows .sourceSnapshots)
    (same : snapshot.snapshot = generation.snapshot) :
    snapshot.lifecycle = .complete := by
  obtain ⟨old, oldMember, oldSame⟩ := generation_snapshot before present
  obtain ⟨new, newMember, newSame, newComplete⟩ :=
    completeSnapshot_kept allowed oldMember (complete generation present old oldMember oldSame)
  have sameRow : snapshot = new :=
    snapshot_eq_of_snapshot after snapshotMember newMember (same.trans (newSame.trans oldSame).symm)
  rw [sameRow, newComplete]

theorem SnapshotsComplete.of_allows (complete : SnapshotsComplete before) :
    SnapshotsComplete after := by
  intro generation present snapshot snapshotMember same
  rcases allowed.origin .indexGenerations generation present with
    kept | ⟨guarded, _⟩ | ⟨old, oldMember, _, relabelled, -⟩
  · exact complete.of_kept allowed kept snapshotMember same
  · by_cases wasPresent : generation ∈ before.rows .indexGenerations
    · exact complete.of_kept allowed wasPresent snapshotMember same
    · -- Only the table of generations got a row, so the snapshot was there.
      obtain ⟨focus, focused⟩ := allowed.focused
      have isFocus : focus = .indexGenerations := by
        by_contra different
        exact wasPresent (focused _ (Ne.symm different) present)
      have snapshotWasPresent := focused .sourceSnapshots (by rw [isFocus]; decide) snapshotMember
      change snapshotStates before.rows generation.snapshot .complete = true at guarded
      exact eq_of_beq (eachOf_eq_true_iff.mp guarded snapshot snapshotWasPresent (by simp [same]))
  · refine complete.of_kept allowed oldMember snapshotMember ?_
    rw [same, relabelled]
    rfl

theorem OverlaySourcesExact.of_allows (exact : OverlaySourcesExact before) :
    OverlaySourcesExact after := by
  have named : ∀ old ∈ before.rows .indexGenerations,
        ∀ generation ∈ after.rows .indexGenerations,
          generation.generation = old.generation → generation.snapshot = old.snapshot := by
    intro old oldMember generation present same
    obtain ⟨new, newMember, newSame, newSnapshot⟩ := generation_kept allowed oldMember
    rw [generation_eq_of_generation after present newMember (same.trans newSame.symm), newSnapshot]
  have kept : ∀ old ∈ before.rows .scipOverlayReceipts,
        ∀ generation ∈ after.rows .indexGenerations,
          generation.generation = old.generation → generation.snapshot = old.sourceSnapshot := by
    intro old oldMember generation present same
    obtain ⟨owner, ownerMember, _, ownerSame⟩ := overlay_generation before oldMember
    rw [named owner ownerMember generation present (same.trans ownerSame.symm)]
    exact exact old oldMember owner ownerMember ownerSame
  intro receipt receiptMember generation present same
  rcases allowed.origin .scipOverlayReceipts receipt receiptMember with
    old | ⟨guarded, _⟩ | ⟨old, oldMember, guarded, _⟩
  · exact kept receipt old generation present same
  · change overlayInsertGuard before.rows receipt = true at guarded
    simp only [overlayInsertGuard, publishedMember, Bool.and_eq_true,
      List.any_eq_true, beq_iff_eq] at guarded
    obtain ⟨_, _, _, _, _, _, _, ⟨_, sameMember⟩, owner, ownerMember,
      ⟨⟨_, ownerGeneration⟩, ownerSnapshot⟩, _⟩ := guarded
    rw [named owner ownerMember generation present
      (same.trans (ownerGeneration.trans sameMember).symm), ownerSnapshot]
  · change overlayUpdateGuard before.rows old receipt = true at guarded
    simp only [overlayUpdateGuard, Bool.and_eq_true, beq_iff_eq] at guarded
    rw [guarded.1] at same ⊢
    exact kept old oldMember generation present same

end Sources

section Settled

/-- What holds of a store between calls. -/
structure Settled (store : Store) : Prop where
  nothingStaging : NothingStaging store
  snapshots : SnapshotsComplete store
  overlaySources : OverlaySourcesExact store

variable {digests : RetentionDigests} {operation : WriterOperation} {store before after : Store}

theorem Settled.of_effect (settled : Settled before)
    (effect : WriterEffect digests operation before after) :
    Settled after := by
  refine ⟨settled.nothingStaging.of_effect effect, ?_, ?_⟩
  · refine effect.preserves _ ?_ ?_ ?_ settled.snapshots
    · intro _ _ _ _ allowed current
      exact current.of_allows allowed
    · intro _ _ _ first second _ activated current
      unfold SnapshotsComplete
      rw [activated.others .indexGenerations (by decide),
        activated.others .sourceSnapshots (by decide)]
      exact current
    · intro _ _ _ _ _ collected current generation present snapshot member
      exact current generation ((collected.mem_iff (by decide)).mp present).1 snapshot
        ((collected.mem_iff (by decide)).mp member).1
  · refine effect.preserves _ ?_ ?_ ?_ settled.overlaySources
    · intro _ _ _ _ allowed current
      exact current.of_allows allowed
    · intro _ _ _ first second _ activated current
      unfold OverlaySourcesExact
      rw [activated.others .scipOverlayReceipts (by decide),
        activated.others .indexGenerations (by decide)]
      exact current
    · intro _ _ _ _ _ collected current receipt member generation present
      exact current receipt ((collected.mem_iff (by decide)).mp member).1
        generation ((collected.mem_iff (by decide)).mp present).1

theorem settled_of_reachable (reachable : Reachable digests store) : Settled store := by
  obtain ⟨events, run⟩ := reachable
  refine run.invariant (fun _ _ _ step current => current.of_effect (step_effect step)) ?_
  constructor
  · exact ⟨fun _ => (nomatch ·), fun _ => (nomatch ·)⟩
  · intro _ member
    cases member
  · intro _ member
    cases member

theorem Settled.view_published (settled : Settled store) {view : WorkspaceViewRow}
    (member : view ∈ store.rows .workspaceViews) :
    view.lifecycle = .published := (settled.nothingStaging.1 view member).resolve_right id

theorem Settled.overlay_complete (settled : Settled store) {receipt : ScipOverlayReceiptRow}
    (member : receipt ∈ store.rows .scipOverlayReceipts) :
    receipt.lifecycle = .complete := (settled.nothingStaging.2 receipt member).resolve_right id

end Settled

end RepoWitness
