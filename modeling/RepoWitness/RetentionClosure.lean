import RepoWitness.RetentionSafety

namespace RepoWitness

open Transaction References

/-!
# When a collection is accepted

The marks are closed under every declared reference but those from overlays to
the views they are bound to: a view is marked for any collected member, an
overlay only for its own generation.  A collection whose collected views carry
no other overlays deletes what it marks and is limited by its budget alone.
-/

section Collectable

/-- Distinct retained generations that nothing holds or reads. -/
structure Collectable (rows : StoreRows) (generations : List Nat) : Prop where
  distinct : generations.Nodup
  present : ∀ generation ∈ generations, ∃ row ∈ rows .indexGenerations, row.generation = generation
  markable : ∀ generation ∈ generations, generationMarkable rows generation = true
  unread : ∀ generation ∈ generations, isCrossGenerationSource rows generation = false

variable {policy : GenerationRetentionPolicy} {store : Store} {plan : RetentionPlan}
  {budget : RetentionWorkBudget}

theorem PlannedRetention.collectable (planned : PlannedRetention policy store.rows plan budget) :
    Collectable store.rows plan.candidateGenerations := by
  obtain ⟨pinned, _, eligible⟩ := planned.eligible
  have generationsDistinct :=
    nodup_columns (show UniqueKeys.generation ∈ storeUniqueKeys by simp [storeUniqueKeys]) store
  refine ⟨planned.distinct generationsDistinct, ?_, ?_, ?_⟩
  · intro generation candidate
    obtain ⟨row, member, same, _⟩ := eligible generation candidate
    exact ⟨row, member, same⟩
  · intro generation candidate
    obtain ⟨row, member, rfl, isEligible⟩ := eligible generation candidate
    simp only [isRetentionEligible, Bool.and_eq_true, beq_iff_eq] at isEligible
    rw [generationMarkable, Bool.and_eq_true]
    refine ⟨eachOf_eq_true_iff.mpr ?_, isEligible.1.1.1.1.2⟩
    intro other otherMember same
    rw [generation_eq_of_generation store otherMember member (eq_of_beq same)]
    simp [isEligible.1.1.1.1.1.1]
  · intro generation candidate
    obtain ⟨row, member, rfl, isEligible⟩ := eligible generation candidate
    simp only [isRetentionEligible, Bool.and_eq_true, Bool.not_eq_true'] at isEligible
    exact isEligible.1.1.1.2

end Collectable

section Marked

def IsCollectedView (rows : StoreRows) (generations : List Nat) (view : Nat) : Prop :=
  (∃ member ∈ rows .workspaceViewMembers,
    member.view = view ∧ member.generation ∈ generations) ∧
    ∀ pointer ∈ rows .activeWorkspaceViews, pointer.view ≠ view

instance (rows : StoreRows) (generations : List Nat) (view : Nat) :
    Decidable (IsCollectedView rows generations view) :=
  inferInstanceAs (Decidable ((∃ member ∈ rows .workspaceViewMembers,
        member.view = view ∧ member.generation ∈ generations) ∧ _))

/-- The overlays bound to a collected view, and the pointers into it, are of
collected generations. -/
structure Unblocked (rows : StoreRows) (generations : List Nat) : Prop where
  receipts : ∀ receipt ∈ rows .scipOverlayReceipts,
      IsCollectedView rows generations receipt.view → receipt.generation ∈ generations
  pointers : ∀ pointer ∈ rows .activeScipOverlays,
      IsCollectedView rows generations pointer.view →
        ∃ receipt ∈ rows .scipOverlayReceipts,
          receipt.overlay = pointer.overlay ∧ receipt.generation ∈ generations

instance (rows : StoreRows) (generations : List Nat) : Decidable (Unblocked rows generations) :=
  decidable_of_iff ((∀ receipt ∈ rows .scipOverlayReceipts,
        IsCollectedView rows generations receipt.view → receipt.generation ∈ generations) ∧
      ∀ pointer ∈ rows .activeScipOverlays,
        IsCollectedView rows generations pointer.view →
          ∃ receipt ∈ rows .scipOverlayReceipts,
            receipt.overlay = pointer.overlay ∧ receipt.generation ∈ generations)
    ⟨fun both => ⟨both.1, both.2⟩, fun unblocked => ⟨unblocked.receipts, unblocked.pointers⟩⟩

variable {store : Store} {generations : List Nat}

theorem viewMark_iff (settled : Settled store) {view : Nat} :
    (retentionMarks store.rows generations).views.contains view = true ↔
      IsCollectedView store.rows generations view := by
  rw [List.contains_iff_mem]
  simp only [retentionMarks, viewMarks, List.mem_map, List.mem_filter,
    Bool.and_eq_true, List.any_eq_true, Bool.not_eq_true', beq_iff_eq,
    List.any_eq_false, List.contains_iff_mem, IsCollectedView]
  constructor
  · rintro ⟨row, ⟨_, ⟨_, hasMember⟩, inactive⟩, rfl⟩
    exact ⟨hasMember, inactive⟩
  · rintro ⟨⟨member, present, rfl, marked⟩, inactive⟩
    obtain ⟨row, rowMember, _, sameView⟩ := member_view store present
    refine ⟨row, ⟨rowMember, ⟨settled.view_published rowMember,
      member, present, sameView.symm, marked⟩, ?_⟩, sameView⟩
    rw [sameView]
    exact inactive

theorem overlayMark_iff (settled : Settled store) {overlay : Bytes32} :
    (retentionMarks store.rows generations).overlays.contains overlay = true ↔
      ∃ receipt ∈ store.rows .scipOverlayReceipts,
        receipt.overlay = overlay ∧ receipt.generation ∈ generations := by
  rw [List.contains_iff_mem]
  simp only [retentionMarks, overlayMarks, List.mem_map, List.mem_filter,
    Bool.and_eq_true, beq_iff_eq, List.contains_iff_mem]
  constructor
  · rintro ⟨receipt, ⟨present, _, marked⟩, same⟩
    exact ⟨receipt, present, same, marked⟩
  · rintro ⟨receipt, present, same, marked⟩
    exact ⟨receipt, ⟨present, settled.overlay_complete present, marked⟩, same⟩

variable {receipt : SourceSlotReceiptRow}

theorem receiptMark_generation (present : receipt ∈ store.rows .sourceSlotGenerationReceipts)
    (marked :
      (retentionMarks store.rows generations).receipts.contains
        (receipt.sourceSlot, receipt.sourceEpoch) = true) :
    receipt.generation ∈ generations := by
  rw [List.contains_iff_mem] at marked
  obtain ⟨other, otherMember, sameKey⟩ := List.mem_map.mp marked
  obtain ⟨otherPresent, conditions⟩ := List.mem_filter.mp otherMember
  simp only [Prod.mk.injEq] at sameKey
  have same : other = receipt := receipt_eq_of_epoch store otherPresent present sameKey.1 sameKey.2
  rw [Bool.and_eq_true, same, List.contains_iff_mem] at conditions
  exact conditions.1

variable (collectable : Collectable store.rows generations)

include collectable

theorem Collectable.unheld {generation : Nat} (marked : generation ∈ generations)
    (held : generationHeld store.rows generation = true) :
    False := by
  have markable := collectable.markable generation marked
  simp [generationMarkable, held] at markable

theorem Collectable.member_marked (settled : Settled store) {member : WorkspaceViewMemberRow}
    (present : member ∈ store.rows .workspaceViewMembers)
    (marked : member.generation ∈ generations) :
    (retentionMarks store.rows generations).views.contains member.view =
      true := by
  refine (viewMark_iff settled).mpr ⟨⟨member, present, rfl, marked⟩, ?_⟩
  intro pointer pointerMember sameView
  have active := memberOfActiveView_of_pointer pointerMember present sameView
  exact collectable.unheld marked (generationHeld_of_any (.inr (.inl
    (List.any_eq_true.mpr ⟨member, present, by simp [active]⟩))))

theorem Collectable.receipt_marked (present : receipt ∈ store.rows .sourceSlotGenerationReceipts)
    (marked : receipt.generation ∈ generations) :
    (retentionMarks store.rows generations).receipts.contains
      (receipt.sourceSlot, receipt.sourceEpoch) = true := by
  rw [List.contains_iff_mem]
  refine List.mem_map.mpr ⟨receipt, List.mem_filter.mpr ⟨present, ?_⟩, rfl⟩
  rw [Bool.and_eq_true, List.contains_iff_mem, Bool.not_eq_true', ← Bool.not_eq_true]
  refine ⟨marked, fun current => ?_⟩
  exact collectable.unheld marked (generationHeld_of_any (.inr (.inr (.inl
    (List.any_eq_true.mpr ⟨receipt, present, by simp [current]⟩)))))

theorem Collectable.graphSource_own {source : GraphSourceRow}
    (present : source ∈ store.rows .generationGraphSources)
    (marked : source.sourceGeneration ∈ generations) :
    source.generation ∈ generations := by
  have unread := collectable.unread _ marked
  rw [isCrossGenerationSource, List.any_eq_false] at unread
  have own := unread source present
  simp only [beq_self_eq_true, Bool.true_and, bne_iff_ne, ne_eq, Decidable.not_not] at own
  rwa [own]

end Marked

section Closure

variable {marks : RetentionMarks} {artifact : Bytes32}

theorem closed_of_columns {rows : StoreRows} {child parent : StoreTable}
    {Key : Type} [DecidableEq Key] {childKey : StoreRow child → Key}
    {parentKey : StoreRow parent → Key}
    (together : ∀ childRow ∈ rows child, ∀ parentRow ∈ rows parent,
        childKey childRow = parentKey parentRow →
          isMarked marks parent parentRow = true → isMarked marks child childRow = true) :
    (reference child parent childKey parentKey).Closed (isMarked marks) rows := by
  intro childRow childMember parentRow parentMember references
  exact together childRow childMember parentRow parentMember (Option.some.inj references)

/-- A reference to a table that is never swept is closed. -/
theorem closed_of_unlisted {reference : ForeignKey StoreRow}
    (unlisted : reference.parent ∉ retentionDeleteOrder) (rows : StoreRows) :
    reference.Closed (isMarked marks) rows := by
  intro _ _ parentRow _ _ marked
  exact absurd (isMarked_listed _ parentRow marked) unlisted

/-- Along a reference, only marked rows name rows marked for a collection. -/
abbrev MarksClosed (store : Store) (generations : List Nat) (reference : ForeignKey StoreRow) :
    Prop :=
  reference.Closed (isMarked (retentionMarks store.rows generations)) store.rows

variable {store : Store} {generations : List Nat}

/-- Nothing in engineering memory cites a marked artifact. -/
theorem artifact_uncited_of_marked
    (marked : (retentionMarks store.rows generations).artifacts.contains artifact = true)
    (cited : artifactCited store.rows artifact = true) :
    False := by
  have unreferenced := artifactUnreferenced_of_marked marked
  simp [artifactUnreferenced, cited] at unreferenced

theorem generationSnapshot_closed : MarksClosed store generations generationSnapshot := by
  refine closed_of_columns fun row member snapshot _ same marked => ?_
  have unreferenced := snapshotUnreferenced_of_marked marked
  simp only [snapshotUnreferenced, Bool.and_eq_true, List.all_eq_true,
    Bool.or_eq_true, bne_iff_ne, ne_eq] at unreferenced
  exact (unreferenced.1.1 row member).resolve_left fun differs => differs same

theorem memoryProjectionSnapshot_closed :
    MarksClosed store generations memoryProjectionSnapshot := by
  refine closed_of_columns fun row member snapshot _ same marked => ?_
  have unreferenced := snapshotUnreferenced_of_marked marked
  simp only [snapshotUnreferenced, Bool.and_eq_true, Bool.not_eq_true',
    List.any_eq_false, beq_iff_eq] at unreferenced
  exact absurd same (unreferenced.1.2 row member)

theorem generation_marked_of_artifact {generation : Nat}
    (marked : (retentionMarks store.rows generations).artifacts.contains artifact = true)
    (referred : artifact ∈ candidateArtifacts store.rows (· == generation)) :
    generations.contains generation = true :=
  contains_of_candidateArtifact referred (artifactUnreferenced_of_marked marked)

theorem artifactReference_closed {reference : ForeignKey StoreRow}
    (refers : reference ∈ [fileArtifact, graphArtifactArtifact, graphDefinitionFact,
      graphResolutionSite, syntaxArtifactArtifact]) :
    MarksClosed store generations reference := by
  simp only [List.mem_cons, List.not_mem_nil, or_false] at refers
  rcases refers with rfl | rfl | rfl | rfl | rfl
  all_goals
    refine closed_of_columns fun row member parent _ same marked =>
      generation_marked_of_artifact marked ?_
    simp only [candidateArtifacts, List.mem_dedup, List.mem_append, List.mem_map, List.mem_filter,
      beq_iff_eq]
  · exact .inl (.inl (.inl (.inl ⟨row, ⟨member, rfl⟩, same⟩)))
  · exact .inl (.inl (.inl (.inr ⟨row, ⟨member, rfl⟩, same⟩)))
  · exact .inl (.inl (.inr ⟨row, ⟨member, rfl⟩, congrArg Prod.fst same⟩))
  · exact .inl (.inr ⟨row, ⟨member, rfl⟩, congrArg Prod.fst same⟩)
  · exact .inr ⟨row, ⟨member, rfl⟩, same⟩

theorem citation_closed {reference : ForeignKey StoreRow}
    (cites : reference ∈ [memoryCorrespondenceSource, memoryCorrespondenceTarget,
      memoryProjectionCandidateFact]) :
    MarksClosed store generations reference := by
  simp only [List.mem_cons, List.not_mem_nil, or_false] at cites
  rcases cites with rfl | rfl | rfl
  all_goals
    refine closed_of_columns fun row member fact _ same marked =>
      (artifact_uncited_of_marked marked ?_).elim
    simp only [artifactCited, Bool.or_eq_true, List.any_eq_true, beq_iff_eq]
  · exact .inl (.inl (.inr ⟨row, member, .inl (congrArg Prod.fst same)⟩))
  · exact .inl (.inl (.inr ⟨row, member, .inr (congrArg Prod.fst same)⟩))
  · exact .inr ⟨row, member, congrArg Prod.fst same⟩

theorem memoryProjectionEvidenceFact_closed :
    MarksClosed store generations memoryProjectionEvidenceFact := by
  intro row member fact _ references marked
  obtain ⟨target, named, same⟩ := Option.map_eq_some_iff.mp references
  refine (artifact_uncited_of_marked marked ?_).elim
  simp only [artifactCited, Bool.or_eq_true, List.any_eq_true, beq_iff_eq]
  refine .inl (.inr ⟨row, member, ?_⟩)
  have sameArtifact : target.artifact = fact.artifact := congrArg Prod.fst same
  simp [named, sameArtifact]

theorem mem_of_generationMarked {generation : IndexGenerationRow} {number : Nat}
    (marked : isMarked (retentionMarks store.rows generations) .indexGenerations generation = true)
    (same : number = generation.generation) : number ∈ generations :=
  same ▸ List.contains_iff_mem.mp marked

section Generations

variable (collectable : Collectable store.rows generations)

include collectable

theorem workspaceActiveGeneration_closed :
    MarksClosed store generations workspaceActiveGeneration := by
  intro row member generation _ references marked
  refine (collectable.unheld (List.contains_iff_mem.mp marked)
    (generationHeld_of_any (.inl (List.any_eq_true.mpr ⟨row, member, ?_⟩)))).elim
  exact beq_iff_eq.mpr references

theorem memoryProjectionGeneration_closed :
    MarksClosed store generations memoryProjectionGeneration := by
  refine closed_of_columns fun row member generation _ same marked => ?_
  refine (collectable.unheld (List.contains_iff_mem.mp marked)
    (generationHeld_of_any (.inr (.inr (.inr (List.any_eq_true.mpr ⟨row, member, ?_⟩)))))).elim
  exact beq_iff_eq.mpr (congrArg Prod.snd same)

theorem receiptGeneration_closed : MarksClosed store generations receiptGeneration := by
  refine closed_of_columns fun row member generation _ same marked => ?_
  exact collectable.receipt_marked member (mem_of_generationMarked marked (congrArg Prod.snd same))

theorem graphSourceGeneration_closed : MarksClosed store generations graphSourceGeneration := by
  refine closed_of_columns fun row member generation _ same marked => ?_
  refine List.contains_iff_mem.mpr (collectable.graphSource_own member ?_)
  exact mem_of_generationMarked marked same

variable (settled : Settled store)

include settled

theorem memberGeneration_closed : MarksClosed store generations memberGeneration := by
  refine closed_of_columns fun row member generation _ same marked => ?_
  refine collectable.member_marked settled member ?_
  exact mem_of_generationMarked marked (congrArg Prod.snd same)

theorem memberReceipt_closed : MarksClosed store generations memberReceipt := by
  refine closed_of_columns fun row member receipt present same marked => ?_
  refine collectable.member_marked settled member ?_
  simp only [Prod.mk.injEq] at same
  rw [same.2.2.2.2]
  exact receiptMark_generation present marked

end Generations

section Views

variable (settled : Settled store)

include settled

theorem activeWorkspaceView_closed : MarksClosed store generations activeWorkspaceView := by
  refine closed_of_columns fun row member view _ same marked => ?_
  exact absurd (congrArg Prod.snd same) (((viewMark_iff settled).mp marked).2 row member)

theorem overlayGeneration_closed : MarksClosed store generations overlayGeneration := by
  refine closed_of_columns fun row member generation _ same marked => ?_
  refine (overlayMark_iff settled).mpr ⟨row, member, rfl, ?_⟩
  exact mem_of_generationMarked marked (congrArg Prod.snd same)

variable (unblocked : Unblocked store.rows generations)

include unblocked

theorem overlayView_closed : MarksClosed store generations overlayView := by
  refine closed_of_columns fun row member view _ same marked => ?_
  refine (overlayMark_iff settled).mpr ⟨row, member, rfl, ?_⟩
  have sameView : row.view = view.view := congrArg Prod.snd same
  refine unblocked.receipts row member ?_
  rw [sameView]
  exact (viewMark_iff settled).mp marked

theorem overlayMember_closed : MarksClosed store generations overlayMember := by
  refine closed_of_columns fun row member other _ same marked => ?_
  refine (overlayMark_iff settled).mpr ⟨row, member, rfl, ?_⟩
  have sameView : row.view = other.view := congrArg Prod.fst same
  refine unblocked.receipts row member ?_
  rw [sameView]
  exact (viewMark_iff settled).mp marked

theorem activeOverlayView_closed : MarksClosed store generations activeOverlayView := by
  refine closed_of_columns fun row member view _ same marked => ?_
  refine (overlayMark_iff settled).mpr (unblocked.pointers row member ?_)
  have sameView : row.view = view.view := congrArg Prod.snd same
  rw [sameView]
  exact (viewMark_iff settled).mp marked

end Views

/-- Where no overlay is in the way, only marked rows name marked rows. -/
theorem Collectable.closed (collectable : Collectable store.rows generations)
    (settled : Settled store) (unblocked : Unblocked store.rows generations) :
    ∀ reference ∈ storeForeignKeys, MarksClosed store generations reference := by
  intro reference declared
  simp only [storeForeignKeys, List.mem_cons, List.not_mem_nil, or_false] at declared
  repeat' rcases declared with rfl | declared
  all_goals first
    | exact closed_of_unlisted (by decide) store.rows
    | exact workspaceActiveGeneration_closed collectable
    | exact generationSnapshot_closed
    | (refine artifactReference_closed ?_; simp; done)
    | exact receiptGeneration_closed collectable
    | exact memberGeneration_closed collectable settled
    | exact memberReceipt_closed collectable settled
    | exact activeWorkspaceView_closed settled
    | exact graphSourceGeneration_closed collectable
    | exact overlayView_closed settled unblocked
    | exact overlayMember_closed settled unblocked
    | exact overlayGeneration_closed settled
    | exact activeOverlayView_closed settled unblocked
    | (refine citation_closed ?_; simp; done)
    | exact memoryProjectionGeneration_closed collectable
    | exact memoryProjectionSnapshot_closed
    | exact memoryProjectionEvidenceFact_closed
    | exact cascading_closed store.rows _ (by simp [storeForeignKeys]) rfl
    | exact closed_of_columns fun childRow _ parentRow _ same marked => by
        simp_all [isMarked, GraphResolutionRow.key]

end Closure

end RepoWitness
