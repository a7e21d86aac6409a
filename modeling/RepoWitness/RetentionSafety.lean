import RepoWitness.SettledStore

namespace RepoWitness

open Transaction

/-!
# What a collection leaves alone

A mark on a snapshot or an artifact says that only marked generations refer to
it, so a generation that is not marked keeps its snapshot, its artifacts and
all of its own rows.  A candidate of a plan is none of the roots, so every root
survives a collection that is applied.
-/

section Marks

variable {rows : StoreRows} {generations : List Nat}

theorem snapshotUnreferenced_of_marked {snapshot : Bytes32}
    (marked : (retentionMarks rows generations).snapshots.contains snapshot = true) :
    snapshotUnreferenced rows generations snapshot = true := by
  rw [List.contains_iff_mem] at marked
  obtain ⟨row, rowMember, rfl⟩ := List.mem_map.mp (List.mem_dedup.mp marked)
  have conditions := (List.mem_filter.mp rowMember).2
  rw [Bool.and_eq_true] at conditions
  exact conditions.2

variable {artifact : Bytes32}

theorem artifactUnreferenced_of_marked
    (marked : (retentionMarks rows generations).artifacts.contains artifact = true) :
    artifactUnreferenced rows generations artifact = true := by
  rw [List.contains_iff_mem] at marked
  have conditions := (List.mem_filter.mp marked).2
  rw [Bool.and_eq_true] at conditions
  exact conditions.2

theorem contains_of_candidateArtifact {generation : Nat}
    (referred : artifact ∈ candidateArtifacts rows (· == generation))
    (unreferenced : artifactUnreferenced rows generations artifact = true) :
    generations.contains generation = true := by
  simp only [artifactUnreferenced, Bool.and_eq_true, List.all_eq_true,
    Bool.or_eq_true, bne_iff_ne, ne_eq] at unreferenced
  obtain ⟨⟨⟨⟨⟨files, graphArtifacts⟩, definitions⟩, resolutions⟩, syntaxes⟩, _⟩ := unreferenced
  simp only [candidateArtifacts, List.mem_dedup, List.mem_append,
    List.mem_map, List.mem_filter, beq_iff_eq] at referred
  rcases referred with
    (((⟨row, ⟨member, rfl⟩, rfl⟩ | ⟨row, ⟨member, rfl⟩, rfl⟩) |
      ⟨row, ⟨member, rfl⟩, rfl⟩) | ⟨row, ⟨member, rfl⟩, rfl⟩) |
      ⟨row, ⟨member, rfl⟩, rfl⟩
  · exact (files row member).resolve_left (fun differs => differs rfl)
  · exact (graphArtifacts row member).resolve_left (fun differs => differs rfl)
  · exact (definitions row member).resolve_left (fun differs => differs rfl)
  · exact (resolutions row member).resolve_left (fun differs => differs rfl)
  · exact (syntaxes row member).resolve_left (fun differs => differs rfl)

end Marks

section Intact

def RowsKept (before after : Store) (table : StoreTable)
    (condition : StoreRow table → Prop) : Prop :=
  ∀ row ∈ before.rows table, condition row → row ∈ after.rows table

/-- A snapshot is kept with its manifest. -/
structure SnapshotKept (before after : Store) (snapshot : Bytes32) : Prop where
  row : RowsKept before after .sourceSnapshots fun row => row.snapshot = snapshot
  manifest : RowsKept before after .sourceManifestEntries fun row => row.snapshot = snapshot

structure ArtifactKept (before after : Store) (artifact : Bytes32) : Prop where
  row : RowsKept before after .analysisArtifacts fun row => row.artifact = artifact
  facts : RowsKept before after .artifactFacts fun row => row.artifact = artifact
  correspondence :
    RowsKept before after .artifactFactCorrespondence fun row => row.artifact = artifact
  graph : RowsKept before after .rustGraphArtifacts fun row => row.artifact = artifact
  graphSites : RowsKept before after .rustGraphSites fun row => row.artifact = artifact
  syntaxSites : RowsKept before after .syntaxSiteArtifacts fun row => row.artifact = artifact
  syntaxSiteRows : RowsKept before after .syntaxSites fun row => row.artifact = artifact

structure GenerationKept (before after : Store) (generation : IndexGenerationRow) : Prop where
  row : generation ∈ after.rows .indexGenerations
  files : RowsKept before after .generationFiles fun row => row.generation = generation.generation
  facts : RowsKept before after .generationFacts fun row => row.generation = generation.generation
  snapshot : SnapshotKept before after generation.snapshot
  artifacts :
    ∀ artifact ∈ candidateArtifacts before.rows (· == generation.generation),
      ArtifactKept before after artifact

structure OverlayKept (before after : Store) (receipt : ScipOverlayReceiptRow) : Prop where
  documents : RowsKept before after .scipOverlayDocuments fun row => row.overlay = receipt.overlay
  occurrences :
    RowsKept before after .scipOverlayOccurrences fun row => row.overlay = receipt.overlay
  relationships :
    RowsKept before after .scipOverlayRelationships fun row => row.overlay = receipt.overlay
  edges : RowsKept before after .scipEnclosedReferenceEdges fun row => row.overlay = receipt.overlay
  snapshot : SnapshotKept before after receipt.sourceSnapshot

variable {before after : Store} {generations : List Nat}

section Collected

variable (collected : Collected before after generations)

include collected

theorem Collected.rowsKept {table : StoreTable}
    (different : table ≠ .retentionCollectionAudit) {condition : StoreRow table → Prop}
    (unmarked : ∀ row ∈ before.rows table, condition row →
        isMarked (retentionMarks before.rows generations) table row = false) :
    RowsKept before after table condition :=
  fun row member met => (collected.mem_iff different).mpr ⟨member, unmarked row member met⟩

theorem Collected.snapshotKept {snapshot : Bytes32}
    (referenced : snapshotUnreferenced before.rows generations snapshot = false) :
    SnapshotKept before after snapshot := by
  have unmarked :
      (retentionMarks before.rows generations).snapshots.contains snapshot =
        false := by
    rw [← Bool.not_eq_true]
    intro marked
    rw [snapshotUnreferenced_of_marked marked] at referenced
    cases referenced
  constructor
  · refine collected.rowsKept (by decide) ?_
    rintro row _ rfl
    exact unmarked
  · refine collected.rowsKept (by decide) ?_
    rintro row _ rfl
    exact unmarked

theorem Collected.artifactKept {artifact : Bytes32}
    (referenced : artifactUnreferenced before.rows generations artifact = false) :
    ArtifactKept before after artifact := by
  have unmarked :
      (retentionMarks before.rows generations).artifacts.contains artifact =
        false := by
    rw [← Bool.not_eq_true]
    intro marked
    rw [artifactUnreferenced_of_marked marked] at referenced
    cases referenced
  constructor <;>
    · refine collected.rowsKept (by decide) ?_
      rintro row _ rfl
      exact unmarked

/-- A generation that is not marked is kept whole. -/
theorem Collected.generationKept
    {generation : IndexGenerationRow} (present : generation ∈ before.rows .indexGenerations)
    (unmarked : generations.contains generation.generation = false) :
    GenerationKept before after generation where
  row := (collected.mem_iff (by decide)).mpr ⟨present, unmarked⟩
  files := collected.rowsKept (by decide) fun row _ same => by
    change generations.contains row.generation = false
    rw [same, unmarked]
  facts := collected.rowsKept (by decide) fun row _ same => by
    change generations.contains row.generation = false
    rw [same, unmarked]
  snapshot := collected.snapshotKept (by
    rw [← Bool.not_eq_true]
    intro unreferenced
    simp only [snapshotUnreferenced, Bool.and_eq_true, List.all_eq_true,
      Bool.or_eq_true, bne_iff_ne, ne_eq] at unreferenced
    rcases unreferenced.1.1 generation present with differs | marked
    · exact differs rfl
    · rw [unmarked] at marked
      cases marked)
  artifacts artifact referred := collected.artifactKept (by
    rw [← Bool.not_eq_true]
    intro unreferenced
    have marked := contains_of_candidateArtifact referred unreferenced
    rw [unmarked] at marked
    cases marked)

/-- An overlay that stays is of a generation that stays. -/
theorem Collected.overlayKept (settled : Settled before) {receipt : ScipOverlayReceiptRow}
    (kept : receipt ∈ after.rows .scipOverlayReceipts) :
    OverlayKept before after receipt := by
  obtain ⟨present, unmarked⟩ := (collected.mem_iff (by decide)).mp kept
  change (retentionMarks before.rows generations).overlays.contains
    receipt.overlay = false at unmarked
  obtain ⟨generation, generationMember, _, sameGeneration⟩ := overlay_generation before present
  have generationUnmarked : generations.contains generation.generation = false := by
    rw [← Bool.not_eq_true]
    intro marked
    rw [← Bool.not_eq_true, List.contains_iff_mem] at unmarked
    refine unmarked (List.mem_map.mpr ⟨receipt, List.mem_filter.mpr ⟨present, ?_⟩, rfl⟩)
    rw [settled.overlay_complete present, ← sameGeneration, marked]
    rfl
  have snapshotKept := (collected.generationKept generationMember generationUnmarked).snapshot
  rw [settled.overlaySources receipt present generation generationMember
    sameGeneration] at snapshotKept
  refine ⟨?_, ?_, ?_, ?_, snapshotKept⟩ <;>
    · refine collected.rowsKept (by decide) ?_
      intro row _ same
      change (retentionMarks before.rows generations).overlays.contains row.overlay = false
      rw [same, unmarked]

end Collected

end Intact

section Roots

inductive IsRetentionRoot (policy : GenerationRetentionPolicy) (rows : StoreRows)
    (generation : IndexGenerationRow) : Prop where
  | active (isActive : generation.lifecycle = .active)
  | workspaceActive {workspace : WorkspaceRow} (present : workspace ∈ rows .workspaces)
      (points : workspace.activeGeneration = some generation.generation)
  | explicitPin (pinned : generation.generation ∈ policy.pins.explicitGenerations)
  | supervisedPin (pinned : generation.generation ∈ policy.pins.supervisedGenerations)
  | viewPin {member : WorkspaceViewMemberRow} (present : member ∈ rows .workspaceViewMembers)
      (same : member.generation = generation.generation)
      (pinned : member.view ∈ policy.pins.workspaceViews)
  | newest (isRetained : generation.lifecycle = .retained)
      (ranked : retainedRank rows generation ≤ policy.retainedGenerationsPerSourceSlot)
  | activeMember {member : WorkspaceViewMemberRow} (present : member ∈ rows .workspaceViewMembers)
      (same : member.generation = generation.generation)
      (isActive : memberOfActiveView rows member = true)
  | currentReceipt {receipt : SourceSlotReceiptRow}
      (present : receipt ∈ rows .sourceSlotGenerationReceipts)
      (same : receipt.generation = generation.generation)
      (isCurrent : receiptIsCurrent rows receipt = true)
  | projection {projected : MemoryProjectionGenerationRow}
      (present : projected ∈ rows .memoryProjectionGenerations)
      (same : projected.indexGeneration = generation.generation)
  | graphSource {source : GraphSourceRow} (present : source ∈ rows .generationGraphSources)
      (same : source.sourceGeneration = generation.generation)
      (other : source.generation ≠ generation.generation)

variable {policy : GenerationRetentionPolicy} {rows : StoreRows} {pinned : List Nat}
  {generation : IndexGenerationRow}

/-- Something other than a pin holds every root that is not retained by rank. -/
theorem generationHeld_of_any {number : Nat}
    (holds :
      ((rows .workspaces).any fun row =>
          row.activeGeneration == some number) = true ∨
        ((rows .workspaceViewMembers).any fun member =>
          member.generation == number && memberOfActiveView rows member) = true ∨
        ((rows .sourceSlotGenerationReceipts).any fun receipt =>
          receipt.generation == number && receiptIsCurrent rows receipt) = true ∨
        ((rows .memoryProjectionGenerations).any fun row => row.indexGeneration == number) = true) :
    generationHeld rows number = true := by
  unfold generationHeld
  rcases holds with held | held | held | held <;> simp [held]

theorem not_root_of_eligible (covered : PinsCovered rows policy.pins pinned)
    (eligible :
      isRetentionEligible rows policy.retainedGenerationsPerSourceSlot pinned generation = true) :
    ¬IsRetentionRoot policy rows generation := by
  simp only [isRetentionEligible, Bool.and_eq_true, Bool.not_eq_true',
    beq_iff_eq, decide_eq_true_eq] at eligible
  obtain ⟨⟨⟨⟨⟨⟨retained, ranked⟩, unheld⟩, unread⟩, _⟩, _⟩, unpinned⟩ := eligible
  rw [← Bool.not_eq_true] at unheld unread unpinned
  rw [List.contains_iff_mem] at unpinned
  intro root
  cases root with
  | active isActive =>
    rw [retained] at isActive
    cases isActive
  | workspaceActive present points =>
    exact unheld (generationHeld_of_any (.inl
      (List.any_eq_true.mpr ⟨_, present, by simp [points]⟩)))
  | explicitPin isPinned => exact unpinned (covered.explicit _ isPinned)
  | supervisedPin isPinned => exact unpinned (covered.supervised _ isPinned)
  | viewPin present same isPinned => exact unpinned (same ▸ covered.members _ present isPinned)
  | newest _ isRanked => omega
  | activeMember present same isActive =>
    exact unheld (generationHeld_of_any (.inr (.inl
      (List.any_eq_true.mpr ⟨_, present, by simp [same, isActive]⟩))))
  | currentReceipt present same isCurrent =>
    exact unheld (generationHeld_of_any (.inr (.inr (.inl
      (List.any_eq_true.mpr ⟨_, present, by simp [same, isCurrent]⟩)))))
  | projection present same =>
    exact unheld (generationHeld_of_any (.inr (.inr (.inr
      (List.any_eq_true.mpr ⟨_, present, by simp [same]⟩)))))
  | graphSource present same other =>
    exact unread (List.any_eq_true.mpr ⟨_, present, by simp [same, other]⟩)

theorem PlannedRetention.root_unmarked {store : Store} {plan : RetentionPlan}
    {budget : RetentionWorkBudget} (planned : PlannedRetention policy store.rows plan budget)
    (present : generation ∈ store.rows .indexGenerations)
    (root : IsRetentionRoot policy store.rows generation) :
    plan.candidateGenerations.contains generation.generation = false := by
  rw [← Bool.not_eq_true, List.contains_iff_mem]
  intro candidate
  obtain ⟨pinned, covered, eligible⟩ := planned.eligible
  obtain ⟨row, rowMember, sameGeneration, isEligible⟩ := eligible generation.generation candidate
  have same : row = generation := generation_eq_of_generation store rowMember present sameGeneration
  subst same
  exact not_root_of_eligible covered isEligible root

end Roots

section Safety

/-- A collection keeps every root and leaves no dangling reference. -/
structure RetentionSafe (policy : GenerationRetentionPolicy) (before after : Store) : Prop where
  roots : ∀ generation ∈ before.rows .indexGenerations,
      IsRetentionRoot policy before.rows generation → GenerationKept before after generation
  citedSnapshots :
    ∀ snapshot, snapshotCited before.rows snapshot = true → SnapshotKept before after snapshot
  projectedSnapshots :
    ∀ row ∈ before.rows .memoryProjectionGenerations, SnapshotKept before after row.snapshot
  citedArtifacts :
    ∀ artifact, artifactCited before.rows artifact = true → ArtifactKept before after artifact
  generations : ∀ generation ∈ after.rows .indexGenerations, GenerationKept before after generation
  views : ∀ view ∈ after.rows .workspaceViews,
      RowsKept before after .workspaceViewMembers fun member => member.view = view.view
  overlays : ∀ receipt ∈ after.rows .scipOverlayReceipts, OverlayKept before after receipt
  references : ∀ reference ∈ storeForeignKeys, reference.Holds after.rows

variable {policy : GenerationRetentionPolicy} {before after : Store}

theorem RowsKept.refl (store : Store) (table : StoreTable) (condition : StoreRow table → Prop) :
    RowsKept store store table condition := fun _ member _ => member

/-- A call that changes nothing keeps everything. -/
theorem RetentionSafe.refl (store : Store) : RetentionSafe policy store store := by
  have snapshotKept : ∀ snapshot, SnapshotKept store store snapshot :=
    fun _ => ⟨.refl _ _ _, .refl _ _ _⟩
  have artifactKept : ∀ artifact, ArtifactKept store store artifact :=
    fun _ => ⟨.refl _ _ _, .refl _ _ _, .refl _ _ _, .refl _ _ _,
      .refl _ _ _, .refl _ _ _, .refl _ _ _⟩
  have generationKept :
      ∀ generation ∈ store.rows .indexGenerations, GenerationKept store store generation :=
    fun generation present =>
      ⟨present, .refl _ _ _, .refl _ _ _, snapshotKept _, fun artifact _ => artifactKept artifact⟩
  exact
    { roots := fun generation present _ => generationKept generation present
      citedSnapshots := fun snapshot _ => snapshotKept snapshot
      projectedSnapshots := fun row _ => snapshotKept row.snapshot
      citedArtifacts := fun artifact _ => artifactKept artifact
      generations := generationKept
      views := fun _ _ => .refl _ _ _
      overlays := fun _ _ => ⟨.refl _ _ _, .refl _ _ _, .refl _ _ _, .refl _ _ _, snapshotKept _⟩
      references := store.consistent.1 }

theorem Collected.safe {plan : RetentionPlan} {budget : RetentionWorkBudget}
    (settled : Settled before) (planned : PlannedRetention policy before.rows plan budget)
    (collected : Collected before after plan.candidateGenerations) :
    RetentionSafe policy before after where
  roots generation present root :=
    collected.generationKept present (planned.root_unmarked present root)
  citedSnapshots snapshot cited := collected.snapshotKept (by simp [snapshotUnreferenced, cited])
  projectedSnapshots row member := collected.snapshotKept (by
    have projected :
        ((before.rows .memoryProjectionGenerations).any fun other =>
          other.snapshot == row.snapshot) = true :=
      List.any_eq_true.mpr ⟨row, member, by simp⟩
    simp [snapshotUnreferenced, projected])
  citedArtifacts artifact cited := collected.artifactKept (by simp [artifactUnreferenced, cited])
  generations generation kept := by
    obtain ⟨present, unmarked⟩ := (collected.mem_iff (by decide)).mp kept
    exact collected.generationKept present unmarked
  views view kept := by
    obtain ⟨_, unmarked⟩ := (collected.mem_iff (by decide)).mp kept
    refine collected.rowsKept (by decide) ?_
    intro member _ same
    change List.contains _ member.view = false
    rw [same]
    exact unmarked
  overlays receipt kept := collected.overlayKept settled kept
  references := after.consistent.1

end Safety

namespace Sample

def collection (operations : List WriterOperation) (policy : GenerationRetentionPolicy) :
    Option (Store × RetentionPlan × Except SqliteStoreError (RetentionApplyOutcome × Store)) := do
  let (_, store) ← runOperations digests operations emptyStore
  let plan ← (buildRetentionPlan digests policy store.rows).toOption
  return (store, plan, (applyGenerationRetention digests policy plan.planDigest).run store)

theorem collection_eq_some {operations : List WriterOperation} {policy : GenerationRetentionPolicy}
    {store : Store} {plan : RetentionPlan}
    {result : Except SqliteStoreError (RetentionApplyOutcome × Store)}
    (computed : collection operations policy = some (store, plan, result)) :
    Reachable digests store ∧
      buildRetentionPlan digests policy store.rows = .ok plan ∧
      (applyGenerationRetention digests policy plan.planDigest).run store =
        result := by
  obtain ⟨⟨events, reached⟩, executed, rest⟩ := Option.bind_eq_some_iff.mp computed
  obtain ⟨built, planned, same⟩ := Option.bind_eq_some_iff.mp rest
  cases same
  exact ⟨Reachable.of_runOperations executed, except_toOption_eq_some_iff.mp planned, rfl⟩

/-- A repository moves to the next epoch and activates a generation of it. -/
def activatingOperations (epoch : Nat) : List WriterOperation :=
  [.advanceSourceEpoch 1 (epoch - 1) epoch] ++
    readyGeneration 1 epoch epoch (BitVec.ofNat 256 (50 + epoch)) ++
    [.activate epoch epoch]

/-- Three generations of one repository, activated in turn. -/
def activatedOperations : List WriterOperation :=
  [.ensureWorkspace 1 0] ++ activatingOperations 1 ++
    activatingOperations 2 ++ activatingOperations 3

def policy : GenerationRetentionPolicy where
  retainedGenerationsPerSourceSlot := 1
  limits := .default
  pins := .none
  retainedBounded := by decide

theorem activatedCollection_computed : (collection activatedOperations policy).map
        (fun computed =>
          (computed.2.1.candidateGenerations,
            computed.2.2.toOption.map fun applied => applied.1.deletedRows)) =
      some ([1], some 5) := by
  decide +kernel

end Sample

/-- Applying a plan that a reachable store yields deletes no root and leaves no
dangling reference. -/
theorem retention_safe {digests : RetentionDigests} {policy : GenerationRetentionPolicy}
    {plan : RetentionPlan} {outcome : RetentionApplyOutcome} {before after : Store}
    (reachable : Reachable digests before)
    (planned : buildRetentionPlan digests policy before.rows = .ok plan)
    (applied :
      Succeeds (applyGenerationRetention digests policy plan.planDigest) before outcome after) :
    RetentionSafe policy before after := by
  rcases applyGenerationRetention_succeeds applied with ⟨_, rfl⟩ | ⟨_, _, fresh⟩
  · exact RetentionSafe.refl _
  · exact fresh.collected.safe (settled_of_reachable reachable) (planned_of_build fresh.built).1

theorem retention_safe_of_three_generations : ∃ before after plan outcome,
      Reachable Sample.digests before ∧
        buildRetentionPlan Sample.digests Sample.policy before.rows = .ok plan ∧
        Succeeds
          (applyGenerationRetention Sample.digests Sample.policy plan.planDigest)
          before outcome after ∧
        plan.candidateGenerations = [1] ∧ outcome.deletedRows = 5 ∧
        RetentionSafe Sample.policy before after := by
  obtain ⟨⟨before, plan, result⟩, computed, observed⟩ :=
    Option.map_eq_some_iff.mp Sample.activatedCollection_computed
  obtain ⟨candidates, deleted⟩ := Prod.ext_iff.mp observed
  obtain ⟨⟨outcome, after⟩, applied, counted⟩ := Option.map_eq_some_iff.mp deleted
  obtain ⟨reachable, planned, executed⟩ := Sample.collection_eq_some computed
  have success :
      Succeeds (applyGenerationRetention Sample.digests Sample.policy plan.planDigest)
        before outcome after :=
    executed.trans (except_toOption_eq_some_iff.mp applied)
  exact ⟨before, after, plan, outcome, reachable, planned, success,
    candidates, counted, retention_safe reachable planned success⟩

end RepoWitness
