import RepoWitness.RetentionAcceptance
import Mathlib.Algebra.Order.BigOperators.Group.List
import Mathlib.Algebra.Order.Group.Nat

namespace RepoWitness

open Transaction

/-!
# How much a collection deletes

Every row a collection deletes, apart from the rows of overlays, is counted in
the estimate of some candidate, and so is every mark.  Planning reserves twice
the estimate and one row for the audit, so a collection without overlays stays
within the limit.  Overlays are not estimated.
-/

section Counting

variable {α β : Type} (parts : List α)

variable {items : List β}

/-- Rows that each fall in some part are at most the rows of all parts. -/
theorem countP_le_sum {selects : β → Bool} {selectsOf : α → β → Bool}
    (covered : ∀ item ∈ items, selects item = true → ∃ part ∈ parts, selectsOf part item = true) :
    items.countP selects ≤ (parts.map fun part => items.countP (selectsOf part)).sum := by
  induction items with
  | nil => simp
  | cons item rest hypothesis =>
    have rest_le :=
      hypothesis fun other member => covered other (List.mem_cons_of_mem item member)
    have item_le : (if selects item then 1 else 0) ≤
          (parts.map fun part => if selectsOf part item then 1 else 0).sum := by
      split
      next selected =>
        obtain ⟨part, member, inPart⟩ := covered item (by simp) selected
        refine le_trans ?_ (List.single_le_sum (by simp) _ (List.mem_map.mpr ⟨part, member, rfl⟩))
        simp [inPart]
      next => exact Nat.zero_le _
    simp only [List.countP_cons, List.sum_map_add]
    omega

/-- Distinct items that each fall in some part are at most the items of all
parts. -/
theorem length_le_sum {itemsOf : α → List β} (distinct : items.Nodup)
    (covered : ∀ item ∈ items, ∃ part ∈ parts, item ∈ itemsOf part) :
    items.length ≤ (parts.map fun part => (itemsOf part).length).sum := by
  have subset : items ⊆ parts.flatMap itemsOf := by
    intro item member
    exact List.mem_flatMap.mpr (covered item member)
  rw [← List.length_flatMap]
  exact (List.subperm_of_subset distinct subset).length_le

end Counting

section Covered

variable {store : Store} {generations : List Nat}

variable {rows : StoreRows}

theorem viewMark_covered {view : Nat} (marked : view ∈ viewMarks rows generations) :
    ∃ generation ∈ generations, view ∈ viewsOfGeneration rows generation := by
  obtain ⟨row, selected, rfl⟩ := List.mem_map.mp marked
  obtain ⟨_, conditions⟩ := List.mem_filter.mp selected
  simp only [Bool.and_eq_true, List.any_eq_true, beq_iff_eq, List.contains_iff_mem] at conditions
  obtain ⟨⟨_, member, present, sameView, isCandidate⟩, _⟩ := conditions
  refine ⟨member.generation, isCandidate, List.mem_dedup.mpr ?_⟩
  exact List.mem_map.mpr ⟨member, List.mem_filter.mpr ⟨present, by simp⟩, sameView⟩

theorem artifactMark_covered {artifact : Bytes32}
    (marked : artifact ∈ artifactMarks rows generations) :
    ∃ generation ∈ generations, artifact ∈ candidateArtifacts rows (· == generation) := by
  have referred := (List.mem_filter.mp marked).1
  simp only [candidateArtifacts, List.mem_dedup, List.mem_append,
    List.mem_map, List.mem_filter, List.contains_iff_mem] at referred
  simp only [candidateArtifacts, List.mem_dedup, List.mem_append,
    List.mem_map, List.mem_filter, beq_iff_eq]
  rcases referred with
    (((⟨row, ⟨member, isCandidate⟩, rfl⟩ | ⟨row, ⟨member, isCandidate⟩, rfl⟩) |
      ⟨row, ⟨member, isCandidate⟩, rfl⟩) |
      ⟨row, ⟨member, isCandidate⟩, rfl⟩) |
      ⟨row, ⟨member, isCandidate⟩, rfl⟩
  · exact ⟨_, isCandidate, .inl (.inl (.inl (.inl ⟨row, ⟨member, rfl⟩, rfl⟩)))⟩
  · exact ⟨_, isCandidate, .inl (.inl (.inl (.inr ⟨row, ⟨member, rfl⟩, rfl⟩)))⟩
  · exact ⟨_, isCandidate, .inl (.inl (.inr ⟨row, ⟨member, rfl⟩, rfl⟩))⟩
  · exact ⟨_, isCandidate, .inl (.inr ⟨row, ⟨member, rfl⟩, rfl⟩)⟩
  · exact ⟨_, isCandidate, .inr ⟨row, ⟨member, rfl⟩, rfl⟩⟩

theorem snapshotMark_covered {snapshot : Bytes32}
    (marked : snapshot ∈ snapshotMarks rows generations) :
    ∃ generation ∈ generations, isSnapshotOf rows generation snapshot = true := by
  obtain ⟨row, selected, rfl⟩ := List.mem_map.mp (List.mem_dedup.mp marked)
  obtain ⟨present, conditions⟩ := List.mem_filter.mp selected
  rw [Bool.and_eq_true, List.contains_iff_mem] at conditions
  exact ⟨row.generation, conditions.1, List.any_eq_true.mpr ⟨row, present, by simp⟩⟩

theorem isEstimated_of_isMarked {table : StoreTable} (estimated : table ∈ estimatedTables)
    {row : StoreRow table} (present : row ∈ store.rows table)
    (marked : isMarked (retentionMarks store.rows generations) table row = true) :
    ∃ generation ∈ generations, isEstimated store.rows generation table row = true := by
  have ofView :
      ∀ view, (viewMarks store.rows generations).contains view = true →
        ∃ generation ∈ generations,
          (viewsOfGeneration store.rows generation).contains view =
            true := by
    simpa only [List.contains_iff_mem] using fun _ => viewMark_covered
  have ofArtifact : ∀ artifact,
        (artifactMarks store.rows generations).contains artifact = true →
          ∃ generation ∈ generations,
            (candidateArtifacts store.rows (· == generation)).contains artifact = true := by
    simpa only [List.contains_iff_mem] using fun _ => artifactMark_covered
  cases table
  all_goals first
    | exact absurd estimated (by decide)
    | exact ⟨_, List.contains_iff_mem.mp marked, beq_self_eq_true _⟩
    | exact ofView _ marked
    | exact ofArtifact _ marked
    | exact snapshotMark_covered (List.contains_iff_mem.mp marked)
    | exact ⟨_, receiptMark_generation present marked, beq_self_eq_true _⟩

end Covered

section Deleted

variable {store : Store} {generations : List Nat}

theorem countP_contains_le {table : StoreTable} {Key : Type} [DecidableEq Key]
    {key : StoreRow table → Key} (declared : uniqueColumns table key ∈ storeUniqueKeys)
    (marks : List Key) :
    (store.rows table).countP (fun row => marks.contains (key row)) ≤ marks.length := by
  rw [List.countP_eq_length_filter, ← List.length_map key]
  refine (List.subperm_of_subset ?_ ?_).length_le
  · exact (nodup_columns declared store).sublist (List.filter_sublist.map key)
  · intro value member
    obtain ⟨row, selected, rfl⟩ := List.mem_map.mp member
    exact List.contains_iff_mem.mp (List.mem_filter.mp selected).2

def estimatedIn (rows : StoreRows) (tables : List StoreTable) (generation : Nat) : Nat :=
  (tables.map fun table => (rows table).countP (isEstimated rows generation table)).sum

theorem estimatedRowsOf_eq (rows : StoreRows) (generations : List Nat) :
    estimatedRowsOf rows generations = generations.length +
        (generations.map fun generation => (viewsOfGeneration rows generation).length).sum +
        (generations.map fun generation => (candidateArtifacts rows (· == generation)).length).sum +
        (generations.map (estimatedIn rows estimatedTables)).sum := by
  have ones : (generations.map fun _ => 1).sum = generations.length := by simp
  unfold estimatedRowsOf estimatedRows
  simp only [List.sum_map_add, ones]
  rfl

theorem markedRows_append (marks : RetentionMarks) (rows : StoreRows)
    (first second : List StoreTable) :
    markedRows marks rows (first ++ second) =
      markedRows marks rows first + markedRows marks rows second := by
  simp [markedRows]

theorem markedRows_le_estimated {tables : List StoreTable}
    (estimated : ∀ table ∈ tables, table ∈ estimatedTables) :
    markedRows (retentionMarks store.rows generations) store.rows tables ≤
      (generations.map (estimatedIn store.rows tables)).sum := by
  induction tables with
  | nil => simp [markedRows]
  | cons table rest hypothesis =>
    have tableBound :
        (store.rows table).countP (isMarked (retentionMarks store.rows generations) table) ≤
          (generations.map fun generation =>
            (store.rows table).countP (isEstimated store.rows generation table)).sum :=
      countP_le_sum generations fun row present marked =>
        isEstimated_of_isMarked (estimated table (by simp)) present marked
    have restBound :=
      hypothesis fun other member => estimated other (List.mem_cons_of_mem table member)
    unfold markedRows estimatedIn at restBound ⊢
    simp only [List.map_cons, List.sum_cons, List.sum_map_add]
    exact Nat.add_le_add tableBound restBound

def overlayTables : List StoreTable :=
  [.activeScipOverlays, .scipEnclosedReferenceEdges,
    .scipOverlayOccurrences, .scipOverlayRelationships,
    .scipOverlayDocuments, .scipOverlayReceipts]

variable {marks : RetentionMarks}

theorem markedRows_overlayTables (noOverlay : marks.overlays = []) (rows : StoreRows) :
    markedRows marks rows overlayTables = 0 := by
  simp [markedRows, overlayTables, isMarked, noOverlay]

theorem markedRows_perm {rows : StoreRows} {first second : List StoreTable}
    (permuted : first.Perm second) :
    markedRows marks rows first = markedRows marks rows second := by
  unfold markedRows
  exact (permuted.map _).sum_eq

end Deleted

section Marks

variable (store : Store) (generations : List Nat)

theorem viewMarks_length_le : (viewMarks store.rows generations).length ≤
      (generations.map fun generation => (viewsOfGeneration store.rows generation).length).sum := by
  have distinct : (viewMarks store.rows generations).Nodup :=
    (nodup_columns (show UniqueKeys.view ∈ storeUniqueKeys by simp [storeUniqueKeys])
      store).sublist (List.filter_sublist.map _)
  exact length_le_sum generations distinct fun _ => viewMark_covered

theorem artifactMarks_length_le : (artifactMarks store.rows generations).length ≤
      (generations.map fun generation =>
        (candidateArtifacts store.rows (· == generation)).length).sum := by
  have distinct : (artifactMarks store.rows generations).Nodup := (List.nodup_dedup _).filter _
  exact length_le_sum generations distinct fun _ => artifactMark_covered

theorem receiptMarks_length_le : (receiptMarks store.rows generations).length ≤
      (generations.map (estimatedIn store.rows [.sourceSlotGenerationReceipts])).sum := by
  unfold receiptMarks estimatedIn
  rw [List.length_map, ← List.countP_eq_length_filter]
  simp only [List.map_cons, List.map_nil, List.sum_cons, List.sum_nil, Nat.add_zero]
  refine countP_le_sum generations fun row _ selected => ?_
  rw [Bool.and_eq_true, List.contains_iff_mem] at selected
  exact ⟨row.generation, selected.1, beq_self_eq_true _⟩

theorem snapshotMarks_length_le : (snapshotMarks store.rows generations).length ≤
      (generations.map (estimatedIn store.rows [.sourceSnapshots])).sum := by
  unfold estimatedIn
  simp only [List.map_cons, List.map_nil, List.sum_cons, List.sum_nil,
    Nat.add_zero, List.countP_eq_length_filter]
  simp only [← List.length_map (fun row : SourceSnapshotRow => row.snapshot)]
  refine length_le_sum generations (List.nodup_dedup _) ?_
  intro snapshot marked
  obtain ⟨generation, isCandidate, isSnapshot⟩ := snapshotMark_covered marked
  obtain ⟨owner, ownerMember, conditions⟩ := List.any_eq_true.mp isSnapshot
  rw [Bool.and_eq_true, beq_iff_eq, beq_iff_eq] at conditions
  obtain ⟨row, present, sameSnapshot⟩ := generation_snapshot store ownerMember
  rw [conditions.2] at sameSnapshot
  refine ⟨generation, isCandidate, List.mem_map.mpr
    ⟨row, List.mem_filter.mpr ⟨present, ?_⟩, sameSnapshot⟩⟩
  change isSnapshotOf store.rows generation row.snapshot = true
  rw [sameSnapshot]
  exact isSnapshot

variable {store generations}

/-- Candidates without overlays have at most as many marks as estimated
rows. -/
theorem markCount_le (noOverlay : overlayMarks store.rows generations = []) :
    generations.length +
        (retentionMarks store.rows generations).dependentCount ≤
      estimatedRowsOf store.rows generations := by
  have views := viewMarks_length_le store generations
  have artifacts := artifactMarks_length_le store generations
  have receipts := receiptMarks_length_le store generations
  have snapshots := snapshotMarks_length_le store generations
  have counted :
      (generations.map (estimatedIn store.rows [.sourceSlotGenerationReceipts])).sum +
          (generations.map (estimatedIn store.rows [.sourceSnapshots])).sum ≤
        (generations.map (estimatedIn store.rows estimatedTables)).sum := by
    rw [← List.sum_map_add]
    refine List.sum_le_sum fun generation _ => ?_
    have chosen :
        [StoreTable.sourceSlotGenerationReceipts, .sourceSnapshots].Sublist
          estimatedTables := by
      decide
    have fewer := (chosen.map fun table =>
      (store.rows table).countP (isEstimated store.rows generation table)).sum_le_sum (by simp)
    simpa [estimatedIn] using fewer
  have noOverlayMark : (retentionMarks store.rows generations).overlays.length = 0 := by
    rw [show (retentionMarks store.rows generations).overlays = [] from noOverlay]
    rfl
  rw [estimatedRowsOf_eq]
  unfold RetentionMarks.dependentCount
  change _ + (_ + (viewMarks store.rows generations).length +
    (receiptMarks store.rows generations).length +
    (snapshotMarks store.rows generations).length +
    (artifactMarks store.rows generations).length) ≤ _
  omega

/-- Candidates without overlays delete at most what is estimated. -/
theorem collectedRowCount_le (noOverlay : overlayMarks store.rows generations = []) :
    collectedRowCount store.rows generations ≤ estimatedRowsOf store.rows generations := by
  let marks := retentionMarks store.rows generations
  have shape : retentionDeleteOrder.Perm (overlayTables ++
          ([.indexGenerations, .workspaceViews, .analysisArtifacts] ++ estimatedTables)) := by
    decide
  have generationRows :
      (store.rows .indexGenerations).countP (isMarked marks .indexGenerations) ≤
        generations.length :=
    countP_contains_le (show UniqueKeys.generation ∈ storeUniqueKeys by simp [storeUniqueKeys]) _
  have viewRows :
      (store.rows .workspaceViews).countP (isMarked marks .workspaceViews) ≤
        (viewMarks store.rows generations).length :=
    countP_contains_le (show UniqueKeys.view ∈ storeUniqueKeys by simp [storeUniqueKeys]) _
  have artifactRows :
      (store.rows .analysisArtifacts).countP (isMarked marks .analysisArtifacts) ≤
        (artifactMarks store.rows generations).length :=
    countP_contains_le (show UniqueKeys.artifact ∈ storeUniqueKeys by simp [storeUniqueKeys]) _
  have views := viewMarks_length_le store generations
  have artifacts := artifactMarks_length_le store generations
  have tableRows : markedRows marks store.rows estimatedTables ≤
        (generations.map (estimatedIn store.rows estimatedTables)).sum :=
    markedRows_le_estimated fun _ member => member
  have namedRows :
      markedRows marks store.rows [.indexGenerations, .workspaceViews, .analysisArtifacts] =
        (store.rows .indexGenerations).countP (isMarked marks .indexGenerations) +
          ((store.rows .workspaceViews).countP (isMarked marks .workspaceViews) +
            (store.rows .analysisArtifacts).countP (isMarked marks .analysisArtifacts)) := by
    simp [markedRows]
  rw [collectedRowCount, markedRows_perm shape, markedRows_append,
    markedRows_append, markedRows_overlayTables noOverlay,
    estimatedRowsOf_eq]
  change 0 + (markedRows marks _ _ + markedRows marks _ _) ≤ _
  omega

theorem collectionCharge_le (noOverlay : overlayMarks store.rows generations = []) :
    collectionCharge store.rows generations ≤ 2 * estimatedRowsOf store.rows generations + 1 := by
  have marks := markCount_le noOverlay
  have deleted := collectedRowCount_le noOverlay
  unfold collectionCharge
  omega

end Marks

def CandidatesWithoutOverlays (rows : StoreRows) (plan : RetentionPlan) : Prop :=
  ∀ receipt ∈ rows .scipOverlayReceipts,
    receipt.lifecycle = .complete → receipt.generation ∉ plan.candidateGenerations

theorem CandidatesWithoutOverlays.overlayMarks_eq_nil {rows : StoreRows} {plan : RetentionPlan}
    (without : CandidatesWithoutOverlays rows plan) :
    overlayMarks rows plan.candidateGenerations = [] := by
  unfold overlayMarks
  rw [List.map_eq_nil_iff, List.filter_eq_nil_iff]
  intro receipt present
  simpa using without receipt present

namespace Sample

def planned (operations : List WriterOperation) (policy : GenerationRetentionPolicy) :
    Option (Store × RetentionPlan × RetentionWorkBudget) := do
  let (_, store) ← runOperations digests operations emptyStore
  let (plan, budget) ← (buildRetentionPlanWithBudget digests policy store.rows).toOption
  return (store, plan, budget)

theorem planned_eq_some {operations : List WriterOperation} {policy : GenerationRetentionPolicy}
    {store : Store} {plan : RetentionPlan} {budget : RetentionWorkBudget}
    (computed : planned operations policy = some (store, plan, budget)) :
    Reachable digests store ∧
      buildRetentionPlanWithBudget digests policy store.rows = .ok (plan, budget) := by
  obtain ⟨⟨events, reached⟩, executed, rest⟩ := Option.bind_eq_some_iff.mp computed
  obtain ⟨built, isBuilt, same⟩ := Option.bind_eq_some_iff.mp rest
  cases same
  exact ⟨Reachable.of_runOperations executed, except_toOption_eq_some_iff.mp isBuilt⟩

theorem activatedPlan_computed : (planned activatedOperations policy).map
        (fun (store, plan, _) =>
          (plan.candidateGenerations, (store.rows .scipOverlayReceipts).length)) =
      some ([1], 0) := by
  decide +kernel

end Sample

/-- Applying a plan whose candidates own no overlays deletes at most the rows
the plan estimates, and all of its work stays within the limit. -/
theorem retention_within_estimate {digests : RetentionDigests} {policy : GenerationRetentionPolicy}
    {store : Store} {plan : RetentionPlan} {budget : RetentionWorkBudget}
    (built : buildRetentionPlanWithBudget digests policy store.rows = .ok (plan, budget))
    (without : CandidatesWithoutOverlays store.rows plan) :
    collectedRowCount store.rows plan.candidateGenerations ≤ plan.estimatedRows ∧
      budget.consumed + collectionCharge store.rows plan.candidateGenerations ≤
        policy.limits.maxRows ∧
      (∀ outcome after,
        Succeeds (applyGenerationRetention digests policy plan.planDigest) store outcome after →
          loadAppliedRetention store.rows (digests.policy policy) plan.planDigest = none →
            outcome.deletedRows ≤ plan.estimatedRows) ∧
      ¬Fails (applyGenerationRetention digests policy plan.planDigest)
        store .retentionLimitExceeded := by
  obtain ⟨planned, _⟩ := planned_of_build built
  have noOverlay := without.overlayMarks_eq_nil
  have deleted := collectedRowCount_le noOverlay
  have charge := collectionCharge_le noOverlay
  rw [← planned.estimated] at deleted charge
  have within : budget.consumed +
          collectionCharge store.rows plan.candidateGenerations ≤
        policy.limits.maxRows := by
    have fits := planned.fits
    rw [planned.reserved, planned.maximum] at fits
    omega
  refine ⟨deleted, within, ?_, ?_⟩
  · intro outcome after applied unrecorded
    obtain ⟨_, _, fresh⟩ := (applyGenerationRetention_spends built unrecorded).spent applied
    rw [fresh.deleted]
    exact deleted
  · intro exceeded
    cases recorded : loadAppliedRetention store.rows (digests.policy policy) plan.planDigest with
    | some outcome =>
      unfold applyGenerationRetention at exceeded
      simp [recorded] at exceeded
    | none =>
      obtain ⟨charged, consumed⟩ := (consume_released_iff planned).mpr within
      rcases (applyGenerationRetention_spends built recorded).stopped exceeded with
        stopped | ⟨different, _⟩
      · rw [consumed] at stopped
        cases stopped
      · exact different rfl

theorem retention_within_estimate_of_three_generations : ∃ store plan budget,
      Reachable Sample.digests store ∧
        buildRetentionPlanWithBudget Sample.digests Sample.policy store.rows =
          .ok (plan, budget) ∧
        plan.candidateGenerations = [1] ∧
        CandidatesWithoutOverlays store.rows plan ∧
        collectedRowCount store.rows plan.candidateGenerations ≤
          plan.estimatedRows ∧
        ¬Fails
          (applyGenerationRetention Sample.digests Sample.policy plan.planDigest)
          store .retentionLimitExceeded := by
  obtain ⟨⟨store, plan, budget⟩, computed, observed⟩ :=
    Option.map_eq_some_iff.mp Sample.activatedPlan_computed
  obtain ⟨candidates, noReceipt⟩ := Prod.ext_iff.mp observed
  obtain ⟨reachable, built⟩ := Sample.planned_eq_some computed
  have without : CandidatesWithoutOverlays store.rows plan := by
    intro receipt present
    rw [List.length_eq_zero_iff.mp noReceipt] at present
    cases present
  obtain ⟨deleted, _, _, notExceeded⟩ := retention_within_estimate built without
  exact ⟨store, plan, budget, reachable, built, candidates, without, deleted, notExceeded⟩

namespace Sample

/-- An overlay without documents on a repository's own view. -/
def ownViewOverlay : PreparedScipOverlay :=
  { mixedViewOverlay with
    identity :=
      { connectedWorkspace := 1, workspaceView := 1, sourceSlot := 1, sourceEpoch := 1
        generation := 1
        sourceSnapshot := 51
        sourceManifest := 51 } }

/-- Three generations of one repository, the first with an overlay. -/
def overlaidOperations : List WriterOperation :=
  [.ensureWorkspace 1 0] ++ activatingOperations 1 ++
    [.stageScipOverlay 1 1 1 ownViewOverlay true] ++
    activatingOperations 2 ++ activatingOperations 3

/-- The sample's policy with room for its plan and little more. -/
def tightPolicy : GenerationRetentionPolicy :=
  { policy with
    limits :=
      { RetentionLimits.default with
        maxRows := 20
        rowsBounded := by decide } }

/-- What planning and applying a collection come to. -/
structure CollectionFigures where
  candidates : List Nat
  estimatedRows : Nat
  deletedRows : Nat
  consumed : Nat
  charge : Nat
  unblocked : Bool
  unrecorded : Bool
  deriving DecidableEq

def collectionFigures (policy : GenerationRetentionPolicy) (store : Store) (plan : RetentionPlan)
    (budget : RetentionWorkBudget) : CollectionFigures where
  candidates := plan.candidateGenerations
  estimatedRows := plan.estimatedRows
  deletedRows := collectedRowCount store.rows plan.candidateGenerations
  consumed := budget.consumed
  charge := collectionCharge store.rows plan.candidateGenerations
  unblocked := decide (Unblocked store.rows plan.candidateGenerations)
  unrecorded := (loadAppliedRetention store.rows (digests.policy policy) plan.planDigest).isNone

def figuresOf (operations : List WriterOperation) (policy : GenerationRetentionPolicy) :
    Option CollectionFigures :=
  (planned operations policy).map fun (store, plan, budget) =>
    collectionFigures policy store plan budget

def overlaidFigures : CollectionFigures where
  candidates := [1]
  estimatedRows := 5
  deletedRows := 7
  consumed := 8
  charge := 13
  unblocked := true
  unrecorded := true

theorem overlaidFigures_computed : figuresOf overlaidOperations policy = some overlaidFigures ∧
      figuresOf overlaidOperations tightPolicy = some overlaidFigures := by
  decide +kernel

theorem spends_of_figures {operations : List WriterOperation} {policy : GenerationRetentionPolicy}
    {figures : CollectionFigures} (computed : figuresOf operations policy = some figures)
    (unblocked : figures.unblocked = true) (unrecorded : figures.unrecorded = true) :
    ∃ store plan budget, Reachable digests store ∧
        buildRetentionPlanWithBudget digests policy store.rows = .ok (plan, budget) ∧
        collectionFigures policy store plan budget = figures ∧
        Spends True (applyGenerationRetention digests policy plan.planDigest)
          store budget.releaseReservations figures.charge
          fun _ outcome _ => outcome.deletedRows = figures.deletedRows := by
  obtain ⟨⟨store, plan, budget⟩, isPlanned, observed⟩ := Option.map_eq_some_iff.mp computed
  obtain ⟨reachable, built⟩ := planned_eq_some isPlanned
  subst observed
  have recorded := Option.isNone_iff_eq_none.mp unrecorded
  refine ⟨store, plan, budget, reachable, built, rfl,
    ((applyGenerationRetention_spends built recorded).weaken fun _ => ⟨?_, rfl⟩).imp
      fun _ _ _ fresh => fresh.deleted⟩
  exact sweepable_of_build (settled_of_reachable reachable) built (of_decide_eq_true unblocked)
    recorded

end Sample

/-- A generation with an overlay deletes more rows than its plan estimates,
and with a tight limit it cannot be collected at all. -/
theorem retention_exceeds_estimate :
    (∃ store plan outcome after, Reachable Sample.digests store ∧
        buildRetentionPlan Sample.digests Sample.policy store.rows = .ok plan ∧
        Succeeds (applyGenerationRetention Sample.digests Sample.policy plan.planDigest)
          store outcome after ∧
        plan.estimatedRows < outcome.deletedRows) ∧
      ∃ store plan, Reachable Sample.digests store ∧
          buildRetentionPlan Sample.digests Sample.tightPolicy store.rows =
            .ok plan ∧
          Fails
            (applyGenerationRetention Sample.digests Sample.tightPolicy plan.planDigest)
            store .retentionLimitExceeded := by
  constructor
  · obtain ⟨store, plan, budget, reachable, built, same, spends⟩ :=
      Sample.spends_of_figures Sample.overlaidFigures_computed.1 rfl rfl
    have estimated : plan.estimatedRows = 5 := congrArg (·.estimatedRows) same
    have used : budget.consumed = 8 := congrArg (·.consumed) same
    obtain ⟨isPlanned, _⟩ := planned_of_build built
    obtain ⟨charged, consumed⟩ :
        ∃ charged, budget.releaseReservations.consume 13 = .ok charged := by
      refine (consume_released_iff isPlanned).mpr ?_
      rw [used]
      decide
    obtain ⟨outcome, after, applied⟩ := spends.succeeds trivial consumed
    refine ⟨store, plan, outcome, after, reachable,
      buildRetentionPlan_eq_ok_iff.mpr ⟨budget, built⟩, applied, ?_⟩
    obtain ⟨_, _, deleted⟩ := spends.spent applied
    rw [estimated, deleted]
    decide
  · obtain ⟨store, plan, budget, reachable, built, same, spends⟩ :=
      Sample.spends_of_figures Sample.overlaidFigures_computed.2 rfl rfl
    have used : budget.consumed = 8 := congrArg (·.consumed) same
    obtain ⟨isPlanned, _⟩ := planned_of_build built
    refine ⟨store, plan, reachable, buildRetentionPlan_eq_ok_iff.mpr ⟨budget, built⟩, ?_⟩
    cases execution : (applyGenerationRetention Sample.digests Sample.tightPolicy
        plan.planDigest).run store with
    | ok result =>
      obtain ⟨_, consumed, _⟩ := spends.spent execution
      have fits := (consume_released_iff isPlanned).mp ⟨_, consumed⟩
      rw [used] at fits
      exact absurd fits (by decide)
    | error error =>
      rw [← spends.limit trivial execution]
      exact execution

end RepoWitness
