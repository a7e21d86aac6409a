import Mathlib.Algebra.Order.BigOperators.Group.List
import Mathlib.Algebra.Order.Group.Nat
import Mathlib.Data.List.Count
import RepoWitness.RetentionClosure

namespace RepoWitness

open Transaction

/-!
# The plan after a collection

What a collection changes in the answers of the planning queries.  Ranks
above the floor, pins, holders and citations of a kept generation stay as they
are; the graphs of collected generations no longer read their sources.
-/

section Ranks

variable {rows : StoreRows} {retained : Nat} {collects : IndexGenerationRow → Bool}

/-- A retained generation of the same workspace that a rank counts. -/
def isNewer (row other : IndexGenerationRow) : Bool :=
  other.lifecycle == .retained && other.workspace == row.workspace &&
    (row.sourceEpoch < other.sourceEpoch ||
      (row.sourceEpoch == other.sourceEpoch && row.generation < other.generation))

theorem retainedRank_eq (rows : StoreRows) (row : IndexGenerationRow) :
    retainedRank rows row = 1 + (rows .indexGenerations).countP (isNewer row) := rfl

variable {row : IndexGenerationRow}

theorem isNewer_trans {middle other : IndexGenerationRow} (first : isNewer row middle = true)
    (second : isNewer middle other = true) :
    isNewer row other = true := by
  simp only [isNewer, Bool.and_eq_true, Bool.or_eq_true, beq_iff_eq,
    decide_eq_true_eq] at first second ⊢
  refine ⟨⟨second.1.1, second.1.2.trans first.1.2⟩, ?_⟩
  omega

theorem isNewer_irrefl (row : IndexGenerationRow) : isNewer row row = false := by
  simp [isNewer]

/-- A newer generation has a lower rank. -/
theorem countP_isNewer_lt {newer : IndexGenerationRow}
    (present : newer ∈ rows .indexGenerations) (isNewerRow : isNewer row newer = true) :
    (rows .indexGenerations).countP (isNewer newer) <
      (rows .indexGenerations).countP (isNewer row) := by
  have among :
      ((rows .indexGenerations).filter (isNewer row)).countP (isNewer newer) =
        (rows .indexGenerations).countP (isNewer newer) := by
    rw [List.countP_filter]
    refine List.countP_congr fun other _ => ?_
    rw [Bool.and_eq_true]
    exact ⟨fun both => both.1, fun newest => ⟨newest, isNewer_trans isNewerRow newest⟩⟩
  rw [← among, @List.countP_eq_length_filter _ (isNewer row), List.countP_lt_length_iff]
  exact ⟨newer, List.mem_filter.mpr ⟨present, isNewerRow⟩, isNewer_irrefl newer⟩

/--
Deleting generations above the floor leaves the others above it: a deleted newer
generation has enough kept ones before it.
-/
theorem floor_le_kept
    (above : ∀ row ∈ rows .indexGenerations, collects row = true → retained < retainedRank rows row)
    (row : IndexGenerationRow) (isAbove : retained < retainedRank rows row) :
    retained ≤
      ((rows .indexGenerations).filter fun other => !collects other).countP (isNewer row) := by
  induction rank : (rows .indexGenerations).countP (isNewer row) using
    Nat.strong_induction_on generalizing row with
  | _ count hypothesis =>
    by_cases deleted :
        ∃ other ∈ rows .indexGenerations, isNewer row other = true ∧ collects other = true
    · obtain ⟨other, present, newer, collected⟩ := deleted
      have kept := hypothesis _ (rank ▸ countP_isNewer_lt present newer) other
          (above other present collected) rfl
      refine Nat.le_trans kept (List.countP_mono_left ?_)
      exact fun _ _ newest => isNewer_trans newer newest
    · have unchanged :
          ((rows .indexGenerations).filter fun other =>
              !collects other).countP (isNewer row) =
            (rows .indexGenerations).countP (isNewer row) := by
        rw [List.countP_filter]
        refine List.countP_congr fun other present => ?_
        rw [Bool.and_eq_true, Bool.not_eq_true']
        refine ⟨fun both => both.1, fun newer => ⟨newer, ?_⟩⟩
        rw [← Bool.not_eq_true]
        exact fun collected => deleted ⟨other, present, newer, collected⟩
      rw [unchanged]
      rw [retainedRank_eq] at isAbove
      omega

end Ranks

section Freed

variable (rows : StoreRows)

def isReadOnlyBy (generations : List Nat) (generation : Nat) : Bool :=
  (rows .generationGraphSources).all fun source =>
    !(source.sourceGeneration == generation &&
        source.generation != generation) ||
      generations.contains source.generation

/-- The conditions of the eligibility query other than on graph sources. -/
def isUnreferenced (retained : Nat) (pinned : List Nat) (row : IndexGenerationRow) : Bool :=
  row.lifecycle == .retained && retained < retainedRank rows row &&
    !generationHeld rows row.generation &&
    !snapshotCited rows row.snapshot &&
    ((rows .generationFiles).all fun file =>
      !(file.generation == row.generation && artifactCited rows file.artifact)) &&
    !pinned.contains row.generation

/-- Only the graphs of the listed generations keep the generation. -/
def isFreed (retained : Nat) (pinned generations : List Nat) (row : IndexGenerationRow) : Bool :=
  isUnreferenced rows retained pinned row &&
    isCrossGenerationSource rows row.generation &&
    isReadOnlyBy rows generations row.generation &&
    (leastSourceSlot rows row.workspace).isSome

theorem isRetentionEligible_iff {rows : StoreRows} {retained : Nat} {pinned : List Nat}
    {row : IndexGenerationRow} :
    isRetentionEligible rows retained pinned row = true ↔
      isUnreferenced rows retained pinned row = true ∧
        isCrossGenerationSource rows row.generation = false := by
  simp only [isRetentionEligible, isUnreferenced, Bool.and_eq_true, Bool.not_eq_true']
  constructor
  · rintro ⟨⟨⟨⟨⟨kept, held⟩, unread⟩, snapshot⟩, files⟩, unpinned⟩
    exact ⟨⟨⟨⟨⟨kept, held⟩, snapshot⟩, files⟩, unpinned⟩, unread⟩
  · rintro ⟨⟨⟨⟨⟨kept, held⟩, snapshot⟩, files⟩, unpinned⟩, unread⟩
    exact ⟨⟨⟨⟨⟨kept, held⟩, unread⟩, snapshot⟩, files⟩, unpinned⟩

end Freed

section Collected

variable {before after : Store} {generations : List Nat}

/-- A table that a collection neither sweeps nor appends to. -/
def IsUnswept (table : StoreTable) : Prop :=
  table ∉ StoreTable.retentionCollectionAudit :: retentionDeleteOrder

instance (table : StoreTable) : Decidable (IsUnswept table) :=
  inferInstanceAs (Decidable (table ∉ _))

variable {table : StoreTable} {retained : Nat}

theorem Collected.unchanged (collected : Collected before after generations)
    (unswept : IsUnswept table) :
    after.rows table = before.rows table := by
  rw [IsUnswept, List.mem_cons, not_or] at unswept
  rw [collected.rows table unswept.1]
  refine List.filter_eq_self.mpr fun row _ => ?_
  rw [Bool.not_eq_true', ← Bool.not_eq_true]
  exact fun marked => unswept.2 (isMarked_listed table row marked)

theorem activeMember_unmarked {store : Store}
    {member : WorkspaceViewMemberRow} (active : memberOfActiveView store.rows member = true) :
    (retentionMarks store.rows generations).views.contains member.view =
      false := by
  rw [← Bool.not_eq_true, List.contains_iff_mem]
  intro marked
  obtain ⟨view, selected, same⟩ := List.mem_map.mp marked
  obtain ⟨pointer, present, agrees⟩ := List.any_eq_true.mp active
  rw [Bool.and_eq_true, beq_iff_eq, beq_iff_eq] at agrees
  have inactive := (List.mem_filter.mp selected).2
  rw [Bool.and_eq_true, Bool.not_eq_true', List.any_eq_false] at inactive
  exact inactive.2 pointer present (beq_iff_eq.mpr (agrees.2.trans same.symm))

variable (collected : Collected before after generations)

include collected

theorem Collected.snapshotCited_eq (snapshot : Bytes32) :
    snapshotCited after.rows snapshot = snapshotCited before.rows snapshot := by
  simp +decide only [snapshotCited, collected.unchanged]

theorem Collected.artifactCited_eq (artifact : Bytes32) :
    artifactCited after.rows artifact = artifactCited before.rows artifact := by
  simp +decide only [artifactCited, collected.unchanged]

theorem Collected.any_eq (different : table ≠ .retentionCollectionAudit)
    {condition condition' : StoreRow table → Bool}
    (same : ∀ row ∈ before.rows table, condition' row = condition row)
    (kept : ∀ row ∈ before.rows table, condition row = true →
        isMarked (retentionMarks before.rows generations) table row = false) :
    (after.rows table).any condition' = (before.rows table).any condition := by
  rw [Bool.eq_iff_iff, List.any_eq_true, List.any_eq_true]
  constructor
  · rintro ⟨row, member, satisfied⟩
    obtain ⟨present, _⟩ := (collected.mem_iff different).mp member
    exact ⟨row, present, same row present ▸ satisfied⟩
  · rintro ⟨row, present, satisfied⟩
    exact ⟨row,
        (collected.mem_iff different).mpr ⟨present, kept row present satisfied⟩,
        (same row present).trans satisfied⟩

theorem Collected.generationHeld_eq {generation : Nat} (kept : generation ∉ generations) :
    generationHeld after.rows generation = generationHeld before.rows generation := by
  have members :
      ((after.rows .workspaceViewMembers).any fun member =>
          member.generation == generation && memberOfActiveView after.rows member) =
        (before.rows .workspaceViewMembers).any fun member =>
          member.generation == generation && memberOfActiveView before.rows member := by
    refine collected.any_eq (by decide) (fun member _ => ?_) ?_
    · simp +decide only [memberOfActiveView, collected.unchanged]
    · intro member _ held
      rw [Bool.and_eq_true] at held
      exact activeMember_unmarked held.2
  have receipts :
      ((after.rows .sourceSlotGenerationReceipts).any fun receipt =>
          receipt.generation == generation && receiptIsCurrent after.rows receipt) =
        (before.rows .sourceSlotGenerationReceipts).any fun receipt =>
          receipt.generation == generation && receiptIsCurrent before.rows receipt := by
    refine collected.any_eq (by decide) (fun receipt _ => ?_) ?_
    · simp +decide only [receiptIsCurrent, collected.unchanged]
    · intro receipt present held
      rw [Bool.and_eq_true, beq_iff_eq] at held
      rw [← Bool.not_eq_true]
      intro marked
      have collects := receiptMark_generation present marked
      rw [held.1] at collects
      exact kept collects
  simp +decide only [generationHeld, members, receipts, collected.unchanged]

theorem Collected.isCrossGenerationSource_eq (generation : Nat) :
    isCrossGenerationSource after.rows generation =
      !isReadOnlyBy before.rows generations generation := by
  rw [Bool.eq_iff_iff, Bool.not_eq_true', isCrossGenerationSource,
    List.any_eq_true, isReadOnlyBy, List.all_eq_false]
  constructor
  · rintro ⟨source, member, reads⟩
    obtain ⟨present, unmarked⟩ := (collected.mem_iff (by decide)).mp member
    refine ⟨source, present, ?_⟩
    rw [reads, Bool.not_true, Bool.false_or, Bool.not_eq_true]
    exact unmarked
  · rintro ⟨source, present, violates⟩
    rw [Bool.not_eq_true, Bool.or_eq_false_iff, Bool.not_eq_false'] at violates
    exact ⟨source, (collected.mem_iff (by decide)).mpr ⟨present, violates.2⟩, violates.1⟩

theorem Collected.leastSourceSlot_eq (workspace : Nat) :
    leastSourceSlot after.rows workspace = leastSourceSlot before.rows workspace := by
  simp +decide only [leastSourceSlot, collected.unchanged]

def AboveFloor (rows : StoreRows) (retained : Nat) (generations : List Nat) : Prop :=
  ∀ row ∈ rows .indexGenerations,
    generations.contains row.generation = true → retained < retainedRank rows row

/-- Collecting generations above the floor moves none across it. -/
theorem Collected.rank_iff
    (above : AboveFloor before.rows retained generations)
    (row : IndexGenerationRow) :
    retained < retainedRank after.rows row ↔ retained < retainedRank before.rows row := by
  have rows := collected.rows .indexGenerations (by decide)
  rw [retainedRank_eq, retainedRank_eq, rows]
  constructor
  · intro isAbove
    exact Nat.lt_of_lt_of_le isAbove (Nat.add_le_add_left (List.filter_sublist.countP_le) 1)
  · intro isAbove
    rw [Nat.add_comm]
    exact Nat.lt_succ_of_le (floor_le_kept above row isAbove)

/-- A kept generation is otherwise as eligible as before. -/
theorem Collected.isUnreferenced_iff {pinned : List Nat}
    (above : AboveFloor before.rows retained generations)
    {row : IndexGenerationRow} (kept : row.generation ∉ generations) :
    isUnreferenced after.rows retained pinned row = true ↔
      isUnreferenced before.rows retained pinned row = true := by
  have files :
      ((after.rows .generationFiles).all fun file =>
          !(file.generation == row.generation && artifactCited after.rows file.artifact)) =
        (before.rows .generationFiles).all fun file =>
          !(file.generation == row.generation && artifactCited before.rows file.artifact) := by
    rw [← Bool.not_inj_iff, List.not_all_eq_any_not, List.not_all_eq_any_not]
    refine collected.any_eq (by decide) (fun file _ => ?_) ?_
    · rw [collected.artifactCited_eq]
    · intro file _ cites
      rw [Bool.not_not, Bool.and_eq_true, beq_iff_eq] at cites
      rw [← Bool.not_eq_true]
      intro marked
      have collects := List.contains_iff_mem.mp marked
      rw [cites.1] at collects
      exact kept collects
  have rank := collected.rank_iff above row
  simp only [isUnreferenced, Bool.and_eq_true, files,
    collected.snapshotCited_eq, collected.generationHeld_eq kept,
    decide_eq_true_eq, rank]

end Collected

section Planning

variable {digests : RetentionDigests} {policy : GenerationRetentionPolicy} {rows : StoreRows}
  {plan : RetentionPlan} {budget after : RetentionWorkBudget} {retained : Nat} {pinned : List Nat}
  {eligible : List EligibleRetentionGeneration} {truncated : Bool}

/-- Calls that succeed make a plan. -/
theorem build_of_steps (steps : PlanSteps policy rows budget) : ∃ plan,
      buildRetentionPlanWithBudget digests policy rows = .ok (plan, budget) ∧
        plan.candidateGenerations = steps.selection.candidates := by
  unfold buildRetentionPlanWithBudget
  simp only [steps.validated, steps.consumed, steps.listed, steps.selected, steps.reserves,
    except_ok_bind]
  exact ⟨_, rfl, rfl⟩

theorem eligible_of_none (none : allEligibleGenerations rows retained pinned = [])
    (fits : budget.consumed + budget.reserved ≤ budget.maximum) :
    ∃ truncated,
      eligibleRetentionGenerations rows retained pinned budget = .ok ([], truncated, budget) := by
  unfold eligibleRetentionGenerations
  dsimp only
  split
  · exact ⟨true, rfl⟩
  · have free : budget.consume 0 = .ok budget :=
      RetentionWorkBudget.consume_eq_ok_iff.mpr ⟨fits, rfl⟩
    rw [none, List.take_nil, List.length_nil, free, except_ok_bind]
    exact ⟨_, rfl⟩

variable {limits : RetentionLimits} {selection final : RetentionCandidateSelection}

theorem selectRetentionCandidates_complete
    (selected :
      selectRetentionCandidates rows limits eligible truncated budget = .ok (final, after))
    (complete : final.moreWork = false) :
    truncated = false ∧ final.candidates = eligible.map fun entry => entry.generation := by
  obtain ⟨chosen, adding, rfl⟩ := selectRetentionCandidates_eq_ok selected
  rw [Bool.or_eq_false_iff] at complete
  obtain ⟨added, _, gained, whole, _⟩ := addRetentionCandidates_eq_ok adding
  obtain ⟨told, rfl⟩ := whole complete.1
  exact ⟨told, by simpa using gained.candidates⟩

theorem selectRetentionCandidates_nil
    (selected :
      selectRetentionCandidates rows limits eligible truncated budget = .ok (final, after))
    (none : final.candidates = []) :
    eligible = [] ∧ after = budget := by
  obtain ⟨chosen, adding, rfl⟩ := selectRetentionCandidates_eq_ok selected
  cases eligible with
  | nil =>
    cases adding
    exact ⟨rfl, rfl⟩
  | cons candidate rest =>
    obtain ⟨_, _, _, _, some⟩ := addRetentionCandidates_eq_ok adding
    exact absurd none (some (by simp))

theorem selectRetentionCandidates_budget
    (selected :
      selectRetentionCandidates rows limits eligible truncated budget = .ok (final, after)) :
    after.consumed = budget.consumed ∧
      budget.reserved ≤ after.reserved ∧
      after.maximum = budget.maximum := by
  obtain ⟨chosen, adding, rfl⟩ := selectRetentionCandidates_eq_ok selected
  obtain ⟨added, _, gained, _⟩ := addRetentionCandidates_eq_ok adding
  refine ⟨gained.consumed, ?_, gained.maximum⟩
  rw [gained.reserved]
  exact Nat.le_add_right _ _

theorem candidates_of_complete
    (built : buildRetentionPlanWithBudget digests policy rows = .ok (plan, budget))
    (complete : plan.moreWork = false) :
    ∃ pinned afterPins,
      validateRetentionPins rows policy.pins (.new policy.limits.maxRows) =
        .ok (pinned, afterPins) ∧
      plan.candidateGenerations =
        (allEligibleGenerations rows
          policy.retainedGenerationsPerSourceSlot pinned).map fun entry => entry.generation := by
  obtain ⟨⟨validated, _, listed, selected, _⟩, candidates, -, moreWork, -⟩ := build_steps built
  rw [moreWork] at complete
  obtain ⟨rfl, all⟩ := selectRetentionCandidates_complete selected complete
  refine ⟨_, _, validated, ?_⟩
  rw [candidates, all, (eligibleRetentionGenerations_eq_ok listed).whole rfl]

theorem eligible_nil_of_no_candidate
    (built : buildRetentionPlanWithBudget digests policy rows = .ok (plan, budget))
    (none : plan.candidateGenerations = []) :
    ∃ pinned afterPins,
      validateRetentionPins rows policy.pins (.new policy.limits.maxRows) =
        .ok (pinned, afterPins) ∧
      allEligibleGenerations rows policy.retainedGenerationsPerSourceSlot pinned = [] := by
  obtain ⟨@⟨_, _, afterRoots, _, _, _, _, _, validated, _, listed, selected, reserves⟩,
    candidates, -⟩ := build_steps built
  rw [candidates] at none
  obtain ⟨rfl, rfl⟩ := selectRetentionCandidates_nil selected none
  refine ⟨_, _, validated, ?_⟩
  have lists := eligibleRetentionGenerations_eq_ok listed
  obtain ⟨fits, _⟩ := RetentionWorkBudget.reserve_eq_ok_iff.mp reserves
  refine lists.none rfl ?_
  have consumed := lists.consumed
  rw [lists.maximum, lists.reserved] at fits
  rw [RetentionWorkBudget.available, RetentionWorkBudget.logicalRows]
  omega

end Planning

section Replanning

variable {digests : RetentionDigests} {policy : GenerationRetentionPolicy} {before after : Store}
  {generations pinned : List Nat}

/-! ## The pins and roots of the next plan -/

variable {view : Nat} {budget : RetentionWorkBudget} {retained : Nat}

/-- Views without collected members are not marked. -/
theorem viewMark_member
    (marked : (retentionMarks before.rows generations).views.contains view = true) :
    ∃ member ∈ before.rows .workspaceViewMembers,
      member.view = view ∧ member.generation ∈ generations := by
  rw [List.contains_iff_mem] at marked
  obtain ⟨row, selected, rfl⟩ := List.mem_map.mp marked
  have conditions := (List.mem_filter.mp selected).2
  rw [Bool.and_eq_true, Bool.and_eq_true, List.any_eq_true] at conditions
  obtain ⟨member, present, agrees⟩ := conditions.1.2
  rw [Bool.and_eq_true, beq_iff_eq, List.contains_iff_mem] at agrees
  exact ⟨member, present, agrees⟩

/-- Folding with functions that agree on the listed values. -/
theorem foldlM_congr {ε σ α : Type} {first second : σ → α → Except ε σ} {items : List α}
    (agree : ∀ item ∈ items, ∀ state, first state item = second state item) (state : σ) :
    items.foldlM first state = items.foldlM second state := by
  induction items generalizing state with
  | nil => rfl
  | cons item rest hypothesis =>
    rw [List.foldlM_cons, List.foldlM_cons, agree item List.mem_cons_self]
    exact congrArg (second state item >>= ·) (funext
          (hypothesis fun other member => agree other (List.mem_cons_of_mem _ member)))

variable (collected : Collected before after generations)

include collected

theorem Collected.validateGenerationPin_eq {generation : Nat} (kept : generation ∉ generations)
    (supervised : Bool) :
    validateGenerationPin after.rows supervised generation =
      validateGenerationPin before.rows supervised generation := by
  refine collected.any_eq (by decide) (fun _ _ => rfl) ?_
  intro row _ pinned
  rw [Bool.and_eq_true, beq_iff_eq] at pinned
  rw [← Bool.not_eq_true]
  intro marked
  have collects := List.contains_iff_mem.mp marked
  rw [pinned.1] at collects
  exact kept collects

theorem Collected.pinView_eq
    (kept : ∀ member ∈ before.rows .workspaceViewMembers, member.view = view →
        member.generation ∉ generations)
    (state : PinnedGenerations) :
    pinView after.rows state view = pinView before.rows state view := by
  have unmarked : (retentionMarks before.rows generations).views.contains view =
        false := by
    rw [← Bool.not_eq_true]
    intro marked
    obtain ⟨member, present, same, collects⟩ := viewMark_member marked
    exact kept member present same collects
  have published :
      ((after.rows .workspaceViews).any fun row =>
          row.view == view && row.lifecycle == .published) =
        (before.rows .workspaceViews).any fun row =>
          row.view == view && row.lifecycle == .published := by
    refine collected.any_eq (by decide) (fun _ _ => rfl) ?_
    intro row _ agrees
    rw [Bool.and_eq_true, beq_iff_eq] at agrees
    change List.contains _ row.view = false
    rw [agrees.1]
    exact unmarked
  have members :
      ((after.rows .workspaceViewMembers).filter fun row =>
          row.view == view) =
        (before.rows .workspaceViewMembers).filter fun row => row.view == view := by
    rw [collected.rows .workspaceViewMembers (by decide), List.filter_filter]
    refine List.filter_congr fun row _ => ?_
    by_cases same : row.view = view
    · have rowUnmarked :
          isMarked (retentionMarks before.rows generations) .workspaceViewMembers row = false := by
        change List.contains _ row.view = false
        rw [same]
        exact unmarked
      simp [same, rowUnmarked]
    · simp [same]
  have listed : viewGenerations after.rows view = viewGenerations before.rows view :=
    by rw [viewGenerations, viewGenerations, members]
  rw [pinView, pinView, published, listed]

/-- The next plan's pins are those of this one. -/
theorem Collected.validateRetentionPins_eq (covered : PinsCovered before.rows policy.pins pinned)
    (unpinned : ∀ generation ∈ generations, generation ∉ pinned) :
    validateRetentionPins after.rows policy.pins budget =
      validateRetentionPins before.rows policy.pins budget := by
  have generation (supervised : Bool) (listed : List Nat)
      (arePinned : ∀ generation ∈ listed, generation ∈ pinned)
      (state : PinnedGenerations) :
      listed.foldlM (pinGeneration after.rows supervised) state =
        listed.foldlM (pinGeneration before.rows supervised) state := by
    refine foldlM_congr (fun generation member state => ?_) state
    rw [pinGeneration, pinGeneration,
      collected.validateGenerationPin_eq fun collects =>
        unpinned generation collects (arePinned generation member)]
  have views (state : PinnedGenerations) :
      policy.pins.workspaceViews.foldlM (pinView after.rows) state =
        policy.pins.workspaceViews.foldlM (pinView before.rows) state := by
    refine foldlM_congr (fun view listed state => ?_) state
    refine collected.pinView_eq (fun member present same collects => ?_) _
    exact unpinned _ collects (covered.members member present (same ▸ listed))
  unfold validateRetentionPins
  simp only [generation false _ covered.explicit, generation true _ covered.supervised, views]

theorem Collected.length_filter_le {table : StoreTable}
    (different : table ≠ .retentionCollectionAudit) {condition condition' : StoreRow table → Bool}
    (weaker : ∀ row ∈ after.rows table, condition' row = true → condition row = true) :
    ((after.rows table).filter condition').length ≤
      ((before.rows table).filter condition).length := by
  rw [← List.countP_eq_length_filter, ← List.countP_eq_length_filter]
  refine Nat.le_trans (List.countP_mono_left weaker) ?_
  rw [collected.rows table different]
  exact List.filter_sublist.countP_le

/-- The floor that the next plan records is no larger. -/
theorem Collected.length_retainedFloorRoots_le
    (above : AboveFloor before.rows retained generations) :
    (retainedFloorRoots after.rows retained).length ≤
      (retainedFloorRoots before.rows retained).length := by
  simp +decide only [retainedFloorRoots, List.length_map,
    List.length_insertionSort, List.length_flatMap,
    collected.unchanged]
  refine List.sum_le_sum fun slot _ => ?_
  refine
    @Collected.length_filter_le _ _ _ collected .indexGenerations (by decide) _ _ fun row _ => ?_
  simp only [Bool.and_eq_true, decide_eq_true_eq]
  rintro ⟨kept, within⟩
  refine ⟨kept, ?_⟩
  have rank := collected.rank_iff above row
  omega

/-- The next plan records at most the roots of this one. -/
theorem Collected.length_retentionRoots_le
    (above : AboveFloor before.rows retained generations) :
    (retentionRoots after.rows retained).length ≤ (retentionRoots before.rows retained).length := by
  have floor := collected.length_retainedFloorRoots_le above
  have receipts :
      ((after.rows .sourceSlotGenerationReceipts).filter (receiptIsCurrent after.rows)).length ≤
        ((before.rows .sourceSlotGenerationReceipts).filter
          (receiptIsCurrent before.rows)).length := by
    refine @Collected.length_filter_le _ _ _ collected
        .sourceSlotGenerationReceipts (by decide) _ _ fun receipt _ => ?_
    simp +decide only [receiptIsCurrent, collected.unchanged]
    exact id
  have sources :
      ((after.rows .generationGraphSources).filter fun row =>
          row.sourceGeneration != row.generation).length ≤
        ((before.rows .generationGraphSources).filter fun row =>
          row.sourceGeneration != row.generation).length :=
    @Collected.length_filter_le _ _ _ collected .generationGraphSources
      (by decide) _ _ fun _ _ => id
  have overlays :
      (after.rows .scipOverlayReceipts).length ≤ (before.rows .scipOverlayReceipts).length := by
    rw [collected.rows .scipOverlayReceipts (by decide)]
    exact List.length_filter_le _ _
  have pointers :
      (after.rows .activeScipOverlays).length ≤ (before.rows .activeScipOverlays).length := by
    rw [collected.rows .activeScipOverlays (by decide)]
    exact List.length_filter_le _ _
  simp +decide only [retentionRoots, enforcedRetentionRoots, rootRows,
    List.length_append, List.length_map, List.length_insertionSort,
    collected.unchanged]
  omega

/-- A store without an eligible generation yields a plan without candidates
where the store before the collection yielded one. -/
theorem Collected.replans {plan : RetentionPlan} {afterPins : RetentionWorkBudget}
    (built : buildRetentionPlanWithBudget digests policy before.rows = .ok (plan, budget))
    (validated :
      validateRetentionPins before.rows policy.pins (.new policy.limits.maxRows) =
        .ok (pinned, afterPins))
    (unpinned : ∀ generation ∈ generations, generation ∉ pinned)
    (above : AboveFloor before.rows policy.retainedGenerationsPerSourceSlot generations)
    (none : allEligibleGenerations after.rows policy.retainedGenerationsPerSourceSlot pinned = []) :
    ∃ next, buildRetentionPlan digests policy after.rows = .ok next ∧
      next.candidateGenerations = [] := by
  have covered := (validateRetentionPins_covers validated).1
  have validatedNext := (collected.validateRetentionPins_eq covered unpinned).trans validated
  have fewer := collected.length_retentionRoots_le above
  obtain ⟨⟨same, consumed, listed, selected, reserves⟩, -⟩ := build_steps built
  rw [validated] at same
  cases same
  obtain ⟨_, _, _, charged, maximum, reserved⟩ := eligibleRetentionGenerations_eq_ok listed
  obtain ⟨selectedConsumed, selectedReserved, selectedMaximum⟩ :=
    selectRetentionCandidates_budget selected
  obtain ⟨fits, _⟩ := RetentionWorkBudget.reserve_eq_ok_iff.mp reserves
  obtain ⟨_, rfl⟩ := RetentionWorkBudget.consume_eq_ok_iff.mp consumed
  dsimp only at charged maximum reserved
  have consumedNext :
      afterPins.consume (retentionRoots after.rows policy.retainedGenerationsPerSourceSlot).length =
        .ok _ :=
    RetentionWorkBudget.consume_eq_ok_iff.mpr ⟨by omega, rfl⟩
  have fitsNext := (RetentionWorkBudget.consume_eq_ok_iff.mp consumedNext).1
  obtain ⟨cut, listedNext⟩ :=
    @eligible_of_none _ { afterPins with consumed := _ } _ _ none fitsNext
  obtain ⟨next, nextBuilt, candidates⟩ := @build_of_steps digests _ _ _
      ⟨validatedNext, consumedNext, listedNext, rfl,
        RetentionWorkBudget.reserve_eq_ok_iff.mpr ⟨by dsimp only; omega, rfl⟩⟩
  exact ⟨next, buildRetentionPlan_eq_ok_iff.mpr ⟨_, nextBuilt⟩, candidates⟩

end Replanning

end RepoWitness
