import RepoWitness.RetentionSweep

namespace RepoWitness

/-!
# What a retention plan says

A plan that is built has candidates that are all eligible, an estimate that is
the sum of theirs, and a budget that holds twice that sum and one audit row.
-/

namespace RetentionWorkBudget

variable {budget after : RetentionWorkBudget} {rows : Nat}

theorem withinLimit_eq_ok_iff : budget.withinLimit = .ok after ↔
      budget.consumed + budget.reserved ≤ budget.maximum ∧
        budget = after := by
  unfold withinLimit logicalRows
  split
  next fits => simp [fits]
  next exceeds => simp [exceeds]

theorem consume_eq_ok_iff : budget.consume rows = .ok after ↔
      budget.consumed + rows + budget.reserved ≤ budget.maximum ∧
        { budget with consumed := budget.consumed + rows } = after := by
  unfold consume
  exact withinLimit_eq_ok_iff

theorem reserve_eq_ok_iff : budget.reserve rows = .ok after ↔
      budget.consumed + (budget.reserved + rows) ≤ budget.maximum ∧
        { budget with reserved := budget.reserved + rows } = after := by
  unfold reserve
  exact withinLimit_eq_ok_iff

end RetentionWorkBudget

section Pins

variable {rows : StoreRows}

/-- Pins only grow, and recording them only consumes. -/
def PinProgress (before after : PinnedGenerations) : Prop :=
  before.1 ⊆ after.1 ∧ after.2.maximum = before.2.maximum ∧ after.2.reserved = before.2.reserved

instance : Std.Refl PinProgress where
  refl _ := ⟨fun _ member => member, rfl, rfl⟩

instance : IsTrans PinnedGenerations PinProgress where
  trans _ _ _ first second := ⟨fun _ member => second.1 (first.1 member),
      second.2.1.trans first.2.1, second.2.2.trans first.2.2⟩

variable {generation : Nat} {budget : RetentionWorkBudget} {before after : PinnedGenerations}

theorem pinProgress_of_consume {state : PinnedGenerations}
    (consumed : state.2.consume 1 = .ok budget) :
    PinProgress state (state.1.insert generation, budget) ∧
      generation ∈ state.1.insert generation := by
  obtain ⟨_, rfl⟩ := RetentionWorkBudget.consume_eq_ok_iff.mp consumed
  exact ⟨⟨fun _ member => List.mem_insert_of_mem member, rfl, rfl⟩, List.mem_insert_self⟩

theorem pinGeneration_progress {supervised : Bool}
    (pinned : pinGeneration rows supervised before generation = .ok after) :
    PinProgress before after ∧ generation ∈ after.1 := by
  unfold pinGeneration at pinned
  split at pinned
  · obtain ⟨budget, consumed, result⟩ := except_bind_eq_ok_iff.mp pinned
    cases result
    exact pinProgress_of_consume consumed
  · cases pinned

theorem pinViewMember_progress (pinned : pinViewMember before generation = .ok after) :
    PinProgress before after ∧ generation ∈ after.1 := by
  unfold pinViewMember at pinned
  obtain ⟨budget, consumed, result⟩ := except_bind_eq_ok_iff.mp pinned
  split at result
  · cases result
    exact pinProgress_of_consume consumed
  · cases result

theorem mem_viewGenerations {member : WorkspaceViewMemberRow}
    (present : member ∈ rows .workspaceViewMembers) :
    member.generation ∈ viewGenerations rows member.view := by
  unfold viewGenerations
  refine List.mem_map.mpr ⟨member, ?_, rfl⟩
  rw [List.mem_insertionSort, List.mem_filter]
  exact ⟨present, by simp⟩

theorem pinView_progress {view : Nat} (pinned : pinView rows before view = .ok after) :
    PinProgress before after ∧ ∀ generation ∈ viewGenerations rows view, generation ∈ after.1 := by
  unfold pinView at pinned
  split at pinned
  · obtain ⟨budget, consumed, rest⟩ := except_bind_eq_ok_iff.mp pinned
    obtain ⟨state, folded, result⟩ := except_bind_eq_ok_iff.mp rest
    split at result
    · cases result
    · cases result
      obtain ⟨_, rfl⟩ := RetentionWorkBudget.consume_eq_ok_iff.mp consumed
      obtain ⟨progress, covered⟩ :=
        foldlM_progress PinProgress (fun generation state => generation ∈ state.1)
          (fun _ _ _ step => pinViewMember_progress step)
          (fun _ _ _ progress member => progress.1 member) folded
      exact ⟨progress, covered⟩
  · cases pinned

structure PinsCovered (rows : StoreRows) (pins : RetentionPins) (pinned : List Nat) : Prop where
  explicit : ∀ generation ∈ pins.explicitGenerations, generation ∈ pinned
  supervised : ∀ generation ∈ pins.supervisedGenerations, generation ∈ pinned
  members : ∀ member ∈ rows .workspaceViewMembers,
      member.view ∈ pins.workspaceViews → member.generation ∈ pinned

theorem validateRetentionPins_covers {pins : RetentionPins}
    {result : PinnedGenerations} (validated : validateRetentionPins rows pins budget = .ok result) :
    PinsCovered rows pins result.1 ∧
      result.2.maximum = budget.maximum ∧
      result.2.reserved = budget.reserved := by
  unfold validateRetentionPins at validated
  obtain ⟨explicit, explicitFold, rest⟩ := except_bind_eq_ok_iff.mp validated
  obtain ⟨supervised, supervisedFold, viewFold⟩ := except_bind_eq_ok_iff.mp rest
  have pinnedKept :
      ∀ before (generation : Nat) after, PinProgress before after →
        generation ∈ before.1 → generation ∈ after.1 :=
    fun _ _ _ progress member => progress.1 member
  obtain ⟨explicitProgress, explicitPinned⟩ :=
    foldlM_progress PinProgress (fun generation state => generation ∈ state.1)
      (fun _ _ _ step => pinGeneration_progress step)
      pinnedKept explicitFold
  obtain ⟨supervisedProgress, supervisedPinned⟩ :=
    foldlM_progress PinProgress (fun generation state => generation ∈ state.1)
      (fun _ _ _ step => pinGeneration_progress step)
      pinnedKept supervisedFold
  obtain ⟨viewProgress, viewsPinned⟩ := foldlM_progress PinProgress
      (fun view state => ∀ generation ∈ viewGenerations rows view, generation ∈ state.1)
      (fun _ _ _ step => pinView_progress step)
      (fun _ _ _ progress covered generation member =>
        progress.1 (covered generation member)) viewFold
  refine ⟨⟨?_, ?_, ?_⟩, ?_, ?_⟩
  · intro generation member
    exact viewProgress.1 (supervisedProgress.1 (explicitPinned generation member))
  · intro generation member
    exact viewProgress.1 (supervisedPinned generation member)
  · intro member present listed
    exact viewsPinned member.view listed member.generation (mem_viewGenerations present)
  · rw [viewProgress.2.1, supervisedProgress.2.1, explicitProgress.2.1]
  · rw [viewProgress.2.2, supervisedProgress.2.2, explicitProgress.2.2]

end Pins

section Eligible

variable {rows : StoreRows} {retained : Nat} {pinned : List Nat}

theorem mem_allEligibleGenerations {eligible : EligibleRetentionGeneration}
    (member : eligible ∈ allEligibleGenerations rows retained pinned) :
    ∃ row ∈ rows .indexGenerations, row.generation = eligible.generation ∧
        isRetentionEligible rows retained pinned row = true := by
  unfold allEligibleGenerations at member
  rw [List.mem_insertionSort, List.mem_filterMap] at member
  obtain ⟨row, present, selected⟩ := member
  split at selected
  next isEligible =>
    obtain ⟨slot, _, rfl⟩ := Option.map_eq_some_iff.mp selected
    exact ⟨row, present, rfl, isEligible⟩
  next => cases selected

/-- Rows selected with their own key have keys in the order of the rows. -/
theorem map_filterMap_sublist {α β γ : Type} {select : α → Option β} {key : α → γ}
    {selectedKey : β → γ}
    (agrees : ∀ item chosen, select item = some chosen → selectedKey chosen = key item)
    (items : List α) :
    ((items.filterMap select).map selectedKey).Sublist (items.map key) := by
  induction items with
  | nil => exact .slnil
  | cons item rest hypothesis =>
    rw [List.map_cons]
    cases chosen : select item with
    | none =>
      rw [List.filterMap_cons_none chosen]
      exact hypothesis.cons _
    | some value =>
      rw [List.filterMap_cons_some chosen, List.map_cons, agrees item value chosen]
      exact hypothesis.cons_cons _

theorem allEligibleGenerations_nodup
    (distinct : ((rows .indexGenerations).map fun row => row.generation).Nodup) :
    ((allEligibleGenerations rows retained pinned).map
      fun eligible => eligible.generation).Nodup := by
  unfold allEligibleGenerations
  refine (((List.perm_insertionSort _ _).map _).nodup_iff).mpr ?_
  refine distinct.sublist (map_filterMap_sublist ?_ _)
  intro row chosen selected
  split at selected
  · obtain ⟨slot, _, rfl⟩ := Option.map_eq_some_iff.mp selected
    rfl
  · cases selected

/-- A bounded list of eligible generations and what it cost. -/
structure ListsEligible (rows : StoreRows) (retained : Nat) (pinned : List Nat)
    (budget : RetentionWorkBudget) (eligible : List EligibleRetentionGeneration) (truncated : Bool)
    (after : RetentionWorkBudget) : Prop where
  leading : eligible <+: allEligibleGenerations rows retained pinned
  whole : truncated = false → eligible = allEligibleGenerations rows retained pinned
  none :
    eligible = [] → 0 < budget.available → allEligibleGenerations rows retained pinned = []
  consumed : budget.consumed ≤ after.consumed
  maximum : after.maximum = budget.maximum
  reserved : after.reserved = budget.reserved

theorem eligibleRetentionGenerations_eq_ok {budget after : RetentionWorkBudget}
    {eligible : List EligibleRetentionGeneration} {truncated : Bool}
    (listed :
      eligibleRetentionGenerations rows retained pinned budget = .ok (eligible, truncated, after)) :
    ListsEligible rows retained pinned budget eligible truncated after := by
  unfold eligibleRetentionGenerations at listed
  dsimp only at listed
  split at listed
  next zero =>
    cases listed
    rw [maxRetentionGenerationCandidates] at zero
    exact ⟨List.nil_prefix, by simp, by omega, Nat.le_refl _, rfl, rfl⟩
  next positive =>
    obtain ⟨consumed, consumes, result⟩ := except_bind_eq_ok_iff.mp listed
    cases result
    obtain ⟨_, rfl⟩ := RetentionWorkBudget.consume_eq_ok_iff.mp consumes
    refine ⟨List.take_prefix _ _, fun short => ?_, fun empty _ => ?_, Nat.le_add_right _ _,
      rfl, rfl⟩
    · rw [beq_eq_false_iff_ne, List.length_take] at short
      exact List.take_of_length_le (by omega)
    · exact (List.take_eq_nil_iff.mp empty).resolve_left positive

end Eligible

section Selection

variable {rows : StoreRows}

def estimatedRowsOf (rows : StoreRows) (generations : List Nat) : Nat :=
  (generations.map (estimatedRows rows)).sum

structure SelectionGained (rows : StoreRows) (added : List Nat)
    (before after : RetentionCandidateSelection × RetentionWorkBudget) :
    Prop where
  candidates : after.1.candidates = before.1.candidates ++ added
  estimated : after.1.estimatedRows = before.1.estimatedRows + estimatedRowsOf rows added
  reserved : after.2.reserved = before.2.reserved + 2 * estimatedRowsOf rows added
  consumed : after.2.consumed = before.2.consumed
  maximum : after.2.maximum = before.2.maximum

variable {before after : RetentionCandidateSelection × RetentionWorkBudget} {generation : Nat}
  {limits : RetentionLimits} {selection : RetentionCandidateSelection}
  {budget reserved : RetentionWorkBudget}

theorem SelectionGained.nothing (candidates : after.1.candidates = before.1.candidates)
    (estimated : after.1.estimatedRows = before.1.estimatedRows) (budget : after.2 = before.2) :
    SelectionGained rows [] before after where
  candidates := by simp [candidates]
  estimated := by simp [estimated, estimatedRowsOf]
  reserved := by simp [budget, estimatedRowsOf]
  consumed := by rw [budget]
  maximum := by rw [budget]

theorem SelectionGained.cons {added : List Nat}
    {middle : RetentionCandidateSelection × RetentionWorkBudget}
    (first : SelectionGained rows [generation] before middle)
    (later : SelectionGained rows added middle after) :
    SelectionGained rows (generation :: added) before after where
  candidates := by
    rw [later.candidates, first.candidates]
    simp
  estimated := by
    rw [later.estimated, first.estimated]
    simp [estimatedRowsOf, Nat.add_assoc]
  reserved := by
    rw [later.reserved, first.reserved]
    simp [estimatedRowsOf]
    omega
  consumed := later.consumed.trans first.consumed
  maximum := later.maximum.trans first.maximum

theorem estimateRetentionGeneration_rows {estimate : Nat × Nat}
    (estimated : estimateRetentionGeneration rows generation = .ok estimate) :
    estimate.1 = estimatedRows rows generation := by
  unfold estimateRetentionGeneration at estimated
  obtain ⟨row, _, afterRow⟩ := except_bind_eq_ok_iff.mp estimated
  obtain ⟨snapshot, _, afterSnapshot⟩ := except_bind_eq_ok_iff.mp afterRow
  dsimp only at afterSnapshot
  split at afterSnapshot
  · have same := Except.ok.inj afterSnapshot
    rw [← same]
  · cases afterSnapshot

/-- A generation is added without a word, or left out after another one. -/
theorem addRetentionCandidate_eq_ok {next : RetentionCandidateSelection} {added : Bool}
    (result :
      addRetentionCandidate rows limits generation selection budget = .ok (added, next, reserved)) :
    (added = true ∧ next.moreWork = selection.moreWork ∧
        SelectionGained rows [generation] (selection, budget) (next, reserved)) ∨
      (added = false ∧ selection.candidates ≠ [] ∧ reserved = budget ∧
        next = { selection with moreWork := true }) := by
  unfold addRetentionCandidate at result
  obtain ⟨estimate, estimated, rest⟩ := except_bind_eq_ok_iff.mp result
  have counted := estimateRetentionGeneration_rows estimated
  dsimp only at rest
  split at rest
  · cases rest
  · split at rest
    · split at rest
      next => cases rest
      next nonempty =>
        cases rest
        exact .inr ⟨rfl, by simpa using nonempty, rfl, rfl⟩
    · obtain ⟨next, reserves, same⟩ := except_bind_eq_ok_iff.mp rest
      cases same
      obtain ⟨_, rfl⟩ := RetentionWorkBudget.reserve_eq_ok_iff.mp reserves
      exact .inl ⟨rfl, rfl,
        { candidates := rfl, estimated := by simp [estimatedRowsOf, counted]
          reserved := by simp [estimatedRowsOf, counted]
          consumed := rfl
          maximum := rfl }⟩

/-- The selected generations are the first eligible ones: all of them unless
more work is reported, and at least one if there is any. -/
theorem addRetentionCandidates_eq_ok
    {eligible : List EligibleRetentionGeneration} {final : RetentionCandidateSelection}
    (result :
      addRetentionCandidates rows limits eligible selection budget = .ok (final, reserved)) :
    ∃ added, added <+: (eligible.map fun entry => entry.generation) ∧
      SelectionGained rows added (selection, budget) (final, reserved) ∧
      (final.moreWork = false →
        selection.moreWork = false ∧ added = eligible.map fun entry => entry.generation) ∧
      (eligible ≠ [] → final.candidates ≠ []) := by
  induction eligible generalizing selection budget with
  | nil =>
    cases result
    exact ⟨[], List.nil_prefix, .nothing rfl rfl rfl, fun complete => ⟨complete, rfl⟩, by simp⟩
  | cons candidate rest hypothesis =>
    unfold addRetentionCandidates at result
    split at result
    next full =>
      cases result
      refine ⟨[], List.nil_prefix, .nothing rfl rfl rfl, by simp, fun _ empty => ?_⟩
      have some := limits.candidatesBounded.1
      rw [List.length_eq_zero_iff.mpr empty] at full
      omega
    next =>
      obtain ⟨⟨wasAdded, next, middle⟩, first, later⟩ := except_bind_eq_ok_iff.mp result
      dsimp only at later
      rcases addRetentionCandidate_eq_ok first with
        ⟨rfl, kept, gained⟩ | ⟨rfl, nonempty, rfl, rfl⟩
      · rw [if_pos rfl] at later
        obtain ⟨added, leading, gainedLater, complete, _⟩ := hypothesis later
        have whole := gained.cons gainedLater
        refine ⟨candidate.generation :: added, List.prefix_cons_inj _ |>.mpr leading, whole,
          fun isComplete => ?_, fun _ empty => by simpa [empty] using whole.candidates⟩
        obtain ⟨told, all⟩ := complete isComplete
        exact ⟨kept ▸ told, by rw [all, List.map_cons]⟩
      · cases later
        exact ⟨[], List.nil_prefix, .nothing rfl rfl rfl, by simp, fun _ => nonempty⟩

theorem selectRetentionCandidates_eq_ok {eligible : List EligibleRetentionGeneration}
    {truncated : Bool} {final : RetentionCandidateSelection}
    (selected :
      selectRetentionCandidates rows limits eligible truncated budget = .ok (final, reserved)) :
    ∃ chosen,
      addRetentionCandidates rows limits eligible ⟨[], 0, 0, truncated⟩ budget =
        .ok (chosen, reserved) ∧
      final =
        { chosen with
          moreWork := chosen.moreWork || chosen.candidates.length < eligible.length } := by
  unfold selectRetentionCandidates at selected
  obtain ⟨⟨chosen, middle⟩, adding, result⟩ := except_bind_eq_ok_iff.mp selected
  cases result
  exact ⟨chosen, adding, rfl⟩

end Selection

section Plan

/-- What a built plan and its budget say about the contents. -/
structure PlannedRetention (policy : GenerationRetentionPolicy) (rows : StoreRows)
    (plan : RetentionPlan) (budget : RetentionWorkBudget) : Prop where
  eligible : ∃ pinned, PinsCovered rows policy.pins pinned ∧
      ∀ generation ∈ plan.candidateGenerations, ∃ row ∈ rows .indexGenerations,
          row.generation = generation ∧
            isRetentionEligible rows policy.retainedGenerationsPerSourceSlot pinned row = true
  distinct :
    ((rows .indexGenerations).map fun row => row.generation).Nodup → plan.candidateGenerations.Nodup
  estimated : plan.estimatedRows = estimatedRowsOf rows plan.candidateGenerations
  maximum : budget.maximum = policy.limits.maxRows
  reserved : budget.reserved = 2 * plan.estimatedRows + 1
  fits : budget.consumed + budget.reserved ≤ budget.maximum

variable {digests : RetentionDigests} {policy : GenerationRetentionPolicy} {rows : StoreRows}
  {plan : RetentionPlan}

/-- The calls behind a plan. -/
structure PlanSteps (policy : GenerationRetentionPolicy) (rows : StoreRows)
    (budget : RetentionWorkBudget) where
  {pinned : List Nat}
  {afterPins afterRoots afterEligible afterSelection : RetentionWorkBudget}
  {eligible : List EligibleRetentionGeneration}
  {truncated : Bool}
  {selection : RetentionCandidateSelection}
  validated :
    validateRetentionPins rows policy.pins (.new policy.limits.maxRows) = .ok (pinned, afterPins)
  consumed :
    afterPins.consume (retentionRoots rows policy.retainedGenerationsPerSourceSlot).length =
      .ok afterRoots
  listed :
    eligibleRetentionGenerations rows policy.retainedGenerationsPerSourceSlot pinned afterRoots =
      .ok (eligible, truncated, afterEligible)
  selected :
    selectRetentionCandidates rows policy.limits eligible truncated afterEligible =
      .ok (selection, afterSelection)
  reserves : afterSelection.reserve 1 = .ok budget

variable {budget : RetentionWorkBudget}

theorem build_steps
    (built : buildRetentionPlanWithBudget digests policy rows = .ok (plan, budget)) :
    ∃ steps : PlanSteps policy rows budget,
      plan.candidateGenerations = steps.selection.candidates ∧
      plan.estimatedRows = steps.selection.estimatedRows ∧
      plan.moreWork = steps.selection.moreWork ∧ plan.policyDigest = digests.policy policy := by
  unfold buildRetentionPlanWithBudget at built
  obtain ⟨_, validated, rest⟩ := except_bind_eq_ok_iff.mp built
  obtain ⟨_, consumed, rest⟩ := except_bind_eq_ok_iff.mp rest
  obtain ⟨_, listed, rest⟩ := except_bind_eq_ok_iff.mp rest
  obtain ⟨_, selected, rest⟩ := except_bind_eq_ok_iff.mp rest
  obtain ⟨_, reserves, rest⟩ := except_bind_eq_ok_iff.mp rest
  cases rest
  exact ⟨⟨validated, consumed, listed, selected, reserves⟩, rfl, rfl, rfl, rfl⟩

theorem planned_of_build
    (built : buildRetentionPlanWithBudget digests policy rows = .ok (plan, budget)) :
    PlannedRetention policy rows plan budget ∧ plan.policyDigest = digests.policy policy := by
  obtain ⟨steps, chose, estimates, -, digest⟩ := build_steps built
  obtain ⟨covered, pinsMaximum, unreserved⟩ := validateRetentionPins_covers steps.validated
  obtain ⟨_, spent⟩ := RetentionWorkBudget.consume_eq_ok_iff.mp steps.consumed
  have lists := eligibleRetentionGenerations_eq_ok steps.listed
  have sublist := lists.leading.sublist
  have eligibleMaximum := lists.maximum
  have eligibleReserved := lists.reserved
  obtain ⟨chosen, adding, whole⟩ := selectRetentionCandidates_eq_ok steps.selected
  obtain ⟨added, leading, gained, -⟩ := addRetentionCandidates_eq_ok adding
  obtain ⟨fits, final⟩ := RetentionWorkBudget.reserve_eq_ok_iff.mp steps.reserves
  rw [whole] at chose estimates
  have candidates : plan.candidateGenerations = added :=
    chose.trans (by simpa using gained.candidates)
  have estimated : plan.estimatedRows = estimatedRowsOf rows added :=
    estimates.trans (by simpa using gained.estimated)
  rw [← spent] at eligibleMaximum eligibleReserved
  rw [← final]
  refine ⟨⟨⟨steps.pinned, covered, ?_⟩, ?_, ?_, ?_, ?_, fits⟩, digest⟩
  · intro generation member
    rw [candidates] at member
    obtain ⟨entry, entryMember, rfl⟩ := List.mem_map.mp (leading.subset member)
    exact mem_allEligibleGenerations (sublist.subset entryMember)
  · intro distinct
    rw [candidates]
    exact (allEligibleGenerations_nodup distinct).sublist (leading.sublist.trans (sublist.map _))
  · rw [candidates, estimated]
  · exact gained.maximum.trans (eligibleMaximum.trans pinsMaximum)
  · have none : steps.afterEligible.reserved = 0 := eligibleReserved.trans unreserved
    have rows := gained.reserved
    dsimp only at rows ⊢
    omega

theorem buildRetentionPlan_eq_ok_iff : buildRetentionPlan digests policy rows = .ok plan ↔
      ∃ budget, buildRetentionPlanWithBudget digests policy rows =
        .ok (plan, budget) := by
  unfold buildRetentionPlan
  cases buildRetentionPlanWithBudget digests policy rows with
  | error error => simp [Except.map]
  | ok built =>
    obtain ⟨builtPlan, budget⟩ := built
    simp [Except.map]

end Plan

end RepoWitness
