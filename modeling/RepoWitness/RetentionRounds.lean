import RepoWitness.RetentionReplanning
import RepoWitness.TransitionRun

namespace RepoWitness

open Transaction

/-!
# Rounds of collection

A collection frees the generations that only the graphs of collected
generations read.  They were not eligible when the plan was made, so a plan
that lists every eligible generation and says that no work is left can leave
work.  It leaves none exactly when no generation is freed so.  Every round
that is not a replay deletes a generation, so the rounds come to an end.
-/

section Freeing

variable {retained : Nat} {pinned : List Nat}

variable {rows : StoreRows} {row : IndexGenerationRow}

/-- Nothing is listed when no eligible row belongs to a source slot. -/
theorem allEligibleGenerations_eq_nil_iff : allEligibleGenerations rows retained pinned = [] ↔
      ∀ row ∈ rows .indexGenerations,
        isRetentionEligible rows retained pinned row = true →
          leastSourceSlot rows row.workspace = none := by
  unfold allEligibleGenerations
  rw [← List.length_eq_zero_iff, List.length_insertionSort,
    List.length_eq_zero_iff, List.filterMap_eq_nil_iff]
  refine forall₂_congr fun row _ => ?_
  split
  next isEligible =>
    rw [Option.map_eq_none_iff]
    exact ⟨fun none _ => none, fun none => none isEligible⟩
  next ineligible => exact ⟨fun _ isEligible => absurd isEligible ineligible, fun _ => rfl⟩

/-- The generations a plan without limits lists. -/
def eligibleNumbers (rows : StoreRows) (retained : Nat) (pinned : List Nat) : List Nat :=
  (allEligibleGenerations rows retained pinned).map fun entry => entry.generation

theorem mem_eligibleNumbers_of_slot {slot : Bytes32} (present : row ∈ rows .indexGenerations)
    (isEligible : isRetentionEligible rows retained pinned row = true)
    (bound : leastSourceSlot rows row.workspace = some slot) :
    row.generation ∈ eligibleNumbers rows retained pinned := by
  refine List.mem_map.mpr ⟨⟨row.generation, slot, row.sourceEpoch⟩, ?_, rfl⟩
  rw [allEligibleGenerations, List.mem_insertionSort, List.mem_filterMap]
  refine ⟨row, present, ?_⟩
  rw [if_pos isEligible, bound, Option.map_some]

variable {before after : Store}

theorem eligible_of_mem_eligibleNumbers (present : row ∈ before.rows .indexGenerations)
    (listed : row.generation ∈ eligibleNumbers before.rows retained pinned) :
    isRetentionEligible before.rows retained pinned row = true := by
  obtain ⟨entry, member, same⟩ := List.mem_map.mp listed
  obtain ⟨other, otherPresent, agrees, isEligible⟩ := mem_allEligibleGenerations member
  rw [generation_eq_of_generation before present otherPresent (same.symm.trans agrees.symm)]
  exact isEligible

/-- An eligible generation is above the floor and not pinned. -/
theorem bounds_of_mem_eligibleNumbers (present : row ∈ before.rows .indexGenerations)
    (listed : row.generation ∈ eligibleNumbers before.rows retained pinned) :
    retained < retainedRank before.rows row ∧ row.generation ∉ pinned := by
  have isEligible := eligible_of_mem_eligibleNumbers present listed
  simp only [isRetentionEligible, Bool.and_eq_true, decide_eq_true_eq,
    Bool.not_eq_true', List.contains_eq_mem, decide_eq_false_iff_not]
    at isEligible
  exact ⟨isEligible.1.1.1.1.1.2, isEligible.2⟩

/-- After every eligible generation is collected, the eligible ones are those
that only the collected graphs kept. -/
theorem Collected.eligible_nil_iff
    (collected : Collected before after (eligibleNumbers before.rows retained pinned)) :
    allEligibleGenerations after.rows retained pinned = [] ↔
      ∀ row ∈ before.rows .indexGenerations, isFreed before.rows retained pinned
          (eligibleNumbers before.rows retained pinned) row = false := by
  have above :
      AboveFloor before.rows retained (eligibleNumbers before.rows retained pinned) :=
    fun row present listed =>
      (bounds_of_mem_eligibleNumbers present (List.contains_iff_mem.mp listed)).1
  have stays : ∀ {row : IndexGenerationRow},
        row.generation ∉ eligibleNumbers before.rows retained pinned →
          (isRetentionEligible after.rows retained pinned row = true ↔
            isUnreferenced before.rows retained pinned row = true ∧
              isReadOnlyBy before.rows (eligibleNumbers before.rows retained pinned)
                row.generation = true) := by
    intro row kept
    rw [isRetentionEligible_iff, collected.isUnreferenced_iff above kept,
      collected.isCrossGenerationSource_eq, Bool.not_eq_false']
  rw [allEligibleGenerations_eq_nil_iff]
  constructor
  · intro none row present
    rw [← Bool.not_eq_true]
    intro freed
    simp only [isFreed, Bool.and_eq_true] at freed
    obtain ⟨⟨⟨unreferenced, read⟩, readOnly⟩, bound⟩ := freed
    have kept : row.generation ∉ eligibleNumbers before.rows retained pinned := by
      intro listed
      have unread := (isRetentionEligible_iff.mp (eligible_of_mem_eligibleNumbers present listed)).2
      rw [read] at unread
      cases unread
    have survives : row ∈ after.rows .indexGenerations := by
      refine (collected.mem_iff (by decide)).mpr ⟨present, ?_⟩
      rw [← Bool.not_eq_true]
      exact fun marked => kept (List.contains_iff_mem.mp marked)
    have unbound := none row survives ((stays kept).mpr ⟨unreferenced, readOnly⟩)
    rw [collected.leastSourceSlot_eq] at unbound
    rw [unbound] at bound
    cases bound
  · intro unfreed row survives isEligible
    obtain ⟨present, unmarked⟩ := (collected.mem_iff (by decide)).mp survives
    have kept : row.generation ∉ eligibleNumbers before.rows retained pinned := by
      intro listed
      have marked :
          isMarked (retentionMarks before.rows (eligibleNumbers before.rows retained pinned))
              .indexGenerations row = true :=
        List.contains_iff_mem.mpr listed
      rw [unmarked] at marked
      cases marked
    obtain ⟨unreferenced, readOnly⟩ := (stays kept).mp isEligible
    rw [collected.leastSourceSlot_eq]
    cases bound : leastSourceSlot before.rows row.workspace with
    | none => rfl
    | some slot =>
      -- A generation that no graph read was eligible before already.
      have read : isCrossGenerationSource before.rows row.generation = true := by
        refine eq_true_of_ne_false fun unread => kept ?_
        exact mem_eligibleNumbers_of_slot present
            (isRetentionEligible_iff.mpr ⟨unreferenced, unread⟩) bound
      have freed := unfreed row present
      rw [isFreed, unreferenced, read, readOnly, bound] at freed
      cases freed

end Freeing

section Rounds

variable {digests : RetentionDigests} {policy : GenerationRetentionPolicy} {before after : Store}
  {plan : RetentionPlan}

/-- Collecting what the policy lets be collected frees a further
generation. -/
def freesGeneration (policy : GenerationRetentionPolicy) (rows : StoreRows) : Bool :=
  match validateRetentionPins rows policy.pins (.new policy.limits.maxRows) with
  | .error _ => false
  | .ok (pinned, _) =>
    (rows .indexGenerations).any
      (isFreed rows policy.retainedGenerationsPerSourceSlot pinned
        (eligibleNumbers rows policy.retainedGenerationsPerSourceSlot pinned))

/-- The next plan under the policy has nothing to collect. -/
def IsSettled (digests : RetentionDigests) (policy : GenerationRetentionPolicy)
    (store : Store) : Prop :=
  ∃ next, buildRetentionPlan digests policy store.rows = .ok next ∧ next.candidateGenerations = []

/-- A collection under the plan's digest is on record. -/
def isRecorded (digests : RetentionDigests) (policy : GenerationRetentionPolicy) (store : Store)
    (plan : RetentionPlan) : Bool :=
  (loadAppliedRetention store.rows (digests.policy policy) plan.planDigest).isSome

variable {rows : StoreRows} {budget : RetentionWorkBudget} {outcome : RetentionApplyOutcome}

theorem freesGeneration_of_validated {pinned : List Nat} {afterPins : RetentionWorkBudget}
    (validated :
      validateRetentionPins rows policy.pins (.new policy.limits.maxRows) =
        .ok (pinned, afterPins)) :
    freesGeneration policy rows = false ↔ ∀ row ∈ rows .indexGenerations,
        isFreed rows policy.retainedGenerationsPerSourceSlot pinned
          (eligibleNumbers rows policy.retainedGenerationsPerSourceSlot pinned)
          row = false := by
  rw [freesGeneration, validated]
  exact List.any_eq_false.trans (by simp only [Bool.not_eq_true])

/-- Nothing is freed where nothing is collected. -/
theorem freesGeneration_of_no_candidate
    (built : buildRetentionPlanWithBudget digests policy rows = .ok (plan, budget))
    (none : plan.candidateGenerations = []) :
    freesGeneration policy rows = false := by
  obtain ⟨pinned, afterPins, validated, eligible⟩ := eligible_nil_of_no_candidate built none
  refine (freesGeneration_of_validated validated).mpr fun row _ => ?_
  rw [eligibleNumbers, eligible, List.map_nil, ← Bool.not_eq_true]
  intro freed
  simp only [isFreed, Bool.and_eq_true] at freed
  obtain ⟨⟨⟨_, read⟩, readOnly⟩, _⟩ := freed
  obtain ⟨source, member, reads⟩ := List.any_eq_true.mp read
  have listed := List.all_eq_true.mp readOnly source member
  rw [reads] at listed
  cases listed

theorem isSettled_of_collected
    (built : buildRetentionPlanWithBudget digests policy before.rows = .ok (plan, budget))
    (complete : plan.moreWork = false)
    (collected : Collected before after plan.candidateGenerations) :
    IsSettled digests policy after ↔ freesGeneration policy before.rows = false := by
  obtain ⟨pinned, afterPins, validated, candidates⟩ := candidates_of_complete built complete
  have covered := (validateRetentionPins_covers validated).1
  change plan.candidateGenerations =
      eligibleNumbers before.rows policy.retainedGenerationsPerSourceSlot pinned at candidates
  rw [candidates] at collected
  have unpinned :
      ∀ generation ∈ eligibleNumbers before.rows policy.retainedGenerationsPerSourceSlot pinned,
        generation ∉ pinned := by
    intro generation listed
    obtain ⟨entry, member, rfl⟩ := List.mem_map.mp listed
    obtain ⟨row, present, same, _⟩ := mem_allEligibleGenerations member
    rw [← same] at listed ⊢
    exact (bounds_of_mem_eligibleNumbers present listed).2
  rw [freesGeneration_of_validated validated, ← collected.eligible_nil_iff]
  constructor
  · rintro ⟨next, builtNext, none⟩
    obtain ⟨nextBudget, builtNext⟩ := buildRetentionPlan_eq_ok_iff.mp builtNext
    obtain ⟨nextPinned, _, validatedNext, empty⟩ := eligible_nil_of_no_candidate builtNext none
    rw [collected.validateRetentionPins_eq covered unpinned, validated] at validatedNext
    cases validatedNext
    exact empty
  · intro empty
    exact collected.replans built validated unpinned
        (fun row present listed =>
          (bounds_of_mem_eligibleNumbers present (List.contains_iff_mem.mp listed)).1)
        empty

theorem Collected.length_generations_lt
    (planned : buildRetentionPlan digests policy before.rows = .ok plan)
    (collected : Collected before after plan.candidateGenerations)
    (nonempty : plan.candidateGenerations ≠ []) :
    (after.rows .indexGenerations).length < (before.rows .indexGenerations).length := by
  obtain ⟨budget, built⟩ := buildRetentionPlan_eq_ok_iff.mp planned
  obtain ⟨pinned, _, listed⟩ := (planned_of_build built).1.eligible
  obtain ⟨generation, member⟩ := List.exists_mem_of_ne_nil _ nonempty
  obtain ⟨row, present, rfl, _⟩ := listed generation member
  rw [collected.rows .indexGenerations (by decide)]
  refine List.length_filter_lt_length_iff_exists.mpr ⟨row, present, ?_⟩
  rw [Bool.not_eq_true, Bool.not_eq_false']
  exact List.contains_iff_mem.mpr member

/-- A collection on record is not made again. -/
theorem unchanged_of_recorded {expectedPlan : Bytes32}
    (recorded :
      (loadAppliedRetention before.rows (digests.policy policy) expectedPlan).isSome = true)
    (applied :
      Succeeds (applyGenerationRetention digests policy expectedPlan) before outcome after) :
    after = before := by
  obtain ⟨earlier, found⟩ := Option.isSome_iff_exists.mp recorded
  unfold applyGenerationRetention at applied
  obtain ⟨_, _, read, applied⟩ := succeeds_bind.mp applied
  obtain ⟨rfl, rfl⟩ := succeeds_get.mp read
  rw [found] at applied
  exact (succeeds_pure.mp applied).2.symm

theorem collected_of_unrecorded (planned : buildRetentionPlan digests policy before.rows = .ok plan)
    (unrecorded : isRecorded digests policy before plan = false)
    (applied :
      Succeeds (applyGenerationRetention digests policy plan.planDigest) before outcome after) :
    Collected before after plan.candidateGenerations := by
  rcases applyGenerationRetention_succeeds applied with ⟨recorded, _⟩ | ⟨built, budget, fresh⟩
  · rw [isRecorded, recorded] at unrecorded
    cases unrecorded
  · have same := planned.symm.trans (buildRetentionPlan_eq_ok_iff.mpr ⟨budget, fresh.built⟩)
    cases same
    exact fresh.collected

/-- A plan with candidates that is made and applied for the first time. -/
structure RetentionRound (digests : RetentionDigests) (policy : GenerationRetentionPolicy)
    (before : Store) (plan : RetentionPlan) (after : Store) : Prop where
  planned : buildRetentionPlan digests policy before.rows = .ok plan
  nonempty : plan.candidateGenerations ≠ []
  unrecorded : isRecorded digests policy before plan = false
  applied : ∃ outcome,
      Succeeds (applyGenerationRetention digests policy plan.planDigest) before outcome after

theorem RetentionRound.deletes (round : RetentionRound digests policy before plan after) :
    (after.rows .indexGenerations).length < (before.rows .indexGenerations).length := by
  obtain ⟨outcome, applied⟩ := round.applied
  exact Collected.length_generations_lt round.planned
      (collected_of_unrecorded round.planned round.unrecorded applied)
      round.nonempty

theorem rounds_bounded {plans : List RetentionPlan} {final : Store}
    (rounds : Run (RetentionRound digests policy) before plans final) :
    plans.length + (final.rows .indexGenerations).length ≤
      (before.rows .indexGenerations).length := by
  induction rounds with
  | done store => exact Nat.le_of_eq (Nat.zero_add _)
  | more first later hypothesis =>
    have deletes := first.deletes
    rw [List.length_cons]
    omega

/-- Planning succeeds, and so does applying a plan with candidates, which is
not on record. -/
def CanContinue (digests : RetentionDigests) (policy : GenerationRetentionPolicy)
    (store : Store) : Prop :=
  ∃ plan, buildRetentionPlan digests policy store.rows = .ok plan ∧
    (plan.candidateGenerations ≠ [] → ∃ after, RetentionRound digests policy store plan after)

/-- Rounds that can go on until nothing is planned get there. -/
theorem rounds_settle
    (continues : ∀ plans middle,
        Run (RetentionRound digests policy) before plans middle →
          CanContinue digests policy middle) :
    ∃ plans final,
      Run (RetentionRound digests policy) before plans final ∧ IsSettled digests policy final := by
  -- Every round deletes a generation, so their number bounds the rounds.
  induction generations : (before.rows .indexGenerations).length using Nat.strong_induction_on
      generalizing before with
  | h count hypothesis =>
    obtain ⟨plan, planned, goesOn⟩ := continues [] before (.done before)
    by_cases none : plan.candidateGenerations = []
    · exact ⟨[], before, .done before, plan, planned, none⟩
    · obtain ⟨after, round⟩ := goesOn none
      obtain ⟨plans, final, rounds, settled⟩ :=
        hypothesis _ (generations ▸ round.deletes)
          (fun plans middle rounds => continues (plan :: plans) middle (.more round rounds))
          rfl
      exact ⟨plan :: plans, final, .more round rounds, settled⟩

/-- What planning and applying until nothing is left comes to. -/
structure RoundsSettle (digests : RetentionDigests) (policy : GenerationRetentionPolicy)
    (initial : Store) : Prop where
  bounded : ∀ plans final,
      Run (RetentionRound digests policy) initial plans final →
        plans.length ≤ (initial.rows .indexGenerations).length
  reached : (∀ plans middle,
      Run (RetentionRound digests policy) initial plans middle →
        CanContinue digests policy middle) →
      ∃ plans final,
        Run (RetentionRound digests policy) initial plans final ∧ IsSettled digests policy final

end Rounds

namespace Sample

def advancingOperations (repository : Bytes32) (epoch generation : Nat) :
    List WriterOperation :=
  [.advanceSourceEpoch repository (epoch - 1) epoch] ++
    readyGeneration repository epoch generation (BitVec.ofNat 256 (50 + generation)) ++
    [.activate generation epoch]

/-- Three generations of two connected repositories each; the graph of the
second generation reads the first. -/
def graphedOperations : List WriterOperation :=
  [.ensureWorkspace 1 0,
    .ensureWorkspace 2 0,
    .connectWorkspace 10
      [{ sourceSlot := 11, repository := 1 }, { sourceSlot := 12, repository := 2 }]] ++
    advancingOperations 1 1 1 ++
    [.advanceSourceEpoch 2 0 1] ++
    readyGeneration 2 1 2 52 ++
    [.insertContent .generationGraphRequirements ⟨2, 1⟩,
      .insertContent .generationGraphPublications
        { generation := 2, connectedWorkspace := 10, lifecycle := .staging
          resolverProfileVersion := 1
          sourceCount := 2
          artifactCount := 0
          definitionCount := 0
          siteCount := 0
          unresolvedCount := 0
          uniqueCount := 0
          ambiguousCount := 0
          retainedCandidateCount := 0
          edgeCount := 0 },
      .insertContent .generationGraphSources ⟨2, 0, 11, 1⟩,
      .insertContent .generationGraphSources ⟨2, 1, 12, 2⟩,
      .completeGraphPublication 2,
      .activate 2 1] ++
    advancingOperations 1 2 3 ++ advancingOperations 2 2 4 ++
    advancingOperations 1 3 5 ++ advancingOperations 2 3 6

/-- The first plan lists the second generation and says that no work is left;
the plan after it lists the first generation. -/
theorem graphedCollection_computed : (collection graphedOperations policy).map
        (fun computed =>
          (computed.2.1.candidateGenerations, computed.2.1.moreWork,
            computed.2.2.toOption.map fun applied =>
              (buildRetentionPlan digests policy
                applied.2.rows).toOption.map fun next => next.candidateGenerations)) =
      some ([2], false, some (some [1])) := by
  decide +kernel

/-- The first collection of the sample. -/
theorem graphedCollection_facts : ∃ before after plan next outcome, Reachable digests before ∧
        buildRetentionPlan digests policy before.rows = .ok plan ∧
        plan.moreWork = false ∧
        Succeeds
          (applyGenerationRetention digests policy plan.planDigest)
          before outcome after ∧
        buildRetentionPlan digests policy after.rows = .ok next ∧
        next.candidateGenerations = [1] := by
  obtain ⟨⟨before, plan, result⟩, computed, observed⟩ :=
    Option.map_eq_some_iff.mp graphedCollection_computed
  obtain ⟨_, rest⟩ := Prod.ext_iff.mp observed
  obtain ⟨complete, replanned⟩ := Prod.ext_iff.mp rest
  obtain ⟨⟨outcome, after⟩, applied, planned⟩ := Option.map_eq_some_iff.mp replanned
  obtain ⟨next, planned, candidates⟩ := Option.map_eq_some_iff.mp planned
  obtain ⟨reachable, built, executed⟩ := collection_eq_some computed
  exact ⟨before, after, plan, next, outcome, reachable, built, complete,
      executed.trans (except_toOption_eq_some_iff.mp applied),
      except_toOption_eq_some_iff.mp planned, candidates⟩

end Sample

/-- A plan that reports no more work leaves none exactly when its collection
frees no further generation and is not a replay; a round that is not a replay
deletes a generation, and such rounds settle the store. -/
theorem retention_settles_iff {digests : RetentionDigests} {policy : GenerationRetentionPolicy}
    {before after : Store} {plan : RetentionPlan} {outcome : RetentionApplyOutcome}
    (planned : buildRetentionPlan digests policy before.rows = .ok plan)
    (applied :
      Succeeds (applyGenerationRetention digests policy plan.planDigest) before outcome after) :
    (plan.moreWork = false →
      (IsSettled digests policy after ↔
        freesGeneration policy before.rows = false ∧
          (isRecorded digests policy before plan = true → plan.candidateGenerations = []))) ∧
      (plan.candidateGenerations ≠ [] →
        ((after.rows .indexGenerations).length < (before.rows .indexGenerations).length ↔
          isRecorded digests policy before plan = false)) ∧
      RoundsSettle digests policy before := by
  obtain ⟨budget, built⟩ := buildRetentionPlan_eq_ok_iff.mp planned
  refine ⟨fun complete => ?_, fun nonempty => ?_, ?_⟩
  · cases recorded : isRecorded digests policy before plan with
    | true =>
      have same := unchanged_of_recorded recorded applied
      subst same
      constructor
      · rintro ⟨next, plannedNext, none⟩
        cases planned.symm.trans plannedNext
        exact ⟨freesGeneration_of_no_candidate built none, fun _ => none⟩
      · rintro ⟨_, none⟩
        exact ⟨plan, planned, none rfl⟩
    | false =>
      have collected := collected_of_unrecorded planned recorded applied
      rw [isSettled_of_collected built complete collected]
      exact ⟨fun unfreed => ⟨unfreed, nofun⟩, And.left⟩
  · constructor
    · intro fewer
      refine eq_false_of_ne_true fun recorded => ?_
      rw [unchanged_of_recorded recorded applied] at fewer
      exact Nat.lt_irrefl _ fewer
    · intro unrecorded
      exact Collected.length_generations_lt planned
          (collected_of_unrecorded planned unrecorded applied) nonempty
  · exact
      ⟨fun plans final rounds =>
          Nat.le_trans (Nat.le_add_right _ _) (rounds_bounded rounds),
        rounds_settle⟩

/-- The sample's first collection reports no more work and leaves some. -/
theorem graphed_collection_unsettled : ∃ before after plan outcome,
      Reachable Sample.digests before ∧
        buildRetentionPlan Sample.digests Sample.policy before.rows = .ok plan ∧
        plan.moreWork = false ∧
        Succeeds
          (applyGenerationRetention Sample.digests Sample.policy plan.planDigest)
          before outcome after ∧
        ¬ IsSettled Sample.digests Sample.policy after := by
  obtain ⟨before, after, plan, next, outcome, reachable, planned, complete,
    applied, plannedNext, candidates⟩ := Sample.graphedCollection_facts
  refine ⟨before, after, plan, outcome, reachable, planned, complete, applied, ?_⟩
  rintro ⟨other, plannedOther, none⟩
  cases plannedNext.symm.trans plannedOther
  rw [candidates] at none
  cases none

/-- The condition fails for the sample, although the plan is complete. -/
theorem retention_settles_iff_of_graphed : ∃ before after plan outcome,
      buildRetentionPlan Sample.digests Sample.policy before.rows = .ok plan ∧
        plan.moreWork = false ∧
        Succeeds
          (applyGenerationRetention Sample.digests Sample.policy plan.planDigest)
          before outcome after ∧
        (IsSettled Sample.digests Sample.policy after ↔
          freesGeneration Sample.policy before.rows = false ∧
            (isRecorded Sample.digests Sample.policy before plan = true →
              plan.candidateGenerations = [])) ∧
        RoundsSettle Sample.digests Sample.policy before := by
  obtain ⟨before, after, plan, next, outcome, _, planned, complete,
    applied, _⟩ := Sample.graphedCollection_facts
  obtain ⟨settles, _, rounds⟩ := retention_settles_iff planned applied
  exact ⟨before, after, plan, outcome, planned, complete, applied, settles complete, rounds⟩

end RepoWitness
