import RepoWitness.GraphRelationshipGroups

namespace RepoWitness

open Std

/-!
# Counters of a resolver run

The builder threads six counters and the retained total through three
fallible branches.  They always equal what can be counted in the outcomes it
has pushed, one outcome per admitted site in site order.
-/

/-! ## The counters -/

structure OutputBuilder.Tallies (builder : OutputBuilder) : Prop where
  unresolved : builder.unresolved = builder.outcomes.countP (·.outcome.isUnresolved)
  unique : builder.unique = builder.outcomes.countP (·.outcome.isUnique)
  ambiguous : builder.ambiguous = builder.outcomes.countP (·.outcome.isAmbiguous)
  unsupported : builder.unsupported = builder.outcomes.countP (·.outcome.isUnsupported)
  truncatedSites : builder.truncatedSites = builder.outcomes.countP (·.candidatesTruncated)
  retainedCandidates :
    builder.retainedCandidates = (builder.outcomes.map (·.outcome.retained.length)).sum

section Counters

variable {limits : RustGraphResolutionLimits} {builder extended : OutputBuilder}

theorem countP_concat {α : Type} (holds : α → Bool) (items : List α) (item : α) :
    (items ++ [item]).countP holds = items.countP holds + (holds item).toNat := by
  rw [List.countP_append, List.countP_singleton]
  cases holds item <;> rfl

theorem new_tallies (started : OutputBuilder.new limits = .ok builder) :
    builder.Tallies ∧ builder.retainedCandidates ≤ limits.maxTotalCandidates := by
  unfold OutputBuilder.new at started
  split at started
  · cases started
  · cases started
    exact ⟨⟨rfl, rfl, rfl, rfl, rfl, rfl⟩, Nat.zero_le _⟩

theorem push_tallies {occurrence : RustGraphSiteOccurrence} {resolved : CandidateSet}
    (tallies : builder.Tallies)
    (pushed : (builder.push limits occurrence resolved).result = .ok extended) :
    extended.Tallies := by
  obtain ⟨_, _, bytes, rfl⟩ := OutputBuilder.push_eq pushed
  refine ⟨?_, ?_, ?_, ?_, ?_, ?_⟩
  · rw [countP_concat, ← tallies.unresolved]
    rfl
  · rw [countP_concat, ← tallies.unique]
    rfl
  · rw [countP_concat, ← tallies.ambiguous]
    rfl
  · rw [countP_concat, ← tallies.unsupported]
    rfl
  · rw [countP_concat, ← tallies.truncatedSites]
  · simp only [List.map_append, List.sum_append, List.map_cons,
      List.map_nil, List.sum_cons, List.sum_nil, Nat.add_zero,
      ← tallies.retainedCandidates, siteResolution, retained_outcomeOf,
      List.length_map]

theorem resolveSites_tallies {index : DefinitionIndex} {imports : ImportIndex}
    {order : List RustGraphSiteOccurrence} {output : OutputBuilder}
    (tallies : builder.Tallies ∧ builder.retainedCandidates ≤ limits.maxTotalCandidates)
    (resolved : (resolveSites limits index imports builder order).result = .ok output) :
    output.Tallies ∧ output.retainedCandidates ≤ limits.maxTotalCandidates := by
  induction order generalizing builder with
  | nil =>
    cases resolved
    exact tallies
  | cons occurrence rest hypothesis =>
    simp only [resolveSites, Polled.result_bind, Polled.result_poll,
      except_ok_bind, except_bind_eq_ok_iff] at resolved
    obtain ⟨candidates, _, extended, pushed, continued⟩ := resolved
    exact hypothesis
      ⟨push_tallies tallies.1 pushed, (OutputBuilder.push_eq pushed).2.1⟩ continued

theorem categories_cover (outcomes : List RustGraphSiteResolution) :
    outcomes.countP (·.outcome.isUnresolved) +
          outcomes.countP (·.outcome.isUnique) +
        outcomes.countP (·.outcome.isAmbiguous) =
      outcomes.length := by
  induction outcomes with
  | nil => rfl
  | cons first rest hypothesis =>
    rw [List.countP_cons, List.countP_cons, List.countP_cons,
      List.length_cons, ← hypothesis]
    cases first.outcome with
    | unresolved reason =>
      simp [RustGraphResolutionOutcome.isUnresolved,
        RustGraphResolutionOutcome.isUnique,
        RustGraphResolutionOutcome.isAmbiguous]
      omega
    | unique candidate =>
      simp [RustGraphResolutionOutcome.isUnresolved,
        RustGraphResolutionOutcome.isUnique,
        RustGraphResolutionOutcome.isAmbiguous]
      omega
    | ambiguous candidates =>
      simp [RustGraphResolutionOutcome.isUnresolved,
        RustGraphResolutionOutcome.isUnique,
        RustGraphResolutionOutcome.isAmbiguous]
      omega

end Counters

/-! ## A whole run -/

structure AccountedResolution (sites : List RustGraphSiteOccurrence)
    (limits : RustGraphResolutionLimits) (resolution : RustGraphResolution) : Prop where
  onePerSite : (resolution.outcomes.map (·.site)).Perm (sites.map (·.identity))
  siteOrder : (resolution.outcomes.map (·.site)).Pairwise (compare · · = .lt)
  categories : resolution.coverage.unresolved + resolution.coverage.unique +
      resolution.coverage.ambiguous = sites.length
  unsupported :
    resolution.coverage.unsupported = resolution.outcomes.countP (·.outcome.isUnsupported)
  truncatedSites :
    resolution.coverage.truncatedSites = resolution.outcomes.countP (·.candidatesTruncated)
  retainedCandidates : resolution.coverage.retainedCandidates =
      (resolution.outcomes.map (·.outcome.retained.length)).sum
  retainedBounded : resolution.coverage.retainedCandidates ≤ limits.maxTotalCandidates
  cardinality : ∀ outcome ∈ resolution.outcomes, ConsistentCardinality outcome
  completeGroups : ∀ links edges,
      loadRelationships links resolution.outcomes = .ok edges → ∀ sorter,
          (cancellableSortIndices sorter compareBySite edges >>=
            AdmittedEdges.validateSiteGroups).result = .ok ()

open NestedHelpers

section Accounting

variable {definitions : List RustGraphDefinitionOccurrence} {sites : List RustGraphSiteOccurrence}
  {limits : RustGraphResolutionLimits}

/-- The counters a run reports are the tallies of what it pushed. -/
theorem resolution_tallies {resolution : RustGraphResolution}
    (resolved : (resolveRustGraphSites definitions sites limits).result = .ok resolution) :
    ∃ output : OutputBuilder, output.Tallies ∧
        output.retainedCandidates ≤ limits.maxTotalCandidates ∧
        resolution.outcomes = output.outcomes ∧
        resolution.coverage =
          { definitions := definitions.length, sites := sites.length
            unresolved := output.unresolved
            unique := output.unique
            ambiguous := output.ambiguous
            unsupported := output.unsupported
            truncatedSites := output.truncatedSites
            retainedCandidates := output.retainedCandidates } := by
  simp only [resolveRustGraphSites, Polled.result_bind,
    Polled.result_poll, Polled.result_done, except_ok_bind,
    except_bind_eq_ok_iff] at resolved
  obtain ⟨admitted, _, index, _, imports, _, builder, started, output, ran, finished⟩ := resolved
  obtain ⟨tallies, within⟩ := resolveSites_tallies (new_tallies started) ran
  simp only [OutputBuilder.finish, Polled.result_bind,
    Polled.result_poll, except_ok_bind] at finished
  split at finished
  · cases finished
  · cases finished
    exact ⟨output, tallies, within, rfl, rfl⟩

section Admissible

variable (admissible : Admissible definitions sites limits)

include admissible

theorem Admissible.identities_increasing :
    ((sortBy siteOrdering sites).map (·.identity)).Pairwise (compare · · = .lt) := by
  have distinct := admissible.sitesDistinct
  have increasing : (sortBy siteOrdering sites).Pairwise (siteOrdering · · = .lt) := by
    rw [siteOrdering_eq] at distinct ⊢
    exact increasing_compareLex (increasing_of_untied sameSiteIdentity_iff distinct)
  rw [List.pairwise_map]
  exact increasing

theorem Admissible.eq_of_identity
    {left right : RustGraphDefinitionOccurrence} (isLeft : left ∈ definitions)
    (isRight : right ∈ definitions) (same : left.identity = right.identity) :
    left = right := by
  refine admissible.definition_eq_of_tied isLeft isRight ?_
  simp only [RustGraphDefinitionOccurrence.identity, RustGraphDefinitionTarget.mk.injEq] at same
  simp [definitionOrdering, compareLex_eq_eq, compareOn, same]

/-- The candidates of a reading name different targets. -/
theorem readingCandidates_targets_nodup
    (occurrence : RustGraphSiteOccurrence) (reading : TargetReading) :
    ((readingCandidates definitions sites occurrence reading).map (·.owned.target)).Nodup := by
  have increasing :
      (scanned definitions (readingEvidence definitions sites occurrence reading)).Pairwise
        (compareOn CandidateRef.definition · · = .lt) :=
    scanned_increasing admissible
  refine List.pairwise_map.mpr (increasing.imp_of_mem ?_)
  intro left right isLeft isRight less same
  have equal := admissible.eq_of_identity (mem_scanned.mp isLeft).1 (mem_scanned.mp isRight).1 same
  unfold compareOn at less
  rw [equal, @ReflCmp.compare_self _ compare] at less
  cases less

theorem engineResolution_grouped (occurrence : RustGraphSiteOccurrence) :
    GroupedOutcome (engineResolution definitions sites limits occurrence) where
  distinct := by
    have targets := readingCandidates_targets_nodup admissible occurrence (engineReading occurrence)
    simp only [engineResolution, siteResolution, readingSet, retained_outcomeOf, List.map_map]
    exact targets.sublist ((List.take_sublist _ _).map _)
  representable := by
    have few := limits.candidatesBounded.2
    simp only [engineResolution, siteResolution, readingSet,
      retained_outcomeOf, List.length_map, List.length_take]
    omega

end Admissible

/--
Every successful run accounts for each site once, in site order, with exact
counters and with candidate groups the traversal engine accepts as complete.
-/
theorem resolution_accounts {control : Nat → Option RustGraphResolutionError}
    {resolution : RustGraphResolution}
    (resolved : (resolveRustGraphSites definitions sites limits).observe control = .ok resolution) :
    AccountedResolution sites limits resolution := by
  have succeeded := Polled.result_of_observe_ok resolved
  obtain ⟨admissible, outcomes⟩ := resolution_outcomes succeeded
  obtain ⟨output, tallies, within, same, coverage⟩ := resolution_tallies succeeded
  have sitesOf :
      resolution.outcomes.map (·.site) = (sortBy siteOrdering sites).map (·.identity) := by
    rw [outcomes, List.map_map]
    rfl
  have increasing := admissible.identities_increasing
  have total : resolution.coverage.retainedCandidates =
        (resolution.outcomes.map (·.outcome.retained.length)).sum := by
    rw [coverage, same]
    exact tallies.retainedCandidates
  have bounded : resolution.coverage.retainedCandidates ≤ limits.maxTotalCandidates := by
    rw [coverage]
    exact within
  refine
    { onePerSite := ?_, siteOrder := sitesOf ▸ increasing, categories := ?_, unsupported := ?_
      truncatedSites := ?_
      retainedCandidates := total
      retainedBounded := bounded
      cardinality := ?_
      completeGroups := ?_ }
  · rw [sitesOf]
    exact (sortBy_perm siteOrdering sites).map _
  · have length := congrArg List.length outcomes
    rw [List.length_map, (sortBy_perm siteOrdering sites).length_eq] at length
    rw [coverage, ← length, ← categories_cover, same,
      ← tallies.unresolved, ← tallies.unique, ← tallies.ambiguous]
  · rw [coverage, same]
    exact tallies.unsupported
  · rw [coverage, same]
    exact tallies.truncatedSites
  · intro outcome isOutcome
    rw [outcomes] at isOutcome
    obtain ⟨occurrence, _, rfl⟩ := List.mem_map.mp isOutcome
    exact siteResolution_consistent limits occurrence _
  · intro links edges loaded sorter
    have complete : CompleteGroups edges := by
      refine loadRelationships_complete ?_ ?_ loaded
      · intro outcome isOutcome
        rw [outcomes] at isOutcome
        obtain ⟨occurrence, _, rfl⟩ := List.mem_map.mp isOutcome
        exact engineResolution_grouped admissible occurrence
      · rw [sitesOf]
        refine increasing.imp ?_
        rintro left right less rfl
        rw [@ReflCmp.compare_self _ compare] at less
        cases less
    have few : edges.length ≤ 2 ^ 63 := by
      have loadedFew := loadRelationships_length loaded
      have ceiling := limits.totalBounded.2
      omega
    obtain ⟨bySite, isBySite, permutation, sorted⟩ :=
      cancellableSortIndices_result sorter compareBySite few
    rw [Polled.result_bind, isBySite, except_ok_bind]
    exact (complete.of_perm permutation).validateSiteGroups_eq_ok sorted

/-- Two calls with two candidates each are accounted for. -/
theorem resolution_accounts_of_helpers : ∃ resolution,
      (resolveRustGraphSites [root, nested] [rootedCall, bareCall]
          .default).observe Polled.never = .ok resolution ∧
        AccountedResolution [rootedCall, bareCall] .default
          resolution := by
  have succeeds : ((resolveRustGraphSites [root, nested] [rootedCall, bareCall]
        .default).observe Polled.never).toOption.isSome = true := by
    decide +kernel
  obtain ⟨resolution, isResolution⟩ := Option.isSome_iff_exists.mp succeeds
  have resolved := except_toOption_eq_some_iff.mp isResolution
  exact ⟨resolution, resolved, resolution_accounts resolved⟩

end Accounting

end RepoWitness
