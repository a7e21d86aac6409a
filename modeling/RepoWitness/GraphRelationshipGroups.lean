import RepoWitness.GraphResolutionCorrectness
import RepoWitness.GraphTraversalAdmission

namespace RepoWitness

open Std

/-!
# Relationships of resolved sites

A reader turns the outcome of a site into one relationship per retained
candidate, all with the cardinality of the outcome.  The candidate count, the
retained candidates and the truncation flag of an outcome satisfy the rules
the traversal engine states on its own, so the relationships of distinct sites
form complete site groups.
-/

/-! ## Relationships loaded from outcomes -/

/-- Constructs consistent ambiguous-candidate accounting. -/
def RustGraphRelationshipCardinality.tryAmbiguous (candidateCount retainedCandidates : Nat)
    (candidatesTruncated : Bool) :
    Except RustGraphTraceError RustGraphRelationshipCardinality :=
  if candidateCount < 2 ∨ retainedCandidates < 2 ∨
      candidateCount < retainedCandidates ∨
      candidatesTruncated ≠ decide (retainedCandidates < candidateCount) then
    .error .invalidEdge
  else
    .ok (.ambiguous candidateCount retainedCandidates candidatesTruncated)

/-- The checks of the identity constructor, on a handed-out identity. -/
def RustGraphDefinitionTarget.tryIdentity (target : RustGraphDefinitionTarget) :
    Option RustGraphDefinitionIdentity :=
  if valid :
      target.factOrdinal ≤ maxMemoryInteroperableInteger ∧
        target.path.isRustPath = true ∧
        target.nameSpan.isEmpty = false ∧
        spanContains target.declarationSpan target.nameSpan = true then
    some
      { sourceSlot := target.sourceSlot, path := target.path, artifact := target.artifact
        factOrdinal := target.factOrdinal
        kind := target.kind
        nameSpan := target.nameSpan
        declarationSpan := target.declarationSpan
        ordinalBounded := valid.1
        rustPath := valid.2.1
        nameNonempty := valid.2.2.1
        nameInside := valid.2.2.2 }
  else
    none

/-- Constructs one relationship after validating its source-site join. -/
def RustGraphTraversalEdge.tryNew (source : RustGraphDefinitionIdentity)
    (site : RustGraphSiteIdentity) (target : RustGraphDefinitionIdentity)
    (extractionEvidence : RustGraphSiteEvidence) (resolutionEvidence : RustGraphResolutionEvidence)
    (cardinality : RustGraphRelationshipCardinality) :
    Except RustGraphTraceError RustGraphTraversalEdge :=
  if valid :
      (RustGraphEdgeKind.fromSiteKind site.kind).isSome = true ∧
        source.sourceSlot = site.sourceSlot ∧
        source.path = site.path ∧
        spanContains source.declarationSpan site.occurrenceSpan = true then
    .ok
      { source := source, site := site, target := target, extractionEvidence := extractionEvidence
        resolutionEvidence := resolutionEvidence
        cardinality := cardinality
        supported := valid.1
        sameSlot := valid.2.1
        samePath := valid.2.2.1
        siteInside := valid.2.2.2 }
  else
    .error .invalidEdge

/-- Why stored relationships cannot be loaded. -/
inductive RelationshipFailure where
  | corruptGraph
  | analysis (error : RustGraphTraceError)
  deriving DecidableEq

/-- The cardinality of a group of loaded rows. -/
def groupCardinality (outcome : RustGraphResolutionOutcome) (candidateCount retained : Nat)
    (truncated : Bool) :
    Except RelationshipFailure RustGraphRelationshipCardinality :=
  match outcome with
  | .unresolved _ => .error .corruptGraph
  | .unique _ =>
    if candidateCount = 1 ∧ retained = 1 ∧ truncated = false then
      .ok .unique
    else
      .error .corruptGraph
  | .ambiguous _ =>
    (RustGraphRelationshipCardinality.tryAmbiguous candidateCount
      retained truncated).mapError .analysis

structure LinkedSite where
  source : RustGraphDefinitionIdentity
  extractionEvidence : RustGraphSiteEvidence

/-- One relationship per retained candidate. -/
def candidateEdges (linked : LinkedSite) (site : RustGraphSiteIdentity)
    (cardinality : RustGraphRelationshipCardinality) :
    List RustGraphResolutionCandidate → Except RelationshipFailure (List RustGraphTraversalEdge)
  | [] => .ok []
  | candidate :: rest =>
    match candidate.target.tryIdentity with
    | none => .error .corruptGraph
    | some target => do
      let edge ←
        (RustGraphTraversalEdge.tryNew linked.source site target
          linked.extractionEvidence candidate.evidence
          cardinality).mapError .analysis
      let others ← candidateEdges linked site cardinality rest
      .ok (edge :: others)

/--
The relationships of one site.  The stored rows join a site with its retained
candidates and with its enclosing definition, so a site without candidates, of
another kind or without a stored enclosing definition has none.
-/
def siteEdges (links : RustGraphSiteIdentity → Option LinkedSite)
    (resolution : RustGraphSiteResolution) :
    Except RelationshipFailure (List RustGraphTraversalEdge) :=
  if resolution.outcome.isUnresolved ∨
      (RustGraphEdgeKind.fromSiteKind resolution.site.kind).isNone then
    .ok []
  else
    match links resolution.site with
    | none => .ok []
    | some linked => do
      let cardinality ←
        groupCardinality resolution.outcome resolution.candidateCount
          resolution.outcome.retained.length
          resolution.candidatesTruncated
      candidateEdges linked resolution.site cardinality resolution.outcome.retained

/-- The relationships of all sites of a generation, in site order. -/
def loadRelationships (links : RustGraphSiteIdentity → Option LinkedSite) :
    List RustGraphSiteResolution → Except RelationshipFailure (List RustGraphTraversalEdge)
  | [] => .ok []
  | resolution :: rest => do
    let group ← siteEdges links resolution
    let others ← loadRelationships links rest
    .ok (group ++ others)

/-! ## Complete groups -/

/--
Edges of one site agree on everything but the target and its evidence, their
targets differ, and there are as many as each of them declares.
-/
structure CompleteGroups (edges : List RustGraphTraversalEdge) : Prop where
  agree : ∀ first ∈ edges, ∀ second ∈ edges, first.site = second.site →
      first.source = second.source ∧
        first.extractionEvidence = second.extractionEvidence ∧
        first.cardinality = second.cardinality
  distinct :
    edges.Pairwise fun first second => first.site = second.site → first.target ≠ second.target
  counted : ∀ edge ∈ edges, edges.countP (·.site = edge.site) = edge.cardinality.retainedCandidates
  representable : ∀ edge ∈ edges, edge.cardinality.retainedCandidates < 2 ^ 32

namespace CompleteGroups

variable {edges others : List RustGraphTraversalEdge}

theorem of_perm (complete : CompleteGroups edges) (permutation : others.Perm edges) :
    CompleteGroups others where
  agree first isFirst second isSecond :=
    complete.agree first (permutation.mem_iff.mp isFirst) second (permutation.mem_iff.mp isSecond)
  distinct := by
    refine (permutation.pairwise_iff ?_).mpr complete.distinct
    intro first second differ same
    exact (differ same.symm).symm
  counted edge isEdge := by
    rw [permutation.countP_eq]
    exact complete.counted edge (permutation.mem_iff.mp isEdge)
  representable edge isEdge := complete.representable edge (permutation.mem_iff.mp isEdge)

theorem nil : CompleteGroups [] where
  agree _ isFirst := absurd isFirst List.not_mem_nil
  distinct := List.Pairwise.nil
  counted _ isEdge := absurd isEdge List.not_mem_nil
  representable _ isEdge := absurd isEdge List.not_mem_nil

/-- Groups of different sites stand side by side. -/
theorem append (complete : CompleteGroups edges) (completeOthers : CompleteGroups others)
    (apart : ∀ edge ∈ edges, ∀ other ∈ others, edge.site ≠ other.site) :
    CompleteGroups (edges ++ others) where
  agree first isFirst second isSecond same := by
    rcases List.mem_append.mp isFirst with inEdges | inOthers
    · rcases List.mem_append.mp isSecond with inEdges' | inOthers'
      · exact complete.agree first inEdges second inEdges' same
      · exact absurd same (apart first inEdges second inOthers')
    · rcases List.mem_append.mp isSecond with inEdges' | inOthers'
      · exact absurd same.symm (apart second inEdges' first inOthers)
      · exact completeOthers.agree first inOthers second inOthers' same
  distinct := List.pairwise_append.mpr
      ⟨complete.distinct, completeOthers.distinct,
        fun edge isEdge other isOther same => absurd same (apart edge isEdge other isOther)⟩
  counted edge isEdge := by
    rw [List.countP_append]
    rcases List.mem_append.mp isEdge with inEdges | inOthers
    · have none : others.countP (·.site = edge.site) = 0 := by
        refine List.countP_eq_zero.mpr ?_
        intro other isOther
        simpa using (apart edge inEdges other isOther).symm
      rw [none, complete.counted edge inEdges, Nat.add_zero]
    · have none : edges.countP (·.site = edge.site) = 0 := by
        refine List.countP_eq_zero.mpr ?_
        intro other isOther
        simpa using apart other isOther edge inOthers
      rw [none, completeOthers.counted edge inOthers, Nat.zero_add]
  representable edge isEdge := by
    rcases List.mem_append.mp isEdge with inEdges | inOthers
    · exact complete.representable edge inEdges
    · exact completeOthers.representable edge inOthers

end CompleteGroups

variable {first : RustGraphTraversalEdge} {size : Nat} {previous : RustGraphTraversalEdge}
  {rest : List RustGraphTraversalEdge} {cardinality : RustGraphRelationshipCardinality}

theorem closeSiteGroup_eq_ok (complete : size = first.cardinality.retainedCandidates)
    (representable : first.cardinality.retainedCandidates < 2 ^ 32) :
    (AdmittedEdges.closeSiteGroup first size).result = .ok () := by
  unfold AdmittedEdges.closeSiteGroup
  rw [if_neg (by omega), if_neg (by simpa using complete)]
  rfl

/-- After an edge of a greater site no edge of a smaller site follows. -/
theorem countP_site_eq_zero {current : RustGraphTraversalEdge}
    (sorted : SortedBy (compareOn RustGraphTraversalEdge.site) (previous :: current :: rest))
    (different : current.site ≠ previous.site) :
    (current :: rest).countP (·.site = previous.site) = 0 := by
  obtain ⟨least, restSorted⟩ := List.pairwise_cons.mp sorted
  obtain ⟨leastOfRest, _⟩ := List.pairwise_cons.mp restSorted
  refine List.countP_eq_zero.mpr ?_
  intro other isOther
  simp only [decide_eq_true_eq]
  intro same
  rcases List.mem_cons.mp isOther with rfl | inRest
  · exact different same
  · have upper := leastOfRest other inRest
    have lower := least current List.mem_cons_self
    unfold ComparesLE compareOn at upper lower
    rw [same] at upper
    exact different (LawfulEqOrd.eq_of_compare (OrientedCmp.isLE_antisymm upper lower))

theorem validateSiteGroup_eq_ok (sameGroup : previous.site = first.site)
    (sorted : SortedBy (compareOn RustGraphTraversalEdge.site) (previous :: rest))
    (complete : size + rest.countP (·.site = first.site) = first.cardinality.retainedCandidates)
    (representable : first.cardinality.retainedCandidates < 2 ^ 32)
    (agree : ∀ left ∈ first :: rest, ∀ right ∈ first :: rest,
        left.site = right.site → left.source = right.source ∧
            left.extractionEvidence = right.extractionEvidence ∧
            left.cardinality = right.cardinality)
    (distinct :
      (previous :: rest).Pairwise fun left right =>
        left.site = right.site → left.target ≠ right.target)
    (later : ∀ edge ∈ rest, edge.site ≠ first.site →
        rest.countP (·.site = edge.site) = edge.cardinality.retainedCandidates ∧
          edge.cardinality.retainedCandidates < 2 ^ 32) :
    (AdmittedEdges.validateSiteGroup first previous size rest).result = .ok () := by
  -- The group so far has `size` edges; `later` is about the groups to come.
  induction rest generalizing first previous size with
  | nil => exact closeSiteGroup_eq_ok (by simpa using complete) representable
  | cons current rest hypothesis =>
    obtain ⟨least, restSorted⟩ := List.pairwise_cons.mp sorted
    obtain ⟨apart, restDistinct⟩ := List.pairwise_cons.mp distinct
    by_cases inGroup : current.site = first.site
    · obtain ⟨source, extraction, cardinality⟩ := agree current (by simp) first (by simp) inGroup
      have targets : current.target ≠ previous.target :=
        (apart current List.mem_cons_self (sameGroup.trans inGroup.symm)).symm
      simp only [AdmittedEdges.validateSiteGroup, inGroup, if_true,
        Polled.result_bind, Polled.result_poll, except_ok_bind]
      rw [if_neg (by simp [source, extraction, cardinality]), if_neg targets]
      refine hypothesis inGroup restSorted ?_ representable ?_ restDistinct ?_
      · rw [List.countP_cons_of_pos (by simpa using inGroup)] at complete
        omega
      · intro left isLeft right isRight
        exact agree left
          (List.cons_subset_cons first
            (List.subset_cons_self current rest) isLeft) right
          (List.cons_subset_cons first
            (List.subset_cons_self current rest) isRight)
      · intro edge isEdge otherSite
        have counted := later edge (List.mem_cons_of_mem current isEdge) otherSite
        rwa [List.countP_cons_of_neg (by simpa [inGroup] using Ne.symm otherSite)] at counted
    · have gone : (current :: rest).countP (·.site = first.site) = 0 := by
        rw [← sameGroup]
        exact countP_site_eq_zero sorted (by rw [sameGroup]; exact inGroup)
      rw [gone, Nat.add_zero] at complete
      obtain ⟨counted, fits⟩ := later current List.mem_cons_self inGroup
      simp only [AdmittedEdges.validateSiteGroup, inGroup, if_false,
        Polled.result_bind, Polled.result_poll,
        closeSiteGroup_eq_ok complete representable, except_ok_bind]
      refine hypothesis rfl restSorted ?_ fits ?_ restDistinct ?_
      · rw [List.countP_cons_of_pos (by simp)] at counted
        omega
      · intro left isLeft right isRight
        exact agree left (List.mem_cons_of_mem first isLeft) right
          (List.mem_cons_of_mem first isRight)
      · intro edge isEdge otherSite
        have inRest : edge ∈ current :: rest := List.mem_cons_of_mem current isEdge
        by_cases returned : edge.site = first.site
        · rw [← returned] at gone
          exact absurd (by simp) (List.countP_eq_zero.mp gone edge inRest)
        · have counted := later edge inRest returned
          rwa [List.countP_cons_of_neg (by simpa using Ne.symm otherSite)] at counted

theorem CompleteGroups.validateSiteGroups_eq_ok {bySite : List RustGraphTraversalEdge}
    (complete : CompleteGroups bySite) (sorted : SortedBy compareBySite bySite) :
    (AdmittedEdges.validateSiteGroups bySite).result = .ok () := by
  cases bySite with
  | nil => rfl
  | cons first rest =>
    simp only [AdmittedEdges.validateSiteGroups, Polled.result_bind,
      Polled.result_poll, except_ok_bind]
    refine validateSiteGroup_eq_ok rfl (SortedBy.of_compareLex sorted) ?_
      (complete.representable first List.mem_cons_self)
      complete.agree complete.distinct ?_
    · have counted := complete.counted first List.mem_cons_self
      rw [List.countP_cons_of_pos (by simp)] at counted
      omega
    · intro edge isEdge otherSite
      have inEdges := List.mem_cons_of_mem first isEdge
      have counted := complete.counted edge inEdges
      rw [List.countP_cons_of_neg (by simpa using Ne.symm otherSite)] at counted
      exact ⟨counted, complete.representable edge inEdges⟩

/-! ## Cardinality of outcomes -/

/-- The count, the retained candidates and the flag of an outcome agree. -/
def ConsistentCardinality (resolution : RustGraphSiteResolution) : Prop :=
  match resolution.outcome with
  | .unresolved _ => resolution.candidateCount = 0 ∧ resolution.candidatesTruncated = false
  | .unique _ => resolution.candidateCount = 1 ∧ resolution.candidatesTruncated = false
  | .ambiguous candidates =>
    RustGraphRelationshipCardinality.tryAmbiguous resolution.candidateCount candidates.length
        resolution.candidatesTruncated =
      .ok (.ambiguous resolution.candidateCount candidates.length resolution.candidatesTruncated)

theorem tryAmbiguous_eq_ok {candidateCount retained : Nat} {truncated : Bool}
    (several : 2 ≤ retained) (within : retained ≤ candidateCount)
    (flagged : truncated = decide (retained < candidateCount)) :
    RustGraphRelationshipCardinality.tryAmbiguous candidateCount retained truncated =
      .ok (.ambiguous candidateCount retained truncated) := by
  unfold RustGraphRelationshipCardinality.tryAmbiguous
  rw [if_neg]
  rintro (few | few | beyond | wrong)
  · omega
  · omega
  · omega
  · exact wrong flagged

theorem outcomeOf_of_several (reason : RustGraphUnresolvedReason) (truncated : Bool)
    {candidates : List RustGraphResolutionCandidate} (several : 2 ≤ candidates.length) :
    outcomeOf reason truncated candidates = .ambiguous candidates := by
  match candidates, several with
  | _ :: _ :: _, _ => rfl

/-- The bound of at least two keeps every truncated site ambiguous. -/
theorem siteResolution_consistent (limits : RustGraphResolutionLimits)
    (occurrence : RustGraphSiteOccurrence) (resolved : CandidateSet) :
    ConsistentCardinality (siteResolution limits occurrence resolved) := by
  have atLeastTwo := limits.candidatesBounded.1
  rcases resolved with ⟨candidates, reason⟩
  match shape : candidates with
  | [] => simp [ConsistentCardinality, siteResolution, outcomeOf]
  | [candidate] =>
    have complete : ¬ limits.maxCandidatesPerSite < 1 := by omega
    have kept : [candidate].take limits.maxCandidatesPerSite = [candidate] :=
      List.take_of_length_le (by simpa using Nat.le_of_not_lt complete)
    simp [ConsistentCardinality, siteResolution, outcomeOf, kept, complete]
  | first :: second :: rest =>
    have length :
        ((first :: second :: rest).take limits.maxCandidatesPerSite).length =
          min limits.maxCandidatesPerSite (rest.length + 2) := by
      simp
    have several : 2 ≤ (((first :: second :: rest).take
            limits.maxCandidatesPerSite).map CandidateRef.owned).length := by
      rw [List.length_map, length]
      omega
    simp only [ConsistentCardinality, siteResolution, outcomeOf_of_several reason _ several]
    refine tryAmbiguous_eq_ok several ?_ ?_
    · rw [List.length_map, length]
      simp only [List.length_cons]
      omega
    · rw [List.length_map, length, decide_eq_decide]
      simp only [List.length_cons]
      omega

/-- The cardinality of a consistent outcome declares its candidates. -/
theorem retainedCandidates_groupCardinality {resolution : RustGraphSiteResolution}
    (grouped : groupCardinality resolution.outcome resolution.candidateCount
          resolution.outcome.retained.length
          resolution.candidatesTruncated = .ok cardinality) :
    cardinality.retainedCandidates = resolution.outcome.retained.length := by
  unfold groupCardinality at grouped
  split at grouped
  case h_1 => cases grouped
  case h_2 candidate isUnique =>
    split at grouped
    · cases grouped
      rw [isUnique]
      rfl
    · cases grouped
  case h_3 candidates isAmbiguous =>
    unfold RustGraphRelationshipCardinality.tryAmbiguous at grouped
    split at grouped
    · cases grouped
    · cases grouped
      rfl

/-! ## The groups of loaded relationships -/

theorem tryIdentity_injective {first second : RustGraphDefinitionTarget}
    {identity : RustGraphDefinitionIdentity} (isFirst : first.tryIdentity = some identity)
    (isSecond : second.tryIdentity = some identity) :
    first = second := by
  unfold RustGraphDefinitionTarget.tryIdentity at isFirst isSecond
  split at isFirst
  · split at isSecond
    · cases isFirst
      cases first
      cases second
      simp only [Option.some.injEq, RustGraphDefinitionIdentity.mk.injEq] at isSecond
      simp_all
    · cases isSecond
  · cases isFirst

theorem tryNew_eq_ok {source target : RustGraphDefinitionIdentity} {site : RustGraphSiteIdentity}
    {extraction : RustGraphSiteEvidence} {evidence : RustGraphResolutionEvidence}
    {edge : RustGraphTraversalEdge}
    (built :
      (RustGraphTraversalEdge.tryNew source site target extraction
          evidence cardinality).mapError RelationshipFailure.analysis =
        .ok edge) :
    edge.source = source ∧ edge.site = site ∧ edge.target = target ∧
      edge.extractionEvidence = extraction ∧
      edge.cardinality = cardinality := by
  unfold RustGraphTraversalEdge.tryNew at built
  split at built
  · cases built
    exact ⟨rfl, rfl, rfl, rfl, rfl⟩
  · cases built

section CandidateEdges

variable {linked : LinkedSite} {site : RustGraphSiteIdentity}
  {cardinality : RustGraphRelationshipCardinality} {candidates : List RustGraphResolutionCandidate}
  {edges : List RustGraphTraversalEdge}

section Built

variable (built : candidateEdges linked site cardinality candidates = .ok edges)

include built

theorem candidateEdges_targets :
    candidates.map (·.target.tryIdentity) = edges.map (some ·.target) := by
  induction candidates generalizing edges with
  | nil =>
    cases built
    rfl
  | cons candidate rest hypothesis =>
    unfold candidateEdges at built
    cases isTarget : candidate.target.tryIdentity with
    | none => simp [isTarget] at built
    | some target =>
      simp only [isTarget, except_bind_eq_ok_iff, Except.ok.injEq] at built
      obtain ⟨edge, isEdge, others, isOthers, rfl⟩ := built
      obtain ⟨_, _, sameTarget, _⟩ := tryNew_eq_ok isEdge
      simp only [List.map_cons, isTarget, sameTarget, hypothesis isOthers]

/-- All edges of a site share its join and its cardinality. -/
theorem mem_candidateEdges {edge : RustGraphTraversalEdge} (isEdge : edge ∈ edges) :
    edge.source = linked.source ∧ edge.site = site ∧
      edge.extractionEvidence = linked.extractionEvidence ∧
      edge.cardinality = cardinality := by
  induction candidates generalizing edges with
  | nil =>
    cases built
    cases isEdge
  | cons candidate rest hypothesis =>
    unfold candidateEdges at built
    cases isTarget : candidate.target.tryIdentity with
    | none => simp [isTarget] at built
    | some target =>
      simp only [isTarget, except_bind_eq_ok_iff, Except.ok.injEq] at built
      obtain ⟨first, isFirst, others, isOthers, rfl⟩ := built
      rcases List.mem_cons.mp isEdge with rfl | inOthers
      · obtain ⟨source, sameSite, _, extraction, same⟩ := tryNew_eq_ok isFirst
        exact ⟨source, sameSite, extraction, same⟩
      · exact hypothesis isOthers inOthers

theorem candidateEdges_length : edges.length = candidates.length := by
  have same := congrArg List.length (candidateEdges_targets built)
  simpa using same.symm

theorem candidateEdges_complete (declared : cardinality.retainedCandidates = candidates.length)
    (representable : candidates.length < 2 ^ 32) (distinct : (candidates.map (·.target)).Nodup) :
    CompleteGroups edges where
  agree first isFirst second isSecond _ := by
    obtain ⟨source, _, extraction, same⟩ := mem_candidateEdges built isFirst
    obtain ⟨source', _, extraction', same'⟩ := mem_candidateEdges built isSecond
    exact ⟨source.trans source'.symm, extraction.trans extraction'.symm, same.trans same'.symm⟩
  distinct := by
    have identities : (candidates.map (·.target.tryIdentity)).Pairwise
          fun first second => ∀ identity, first = some identity → second ≠ some identity := by
      rw [List.pairwise_map]
      refine (List.pairwise_map.mp distinct).imp ?_
      intro first second differ identity isFirst isSecond
      exact differ (tryIdentity_injective isFirst isSecond)
    rw [candidateEdges_targets built, List.pairwise_map] at identities
    refine identities.imp ?_
    intro first second differ _ same
    exact differ first.target rfl (by rw [same])
  counted edge isEdge := by
    have all : edges.countP (·.site = edge.site) = edges.length := by
      refine List.countP_eq_length.mpr ?_
      intro other isOther
      rw [(mem_candidateEdges built isOther).2.1, (mem_candidateEdges built isEdge).2.1]
      simp
    rw [all, (mem_candidateEdges built isEdge).2.2.2, declared, candidateEdges_length built]
  representable edge isEdge := by
    rw [(mem_candidateEdges built isEdge).2.2.2, declared]
    exact representable

end Built

end CandidateEdges

/-- What the candidates of one outcome must satisfy. -/
structure GroupedOutcome (resolution : RustGraphSiteResolution) : Prop where
  distinct : (resolution.outcome.retained.map (·.target)).Nodup
  representable : resolution.outcome.retained.length < 2 ^ 32

section Loading

variable {links : RustGraphSiteIdentity → Option LinkedSite} {resolution : RustGraphSiteResolution}
  {resolutions : List RustGraphSiteResolution} {edges : List RustGraphTraversalEdge}

theorem siteEdges_cases (loaded : siteEdges links resolution = .ok edges) :
    edges = [] ∨
      ∃ linked cardinality,
        cardinality.retainedCandidates = resolution.outcome.retained.length ∧
          candidateEdges linked resolution.site cardinality
            resolution.outcome.retained = .ok edges := by
  unfold siteEdges at loaded
  split at loaded
  · cases loaded
    exact .inl rfl
  · cases isLinked : links resolution.site with
    | none =>
      simp only [isLinked, Except.ok.injEq] at loaded
      exact .inl loaded.symm
    | some linked =>
      simp only [isLinked, except_bind_eq_ok_iff] at loaded
      obtain ⟨cardinality, grouped, built⟩ := loaded
      exact .inr ⟨linked, cardinality, retainedCandidates_groupCardinality grouped, built⟩

variable {edge : RustGraphTraversalEdge}

theorem site_of_mem_siteEdges (loaded : siteEdges links resolution = .ok edges)
    (isEdge : edge ∈ edges) :
    edge.site = resolution.site := by
  rcases siteEdges_cases loaded with rfl | ⟨_, _, _, built⟩
  · cases isEdge
  · exact (mem_candidateEdges built isEdge).2.1

theorem siteEdges_complete (grouped : GroupedOutcome resolution)
    (loaded : siteEdges links resolution = .ok edges) :
    CompleteGroups edges := by
  rcases siteEdges_cases loaded with rfl | ⟨_, _, declared, built⟩
  · exact CompleteGroups.nil
  · exact candidateEdges_complete built declared grouped.representable grouped.distinct

theorem siteEdges_length (loaded : siteEdges links resolution = .ok edges) :
    edges.length ≤ resolution.outcome.retained.length := by
  rcases siteEdges_cases loaded with rfl | ⟨_, _, _, built⟩
  · exact Nat.zero_le _
  · exact (candidateEdges_length built).le

theorem site_of_mem_loadRelationships (loaded : loadRelationships links resolutions = .ok edges)
    (isEdge : edge ∈ edges) :
    edge.site ∈ resolutions.map (·.site) := by
  induction resolutions generalizing edges with
  | nil =>
    cases loaded
    cases isEdge
  | cons first rest hypothesis =>
    simp only [loadRelationships, except_bind_eq_ok_iff, Except.ok.injEq] at loaded
    obtain ⟨group, isGroup, others, isOthers, rfl⟩ := loaded
    rw [List.map_cons]
    rcases List.mem_append.mp isEdge with inGroup | inOthers
    · rw [site_of_mem_siteEdges isGroup inGroup]
      exact List.mem_cons_self
    · exact List.mem_cons_of_mem first.site (hypothesis isOthers inOthers)

theorem loadRelationships_complete (grouped : ∀ resolution ∈ resolutions, GroupedOutcome resolution)
    (distinct : (resolutions.map (·.site)).Nodup)
    (loaded : loadRelationships links resolutions = .ok edges) :
    CompleteGroups edges := by
  induction resolutions generalizing edges with
  | nil =>
    cases loaded
    exact CompleteGroups.nil
  | cons first rest hypothesis =>
    simp only [loadRelationships, except_bind_eq_ok_iff, Except.ok.injEq] at loaded
    obtain ⟨group, isGroup, others, isOthers, rfl⟩ := loaded
    obtain ⟨fresh, restDistinct⟩ := List.nodup_cons.mp distinct
    refine (siteEdges_complete (grouped first List.mem_cons_self)
      isGroup).append (hypothesis ?_ restDistinct isOthers) ?_
    · intro resolution isResolution
      exact grouped resolution (List.mem_cons_of_mem first isResolution)
    · intro edge isEdge other isOther same
      apply fresh
      have inRest := site_of_mem_loadRelationships isOthers isOther
      rwa [← same, site_of_mem_siteEdges isGroup isEdge] at inRest

theorem loadRelationships_length (loaded : loadRelationships links resolutions = .ok edges) :
    edges.length ≤ (resolutions.map (·.outcome.retained.length)).sum := by
  induction resolutions generalizing edges with
  | nil =>
    cases loaded
    exact Nat.le_refl _
  | cons first rest hypothesis =>
    simp only [loadRelationships, except_bind_eq_ok_iff, Except.ok.injEq] at loaded
    obtain ⟨group, isGroup, others, isOthers, rfl⟩ := loaded
    rw [List.length_append, List.map_cons, List.sum_cons]
    exact Nat.add_le_add (siteEdges_length isGroup) (hypothesis isOthers)

end Loading

end RepoWitness
