import RepoWitness.GraphTraversalCompleteness

namespace RepoWitness

open Std

/-!
# Site starts

A site start marks the origins of the site's edges as seen and never puts them
on a frontier.  A walk that comes back to such an origin therefore ends there:
the other edges of that origin are neither returned nor reported as truncated.
This module proves exactly when a site trace returns every reachable edge.
-/

namespace Traversal

/-- A definition that an allowed edge of the site starts from. -/
def SiteOrigin (settings : TraversalSettings) (edges : List RustGraphTraversalEdge)
    (site : RustGraphSiteIdentity) (definition : RustGraphDefinitionIdentity) : Prop :=
  ∃ edge, Follows settings edges edge ∧ edge.site = site ∧
      orientedOrigin settings.direction edge = definition

/-- A definition that an allowed edge of the site leads to. -/
def SiteNeighbor (settings : TraversalSettings) (edges : List RustGraphTraversalEdge)
    (site : RustGraphSiteIdentity) (definition : RustGraphDefinitionIdentity) : Prop :=
  ∃ edge, Follows settings edges edge ∧ edge.site = site ∧
      orientedNeighbor settings.direction edge = definition

section SiteStart

variable {sorter : UnstableSort} {settings : TraversalSettings} {admitted : AdmittedEdges}
  {edges : List RustGraphTraversalEdge} {site : RustGraphSiteIdentity}

/-- An untruncated first level emits every allowed edge of the site. -/
theorem Pristine.levelled_exploresSite (admits : admitted.Admits edges)
    {traversal charged processed final completed : Traversal}
    {taken ordered : List RustGraphTraversalEdge} (pristine : traversal.Pristine)
    (fits : traceOutputFixedBytes ≤ settings.limits.maxOutputBytes)
    (explores :
      ExploresSite sorter settings admitted site traversal taken ordered charged processed final)
    (isCompleted : completed = processed ∨ completed = processed.completeDepth 1)
    (untruncated : completed.Untruncated) :
    (∀ edge,
      edge ∈ ordered ↔ Follows settings edges edge ∧ edge.site = site) ∧
      Levelled settings edges (SiteNeighbor settings edges site) (SiteOrigin settings edges site)
        (ordered.map (RustGraphTraceEdge.mk 1)) 1 0
        completed.advance := by
  obtain ⟨seen, next, results, truncation⟩ := ExploresSite.completed_frame isCompleted
  have emitted : processed.Untruncated := by rwa [Untruncated, truncation] at untruncated
  have running := (pristine.levelDone_exploresSite admits fits explores).sound.running emitted
  have origins := originsAdmitted_admitOrigins settings ordered charged
  have started := untruncated_of_processSelectedEdges explores.processes emitted
  have chargedUntruncated : charged.Untruncated := by
    rcases origins.truncation with same | flagged
    · rwa [Untruncated, same] at started
    · rw [started] at flagged
      cases flagged
  obtain ⟨all, _⟩ := explores.selects.eq_of_untruncated chargedUntruncated
  have members : ∀ edge, edge ∈ ordered ↔ Follows settings edges edge ∧ edge.site = site := by
    intro edge
    rw [explores.permutes.mem_iff, all, mem_allowedMatching_iff admits]
  have originsSeen : ∀ edge ∈ ordered,
        orientedOrigin settings.direction edge ∈ (charged.admitOrigins settings ordered).seen := by
    intro edge member
    rcases origins.origins edge member with seen | ⟨_, flagged⟩
    · exact seen
    · rw [started] at flagged
      cases flagged
  have seeds : ∀ definition,
        definition ∈ (charged.admitOrigins settings ordered).seen ↔
          SiteOrigin settings edges site definition := by
    intro definition
    obtain ⟨chargedSeen, _, _, _⟩ := explores.selects.frame
    constructor
    · intro member
      rcases origins.only definition member with early | ⟨edge, isSite, same⟩
      · rw [chargedSeen, pristine.seen] at early
        exact absurd early TreeSet.not_mem_emptyc
      · obtain ⟨followed, belongs⟩ := (members edge).mp isSite
        exact ⟨edge, followed, belongs, same⟩
    · rintro ⟨edge, followed, belongs, rfl⟩
      exact originsSeen edge ((members edge).mpr ⟨followed, belongs⟩)
  have neighbors : ∀ definition, (∃ edge ∈ ordered,
            orientedNeighbor settings.direction edge = definition) ↔
          SiteNeighbor settings edges site definition := by
    intro definition
    simp only [members, SiteNeighbor, and_assoc]
  have exhaustive :=
    exhaustive_of_processSelectedEdges (pristine.noNext_admitOrigins explores.selects ordered)
      originsSeen explores.processes running emitted
  refine ⟨members, { seen := ?_, current := ?_, results := ?_ }⟩
  · intro definition
    change definition ∈ completed.seen ↔ _
    rw [seen, exhaustive.seen, seeds, neighbors, SearchProblem.within_zero_iff]
    by_cases isOrigin : SiteOrigin settings edges site definition
    · simp only [isOrigin, true_or]
    · simp only [isOrigin, false_or]
      exact ⟨fun isNeighbor => ⟨isNeighbor, isOrigin⟩, And.left⟩
  · intro definition
    change definition ∈ completed.next ↔ _
    rw [next, exhaustive.next, seeds, neighbors, SearchProblem.atDistance_zero_iff]
    exact and_comm
  · intro traced
    change traced ∈ completed.results ↔ _
    rw [results, exhaustive.results, pristine.results_admitOrigins explores.selects ordered]
    simp

/-- An untruncated site start explores everything behind the site. -/
theorem Pristine.finished_runFromSite (admits : admitted.Admits edges) {traversal final : Traversal}
    (pristine : traversal.Pristine) (fits : traceOutputFixedBytes ≤ settings.limits.maxOutputBytes)
    (accepted : (runFromSite sorter settings admitted site traversal).result = .ok final)
    (untruncated : final.Untruncated) :
    ∃ ordered : List RustGraphTraversalEdge,
      (∀ edge,
        edge ∈ ordered ↔ Follows settings edges edge ∧ edge.site = site) ∧
        Finished settings edges (SiteNeighbor settings edges site) (SiteOrigin settings edges site)
          (ordered.map (RustGraphTraceEdge.mk 1)) 1 final := by
  obtain ⟨taken, ordered, charged, processed, explores⟩ :=
    runFromSite_ok (by simp [pristine.visitedEdges]) accepted
  obtain ⟨completed, isCompleted, outcome⟩ := explores.continues
  have done := (pristine.levelDone_exploresSite admits fits explores).completedSite isCompleted
  rcases outcome with ⟨_, rfl⟩ | ⟨deeper, later⟩
  · have completedUntruncated : completed.Untruncated := by
      obtain ⟨same, _⟩ := untruncated.of_probed
      rwa [same] at untruncated
    obtain ⟨members, levelled⟩ :=
      pristine.levelled_exploresSite admits fits explores isCompleted completedUntruncated
    exact ⟨ordered, members, levelled.finished_of_probed admits untruncated⟩
  · have positive := settings.limits.depthValid.1
    obtain ⟨count, last⟩ : ∃ count, 2 + count = settings.limits.maxDepth :=
      ⟨settings.limits.maxDepth - 2, by omega⟩
    have depths : settings.limits.maxDepth + 1 - 2 = count + 1 := by omega
    unfold runFromDepth at later
    rw [depths] at later
    obtain ⟨completedUntruncated, finishes⟩ :=
      @finished_of_runDepths _ sorter settings admitted edges (SiteNeighbor settings edges site)
        (SiteOrigin settings edges site) (ordered.map (RustGraphTraceEdge.mk 1)) 1 0 _
        (BelongsTo site) admits count (by omega) done.advance later untruncated
    obtain ⟨members, levelled⟩ :=
      pristine.levelled_exploresSite admits fits explores isCompleted completedUntruncated
    exact ⟨ordered, members, finishes levelled⟩

end SiteStart

end Traversal

/-! ## When a site trace is complete -/

namespace RustGraphTraceRequest

/-- The definition is where an allowed edge of the site starts. -/
def SiteOrigin (request : RustGraphTraceRequest) (site : RustGraphSiteIdentity)
    (definition : RustGraphDefinitionIdentity) : Prop :=
  ∃ edge,
    request.Follows edge ∧ edge.site = site ∧ orientedOrigin request.direction edge = definition

/--
The search a site start is for: from the neighbors of the site's allowed edges
along allowed edges, with no node excluded.
-/
def siteSearch (request : RustGraphTraceRequest) (site : RustGraphSiteIdentity) :
    SearchProblem RustGraphDefinitionIdentity RustGraphTraversalEdge where
  origin := orientedOrigin request.direction
  neighbor := orientedNeighbor request.direction
  follows := request.Follows
  source := fun definition =>
    ∃ edge,
      request.Follows edge ∧ edge.site = site ∧ orientedNeighbor request.direction edge = definition
  blocked := fun _ => False

/--
A trace from a site is complete when it has every allowed edge of the site at
depth one and every allowed edge whose origin is reachable behind the site,
each exactly once.
-/
def SiteTraceComplete (request : RustGraphTraceRequest) (site : RustGraphSiteIdentity)
    (result : RustGraphTraceResult) : Prop :=
  (∀ edge,
    request.Follows edge → edge.site = site → ⟨1, edge⟩ ∈ result.edges) ∧
    (∀ edge, request.Follows edge →
        (request.siteSearch site).Reaches (orientedOrigin request.direction edge) →
          edge ∈ result.edges.map (·.relationship)) ∧
    (result.edges.map (·.relationship)).Nodup

/--
No walk behind the site comes back to an origin of the site that has allowed
edges besides those of the site.
-/
def SiteOriginsNotRevisited (request : RustGraphTraceRequest)
    (site : RustGraphSiteIdentity) : Prop :=
  ∀ edge, request.Follows edge → edge.site ≠ site →
      request.SiteOrigin site (orientedOrigin request.direction edge) →
        ¬ (request.siteSearch site).Reaches (orientedOrigin request.direction edge)

/-- The search the engine performs: origins of the site are not entered. -/
def exploredSiteSearch (request : RustGraphTraceRequest) (site : RustGraphSiteIdentity) :
    SearchProblem RustGraphDefinitionIdentity
      RustGraphTraversalEdge :=
  { request.siteSearch site with
    blocked := request.SiteOrigin site }

variable {request : RustGraphTraceRequest} {site : RustGraphSiteIdentity}

/--
Unless a walk comes back to an origin with further edges, what is reachable is
an origin of the site or reachable without entering one.
-/
theorem SiteOriginsNotRevisited.explored (notRevisited : request.SiteOriginsNotRevisited site)
    {length : Nat} {definition : RustGraphDefinitionIdentity}
    (reached : (request.siteSearch site).ReachesIn length definition) :
    request.SiteOrigin site definition ∨ (request.exploredSiteSearch site).Reaches definition := by
  induction reached with
  | @source definition starts _ =>
    by_cases isOrigin : request.SiteOrigin site definition
    · exact .inl isOrigin
    · exact .inr ⟨0, .source starts isOrigin⟩
  | @step length edge walked followed _ hypothesis =>
    by_cases isOrigin : request.SiteOrigin site ((request.siteSearch site).neighbor edge)
    · exact .inl isOrigin
    · right
      rcases hypothesis with fromOrigin | ⟨shorter, explored⟩
      · -- Only the site's own edges leave a revisited origin.
        have belongs : edge.site = site := by
          by_contra other
          exact notRevisited edge followed other fromOrigin ⟨length, walked⟩
        exact ⟨0, .source ⟨edge, followed, belongs, rfl⟩ isOrigin⟩
      · exact ⟨shorter + 1, .step explored followed isOrigin⟩

end RustGraphTraceRequest

theorem mem_site_trace {sorter : UnstableSort} {request : RustGraphTraceRequest}
    {site : RustGraphSiteIdentity} {result : RustGraphTraceResult}
    (starts : request.start = .site site) (accepted : traceRustGraph sorter request = .ok result)
    (untruncated : result.truncation.any = false) (traced : RustGraphTraceEdge) :
    traced ∈ result.edges ↔
      (traced.depth = 1 ∧ request.Follows traced.relationship ∧
          traced.relationship.site = site) ∨
        ∃ distance, traced.depth = 1 + distance + 1 ∧
            request.Follows traced.relationship ∧
              (request.exploredSiteSearch site).AtDistance distance
                (orientedOrigin request.direction traced.relationship) := by
  obtain ⟨admitted, initial, explored, admission, fresh, ran, edges, _, _,
      truncation, _⟩ := traceRustGraph_ok accepted
  have admits := AdmittedEdges.admits_of_new admission
  obtain ⟨pristine, fits⟩ := Traversal.new_ok fresh
  rw [starts] at ran
  obtain ⟨ordered, members, finished⟩ :=
    @Traversal.Pristine.finished_runFromSite sorter request.settings
      admitted request.edges site admits initial explored pristine fits
      ran (by rwa [truncation] at untruncated)
  rw [edges, finished.results]
  refine or_congr ?_ Iff.rfl
  rw [List.mem_map]
  constructor
  · rintro ⟨edge, member, rfl⟩
    exact ⟨rfl, (members edge).mp member⟩
  · rintro ⟨depth, followed⟩
    refine ⟨traced.relationship, (members _).mpr followed, ?_⟩
    rw [← depth]

/--
An accepted, untruncated trace from a site is complete exactly when no walk
behind the site comes back to an origin of the site that has other allowed
edges.
-/
theorem site_trace_complete_iff {sorter : UnstableSort} {request : RustGraphTraceRequest}
    {site : RustGraphSiteIdentity} {result : RustGraphTraceResult}
    (starts : request.start = .site site) (accepted : traceRustGraph sorter request = .ok result)
    (untruncated : result.truncation.any = false) :
    request.SiteTraceComplete site result ↔ request.SiteOriginsNotRevisited site := by
  have members := mem_site_trace starts accepted untruncated
  constructor
  · rintro ⟨_, complete, _⟩ edge followed other isOrigin reached
    obtain ⟨traced, member, rfl⟩ := List.mem_map.mp (complete edge followed reached)
    rcases (members traced).mp member with ⟨_, _, belongs⟩ | ⟨distance, _, _, explored⟩
    · exact other belongs
    · exact explored.1.not_blocked isOrigin
  · intro notRevisited
    obtain
      ⟨admitted, initial, explored, admission, fresh, ran, edges, _⟩ := traceRustGraph_ok accepted
    obtain ⟨_, sound⟩ := sound_of_traceRustGraph admission fresh ran
    refine ⟨?_, ?_, edges ▸ sound.nodup⟩
    · intro edge followed belongs
      exact (members _).mpr (.inl ⟨rfl, followed, belongs⟩)
    · rintro edge followed ⟨length, reached⟩
      rw [List.mem_map]
      rcases notRevisited.explored reached with isOrigin | explored
      · have belongs : edge.site = site := by
          by_contra other
          exact notRevisited edge followed other isOrigin ⟨length, reached⟩
        exact ⟨⟨1, edge⟩, (members _).mpr (.inl ⟨rfl, followed, belongs⟩), rfl⟩
      · obtain ⟨distance, least⟩ := SearchProblem.reaches_iff_exists_atDistance.mp explored
        exact
          ⟨⟨1 + distance + 1, edge⟩, (members _).mpr (.inr ⟨distance, rfl, followed, least⟩), rfl⟩

namespace Sample

/--
`1 → 2` from the traced site, `2 → 1` back to its origin, and another call
`1 → 3` of that origin.
-/
def returningRequest : RustGraphTraceRequest :=
  request [call 1 2 1, call 2 1 2, call 1 3 3] (.site (site 1 1))

/-- The call `1 → 3` is missing and no flag is set. -/
def returningResult : RustGraphTraceResult where
  edges := [⟨1, call 1 2 1⟩, ⟨2, call 2 1 2⟩]
  visitedNodes := 2
  visitedEdges := 2
  maximumCompletedDepth := 2
  truncation := .none
  coverage := ⟨0, 0, 0, 0, 0, 0, 0, 0⟩
  inputBytes := 1017
  outputBytes := 814

/-- The origin of the traced site is reachable behind it. -/
theorem returning_reaches : (returningRequest.siteSearch (site 1 1)).Reaches (definition 1) := by
  have first : returningRequest.Follows (call 1 2 1) := ⟨by simp [returningRequest, request], rfl⟩
  have back : returningRequest.Follows (call 2 1 2) := ⟨by simp [returningRequest, request], rfl⟩
  have start : (returningRequest.siteSearch (site 1 1)).ReachesIn 0 (definition 2) :=
    .source ⟨call 1 2 1, first, rfl, rfl⟩ not_false
  exact ⟨1, @SearchProblem.ReachesIn.step _ _
        (returningRequest.siteSearch (site 1 1)) 0 (call 2 1 2) start
        back not_false⟩

end Sample

/--
A trace from a site that is accepted without any truncation flag and omits a
reachable call.
-/
theorem site_trace_omits_reachable_edge : traceRustGraph insertionSorter Sample.returningRequest =
        .ok Sample.returningResult ∧
      Sample.returningResult.truncation.any = false ∧
      ¬ Sample.returningRequest.SiteTraceComplete (Sample.site 1 1)
        Sample.returningResult := by
  refine ⟨by decide +kernel, rfl, ?_⟩
  rintro ⟨_, complete, _⟩
  have followed : Sample.returningRequest.Follows (Sample.call 1 3 3) :=
    ⟨by simp [Sample.returningRequest, Sample.request], rfl⟩
  have member := complete (Sample.call 1 3 3) followed Sample.returning_reaches
  revert member
  decide +kernel

theorem site_trace_complete_iff_of_acyclic : traceRustGraph insertionSorter
          (Sample.request [Sample.call 1 2 1, Sample.call 1 3 3] (.site (Sample.site 1 1))) =
        .ok
          { Sample.returningResult with
            edges := [⟨1, Sample.call 1 2 1⟩]
            visitedEdges := 1
            inputBytes := 678
            outputBytes := 455 } ∧
      ((Sample.request [Sample.call 1 2 1, Sample.call 1 3 3]
          (.site (Sample.site 1 1))).SiteTraceComplete (Sample.site 1 1)
            { Sample.returningResult with
              edges := [⟨1, Sample.call 1 2 1⟩]
              visitedEdges := 1
              inputBytes := 678
              outputBytes := 455 } ↔
        (Sample.request [Sample.call 1 2 1, Sample.call 1 3 3]
          (.site (Sample.site 1 1))).SiteOriginsNotRevisited (Sample.site 1 1)) := by
  have accepted : traceRustGraph insertionSorter
          (Sample.request [Sample.call 1 2 1, Sample.call 1 3 3] (.site (Sample.site 1 1))) =
        .ok
          { Sample.returningResult with
            edges := [⟨1, Sample.call 1 2 1⟩]
            visitedEdges := 1
            inputBytes := 678
            outputBytes := 455 } := by
    decide +kernel
  exact ⟨accepted, site_trace_complete_iff rfl accepted rfl⟩

end RepoWitness
