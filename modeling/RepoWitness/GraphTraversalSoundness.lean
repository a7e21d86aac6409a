import RepoWitness.GraphTraversalBounds

namespace RepoWitness

open Std

/-!
# Soundness of whole traces

Both starts establish the level invariant: a definition start trivially, a
site start by emitting the site's edges at depth one.  A node refused by the
node budget leaves the budget full, so an origin that was not admitted is not
admitted later either.
-/

namespace Traversal

/-! ## Starting at a site -/

structure OriginsAdmitted (settings : TraversalSettings) (selected : List RustGraphTraversalEdge)
    (before after : Traversal) : Prop where
  size : before.seen.size ≤ after.seen.size
  nodes : before.seen.size ≤ settings.limits.maxVisitedNodes →
      after.seen.size ≤ settings.limits.maxVisitedNodes
  grows : ∀ definition ∈ before.seen, definition ∈ after.seen
  only : ∀ definition ∈ after.seen, definition ∈ before.seen ∨
        ∃ edge ∈ selected, orientedOrigin settings.direction edge = definition
  origins : ∀ edge ∈ selected,
      orientedOrigin settings.direction edge ∈ after.seen ∨
        (settings.limits.maxVisitedNodes ≤ after.seen.size ∧ after.truncation.any = true)
  truncation : after.truncation = before.truncation ∨ after.truncation.any = true
  rest : after =
      { before with
        seen := after.seen
        truncation := after.truncation }

theorem OriginsAdmitted.cons {settings : TraversalSettings} {edge : RustGraphTraversalEdge}
    {selected : List RustGraphTraversalEdge} {before middle after : Traversal}
    (first : OriginsAdmitted settings [edge] before middle)
    (later : OriginsAdmitted settings selected middle after) :
    OriginsAdmitted settings (edge :: selected) before after where
  size := first.size.trans later.size
  nodes := later.nodes ∘ first.nodes
  grows := fun _ member => later.grows _ (first.grows _ member)
  only := by
    intro definition member
    rcases later.only definition member with old | ⟨other, new⟩
    · refine (first.only definition old).imp_right ?_
      rintro ⟨other, new⟩
      exact ⟨other, List.mem_cons.mpr (.inl (List.mem_singleton.mp new.1)), new.2⟩
    · exact .inr ⟨other, List.mem_cons_of_mem _ new.1, new.2⟩
  origins := by
    intro other member
    rcases List.mem_cons.mp member with rfl | member
    · rcases first.origins other List.mem_cons_self with known | ⟨full, flagged⟩
      · exact .inl (later.grows _ known)
      · exact .inr ⟨full.trans later.size, later.truncation.elim (· ▸ flagged) id⟩
    · exact later.origins other member
  truncation := later.truncation.elim (· ▸ first.truncation) .inr
  rest := later.rest.trans (by rw [first.rest])

theorem originsAdmitted_admitOrigins (settings : TraversalSettings)
    (selected : List RustGraphTraversalEdge) (traversal : Traversal) :
    OriginsAdmitted settings selected traversal (traversal.admitOrigins settings selected) := by
  induction selected generalizing traversal with
  | nil =>
    exact
      { size := Nat.le_refl _, nodes := id, grows := fun _ => id, only := fun _ => .inl
        origins := by simp
        truncation := .inl rfl
        rest := rfl }
  | cons edge selected hypothesis =>
    unfold admitOrigins
    dsimp only
    by_cases known : orientedOrigin settings.direction edge ∈ traversal.seen
    · rw [if_pos known]
      refine .cons ?_ (hypothesis traversal)
      exact
        { size := Nat.le_refl _, nodes := id, grows := fun _ => id, only := fun _ => .inl
          origins := by simp [known]
          truncation := .inl rfl
          rest := rfl }
    · rw [if_neg known]
      unfold admitNode
      by_cases full : settings.limits.maxVisitedNodes ≤ traversal.seen.size
      · rw [if_pos full]
        refine .cons ?_ (hypothesis traversal.setVisitedNodes)
        exact
          { size := Nat.le_refl _, nodes := id, grows := fun _ => id, only := fun _ => .inl
            origins := by simp [setVisitedNodes, RustGraphTraceTruncation.any, full]
            truncation := .inr (by simp [setVisitedNodes, RustGraphTraceTruncation.any])
            rest := rfl }
      · rw [if_neg full]
        refine .cons ?_ (hypothesis { traversal with seen := traversal.seen.insert _ })
        have size := DefinitionSet.size_insert_of_not_mem known
        exact
          { size := by dsimp only; omega, nodes := by dsimp only; omega
            grows := fun _ member => DefinitionSet.mem_insert_iff.mpr (.inr member)
            only := by simp [or_comm]
            origins := by simp
            truncation := .inl rfl
            rest := rfl }

/-- A state in which nothing has been explored. -/
structure Pristine (traversal : Traversal) : Prop where
  seen : traversal.seen = ∅
  current : traversal.current = ∅
  next : traversal.next = ∅
  results : traversal.results = []
  visitedEdges : traversal.visitedEdges = 0
  truncation : traversal.truncation = .none
  outputBytes : traversal.outputBytes = traceOutputFixedBytes
  stop : traversal.stop = false

variable {traversal : Traversal} {settings : TraversalSettings}

theorem new_ok {limits : RustGraphTraceLimits} {inputBytes : Nat}
    (accepted : new limits inputBytes = .ok traversal) :
    traversal.Pristine ∧ traceOutputFixedBytes ≤ limits.maxOutputBytes := by
  unfold new at accepted
  split at accepted
  · cases accepted
  · rename_i fits
    cases Except.ok.inj accepted
    exact ⟨⟨rfl, rfl, rfl, rfl, rfl, rfl, rfl, rfl⟩, Nat.not_lt.mp fits⟩

/-- A pristine state with the start admitted is sound. -/
theorem Pristine.sound {follows begins : RustGraphTraversalEdge → Prop} {after : Traversal}
    (pristine : traversal.Pristine) (fits : traceOutputFixedBytes ≤ settings.limits.maxOutputBytes)
    (nodes : after.seen.size ≤ settings.limits.maxVisitedNodes)
    (results : after.results = traversal.results)
    (bytes : after.outputBytes = traversal.outputBytes)
    (edges : after.visitedEdges ≤ settings.limits.maxVisitedEdges)
    (flagged : after.stop = true → after.truncation.any = true) :
    after.Sound settings follows begins 0 := by
  have none : after.results = [] := results.trans pristine.results
  have fixed : after.outputBytes = traceOutputFixedBytes := bytes.trans pristine.outputBytes
  exact
    { budget :=
        { nodes := nodes, edges := edges, count := by simp [none]
          bytes := by simp [none, fixed, traceBytes]
          fits := fixed ▸ fits
          flagged := flagged }
      walks := by simp [none]
      nodup := by simp [none]
      ordered := by simp [none]
      depths := by simp [none]
      origins := by simp [none] }

/-- What a site start does before its first level is over. -/
structure ExploresSite (sorter : UnstableSort) (settings : TraversalSettings)
    (admitted : AdmittedEdges) (site : RustGraphSiteIdentity) (before : Traversal)
    (taken ordered : List RustGraphTraversalEdge) (charged processed final : Traversal) : Prop where
  present : admitted.matchingSite site ≠ []
  selects :
    Selected settings.limits (allowedEdges settings (admitted.matchingSite site))
      before taken charged
  permutes : ordered.Perm taken
  processes : (processSelectedEdges settings 1 ordered
      (charged.admitOrigins settings ordered)).result = .ok processed
  continues : ∃ completed : Traversal, (completed = processed ∨
          completed = processed.completeDepth 1) ∧
        ((settings.limits.maxDepth = 1 ∧
            final = completed.probed settings admitted) ∨
          (settings.limits.maxDepth ≠ 1 ∧
            (runFromDepth sorter settings admitted 2 completed.advance).result = .ok final))

theorem runFromSite_ok {sorter : UnstableSort}
    {admitted : AdmittedEdges} {site : RustGraphSiteIdentity} {final : Traversal}
    (withinEdges : traversal.visitedEdges ≤ settings.limits.maxVisitedEdges)
    (accepted : (runFromSite sorter settings admitted site traversal).result = .ok final) :
    ∃ taken ordered charged processed,
      ExploresSite sorter settings admitted site traversal taken ordered
        charged processed final := by
  unfold runFromSite at accepted
  dsimp only at accepted
  by_cases absent : (admitted.matchingSite site).isEmpty = true
  · simp [absent] at accepted
  · rw [if_neg absent] at accepted
    simp only [Polled.result_bind, except_bind_eq_ok_iff] at accepted
    obtain
      ⟨⟨selected, charged⟩, selection, ordered, sorting, processed, processing, later⟩ := accepted
    rw [selectMatching_result] at selection
    obtain ⟨taken, same, outcome⟩ := selectAdjacent_ok selection
    rw [List.nil_append] at same
    subst same
    have bounded := outcome.visitedEdges_le withinEdges
    obtain ⟨permutes, _⟩ :=
      sortSelected_ok (show selected.length ≤ settings.limits.maxVisitedEdges by omega) sorting
    refine ⟨selected, ordered, charged, processed,
        { present := by simpa using absent, selects := outcome, permutes := permutes
          processes := processing
          continues :=
            ⟨if ordered.isEmpty = true then
                processed
              else
                processed.completeDepth 1, ?_, ?_⟩ }⟩
    · split
      · exact .inl rfl
      · exact .inr rfl
    · by_cases one : settings.limits.maxDepth = 1
      · rw [if_pos one, probeDepth_result] at later
        exact .inl ⟨one, (Except.ok.inj later).symm⟩
      · rw [if_neg one] at later
        exact .inr ⟨one, later⟩

section Starts

variable {sorter : UnstableSort} {settings : TraversalSettings} {admitted : AdmittedEdges}
  {edges : List RustGraphTraversalEdge}

variable {site : RustGraphSiteIdentity} {traversal : Traversal}
  {definition other : RustGraphDefinitionIdentity} {begins : RustGraphTraversalEdge → Prop}
  {available taken : List RustGraphTraversalEdge} {charged processed final completed : Traversal}

theorem mem_allowedMatching_iff (admits : admitted.Admits edges) {edge : RustGraphTraversalEdge} :
    edge ∈ allowedEdges settings (admitted.matchingSite site) ↔
      Follows settings edges edge ∧ edge.site = site := by
  simp only [allowedEdges, List.mem_filter, admits.mem_matchingSite_iff, Follows]
  constructor
  · rintro ⟨⟨isEdge, same⟩, allowed⟩
    exact ⟨⟨isEdge, allowed⟩, same⟩
  · rintro ⟨⟨isEdge, allowed⟩, same⟩
    exact ⟨⟨isEdge, same⟩, allowed⟩

/-- The edges that begin at a definition. -/
def BeginsAt (settings : TraversalSettings) (definition : RustGraphDefinitionIdentity)
    (edge : RustGraphTraversalEdge) : Prop := orientedOrigin settings.direction edge = definition

/-- The edges of a site. -/
def BelongsTo (site : RustGraphSiteIdentity) (edge : RustGraphTraversalEdge) : Prop :=
  edge.site = site

namespace Pristine

variable (pristine : traversal.Pristine)

include pristine

theorem mem_current_seedDefinition :
    other ∈ (traversal.seedDefinition definition).current ↔ definition = other := by
  simp only [seedDefinition, pristine.current,
    DefinitionSet.mem_insert_iff, TreeSet.not_mem_emptyc, or_false]

theorem mem_seen_seedDefinition :
    other ∈ (traversal.seedDefinition definition).seen ↔ definition = other := by
  simp only [seedDefinition, pristine.seen,
    DefinitionSet.mem_insert_iff, TreeSet.not_mem_emptyc, or_false]

/-- A definition start establishes the level invariant. -/
theorem ready_seedDefinition (fits : traceOutputFixedBytes ≤ settings.limits.maxOutputBytes)
    (definition : RustGraphDefinitionIdentity) :
    (traversal.seedDefinition definition).Ready settings (Follows settings edges)
      (BeginsAt settings definition) 0 := by
  have size : (traversal.seedDefinition definition).seen.size = 1 := by
    simp only [seedDefinition, pristine.seen]
    rw [DefinitionSet.size_insert_of_not_mem TreeSet.not_mem_emptyc]
    rfl
  have nodes :
      (traversal.seedDefinition definition).seen.size ≤ settings.limits.maxVisitedNodes := by
    rw [size]
    exact settings.limits.visitedNodesValid.1
  refine ⟨?_, ?_, ?_⟩
  · exact
      pristine.sound fits nodes rfl rfl (by simp [seedDefinition, pristine.visitedEdges])
        (by simp [seedDefinition, pristine.stop])
  · refine { seen := ?_, unexpanded := ?_, walks := ?_ }
    · intro other member
      exact pristine.mem_seen_seedDefinition.mpr (pristine.mem_current_seedDefinition.mp member)
    · simp [seedDefinition, pristine.results]
    · intro other member edge followed origin
      have same := pristine.mem_current_seedDefinition.mp member
      exact ⟨[edge], .single followed (origin.trans same.symm), rfl⟩
  · intro other
    simp only [seedDefinition, pristine.next]
    exact TreeSet.not_mem_emptyc

/-- The state after admitting the origins of a site's edges is sound. -/
theorem sound_admitOrigins {follows : RustGraphTraversalEdge → Prop}
    (fits : traceOutputFixedBytes ≤ settings.limits.maxOutputBytes)
    (selects : Selected settings.limits available traversal taken charged)
    (ordered : List RustGraphTraversalEdge) :
    (charged.admitOrigins settings ordered).Sound settings follows begins 0 := by
  obtain ⟨seen, _, results, bytes⟩ := selects.frame
  have origins := originsAdmitted_admitOrigins settings ordered charged
  have frame := origins.rest
  have size : charged.seen.size = 0 := by
    rw [seen, pristine.seen]
    rfl
  have edges := (selects.visitedEdges_le (by simp [pristine.visitedEdges])).2
  have flagged := selects.flagged (by simp [pristine.stop])
  refine pristine.sound fits (origins.nodes (by omega)) ?_ ?_ ?_ ?_
  · rw [frame]
    exact results
  · rw [frame]
    exact bytes
  · rw [frame]
    exact edges
  · intro stopped
    have chargedStopped : charged.stop = true := by
      rw [frame] at stopped
      exact stopped
    rcases origins.truncation with same | flag
    · rw [same]
      exact flagged chargedStopped
    · exact flag

/-- The state from which a site start emits has an empty next frontier. -/
theorem noNext_admitOrigins (selects : Selected settings.limits available traversal taken charged)
    (ordered : List RustGraphTraversalEdge) (definition : RustGraphDefinitionIdentity) :
    definition ∉ (charged.admitOrigins settings ordered).next := by
  obtain ⟨_, next, _, _⟩ := selects.frame
  rw [(originsAdmitted_admitOrigins settings ordered charged).rest]
  simp only [next, pristine.next]
  exact TreeSet.not_mem_emptyc

theorem results_admitOrigins (selects : Selected settings.limits available traversal taken charged)
    (ordered : List RustGraphTraversalEdge) :
    (charged.admitOrigins settings ordered).results = [] := by
  obtain ⟨_, _, results, _⟩ := selects.frame
  rw [(originsAdmitted_admitOrigins settings ordered charged).rest]
  simp only [results, pristine.results]

/-- The first level of a site start establishes the level invariant. -/
theorem levelDone_exploresSite (admits : admitted.Admits edges)
    {ordered : List RustGraphTraversalEdge}
    (fits : traceOutputFixedBytes ≤ settings.limits.maxOutputBytes)
    (explores :
      ExploresSite sorter settings admitted site traversal taken ordered charged processed final) :
    processed.LevelDone settings (Follows settings edges) (BelongsTo site) 1 := by
  have origins := originsAdmitted_admitOrigins settings ordered charged
  have available : ∀ edge ∈ ordered, Follows settings edges edge ∧ edge.site = site := by
    intro edge member
    exact (mem_allowedMatching_iff admits).mp
        (explores.selects.leading.subset (explores.permutes.mem_iff.mp member))
  refine
    Sound.processSelectedEdges (pristine.sound_admitOrigins fits explores.selects ordered)
      (pristine.noNext_admitOrigins explores.selects ordered)
      ?_ ?_ ?_ ?_ explores.processes
  · exact explores.permutes.nodup_iff.mpr
        (((admits.nodup_matchingSite site).filter _).sublist explores.selects.leading.sublist)
  · intro edge member
    obtain ⟨followed, belongs⟩ := available edge member
    exact ⟨[edge], .single followed belongs, rfl⟩
  · intro edge member
    exact (origins.origins edge member).imp_right And.left
  · rw [pristine.results_admitOrigins explores.selects ordered]
    simp

end Pristine

/-- The completed first level of a site start keeps what it emitted. -/
theorem ExploresSite.completed_frame
    (isCompleted : completed = processed ∨ completed = processed.completeDepth 1) :
    completed.seen = processed.seen ∧
      completed.next = processed.next ∧
        completed.results = processed.results ∧ completed.truncation = processed.truncation := by
  rcases isCompleted with rfl | rfl
  · exact ⟨rfl, rfl, rfl, rfl⟩
  · obtain ⟨seen, next, results, _, _, _, truncation⟩ := completeDepth_frame 1 processed
    exact ⟨seen, next, results, truncation⟩

/-- Completing the first level of a site start keeps the invariant. -/
theorem LevelDone.completedSite
    (done : processed.LevelDone settings (Follows settings edges) begins 1)
    (isCompleted : completed = processed ∨ completed = processed.completeDepth 1) :
    completed.LevelDone settings (Follows settings edges) begins 1 := by
  rcases isCompleted with rfl | rfl
  · exact done
  · exact done.completeDepth 1

/-- The exploration after a site start ends in a sound state. -/
theorem Pristine.sound_runFromSite (admits : admitted.Admits edges) (pristine : traversal.Pristine)
    (fits : traceOutputFixedBytes ≤ settings.limits.maxOutputBytes)
    (accepted : (runFromSite sorter settings admitted site traversal).result = .ok final) :
    ∃ depth, final.Sound settings (Follows settings edges) (BelongsTo site)
        depth := by
  obtain ⟨taken, ordered, charged, processed, explores⟩ :=
    runFromSite_ok (by simp [pristine.visitedEdges]) accepted
  obtain ⟨completed, isCompleted, outcome⟩ := explores.continues
  have done := (pristine.levelDone_exploresSite admits fits explores).completedSite isCompleted
  rcases outcome with ⟨_, rfl⟩ | ⟨_, later⟩
  · exact ⟨1, done.sound.probed⟩
  · exact done.advance.runDepths admits later

end Starts

end Traversal

/-! ## Whole traces -/

namespace RustGraphTraceRequest

def Follows (request : RustGraphTraceRequest) (edge : RustGraphTraversalEdge) : Prop :=
  edge ∈ request.edges ∧ request.edgeKinds.allows edge.kind = true

def Begins (request : RustGraphTraceRequest) (edge : RustGraphTraversalEdge) : Prop :=
  match request.start with
  | .definition definition => orientedOrigin request.direction edge = definition
  | .site site => edge.site = site

end RustGraphTraceRequest

theorem traceRustGraph_ok {sorter : UnstableSort} {request : RustGraphTraceRequest}
    {result : RustGraphTraceResult} (accepted : traceRustGraph sorter request = .ok result) :
    ∃ admitted initial explored,
      (AdmittedEdges.new sorter request.edges request.limits).result = .ok admitted ∧
        Traversal.new request.limits admitted.inputBytes = .ok initial ∧
        (initial.run sorter request.settings admitted request.start).result = .ok explored ∧
        result.edges = explored.results ∧
        result.visitedNodes = explored.seen.size ∧
        result.visitedEdges = explored.visitedEdges ∧
        result.truncation = explored.truncation ∧
        result.outputBytes = explored.outputBytes := by
  have uncontrolled := Polled.result_of_observe_ok accepted
  simp only [polledTrace, Polled.result_bind, Polled.result_poll,
    Polled.result_done, except_ok_bind,
    except_bind_eq_ok_iff] at uncontrolled
  obtain ⟨admitted, admission, initial, fresh, explored, ran, finished⟩ := uncontrolled
  simp only [Traversal.finish, Polled.result_bind, Polled.result_poll,
    Polled.result_pure, except_ok_bind, Except.ok.injEq] at finished
  subst finished
  exact ⟨admitted, initial, explored, admission, fresh, ran, rfl, rfl, rfl, rfl, rfl⟩

/-- Every accepted trace comes from a sound final state. -/
theorem sound_of_traceRustGraph {sorter : UnstableSort} {request : RustGraphTraceRequest}
    {admitted : AdmittedEdges} {initial explored : Traversal}
    (admission : (AdmittedEdges.new sorter request.edges request.limits).result = .ok admitted)
    (fresh : Traversal.new request.limits admitted.inputBytes = .ok initial)
    (ran : (initial.run sorter request.settings admitted request.start).result = .ok explored) :
    ∃ depth, explored.Sound request.settings request.Follows request.Begins
        depth := by
  have admits := AdmittedEdges.admits_of_new admission
  obtain ⟨pristine, fits⟩ := Traversal.new_ok fresh
  unfold Traversal.run at ran
  cases start : request.start with
  | definition definition =>
    have begins : request.Begins = Traversal.BeginsAt request.settings definition := by
      funext edge
      simp only [RustGraphTraceRequest.Begins, start]
      rfl
    rw [start] at ran
    rw [begins]
    exact (pristine.ready_seedDefinition fits definition).runDepths admits ran
  | site site =>
    have begins : request.Begins = Traversal.BelongsTo site := by
      funext edge
      simp only [RustGraphTraceRequest.Begins, start]
      rfl
    rw [start] at ran
    rw [begins]
    exact pristine.sound_runFromSite admits fits ran

/-- The encoded sizes of emitted edges always exist. -/
theorem mapM_encodedRelationshipBytes (edges : List RustGraphTraceEdge) :
    edges.mapM (fun traced => encodedRelationshipBytes traced.relationship) =
      .ok (edges.map (fun traced => relationshipBytes traced.relationship)) := by
  induction edges with
  | nil => rfl
  | cons traced edges hypothesis =>
    rw [List.mapM_cons, encodedRelationshipBytes_eq_ok,
      except_ok_bind, hypothesis, except_ok_bind]
    rfl

/--
Every accepted trace, truncated or not, is sound: each returned edge ends a
walk of exactly its depth from the start, no edge occurs twice, depths do not
decrease, every budget is kept and the byte account is exact.
-/
theorem trace_sound {sorter : UnstableSort} {request : RustGraphTraceRequest}
    {result : RustGraphTraceResult} (accepted : traceRustGraph sorter request = .ok result) :
    (∀ traced ∈ result.edges, ∃ walk : List RustGraphTraversalEdge,
        EdgeWalk (orientedOrigin request.direction)
            (orientedNeighbor request.direction) request.Follows
            request.Begins walk traced.relationship ∧
          walk.length = traced.depth) ∧
      (result.edges.map (·.relationship)).Nodup ∧
      result.edges.Pairwise (fun first second => first.depth ≤ second.depth) ∧
      result.edges.length ≤ request.limits.maxResults ∧
      result.visitedNodes ≤ request.limits.maxVisitedNodes ∧
      result.visitedEdges ≤ request.limits.maxVisitedEdges ∧
      (∃ sizes : List Nat,
        result.edges.mapM (fun traced => encodedRelationshipBytes traced.relationship) = .ok sizes ∧
        result.outputBytes = 96 + (sizes.map (fun size => 20 + size)).sum) ∧
      result.outputBytes ≤ request.limits.maxOutputBytes := by
  obtain ⟨admitted, initial, explored, admission, fresh, ran, edges, nodes,
      visited, _, bytes⟩ := traceRustGraph_ok accepted
  obtain ⟨depth, sound⟩ := sound_of_traceRustGraph admission fresh ran
  rw [edges, nodes, visited, bytes]
  refine ⟨sound.walks, sound.nodup, sound.ordered, sound.budget.count,
      sound.budget.nodes, sound.budget.edges, ?_, sound.budget.fits⟩
  refine ⟨_, mapM_encodedRelationshipBytes explored.results, ?_⟩
  rw [sound.budget.bytes, List.map_map]
  rfl

namespace Sample

/-- Three calls traced with room for one result. -/
def oneResultRequest : RustGraphTraceRequest :=
  { request [call 1 2 1, call 2 3 2, call 1 3 3] (.definition (definition 1)) with
    limits :=
      { RustGraphTraceLimits.default with
        maxResults := 1
        resultsValid := by decide } }

/-- The second call is admitted but no longer emitted. -/
def oneResult : RustGraphTraceResult where
  edges := [⟨1, call 1 2 1⟩]
  visitedNodes := 3
  visitedEdges := 2
  maximumCompletedDepth := 0
  truncation := { RustGraphTraceTruncation.none with results := true }
  coverage := ⟨0, 0, 0, 0, 0, 0, 0, 0⟩
  inputBytes := 1017
  outputBytes := 455

end Sample

theorem trace_sound_of_oneResult : traceRustGraph insertionSorter Sample.oneResultRequest =
        .ok Sample.oneResult ∧
      ∃ sizes : List Nat, Sample.oneResult.edges.mapM
            (fun traced => encodedRelationshipBytes traced.relationship) =
          .ok sizes ∧
        Sample.oneResult.outputBytes =
          96 + (sizes.map (fun size => 20 + size)).sum := by
  have accepted :
      traceRustGraph insertionSorter Sample.oneResultRequest = .ok Sample.oneResult := by
    decide +kernel
  obtain ⟨_, _, _, _, _, _, bytes, _⟩ := trace_sound accepted
  exact ⟨accepted, bytes⟩

end RepoWitness
