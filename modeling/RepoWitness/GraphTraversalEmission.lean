import RepoWitness.GraphTraversalSoundness

namespace RepoWitness

open Std

/-!
# The order in which a trace discovers definitions

A definition is admitted by the edge that is emitted right after it, unless the
result budget is spent and nothing is emitted any more.  So every returned edge
leaves the start of its request or a definition that an earlier returned edge
leads to.  Levels are emitted one after another, each in relationship order.
-/

section Discovery

/-- The start, or where one of the returned edges leads. -/
def Discovered (direction : RustGraphTraceDirection) (start : RustGraphDefinitionIdentity)
    (results : List RustGraphTraceEdge) (definition : RustGraphDefinitionIdentity) : Prop :=
  definition = start ∨
    ∃ traced ∈ results, orientedNeighbor direction traced.relationship = definition

inductive DiscoveredInOrder (direction : RustGraphTraceDirection)
    (start : RustGraphDefinitionIdentity) :
    List RustGraphTraceEdge → Prop where
  | nil : DiscoveredInOrder direction start []
  | snoc {results : List RustGraphTraceEdge} {traced : RustGraphTraceEdge}
      (earlier : DiscoveredInOrder direction start results)
      (leaves : Discovered direction start results (orientedOrigin direction traced.relationship)) :
      DiscoveredInOrder direction start (results ++ [traced])

def EmittedBefore (first second : RustGraphTraceEdge) : Prop :=
  first.depth < second.depth ∨
    first.depth = second.depth ∧ compareRelationship first.relationship second.relationship = .lt

theorem Discovered.append {direction : RustGraphTraceDirection}
    {start definition : RustGraphDefinitionIdentity} {results : List RustGraphTraceEdge}
    (discovered : Discovered direction start results definition) (more : List RustGraphTraceEdge) :
    Discovered direction start (results ++ more) definition := by
  rcases discovered with isStart | ⟨traced, member, same⟩
  · exact .inl isStart
  · exact .inr ⟨traced, List.mem_append_left more member, same⟩

end Discovery

namespace Traversal

section Emission

variable {settings : TraversalSettings} {start : RustGraphDefinitionIdentity}

/-- While results may be added, everything seen is discovered. -/
structure Discovering (settings : TraversalSettings) (start : RustGraphDefinitionIdentity)
    (traversal : Traversal) : Prop where
  seen : traversal.results.length < settings.limits.maxResults →
      ∀ definition ∈ traversal.seen,
        Discovered settings.direction start traversal.results definition
  inOrder : DiscoveredInOrder settings.direction start traversal.results

variable {before after : Traversal} {depth : Nat}

theorem Discovering.of_frame
    (discovering : before.Discovering settings start) (seen : after.seen = before.seen)
    (results : after.results = before.results) :
    after.Discovering settings start where
  seen := by
    rw [results, seen]
    exact discovering.seen
  inOrder := by
    rw [results]
    exact discovering.inOrder

/-- Looking at a neighbor admits at most that neighbor. -/
theorem Visited.mem_seen {limits : RustGraphTraceLimits}
    {neighbor definition : RustGraphDefinitionIdentity}
    (visits : Visited limits neighbor before after) (member : definition ∈ after.seen) :
    definition = neighbor ∨ definition ∈ before.seen := by
  cases visits with
  | known seen => exact .inr member
  | queued fresh room frontierRoom =>
    rcases DefinitionSet.mem_insert_iff.mp member with same | old
    · exact .inl same.symm
    · exact .inr old
  | unqueued fresh room =>
    rcases DefinitionSet.mem_insert_iff.mp member with same | old
    · exact .inl same.symm
    · exact .inr old

theorem Discovering.processed {edge : RustGraphTraversalEdge}
    {continues : Bool} (discovering : before.Discovering settings start)
    (processed : Processed settings depth edge before continues after) :
    after.Discovering settings start := by
  cases processed with
  | skipped unseen => exact discovering
  | refused fresh full => exact discovering.of_frame rfl rfl
  | @emitted visited originSeen visits room fits =>
    have same := visits.results_eq
    rw [same] at room
    have known := discovering.seen room
    constructor
    · intro _ definition member
      change definition ∈ visited.seen at member
      change Discovered _ _ (visited.results ++ [⟨depth, edge⟩]) _
      rw [same]
      rcases visits.mem_seen member with isNeighbor | old
      · exact .inr ⟨⟨depth, edge⟩, by simp, isNeighbor.symm⟩
      · exact (known definition old).append _
    · change DiscoveredInOrder _ _ (visited.results ++ [⟨depth, edge⟩])
      rw [same]
      exact .snoc discovering.inOrder (known _ originSeen)
  | @exhausted visited visits spent =>
    have same := visits.results_eq
    constructor
    · intro room
      change visited.results.length < settings.limits.maxResults at room
      omega
    · change DiscoveredInOrder _ _ visited.results
      rw [same]
      exact discovering.inOrder

/-- Returned edges are emitted in order and none is deeper than the level. -/
structure InOrder (depth : Nat) (traversal : Traversal) : Prop where
  ordered : traversal.results.Pairwise EmittedBefore
  depths : ∀ traced ∈ traversal.results, traced.depth ≤ depth

/-- A level adds distinct sorted edges after all earlier levels. -/
theorem InOrder.emitting {ordered done : List RustGraphTraversalEdge}
    (inOrder : before.InOrder depth)
    (sorted : SortedBy compareRelationship ordered) (distinct : ordered.Nodup)
    (leading : done <+: ordered) (emitting : Emitting settings (depth + 1) before done after) :
    after.InOrder (depth + 1) := by
  obtain ⟨added, sublist, shape, _⟩ := emitting.results
  have addedSublist := sublist.trans leading.sublist
  have strictly : added.Pairwise fun first second => compareRelationship first second = .lt := by
    have sortedAdded := sorted.sublist addedSublist
    have distinctAdded := distinct.sublist addedSublist
    refine (sortedAdded.and distinctAdded).imp ?_
    rintro first second ⟨lower, different⟩
    cases outcome : compareRelationship first second with
    | lt => rfl
    | eq => exact absurd (@LawfulEqCmp.eq_of_compare _ compareRelationship _ _ _ outcome) different
    | gt =>
      rw [ComparesLE, outcome] at lower
      cases lower
  constructor
  · rw [shape, List.pairwise_append]
    refine ⟨inOrder.ordered, ?_, ?_⟩
    · rw [List.pairwise_map]
      exact strictly.imp fun before => .inr ⟨rfl, before⟩
    · intro earlier old later new
      obtain ⟨edge, _, rfl⟩ := List.mem_map.mp new
      exact .inl (Nat.lt_succ_of_le (inOrder.depths earlier old))
  · intro traced member
    rw [shape] at member
    rcases List.mem_append.mp member with old | new
    · exact Nat.le_succ_of_le (inOrder.depths traced old)
    · obtain ⟨edge, _, rfl⟩ := List.mem_map.mp new
      exact Nat.le_refl _

end Emission

section Levels

variable {sorter : UnstableSort} {settings : TraversalSettings} {admitted : AdmittedEdges}
  {edges : List RustGraphTraversalEdge} {begins : RustGraphTraversalEdge → Prop}
  {start : RustGraphDefinitionIdentity}

variable {depth : Nat}

theorem emission_explores (admits : admitted.Admits edges)
    {before charged processed : Traversal} {taken ordered : List RustGraphTraversalEdge}
    (ready : before.Ready settings (Follows settings edges) begins depth)
    (discovering : before.Discovering settings start) (inOrder : before.InOrder depth)
    (explores : Explores settings admitted (depth + 1) before taken ordered charged processed) :
    processed.Discovering settings start ∧ processed.InOrder (depth + 1) := by
  obtain ⟨seen, _, results, _⟩ := explores.selects.frame
  have chargedDiscovering : charged.Discovering settings start := discovering.of_frame seen results
  have chargedInOrder : charged.InOrder depth :=
    ⟨results ▸ inOrder.ordered, results ▸ inOrder.depths⟩
  obtain ⟨chargedSound, noNext, origins⟩ := ready.charges admits explores
  constructor
  · obtain ⟨_, _, holds, _⟩ :=
      processSelectedEdges_induction (fun _ traversal => traversal.Discovering settings start)
        (fun _ current processed => current.processed processed)
        chargedDiscovering explores.processes
    exact holds
  · obtain ⟨done, leading, emitting⟩ :=
      emitting_of_processSelectedEdges chargedSound.budget noNext
        (fun edge member => .inl (origins edge member)) explores.processes
    exact chargedInOrder.emitting explores.sorted (explores.distinct admits) leading emitting

/-- The level loop keeps the discovery and the order of emission. -/
theorem emission_runDepths (admits : admitted.Admits edges) {count : Nat}
    {traversal final : Traversal}
    (ready : traversal.Ready settings (Follows settings edges) begins depth)
    (discovering : traversal.Discovering settings start) (inOrder : traversal.InOrder depth)
    (accepted :
      (Traversal.runDepths sorter settings admitted
        (List.range' (depth + 1) count) traversal).result = .ok final) :
    DiscoveredInOrder settings.direction start final.results ∧
      final.results.Pairwise EmittedBefore := by
  induction count generalizing depth traversal with
  | zero =>
    cases Except.ok.inj accepted
    exact ⟨discovering.inOrder, inOrder.ordered⟩
  | succ count hypothesis =>
    rw [List.range'_succ] at accepted
    rcases runDepths_cons_ok ready.sound.budget.edges accepted with
      ⟨_, rfl⟩ | ⟨taken, ordered, charged, processed, explores, _, outcome⟩
    · exact ⟨discovering.inOrder, inOrder.ordered⟩
    · have done := (ready.levelDone admits explores).completeDepth (depth + 1)
      obtain ⟨levelDiscovering, levelInOrder⟩ :=
        emission_explores admits ready discovering inOrder explores
      obtain ⟨seen, _, results, _⟩ := completeDepth_frame (depth + 1) processed
      rcases outcome with ⟨_, rfl⟩ | ⟨_, later⟩
      · have probedResults :
            ((processed.completeDepth (depth + 1)).probed settings
              admitted).results = processed.results := by
          unfold probed
          split
          · exact results
          · exact results
        rw [probedResults]
        exact ⟨levelDiscovering.inOrder, levelInOrder.ordered⟩
      · refine hypothesis done.advance (levelDiscovering.of_frame seen results) ?_ later
        constructor
        · change (processed.completeDepth (depth + 1)).results.Pairwise EmittedBefore
          rw [results]
          exact levelInOrder.ordered
        · change ∀ traced ∈ (processed.completeDepth (depth + 1)).results, _
          rw [results]
          exact levelInOrder.depths

end Levels

end Traversal

/-- An accepted trace from a definition returns its edges in order, each
leaving a definition that is discovered before it. -/
theorem emission_of_traceRustGraph {sorter : UnstableSort} {request : RustGraphTraceRequest}
    {definition : RustGraphDefinitionIdentity} {result : RustGraphTraceResult}
    (starts : request.start = .definition definition)
    (accepted : traceRustGraph sorter request = .ok result) :
    DiscoveredInOrder request.direction definition result.edges ∧
      result.edges.Pairwise EmittedBefore := by
  obtain ⟨admitted, initial, explored, admission, fresh, ran, edges, _⟩ :=
    traceRustGraph_ok accepted
  have admits := AdmittedEdges.admits_of_new admission
  obtain ⟨pristine, fits⟩ := Traversal.new_ok fresh
  have ready :=
    @Traversal.Pristine.ready_seedDefinition request.settings request.edges _ pristine fits
      definition
  have noResults : (initial.seedDefinition definition).results = [] := pristine.results
  rw [starts] at ran
  rw [edges]
  refine Traversal.emission_runDepths admits ready ⟨?_, ?_⟩ ⟨?_, ?_⟩ ran
  · intro _ other member
    exact .inl (pristine.mem_seen_seedDefinition.mp member).symm
  · rw [noResults]
    exact .nil
  · rw [noResults]
    exact List.Pairwise.nil
  · rw [noResults]
    exact fun _ => (nomatch ·)

end RepoWitness
