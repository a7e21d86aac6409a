import Mathlib.Data.Set.Card
import RepoWitness.GraphTraversalSoundness

namespace RepoWitness

open Std

/-!
# Completeness of untruncated traces

When no truncation flag is set, every loop ran to its end and every level of
the exploration is the corresponding breadth-first level.  A search problem
with blocked nodes covers both starts: a definition start blocks nothing, and
a site start blocks the origins of the site's edges, which it marks as seen
without ever expanding them.  Walks can be walked back, so traces in opposite
directions agree.
-/

namespace Traversal

/-- No truncation flag is set. -/
def Untruncated (traversal : Traversal) : Prop := traversal.truncation.any = false

/-! ## Loops that ran to their end -/

/-- The state of an unobstructed emission loop after the edges `done`. -/
structure Exhaustive (settings : TraversalSettings) (depth : Nat) (start : Traversal)
    (done : List RustGraphTraversalEdge) (traversal : Traversal) : Prop where
  results : traversal.results = start.results ++ done.map (RustGraphTraceEdge.mk depth)
  seen : ∀ definition, definition ∈ traversal.seen ↔ definition ∈ start.seen ∨
          ∃ edge ∈ done, orientedNeighbor settings.direction edge = definition
  next : ∀ definition, definition ∈ traversal.next ↔ definition ∉ start.seen ∧
          ∃ edge ∈ done, orientedNeighbor settings.direction edge = definition

variable {settings : TraversalSettings} {depth : Nat} {start before after : Traversal}
  {done : List RustGraphTraversalEdge} {edge : RustGraphTraversalEdge}
  {limits : RustGraphTraceLimits} {continues : Bool} {selected : List RustGraphTraversalEdge}
  {final : Traversal}

/-- Looking at a neighbor without setting a flag adds it where it belongs. -/
theorem Exhaustive.visited (exhaustive : Exhaustive settings depth start done before)
    (visits : Visited settings.limits (orientedNeighbor settings.direction edge) before after)
    (untruncated : after.Untruncated) :
    (∀ definition, definition ∈ after.seen ↔ definition ∈ start.seen ∨
            ∃ other ∈ done ++ [edge], orientedNeighbor settings.direction other = definition) ∧
      ∀ definition, definition ∈ after.next ↔ definition ∉ start.seen ∧
            ∃ other ∈ done ++ [edge],
              orientedNeighbor settings.direction other =
                definition := by
  have split : ∀ definition, (∃ other ∈ done ++ [edge],
            orientedNeighbor settings.direction other = definition) ↔
          (∃ other ∈ done,
              orientedNeighbor settings.direction other = definition) ∨
            orientedNeighbor settings.direction edge = definition := by
    intro definition
    simp only [List.mem_append, List.mem_singleton, or_and_right, exists_or, exists_eq_left]
  cases visits with
  | known seen =>
    refine ⟨?_, ?_⟩
    · intro definition
      rw [exhaustive.seen, split]
      constructor
      · rintro (old | new)
        · exact .inl old
        · exact .inr (.inl new)
      · rintro (old | new | rfl)
        · exact .inl old
        · exact .inr new
        · exact (exhaustive.seen _).mp seen
    · intro definition
      rw [exhaustive.next, split]
      refine and_congr_right fun fresh => ?_
      constructor
      · exact .inl
      · rintro (new | rfl)
        · exact new
        · exact ((exhaustive.seen _).mp seen).resolve_left fresh
  | queued fresh room frontierRoom =>
    refine ⟨?_, ?_⟩
    · intro definition
      rw [DefinitionSet.mem_insert_iff, exhaustive.seen, split]
      constructor
      · rintro (same | old | new)
        · exact .inr (.inr same)
        · exact .inl old
        · exact .inr (.inl new)
      · rintro (old | new | same)
        · exact .inr (.inl old)
        · exact .inr (.inr new)
        · exact .inl same
    · intro definition
      rw [DefinitionSet.mem_insert_iff, exhaustive.next, split]
      constructor
      · rintro (rfl | ⟨unseen, new⟩)
        · refine ⟨?_, .inr rfl⟩
          intro early
          exact fresh ((exhaustive.seen _).mpr (.inl early))
        · exact ⟨unseen, .inl new⟩
      · rintro ⟨unseen, new | same⟩
        · exact .inr ⟨unseen, new⟩
        · exact .inl same
  | unqueued fresh room =>
    simp [Untruncated, setFrontier, RustGraphTraceTruncation.any] at untruncated

theorem Visited.untruncated {neighbor : RustGraphDefinitionIdentity}
    (visits : Visited limits neighbor before after) (untruncated : after.Untruncated) :
    before.Untruncated := by
  cases visits with
  | known seen => exact untruncated
  | queued fresh room frontierRoom => exact untruncated
  | unqueued fresh room =>
    simp [Untruncated, setFrontier, RustGraphTraceTruncation.any] at untruncated

/-- Processing an edge never clears a flag. -/
theorem Processed.untruncated (processed : Processed settings depth edge before continues after)
    (untruncated : after.Untruncated) :
    before.Untruncated := by
  cases processed with
  | skipped unseen => exact untruncated
  | refused fresh full =>
    simp [Untruncated, setVisitedNodes, RustGraphTraceTruncation.any] at untruncated
  | emitted originSeen visits room fits => exact visits.untruncated untruncated
  | exhausted visits spent =>
    simp [Untruncated, setResults, RustGraphTraceTruncation.any] at untruncated

theorem untruncated_of_processSelectedEdges
    (accepted : (processSelectedEdges settings depth selected start).result = .ok final)
    (untruncated : final.Untruncated) :
    start.Untruncated := by
  obtain ⟨_, _, invariant, _⟩ :=
    processSelectedEdges_induction (fun _ traversal => traversal.Untruncated → start.Untruncated)
      (fun _ invariant processed later => invariant (processed.untruncated later))
      (fun started => started)
      accepted
  exact invariant untruncated

theorem Exhaustive.processed (origin : orientedOrigin settings.direction edge ∈ start.seen)
    (exhaustive : Exhaustive settings depth start done before)
    (processed : Processed settings depth edge before continues after)
    (untruncated : after.Untruncated) :
    Exhaustive settings depth start (done ++ [edge]) after := by
  cases processed with
  | skipped unseen => exact absurd ((exhaustive.seen _).mpr (.inl origin)) unseen
  | refused fresh full =>
    simp [Untruncated, setVisitedNodes, RustGraphTraceTruncation.any] at untruncated
  | @emitted visited originSeen visits room fits =>
    obtain ⟨seen, next⟩ := exhaustive.visited visits untruncated
    refine ⟨?_, seen, next⟩
    simp [Traversal.emitted, visits.results_eq, exhaustive.results]
  | exhausted visits spent =>
    simp [Untruncated, setResults, RustGraphTraceTruncation.any] at untruncated

/-- An emission loop that set no flag emitted every selected edge. -/
theorem exhaustive_of_processSelectedEdges (noNext : ∀ definition, definition ∉ start.next)
    (origins : ∀ edge ∈ selected, orientedOrigin settings.direction edge ∈ start.seen)
    (accepted : (processSelectedEdges settings depth selected start).result = .ok final)
    (running : final.stop = false) (untruncated : final.Untruncated) :
    Exhaustive settings depth start selected final := by
  obtain ⟨done, _, invariant, finished⟩ := processSelectedEdges_induction
      (fun done traversal => traversal.Untruncated → Exhaustive settings depth start done traversal)
      (fun member invariant processed later =>
        (invariant (processed.untruncated later)).processed (origins _ member) processed later)
      (fun _ =>
        { results := by simp, seen := by simp
          next := by
            intro definition
            simp [noNext definition] })
      accepted
  rw [← finished running]
  exact invariant untruncated

/-- A selection loop that set no flag took every available edge. -/
theorem Selected.eq_of_untruncated {available taken : List RustGraphTraversalEdge}
    (selected : Selected limits available before taken after) (untruncated : after.Untruncated) :
    taken = available ∧ before.Untruncated := by
  cases selected with
  | all bounded => exact ⟨rfl, untruncated⟩
  | cut leading bounded =>
    simp [Untruncated, stopAtEdges, setVisitedEdges, RustGraphTraceTruncation.any] at untruncated

/-! ## Levels -/

/-- The search problem of an exploration. -/
def searchProblem (settings : TraversalSettings) (edges : List RustGraphTraversalEdge)
    (source blocked : RustGraphDefinitionIdentity → Prop) :
    SearchProblem RustGraphDefinitionIdentity RustGraphTraversalEdge where
  origin := orientedOrigin settings.direction
  neighbor := orientedNeighbor settings.direction
  follows := Follows settings edges
  source := source
  blocked := blocked

section Levels

variable {sorter : UnstableSort} {settings : TraversalSettings} {admitted : AdmittedEdges}
  {edges : List RustGraphTraversalEdge} {source blocked : RustGraphDefinitionIdentity → Prop}
  {seeded : List RustGraphTraceEdge} {offset : Nat}

/--
The state before the level at this distance is explored.  `seeded` are the
edges a start emitted by itself, and `offset` is the depth it used for them.
-/
structure Levelled (settings : TraversalSettings) (edges : List RustGraphTraversalEdge)
    (source blocked : RustGraphDefinitionIdentity → Prop) (seeded : List RustGraphTraceEdge)
    (offset distance : Nat) (traversal : Traversal) : Prop where
  seen : ∀ definition, definition ∈ traversal.seen ↔ blocked definition ∨
          (searchProblem settings edges source blocked).Within distance definition
  current : ∀ definition, definition ∈ traversal.current ↔
        (searchProblem settings edges source blocked).AtDistance distance definition
  results : ∀ traced, traced ∈ traversal.results ↔ traced ∈ seeded ∨
          ∃ earlier < distance, traced.depth = offset + earlier + 1 ∧
              Follows settings edges traced.relationship ∧
                (searchProblem settings edges source blocked).AtDistance earlier
                    (orientedOrigin settings.direction traced.relationship)

/-- The state after every level has been explored. -/
structure Finished (settings : TraversalSettings) (edges : List RustGraphTraversalEdge)
    (source blocked : RustGraphDefinitionIdentity → Prop) (seeded : List RustGraphTraceEdge)
    (offset : Nat) (traversal : Traversal) : Prop where
  seen : ∀ definition, definition ∈ traversal.seen ↔
        blocked definition ∨ (searchProblem settings edges source blocked).Reaches definition
  results : ∀ traced, traced ∈ traversal.results ↔ traced ∈ seeded ∨
          ∃ distance, traced.depth = offset + distance + 1 ∧
              Follows settings edges traced.relationship ∧
                (searchProblem settings edges source
                  blocked).AtDistance distance
                    (orientedOrigin settings.direction traced.relationship)

variable {distance : Nat} {traversal before charged processed : Traversal}
  {taken ordered : List RustGraphTraversalEdge} {after : Traversal}
  {begins : RustGraphTraversalEdge → Prop} {depth : Nat}

theorem Levelled.finished
    (levelled : Levelled settings edges source blocked seeded offset distance traversal)
    (noEdge : ∀ edge, Follows settings edges edge →
        orientedOrigin settings.direction edge ∉ traversal.current) :
    Finished settings edges source blocked seeded offset traversal := by
  have leaves : ∀ edge,
        (searchProblem settings edges source blocked).follows edge →
          ¬ (searchProblem settings edges source blocked).AtDistance distance
            ((searchProblem settings edges source blocked).origin edge) := by
    intro edge followed reached
    exact noEdge edge followed ((levelled.current _).mpr reached)
  have empty := SearchProblem.not_atDistance_succ_of_no_edge leaves
  refine ⟨?_, ?_⟩
  · intro definition
    rw [levelled.seen, SearchProblem.reaches_iff_within_of_empty empty]
  · intro traced
    rw [levelled.results]
    refine or_congr_right ⟨?_, ?_⟩
    · rintro ⟨earlier, _, facts⟩
      exact ⟨earlier, facts⟩
    · rintro ⟨other, depth, followed, reached⟩
      refine ⟨other, ?_, depth, followed, reached⟩
      rcases Nat.lt_trichotomy other distance with before | rfl | after
      · exact before
      · exact absurd reached (leaves _ followed)
      · exact absurd reached (SearchProblem.not_atDistance_of_empty empty after _)

/-- Exploring a level without setting a flag reaches the next one. -/
theorem Levelled.explores (admits : admitted.Admits edges)
    (levelled : Levelled settings edges source blocked seeded offset distance before)
    (explores :
      Explores settings admitted (offset + distance + 1) before taken ordered charged processed)
    (exhaustive : Exhaustive settings (offset + distance + 1) charged ordered processed)
    (all : taken = frontierEdges settings admitted before.current.toList) :
    Levelled settings edges source blocked seeded offset (distance + 1) processed.advance := by
  obtain ⟨chargedSeen, _, chargedResults, _⟩ := explores.selects.frame
  simp only at chargedSeen chargedResults
  have members : ∀ edge, edge ∈ ordered ↔ Follows settings edges edge ∧
            (searchProblem settings edges source blocked).AtDistance distance
              (orientedOrigin settings.direction edge) := by
    intro edge
    rw [explores.permutes.mem_iff, all, mem_frontierEdges_iff admits, levelled.current]
  have neighbors : ∀ definition, (∃ edge ∈ ordered,
            orientedNeighbor settings.direction edge = definition) ↔
          ∃ edge, Follows settings edges edge ∧
              (searchProblem settings edges source
                blocked).AtDistance distance (orientedOrigin settings.direction edge) ∧
                orientedNeighbor settings.direction edge =
                  definition := by
    intro definition
    simp only [members, and_assoc]
  have nextLevel : ∀ definition,
        (searchProblem settings edges source blocked).AtDistance (distance + 1) definition ↔
          definition ∉ before.seen ∧
            ∃ edge ∈ ordered, orientedNeighbor settings.direction edge =
                definition := by
    intro definition
    rw [SearchProblem.atDistance_succ_iff, neighbors, levelled.seen, not_or, and_assoc]
    rfl
  refine { seen := ?_, current := ?_, results := ?_ }
  · intro definition
    change definition ∈ processed.seen ↔ _
    rw [exhaustive.seen, chargedSeen, SearchProblem.within_succ_iff, nextLevel, levelled.seen]
    by_cases known : blocked definition ∨
          (searchProblem settings edges source blocked).Within distance definition
    · simp only [known, true_or, true_iff]
      rcases known with isBlocked | within
      · exact .inl isBlocked
      · exact .inr (.inl within)
    · obtain ⟨notBlocked, notWithin⟩ := not_or.mp known
      simp only [false_or, notBlocked, notWithin, not_false_iff, true_and]
  · intro definition
    change definition ∈ processed.next ↔ _
    rw [exhaustive.next, chargedSeen, nextLevel]
  · intro traced
    change traced ∈ processed.results ↔ _
    rw [exhaustive.results, List.mem_append, chargedResults, levelled.results, or_assoc]
    refine or_congr_right ⟨?_, ?_⟩
    · rintro (⟨earlier, before, facts⟩ | new)
      · exact ⟨earlier, Nat.lt_succ_of_lt before, facts⟩
      · obtain ⟨edge, member, rfl⟩ := List.mem_map.mp new
        exact ⟨distance, Nat.lt_succ_self _, rfl, (members edge).mp member⟩
    · rintro ⟨earlier, before, depth, followed, reached⟩
      rcases Nat.lt_or_eq_of_le (Nat.le_of_lt_succ before) with lower | rfl
      · exact .inl ⟨earlier, lower, depth, followed, reached⟩
      · refine .inr (List.mem_map.mpr ?_)
        refine ⟨traced.relationship, (members _).mpr ⟨followed, reached⟩, ?_⟩
        rw [← depth]

theorem Levelled.of_frame
    (levelled : Levelled settings edges source blocked seeded offset distance before)
    (seen : after.seen = before.seen) (current : after.current = before.current)
    (results : after.results = before.results) :
    Levelled settings edges source blocked seeded offset distance after where
  seen := seen ▸ levelled.seen
  current := current ▸ levelled.current
  results := results ▸ levelled.results

theorem Finished.of_frame (finished : Finished settings edges source blocked seeded offset before)
    (seen : after.seen = before.seen) (results : after.results = before.results) :
    Finished settings edges source blocked seeded offset after where
  seen := seen ▸ finished.seen
  results := results ▸ finished.results

theorem Untruncated.of_probed (untruncated : (traversal.probed settings admitted).Untruncated) :
    traversal.probed settings admitted = traversal ∧
      frontierEdges settings admitted traversal.next.toList = [] := by
  unfold Traversal.probed at untruncated ⊢
  split
  · rename_i none
    exact ⟨rfl, none⟩
  · rename_i some
    rw [if_neg some] at untruncated
    simp [Untruncated, setDepth, RustGraphTraceTruncation.any] at untruncated

/-- A probe that found nothing finishes the exploration. -/
theorem Levelled.finished_of_probed (admits : admitted.Admits edges)
    (levelled : Levelled settings edges source blocked seeded offset distance traversal.advance)
    (untruncated : (traversal.probed settings admitted).Untruncated) :
    Finished settings edges source blocked seeded offset (traversal.probed settings admitted) := by
  obtain ⟨same, none⟩ := untruncated.of_probed
  rw [same]
  have finished := levelled.finished (by
    intro edge followed member
    have found : edge ∈ frontierEdges settings admitted traversal.next.toList :=
      (mem_frontierEdges_iff admits).mpr ⟨followed, member⟩
    rw [none] at found
    cases found)
  exact finished.of_frame rfl rfl

theorem Sound.running {follows : RustGraphTraversalEdge → Prop}
    (sound : traversal.Sound settings follows begins depth) (untruncated : traversal.Untruncated) :
    traversal.stop = false := by
  cases stopped : traversal.stop with
  | false => rfl
  | true =>
    have flagged := sound.budget.flagged stopped
    rw [untruncated] at flagged
    cases flagged

/-- A loop that ended early without a flag had nothing left to explore. -/
theorem finished_of_ended (sound : traversal.Sound settings (Follows settings edges) begins depth)
    (ended : traversal.current.isEmpty = true ∨ traversal.stop = true)
    (untruncated : traversal.Untruncated) :
    traversal.Untruncated ∧
      (Levelled settings edges source blocked seeded offset distance traversal →
        Finished settings edges source blocked seeded offset traversal) := by
  refine ⟨untruncated, fun levelled => levelled.finished ?_⟩
  intro edge _ member
  rcases ended with empty | stopped
  · exact TreeSet.isEmpty_iff_forall_not_mem.mp empty _ member
  · rw [sound.running untruncated] at stopped
    cases stopped

/-- A level that set no flag started without one and completed its level. -/
theorem explores_of_untruncated (admits : admitted.Admits edges)
    (ready : before.Ready settings (Follows settings edges) begins (offset + distance))
    (explores :
      Explores settings admitted (offset + distance + 1) before taken ordered charged processed)
    (untruncated : (processed.completeDepth (offset + distance + 1)).Untruncated) :
    before.Untruncated ∧
      (Levelled settings edges source blocked seeded offset distance before →
        Levelled settings edges source blocked seeded offset (distance + 1)
          (processed.completeDepth (offset + distance + 1)).advance) := by
  obtain ⟨seen, next, results, _, _, _, truncation⟩ :=
    completeDepth_frame (offset + distance + 1) processed
  have emitted : processed.Untruncated := by rwa [Untruncated, truncation] at untruncated
  have running := (ready.levelDone admits explores).sound.running emitted
  have started := untruncated_of_processSelectedEdges explores.processes emitted
  obtain ⟨_, noNext, origins⟩ := ready.charges admits explores
  have exhaustive :=
    exhaustive_of_processSelectedEdges noNext origins explores.processes running emitted
  obtain ⟨all, beforeUntruncated⟩ := explores.selects.eq_of_untruncated started
  refine ⟨beforeUntruncated, fun levelled => ?_⟩
  exact (levelled.explores admits explores exhaustive all).of_frame seen next results

/--
A level loop that set no flag started without one and, from a breadth-first
level, explores all remaining levels.
-/
theorem finished_of_runDepths (admits : admitted.Admits edges) {count : Nat}
    (last : offset + distance + 1 + count = settings.limits.maxDepth)
    (ready : traversal.Ready settings (Follows settings edges) begins (offset + distance))
    (accepted :
      (runDepths sorter settings admitted (List.range' (offset + distance + 1) (count + 1))
        traversal).result = .ok final)
    (untruncated : final.Untruncated) :
    traversal.Untruncated ∧
      (Levelled settings edges source blocked seeded offset distance traversal →
        Finished settings edges source blocked seeded offset final) := by
  induction count generalizing distance traversal with
  | zero =>
    rw [List.range'_succ] at accepted
    rcases runDepths_cons_ok ready.sound.budget.edges accepted with
      ⟨ended, rfl⟩ | ⟨taken, ordered, charged, processed, explores, _, outcome⟩
    · exact finished_of_ended ready.sound ended untruncated
    · rcases outcome with ⟨_, rfl⟩ | ⟨notLast, _⟩
      · have completed : (processed.completeDepth (offset + distance + 1)).Untruncated := by
          obtain ⟨same, _⟩ := untruncated.of_probed
          rwa [same] at untruncated
        obtain ⟨started, next⟩ := explores_of_untruncated admits ready explores completed
        exact ⟨started, fun levelled => (next levelled).finished_of_probed admits untruncated⟩
      · exact absurd (by omega) notLast
  | succ count hypothesis =>
    rw [List.range'_succ] at accepted
    rcases runDepths_cons_ok ready.sound.budget.edges accepted with
      ⟨ended, rfl⟩ | ⟨taken, ordered, charged, processed, explores, _, outcome⟩
    · exact finished_of_ended ready.sound ended untruncated
    · rcases outcome with ⟨isLast, _⟩ | ⟨_, later⟩
      · omega
      · have done := (ready.levelDone admits explores).completeDepth (offset + distance + 1)
        obtain ⟨completed, finishes⟩ :=
          @hypothesis (distance + 1) _ (by omega) done.advance later
        obtain ⟨started, nextLevel⟩ := explores_of_untruncated admits ready explores completed
        exact ⟨started, fun levelled => finishes (nextLevel levelled)⟩

end Levels

end Traversal

/-! ## Definition starts -/

/--
The search a definition start is for: from the definition along admitted edges
of allowed kinds, with no node excluded.
-/
def RustGraphTraceRequest.definitionSearch (request : RustGraphTraceRequest)
    (definition : RustGraphDefinitionIdentity) :
    SearchProblem RustGraphDefinitionIdentity RustGraphTraversalEdge where
  origin := orientedOrigin request.direction
  neighbor := orientedNeighbor request.direction
  follows := request.Follows
  source := fun other => definition = other
  blocked := fun _ => False

/-- A duplicate-free enumeration counts the set it enumerates. -/
theorem encard_setOf_eq_size {definitions : DefinitionSet}
    {holds : RustGraphDefinitionIdentity → Prop}
    (members : ∀ definition, definition ∈ definitions ↔ holds definition) :
    { definition | holds definition }.encard = (definitions.size : ℕ∞) := by
  let enumeration : Finset RustGraphDefinitionIdentity :=
    ⟨definitions.toList, DefinitionSet.nodup_toList definitions⟩
  have same :
      { definition | holds definition } = (enumeration : Set RustGraphDefinitionIdentity) := by
    ext definition
    rw [Set.mem_ofPred_eq, ← members definition, ← TreeSet.mem_toList]
    rfl
  rw [same, Set.encard_coe_eq_coe_finsetCard]
  change ((definitions.toList.length : Nat) : ℕ∞) = _
  rw [TreeSet.length_toList]

namespace Traversal

/-- An untruncated definition start explores every level. -/
theorem Pristine.finished_runFromDefinition {sorter : UnstableSort} {settings : TraversalSettings}
    {admitted : AdmittedEdges} {edges : List RustGraphTraversalEdge}
    (admits : admitted.Admits edges) {definition : RustGraphDefinitionIdentity}
    {traversal final : Traversal} (pristine : traversal.Pristine)
    (fits : traceOutputFixedBytes ≤ settings.limits.maxOutputBytes)
    (accepted :
      (runFromDepth sorter settings admitted 1
        (traversal.seedDefinition definition)).result = .ok final)
    (untruncated : final.Untruncated) :
    Finished settings edges (fun other => definition = other) (fun _ => False) [] 0 final := by
  have ready := @Pristine.ready_seedDefinition settings edges _ pristine fits definition
  have positive := settings.limits.depthValid.1
  obtain ⟨count, last⟩ : ∃ count, 1 + count = settings.limits.maxDepth :=
    ⟨settings.limits.maxDepth - 1, by omega⟩
  have depths : settings.limits.maxDepth + 1 - 1 = count + 1 := by omega
  unfold runFromDepth at accepted
  rw [depths] at accepted
  obtain ⟨_, finishes⟩ :=
    @finished_of_runDepths _ sorter settings admitted edges (fun other => definition = other)
      (fun _ => False) [] 0 0 _ (BeginsAt settings definition) admits count (by omega) ready
      accepted untruncated
  refine finishes { seen := ?_, current := ?_, results := ?_ }
  · intro other
    rw [pristine.mem_seen_seedDefinition, SearchProblem.within_zero_iff, false_or]
    exact ⟨fun same => ⟨same, not_false⟩, And.left⟩
  · intro other
    rw [pristine.mem_current_seedDefinition, SearchProblem.atDistance_zero_iff]
    exact ⟨fun same => ⟨same, not_false⟩, And.left⟩
  · intro traced
    simp [seedDefinition, pristine.results]

end Traversal

/-- An accepted, untruncated trace from a definition ends in a finished
state, whose results it returns. -/
theorem finished_of_definition_trace {sorter : UnstableSort} {request : RustGraphTraceRequest}
    {definition : RustGraphDefinitionIdentity} {result : RustGraphTraceResult}
    (starts : request.start = .definition definition)
    (accepted : traceRustGraph sorter request = .ok result)
    (untruncated : result.truncation.any = false) :
    ∃ explored : Traversal, result.edges = explored.results ∧
        result.visitedNodes = explored.seen.size ∧
        (explored.results.map (·.relationship)).Nodup ∧
        Traversal.Finished request.settings request.edges
          (fun other => definition = other) (fun _ => False) [] 0
          explored := by
  obtain ⟨admitted, initial, explored, admission, fresh, ran, edges, nodes,
      _, truncation, _⟩ := traceRustGraph_ok accepted
  have admits := AdmittedEdges.admits_of_new admission
  obtain ⟨pristine, fits⟩ := Traversal.new_ok fresh
  obtain ⟨_, sound⟩ := sound_of_traceRustGraph admission fresh ran
  rw [starts] at ran
  have finished := @Traversal.Pristine.finished_runFromDefinition sorter
      request.settings admitted request.edges admits definition initial
      explored pristine fits ran
      (by rwa [truncation] at untruncated)
  exact ⟨explored, edges, nodes, sound.nodup, finished⟩

/-- Such a trace returns the allowed edges that leave a definition at some
distance, each at the depth after it. -/
theorem results_of_definition_trace {sorter : UnstableSort} {request : RustGraphTraceRequest}
    {definition : RustGraphDefinitionIdentity} {result : RustGraphTraceResult}
    (starts : request.start = .definition definition)
    (accepted : traceRustGraph sorter request = .ok result)
    (untruncated : result.truncation.any = false) (traced : RustGraphTraceEdge) :
    traced ∈ result.edges ↔ ∃ distance, traced.depth = distance + 1 ∧
          request.Follows traced.relationship ∧
            (request.definitionSearch definition).AtDistance distance
              (orientedOrigin request.direction traced.relationship) := by
  obtain ⟨explored, edges, _, _, finished⟩ :=
    finished_of_definition_trace starts accepted untruncated
  have members := finished.results traced
  simp only [List.not_mem_nil, false_or, Nat.zero_add] at members
  rw [edges]
  exact members

/--
An accepted, untruncated trace from a definition returns exactly the allowed
edges whose origin is reachable, each once and at the depth after its origin's
breadth-first distance, and it visits every reachable definition.
-/
theorem definition_trace_complete {sorter : UnstableSort} {request : RustGraphTraceRequest}
    {definition : RustGraphDefinitionIdentity} {result : RustGraphTraceResult}
    (starts : request.start = .definition definition)
    (accepted : traceRustGraph sorter request = .ok result)
    (untruncated : result.truncation.any = false) :
    (∀ edge, edge ∈ result.edges.map (·.relationship) ↔ request.Follows edge ∧
          (request.definitionSearch definition).Reaches (orientedOrigin request.direction edge)) ∧
      (result.edges.map (·.relationship)).Nodup ∧
      (∀ traced ∈ result.edges, ∃ distance,
          (request.definitionSearch definition).AtDistance distance
              (orientedOrigin request.direction traced.relationship) ∧
            traced.depth = distance + 1) ∧
      { other |
        (request.definitionSearch definition).Reaches other }.encard =
          (result.visitedNodes : ℕ∞) := by
  obtain ⟨explored, edges, nodes, nodup, finished⟩ :=
    finished_of_definition_trace starts accepted untruncated
  have emitted := results_of_definition_trace starts accepted untruncated
  refine ⟨?_, edges ▸ nodup, ?_, ?_⟩
  · intro edge
    rw [SearchProblem.reaches_iff_exists_atDistance, List.mem_map]
    constructor
    · rintro ⟨traced, member, rfl⟩
      obtain ⟨distance, _, followed, reached⟩ := (emitted traced).mp member
      exact ⟨followed, distance, reached⟩
    · rintro ⟨followed, distance, reached⟩
      exact ⟨⟨distance + 1, edge⟩, (emitted _).mpr ⟨distance, rfl, followed, reached⟩, rfl⟩
  · intro traced member
    obtain ⟨distance, depth, _, reached⟩ := (emitted traced).mp member
    exact ⟨distance, reached, depth⟩
  · rw [nodes]
    refine encard_setOf_eq_size ?_
    intro other
    have members := finished.seen other
    simp only [false_or] at members
    exact members

namespace Sample

def cycleResult : RustGraphTraceResult where
  edges := [⟨1, call 1 2 1⟩, ⟨2, call 2 3 2⟩, ⟨3, call 3 1 3⟩]
  visitedNodes := 3
  visitedEdges := 3
  maximumCompletedDepth := 3
  truncation := .none
  coverage := ⟨0, 0, 0, 0, 0, 0, 0, 0⟩
  inputBytes := 1017
  outputBytes := 1173

end Sample

theorem definition_trace_complete_of_cycle : traceRustGraph insertionSorter
          (Sample.request [Sample.call 3 1 3, Sample.call 1 2 1, Sample.call 2 3 2]
            (.definition (Sample.definition 1))) =
        .ok Sample.cycleResult ∧
      { other |
        ((Sample.request [Sample.call 3 1 3, Sample.call 1 2 1, Sample.call 2 3 2]
            (.definition (Sample.definition 1))).definitionSearch
          (Sample.definition 1)).Reaches other }.encard = 3 := by
  have accepted : traceRustGraph insertionSorter
          (Sample.request [Sample.call 3 1 3, Sample.call 1 2 1, Sample.call 2 3 2]
            (.definition (Sample.definition 1))) =
        .ok Sample.cycleResult := by
    decide +kernel
  obtain ⟨_, _, _, visited⟩ := definition_trace_complete rfl accepted rfl
  exact ⟨accepted, visited⟩

/-! ## Opposite traces -/

section Opposite

/-- The request from the definition is accepted and answered in full. -/
structure TracesFrom (sorter : UnstableSort) (request : RustGraphTraceRequest)
    (definition : RustGraphDefinitionIdentity) (result : RustGraphTraceResult) : Prop where
  starts : request.start = .definition definition
  accepted : traceRustGraph sorter request = .ok result
  untruncated : result.truncation.any = false

/-- An edge of the result leads to the definition, at the depth or before it. -/
def RustGraphTraceResult.Finds (result : RustGraphTraceResult) (direction : RustGraphTraceDirection)
    (definition : RustGraphDefinitionIdentity) (depth : Nat) : Prop :=
  ∃ traced ∈ result.edges, traced.depth ≤ depth ∧
    orientedNeighbor direction traced.relationship = definition

/-- The other direction over the same relationships. -/
structure RustGraphTraceRequest.Opposes (first second : RustGraphTraceRequest) : Prop where
  edges : second.edges = first.edges
  edgeKinds : second.edgeKinds = first.edgeKinds
  direction : second.direction ≠ first.direction

variable {sorter : UnstableSort} {first second : RustGraphTraceRequest}
  {start goal : RustGraphDefinitionIdentity} {forward backward : RustGraphTraceResult} {depth : Nat}

theorem orientedOrigin_of_ne {direction other : RustGraphTraceDirection} (ne : other ≠ direction) :
    orientedOrigin other = orientedNeighbor direction := by
  cases direction <;> cases other <;> first
    | exact absurd rfl ne
    | rfl

/-- The walk to an edge that leads to the goal is walked back from the goal. -/
theorem RustGraphTraceRequest.Opposes.finds (opposes : first.Opposes second)
    (traces : TracesFrom sorter first start forward) (back : TracesFrom sorter second goal backward)
    (finds : forward.Finds first.direction goal depth) :
    backward.Finds second.direction start depth := by
  have came : (second.definitionSearch goal).ReachesIn 0 goal := .source rfl not_false
  obtain ⟨traced, member, bounded, rfl⟩ := finds
  obtain ⟨distance, deep, followed, reached, -⟩ :=
    (results_of_definition_trace traces.starts traces.accepted traces.untruncated traced).mp member
  have follows : ∀ edge, first.Follows edge → second.Follows edge := by
    simp [RustGraphTraceRequest.Follows, opposes.edges, opposes.edgeKinds]
  have origin := orientedOrigin_of_ne opposes.direction
  have neighbor := (orientedOrigin_of_ne opposes.direction.symm).symm
  obtain ⟨_, rfl, returned⟩ :=
    (SearchProblem.ReachesIn.step reached followed not_false).reverse came follows origin neighbor
      fun _ => not_false
  rw [Nat.zero_add] at returned
  cases returned with
  | @step _ edge walked followedBack _ =>
    obtain ⟨nearest, near, atDistance⟩ := walked.exists_atDistance
    exact ⟨⟨nearest + 1, edge⟩,
      (results_of_definition_trace back.starts back.accepted back.untruncated _).mpr
        ⟨nearest, rfl, followedBack, atDistance⟩, by simp only; omega, rfl⟩

/-- A definition is found from another exactly when that one is found from it in the other
direction, within as many steps. -/
theorem opposite_traces_agree (opposes : first.Opposes second)
    (traces : TracesFrom sorter first start forward)
    (back : TracesFrom sorter second goal backward) (depth : Nat) :
    forward.Finds first.direction goal depth ↔ backward.Finds second.direction start depth :=
  ⟨opposes.finds traces back, RustGraphTraceRequest.Opposes.finds
      ⟨opposes.edges.symm, opposes.edgeKinds.symm, opposes.direction.symm⟩ back traces⟩

theorem opposite_traces_agree_of_cycle : ∃ backward : RustGraphTraceResult,
    backward.edges.length = 3 ∧
      (Sample.cycleResult.Finds .outbound (Sample.definition 3) 2 ↔
        backward.Finds .inbound (Sample.definition 1) 2) := by
  let forth := Sample.request [Sample.call 3 1 3, Sample.call 1 2 1, Sample.call 2 3 2]
    (.definition (Sample.definition 1))
  let back := { forth with start := .definition (Sample.definition 3), direction := .inbound }
  let backward := { Sample.cycleResult with
    edges := [⟨1, Sample.call 2 3 2⟩, ⟨2, Sample.call 1 2 1⟩, ⟨3, Sample.call 3 1 3⟩] }
  have opposes : forth.Opposes back := ⟨rfl, rfl, by decide⟩
  have traces : TracesFrom insertionSorter forth (Sample.definition 1) Sample.cycleResult :=
    ⟨rfl, by decide +kernel, rfl⟩
  have returns : TracesFrom insertionSorter back (Sample.definition 3) backward :=
    ⟨rfl, by decide +kernel, rfl⟩
  exact ⟨backward, rfl, opposite_traces_agree opposes traces returns 2⟩

end Opposite

end RepoWitness
