import RepoWitness.DirectedSearch
import RepoWitness.GraphTraversalSteps

namespace RepoWitness

open Std

/-!
# Soundness of truncated traces

Whatever budgets were reached, a returned trace contains only edges at the end
of a walk of their depth, each once, in order of depth and within every limit.
The emission loop is described relative to the state it starts from; a level
then carries the invariant from one frontier to the next.
-/

namespace DefinitionSet

variable {definitions : DefinitionSet} {inserted : RustGraphDefinitionIdentity}

theorem mem_insert_iff {definition : RustGraphDefinitionIdentity} :
    definition ∈ definitions.insert inserted ↔
      inserted = definition ∨ definition ∈ definitions := by
  rw [TreeSet.mem_insert, LawfulEqOrd.compare_eq_iff_eq]

theorem size_insert_of_not_mem (fresh : inserted ∉ definitions) :
    (definitions.insert inserted).size = definitions.size + 1 := by
  rw [TreeSet.size_insert]
  simp only [TreeSet.contains_iff_mem, fresh, if_false]

theorem nodup_toList (definitions : DefinitionSet) : definitions.toList.Nodup := by
  refine definitions.distinct_toList.imp ?_
  rintro first second distinct rfl
  exact distinct ReflCmp.compare_self

end DefinitionSet

namespace Traversal

def traceBytes (results : List RustGraphTraceEdge) : Nat :=
  traceOutputFixedBytes +
    (results.map (fun traced => traceEdgeFixedBytes + relationshipBytes traced.relationship)).sum

theorem traceBytes_append (results : List RustGraphTraceEdge) (traced : RustGraphTraceEdge) :
    traceBytes (results ++ [traced]) =
      traceBytes results + (traceEdgeFixedBytes + relationshipBytes traced.relationship) := by
  simp [traceBytes, Nat.add_assoc]

/-- The budgets and the byte account of a state. -/
structure WithinBudget (limits : RustGraphTraceLimits) (traversal : Traversal) : Prop where
  nodes : traversal.seen.size ≤ limits.maxVisitedNodes
  edges : traversal.visitedEdges ≤ limits.maxVisitedEdges
  count : traversal.results.length ≤ limits.maxResults
  bytes : traversal.outputBytes = traceBytes traversal.results
  fits : traversal.outputBytes ≤ limits.maxOutputBytes
  flagged : traversal.stop = true → traversal.truncation.any = true

/-! ## The emission loop -/

/--
The state of the emission loop after it has handled the edges `done`, relative
to the state it started from.
-/
structure Emitting (settings : TraversalSettings) (depth : Nat) (start : Traversal)
    (done : List RustGraphTraversalEdge) (traversal : Traversal) : Prop where
  budget : traversal.WithinBudget settings.limits
  results : ∃ added : List RustGraphTraversalEdge, added.Sublist done ∧
        traversal.results = start.results ++ added.map (RustGraphTraceEdge.mk depth) ∧
        ∀ edge ∈ added, orientedOrigin settings.direction edge ∈ start.seen
  grows : ∀ definition ∈ start.seen, definition ∈ traversal.seen
  full : settings.limits.maxVisitedNodes ≤ start.seen.size →
      ∀ definition ∈ traversal.seen, definition ∈ start.seen
  fullSize : start.seen.size ≤ traversal.seen.size
  next : ∀ definition ∈ traversal.next,
      definition ∈ traversal.seen ∧ definition ∉ start.seen ∧
        ∃ edge ∈ done, orientedNeighbor settings.direction edge = definition

variable {settings : TraversalSettings} {depth : Nat} {start before : Traversal}
  {done : List RustGraphTraversalEdge} {after : Traversal} {edge : RustGraphTraversalEdge}
  {limits : RustGraphTraceLimits} {selected : List RustGraphTraversalEdge} {final : Traversal}
  {follows begins : RustGraphTraversalEdge → Prop} {admitted : AdmittedEdges}
  {edges : List RustGraphTraversalEdge}

/-- Handling an edge without effect keeps the description. -/
theorem Emitting.handled (emitting : Emitting settings depth start done before)
    (edge : RustGraphTraversalEdge) :
    Emitting settings depth start (done ++ [edge]) before := by
  obtain ⟨added, sublist, shape, origins⟩ := emitting.results
  refine
    { emitting with
      results := ⟨added, sublist.trans (List.sublist_append_left done [edge]), shape, origins⟩
      next := ?_ }
  intro definition member
  obtain ⟨seen, fresh, other, earlier, same⟩ := emitting.next definition member
  exact ⟨seen, fresh, other, List.mem_append_left _ earlier, same⟩

theorem Emitting.inserted {definition : RustGraphDefinitionIdentity}
    (emitting : Emitting settings depth start done before) (fresh : definition ∉ before.seen)
    (room : before.seen.size < settings.limits.maxVisitedNodes) :
    Emitting settings depth start done
      { before with seen := before.seen.insert definition } := by
  have size := DefinitionSet.size_insert_of_not_mem fresh
  have atLeast := emitting.fullSize
  refine
    { emitting with
      budget := { emitting.budget with nodes := size.symm ▸ room }
      grows := ?_, full := ?_, fullSize := ?_, next := ?_ }
  · intro other member
    exact DefinitionSet.mem_insert_iff.mpr (.inr (emitting.grows other member))
  · intro exhausted
    omega
  · simp only [size]
    omega
  · intro other member
    obtain ⟨seen, rest⟩ := emitting.next other member
    exact ⟨DefinitionSet.mem_insert_iff.mpr (.inr seen), rest⟩

/-- What looking at a neighbor keeps. -/
theorem Emitting.visited (emitting : Emitting settings depth start done before)
    (visits : Visited settings.limits (orientedNeighbor settings.direction edge) before after) :
    Emitting settings depth start (done ++ [edge]) after := by
  have handled := emitting.handled edge
  cases visits with
  | known seen => exact handled
  | queued fresh room frontierRoom =>
    have inserted := handled.inserted fresh room
    refine { inserted with budget := { inserted.budget with }, next := ?_ }
    intro definition member
    rcases DefinitionSet.mem_insert_iff.mp member with rfl | queued
    · refine ⟨DefinitionSet.mem_insert_iff.mpr (.inl rfl), ?_, edge, by simp, rfl⟩
      exact fun early => fresh (emitting.grows _ early)
    · exact inserted.next definition queued
  | unqueued fresh room =>
    have inserted := handled.inserted fresh room
    exact
      { inserted with
        budget :=
          { inserted.budget with
            flagged := fun _ => by simp [setFrontier, RustGraphTraceTruncation.any] } }

/-- Looking at a neighbor leaves the results alone. -/
theorem Visited.results_eq {neighbor : RustGraphDefinitionIdentity}
    (visits : Visited limits neighbor before after) :
    after.results = before.results := by
  cases visits <;> rfl

/-- One processed edge keeps the description of the loop. -/
theorem Emitting.processed {continues : Bool}
    (origin : orientedOrigin settings.direction edge ∈ start.seen ∨
        settings.limits.maxVisitedNodes ≤ start.seen.size)
    (emitting : Emitting settings depth start done before)
    (processed : Processed settings depth edge before continues after) :
    Emitting settings depth start (done ++ [edge]) after := by
  cases processed with
  | skipped unseen => exact emitting.handled edge
  | refused fresh full =>
    have handled := emitting.handled edge
    exact
      { handled with
        budget :=
          { handled.budget with
            flagged := fun _ => by simp [setVisitedNodes, RustGraphTraceTruncation.any] } }
  | @emitted visited originSeen visits room fits =>
    have looked := emitting.visited visits
    have budget := looked.budget
    obtain ⟨added, sublist, shape, origins⟩ := emitting.results
    have originEarly : orientedOrigin settings.direction edge ∈ start.seen := by
      rcases origin with early | full
      · exact early
      · exact emitting.full full _ originSeen
    refine
      { looked with
        budget := { budget with count := ?_, bytes := ?_, fits := fits }
        results := ⟨added ++ [edge], ?_, ?_, ?_⟩ }
    · simp only [Traversal.emitted, List.length_append, List.length_singleton]
      exact room
    · simp only [Traversal.emitted, traceBytes_append, budget.bytes]
    · exact sublist.append (List.Sublist.refl [edge])
    · simp [Traversal.emitted, visits.results_eq, shape]
    · intro other member
      rcases List.mem_append.mp member with old | new
      · exact origins other old
      · rw [List.mem_singleton.mp new]
        exact originEarly
  | @exhausted visited visits spent =>
    have looked := emitting.visited visits
    exact
      { looked with
        budget :=
          { looked.budget with
            flagged := fun _ => by simp [setResults, RustGraphTraceTruncation.any] } }

/-- The loop has handled nothing when it starts. -/
theorem Emitting.initial (depth : Nat)
    (budget : start.WithinBudget settings.limits) (noNext : ∀ definition, definition ∉ start.next) :
    Emitting settings depth start [] start where
  budget := budget
  results := ⟨[], List.Sublist.refl [], by simp, by simp⟩
  grows := fun _ member => member
  full := fun _ _ member => member
  fullSize := Nat.le_refl _
  next := fun definition member => absurd member (noNext definition)

/-- The emission loop ends in a state described by what it handled. -/
theorem emitting_of_processSelectedEdges
    (budget : start.WithinBudget settings.limits) (noNext : ∀ definition, definition ∉ start.next)
    (origins : ∀ edge ∈ selected,
        orientedOrigin settings.direction edge ∈ start.seen ∨
          settings.limits.maxVisitedNodes ≤ start.seen.size)
    (accepted : (processSelectedEdges settings depth selected start).result = .ok final) :
    ∃ done, done <+: selected ∧ Emitting settings depth start done final := by
  obtain ⟨done, leading, emitting, _⟩ :=
    processSelectedEdges_induction (Emitting settings depth start)
      (fun member emitting processed => emitting.processed (origins _ member) processed)
      (.initial depth budget noNext)
      accepted
  exact ⟨done, leading, emitting⟩

/-! ## Levels -/

/-- An edge ends a walk of the given length from the start of a request. -/
def EndsWalk (direction : RustGraphTraceDirection) (follows begins : RustGraphTraversalEdge → Prop)
    (length : Nat) (edge : RustGraphTraversalEdge) : Prop :=
  ∃ walk : List RustGraphTraversalEdge,
    EdgeWalk (orientedOrigin direction) (orientedNeighbor direction) follows begins walk edge ∧
      walk.length = length

/-- The properties of a state that its result inherits. -/
structure Sound (settings : TraversalSettings) (follows begins : RustGraphTraversalEdge → Prop)
    (depth : Nat) (traversal : Traversal) : Prop where
  budget : traversal.WithinBudget settings.limits
  walks : ∀ traced ∈ traversal.results,
      EndsWalk settings.direction follows begins traced.depth traced.relationship
  nodup : (traversal.results.map (·.relationship)).Nodup
  ordered : traversal.results.Pairwise (fun first second => first.depth ≤ second.depth)
  depths : ∀ traced ∈ traversal.results, traced.depth ≤ depth
  origins : ∀ traced ∈ traversal.results,
      orientedOrigin settings.direction traced.relationship ∈ traversal.seen

/-- A set of definitions from which the next level may be explored. -/
structure Frontier (settings : TraversalSettings) (follows begins : RustGraphTraversalEdge → Prop)
    (depth : Nat) (traversal : Traversal) (definitions : DefinitionSet) : Prop where
  seen : ∀ definition ∈ definitions, definition ∈ traversal.seen
  unexpanded : ∀ definition ∈ definitions, ∀ traced ∈ traversal.results,
      orientedOrigin settings.direction traced.relationship ≠ definition
  walks : ∀ definition ∈ definitions, ∀ edge, follows edge →
        orientedOrigin settings.direction edge = definition →
          EndsWalk settings.direction follows begins (depth + 1) edge

/-- A level has been emitted and leaves the frontier of the next. -/
structure LevelDone (settings : TraversalSettings) (follows begins : RustGraphTraversalEdge → Prop)
    (depth : Nat) (traversal : Traversal) : Prop where
  sound : traversal.Sound settings follows begins depth
  frontier : traversal.Frontier settings follows begins depth traversal.next

/-- A level may be explored from the current frontier. -/
structure Ready (settings : TraversalSettings) (follows begins : RustGraphTraversalEdge → Prop)
    (depth : Nat) (traversal : Traversal) : Prop where
  sound : traversal.Sound settings follows begins depth
  frontier : traversal.Frontier settings follows begins depth traversal.current
  noNext : ∀ definition, definition ∉ traversal.next

/-- A walk continues along each edge that leaves its end. -/
theorem EndsWalk.extend {direction : RustGraphTraceDirection} {length : Nat}
    {last : RustGraphTraversalEdge} (ends : EndsWalk direction follows begins length last)
    (followed : follows edge)
    (joined : orientedNeighbor direction last = orientedOrigin direction edge) :
    EndsWalk direction follows begins (length + 1) edge := by
  obtain ⟨walk, walked, same⟩ := ends
  exact ⟨walk ++ [edge], walked.extend followed joined, by simp [same]⟩

/--
Emitting the selected edges of one level keeps soundness and leaves a frontier
of definitions first seen in this level.
-/
theorem Sound.processSelectedEdges (sound : start.Sound settings follows begins depth)
    (noNext : ∀ definition, definition ∉ start.next) (distinct : selected.Nodup)
    (walks : ∀ edge ∈ selected, EndsWalk settings.direction follows begins (depth + 1) edge)
    (origins : ∀ edge ∈ selected,
        orientedOrigin settings.direction edge ∈ start.seen ∨
          settings.limits.maxVisitedNodes ≤ start.seen.size)
    (unemitted : ∀ traced ∈ start.results, traced.relationship ∉ selected)
    (accepted :
      (Traversal.processSelectedEdges settings (depth + 1) selected start).result = .ok final) :
    final.LevelDone settings follows begins (depth + 1) := by
  obtain ⟨done, leading, emitting⟩ :=
    emitting_of_processSelectedEdges sound.budget noNext origins accepted
  obtain ⟨added, sublist, shape, addedOrigins⟩ := emitting.results
  have handled : ∀ edge ∈ done, edge ∈ selected := fun _ member => leading.subset member
  have addedSelected : ∀ edge ∈ added, edge ∈ selected := fun edge member =>
    handled edge (sublist.subset member)
  have eachResult {Holds : RustGraphTraceEdge → Prop} (old : ∀ traced ∈ start.results, Holds traced)
      (new : ∀ edge ∈ added, Holds ⟨depth + 1, edge⟩) : ∀ traced ∈ final.results, Holds traced := by
    rw [shape, List.forall_mem_append, List.forall_mem_map]
    exact ⟨old, new⟩
  have resultOrigins := eachResult sound.origins addedOrigins
  refine ⟨?_, ?_⟩
  · refine
      { budget := emitting.budget
        walks := eachResult sound.walks fun edge isAdded => walks edge (addedSelected edge isAdded)
        nodup := ?_
        ordered := ?_
        depths := eachResult (fun _ old => (sound.depths _ old).trans (Nat.le_succ _))
          fun _ _ => le_rfl
        origins := fun traced member => emitting.grows _ (resultOrigins traced member) }
    · have relationships :
          final.results.map (·.relationship) = start.results.map (·.relationship) ++ added := by
        simp [shape, Function.comp_def]
      rw [relationships, List.nodup_append]
      refine ⟨sound.nodup, (distinct.sublist leading.sublist).sublist sublist, ?_⟩
      rintro relationship old edge isAdded rfl
      obtain ⟨traced, member, rfl⟩ := List.mem_map.mp old
      exact unemitted traced member (addedSelected _ isAdded)
    · rw [shape, List.pairwise_append]
      refine ⟨sound.ordered, ?_, ?_⟩
      · rw [List.pairwise_map]
        exact List.pairwise_of_forall (fun _ _ => Nat.le_refl _)
      · intro earlier old later new
        obtain ⟨edge, _, rfl⟩ := List.mem_map.mp new
        exact Nat.le_succ_of_le (sound.depths earlier old)
  · refine { seen := ?_, unexpanded := ?_, walks := ?_ }
    · intro definition queued
      exact (emitting.next definition queued).1
    · rintro definition queued traced member rfl
      exact (emitting.next _ queued).2.1 (resultOrigins traced member)
    · rintro definition queued edge followed rfl
      obtain ⟨_, _, last, isDone, joined⟩ := emitting.next _ queued
      exact (walks last (handled last isDone)).extend followed joined

/-! ## Following allowed edges -/

/-- An admitted edge of an allowed kind. -/
def Follows (settings : TraversalSettings) (edges : List RustGraphTraversalEdge)
    (edge : RustGraphTraversalEdge) : Prop :=
  edge ∈ edges ∧ settings.edgeKinds.allows edge.kind = true

theorem mem_frontierEdges_iff (admits : admitted.Admits edges) {definitions : DefinitionSet} :
    edge ∈ frontierEdges settings admitted definitions.toList ↔
      Follows settings edges edge ∧ orientedOrigin settings.direction edge ∈ definitions := by
  simp only [frontierEdges, allowedEdges, List.mem_flatMap,
    List.mem_filter, TreeSet.mem_toList, admits.mem_adjacent_iff,
    Follows]
  constructor
  · rintro ⟨definition, member, ⟨isEdge, rfl⟩, allowed⟩
    exact ⟨⟨isEdge, allowed⟩, member⟩
  · rintro ⟨⟨isEdge, allowed⟩, member⟩
    exact ⟨_, member, ⟨isEdge, rfl⟩, allowed⟩

theorem nodup_frontierEdges (admits : admitted.Admits edges) (definitions : DefinitionSet) :
    (frontierEdges settings admitted definitions.toList).Nodup := by
  unfold frontierEdges
  rw [List.nodup_flatMap]
  refine ⟨?_, ?_⟩
  · intro definition _
    exact (admits.nodup_adjacent definition _).filter _
  · refine (DefinitionSet.nodup_toList definitions).imp ?_
    intro first second distinct edge inFirst inSecond
    have firstOrigin := (admits.mem_adjacent_iff.mp (List.mem_of_mem_filter inFirst)).2
    have secondOrigin := (admits.mem_adjacent_iff.mp (List.mem_of_mem_filter inSecond)).2
    exact distinct (firstOrigin.symm.trans secondOrigin)

/-- Soundness depends only on what is seen, emitted and charged. -/
theorem Sound.of_frame
    (sound : before.Sound settings follows begins depth) (seen : after.seen = before.seen)
    (results : after.results = before.results) (bytes : after.outputBytes = before.outputBytes)
    (edges : after.visitedEdges ≤ settings.limits.maxVisitedEdges)
    (flagged : after.stop = true → after.truncation.any = true) :
    after.Sound settings follows begins depth where
  budget :=
    { nodes := seen ▸ sound.budget.nodes, edges := edges, count := results ▸ sound.budget.count
      bytes := by rw [bytes, results, sound.budget.bytes]
      fits := bytes ▸ sound.budget.fits
      flagged := flagged }
  walks := results ▸ sound.walks
  nodup := results ▸ sound.nodup
  ordered := results ▸ sound.ordered
  depths := results ▸ sound.depths
  origins := by
    rw [results, seen]
    exact sound.origins

variable {offered taken ordered : List RustGraphTraversalEdge}
  {traversal charged processed : Traversal}

/-- What a selection loop leaves alone. -/
theorem Selected.frame (selected : Selected limits offered before taken after) :
    after.seen = before.seen ∧ after.next = before.next ∧
      after.results = before.results ∧ after.outputBytes = before.outputBytes := by
  cases selected <;> exact ⟨rfl, rfl, rfl, rfl⟩

theorem Selected.flagged (selected : Selected limits offered before taken after)
    (initially : before.stop = true → before.truncation.any = true) :
    after.stop = true → after.truncation.any = true := by
  cases selected with
  | all bounded => exact initially
  | cut leading bounded =>
    intro _
    simp [stopAtEdges, setVisitedEdges, RustGraphTraceTruncation.any]

theorem Selected.sound (selected : Selected settings.limits offered before taken after)
    (sound : before.Sound settings follows begins depth) :
    after.Sound settings follows begins depth := by
  obtain ⟨seen, _, results, bytes⟩ := selected.frame
  exact
    sound.of_frame seen results bytes (selected.visitedEdges_le sound.budget.edges).2
      (selected.flagged sound.budget.flagged)

theorem completeDepth_frame (depth : Nat) (traversal : Traversal) :
    (traversal.completeDepth depth).seen = traversal.seen ∧
      (traversal.completeDepth depth).next = traversal.next ∧
      (traversal.completeDepth depth).results = traversal.results ∧
      (traversal.completeDepth depth).outputBytes = traversal.outputBytes ∧
      (traversal.completeDepth depth).visitedEdges = traversal.visitedEdges ∧
      (traversal.completeDepth depth).stop = traversal.stop ∧
      (traversal.completeDepth depth).truncation = traversal.truncation := by
  unfold completeDepth
  split <;> exact ⟨rfl, rfl, rfl, rfl, rfl, rfl, rfl⟩

theorem Sound.completeDepth (sound : traversal.Sound settings follows begins depth)
    (completed : Nat) :
    (traversal.completeDepth completed).Sound settings follows begins
      depth := by
  obtain ⟨seen, _, results, bytes, edges, stop, truncation⟩ :=
    completeDepth_frame completed traversal
  refine sound.of_frame seen results bytes (edges ▸ sound.budget.edges) ?_
  rw [stop, truncation]
  exact sound.budget.flagged

theorem Sound.probed (sound : traversal.Sound settings follows begins depth) :
    (traversal.probed settings admitted).Sound settings follows begins
      depth := by
  unfold Traversal.probed
  split
  · exact sound
  · refine sound.of_frame rfl rfl rfl sound.budget.edges ?_
    intro _
    simp [setDepth, RustGraphTraceTruncation.any]

/-- A frontier depends only on what is seen and emitted. -/
theorem Frontier.of_frame {definitions : DefinitionSet}
    (frontier : before.Frontier settings follows begins depth definitions)
    (seen : after.seen = before.seen) (results : after.results = before.results) :
    after.Frontier settings follows begins depth definitions where
  seen := seen ▸ frontier.seen
  unexpanded := results ▸ frontier.unexpanded
  walks := frontier.walks

theorem LevelDone.completeDepth (done : traversal.LevelDone settings follows begins depth)
    (completed : Nat) :
    (traversal.completeDepth completed).LevelDone settings follows begins depth := by
  obtain ⟨seen, next, results, _⟩ := completeDepth_frame completed traversal
  refine ⟨done.sound.completeDepth completed, ?_⟩
  rw [next]
  exact done.frontier.of_frame seen results

theorem LevelDone.advance (done : traversal.LevelDone settings follows begins depth) :
    traversal.advance.Ready settings follows begins depth where
  sound := done.sound.of_frame rfl rfl rfl done.sound.budget.edges done.sound.budget.flagged
  frontier := done.frontier.of_frame rfl rfl
  noNext := fun _ => TreeSet.not_mem_emptyc

section Levels

variable {sorter : UnstableSort}

theorem Explores.available (admits : admitted.Admits edges)
    (explores : Explores settings admitted depth before taken ordered charged processed)
    (member : edge ∈ ordered) :
    Follows settings edges edge ∧ orientedOrigin settings.direction edge ∈ before.current :=
  (mem_frontierEdges_iff admits).mp
    (explores.selects.leading.subset (explores.permutes.mem_iff.mp member))

theorem Explores.distinct (admits : admitted.Admits edges)
    (explores : Explores settings admitted depth before taken ordered charged processed) :
    ordered.Nodup :=
  explores.permutes.nodup_iff.mpr
    ((nodup_frontierEdges admits before.current).sublist explores.selects.leading.sublist)

variable (admits : admitted.Admits edges)
  (ready : before.Ready settings (Follows settings edges) begins depth)
  (explores : Explores settings admitted (depth + 1) before taken ordered charged processed)

include admits ready explores

/-- What the selection of a level leaves for its emission. -/
theorem Ready.charges :
    charged.Sound settings (Follows settings edges) begins depth ∧
      (∀ definition, definition ∉ charged.next) ∧
      ∀ edge ∈ ordered, orientedOrigin settings.direction edge ∈ charged.seen := by
  obtain ⟨seen, next, _⟩ := explores.selects.frame
  have taking : ({ before with current := ∅ } : Traversal).Sound settings
        (Follows settings edges) begins depth :=
    ready.sound.of_frame rfl rfl rfl ready.sound.budget.edges ready.sound.budget.flagged
  refine ⟨explores.selects.sound taking, ?_, ?_⟩
  · intro definition member
    rw [next] at member
    exact ready.noNext definition member
  · intro edge member
    rw [seen]
    exact ready.frontier.seen _ (explores.available admits member).2

theorem Ready.levelDone :
    processed.LevelDone settings (Follows settings edges) begins (depth + 1) := by
  obtain ⟨sound, noNext, origins⟩ := ready.charges admits explores
  obtain ⟨_, _, results, _⟩ := explores.selects.frame
  refine sound.processSelectedEdges noNext (explores.distinct admits) ?_
      (fun edge member => .inl (origins edge member)) ?_ explores.processes
  · intro edge member
    obtain ⟨followed, origin⟩ := explores.available admits member
    exact ready.frontier.walks _ origin edge followed rfl
  · intro traced member isSelected
    rw [results] at member
    exact ready.frontier.unexpanded _ (explores.available admits isSelected).2 traced member rfl

omit ready explores

/-- The level loop ends in a sound state. -/
theorem Ready.runDepths {count : Nat}
    (ready : traversal.Ready settings (Follows settings edges) begins depth)
    (accepted :
      (Traversal.runDepths sorter settings admitted
        (List.range' (depth + 1) count) traversal).result = .ok final) :
    ∃ reached, final.Sound settings (Follows settings edges) begins reached := by
  induction count generalizing depth traversal with
  | zero =>
    cases Except.ok.inj accepted
    exact ⟨depth, ready.sound⟩
  | succ count hypothesis =>
    rw [List.range'_succ] at accepted
    rcases runDepths_cons_ok ready.sound.budget.edges accepted with
      ⟨_, rfl⟩ | ⟨taken, ordered, charged, processed, explores, _, outcome⟩
    · exact ⟨depth, ready.sound⟩
    · have done := (ready.levelDone admits explores).completeDepth (depth + 1)
      rcases outcome with ⟨_, rfl⟩ | ⟨_, later⟩
      · exact ⟨depth + 1, done.sound.probed⟩
      · exact hypothesis done.advance later

end Levels

end Traversal

end RepoWitness
