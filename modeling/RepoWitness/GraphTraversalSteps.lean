import RepoWitness.GraphTraversalAdmission

namespace RepoWitness

open Std

/-!
# What the steps of a traversal can do

One inversion lemma per step of the engine.  Later invariants are derived from
these descriptions and never unfold the engine again.
-/

namespace Traversal

/-- The state after charging further examined edges. -/
def charge (count : Nat) (traversal : Traversal) : Traversal :=
  { traversal with visitedEdges := traversal.visitedEdges + count }

/-- The state after the examined-edge budget refused an edge. -/
def stopAtEdges (traversal : Traversal) : Traversal :=
  { traversal.setVisitedEdges with stop := true }

/-- The state after emitting one edge at a depth. -/
def emitted (depth : Nat) (edge : RustGraphTraversalEdge) (traversal : Traversal) : Traversal :=
  { traversal with
    outputBytes := traversal.outputBytes + (traceEdgeFixedBytes + relationshipBytes edge)
    results := traversal.results ++ [⟨depth, edge⟩] }

/-! ## Selecting edges -/

variable {limits : RustGraphTraceLimits} {traversal after : Traversal}
  {available taken : List RustGraphTraversalEdge} {before : Traversal}
  {settings : TraversalSettings} {selected extended first : List RustGraphTraversalEdge}
  {admitted : AdmittedEdges} {depth : Nat} {edge : RustGraphTraversalEdge} {continues : Bool}
  {final : Traversal} {sorter : UnstableSort}

theorem admitVisitedEdge_ok
    {admitted : Bool} (accepted : traversal.admitVisitedEdge limits = .ok (admitted, after)) :
    (admitted = true ∧
        traversal.visitedEdges < limits.maxVisitedEdges ∧ after = traversal.charge 1) ∨
      (admitted = false ∧ after = traversal.stopAtEdges) := by
  unfold admitVisitedEdge at accepted
  split at accepted
  · cases Except.ok.inj accepted
    exact .inr ⟨rfl, rfl⟩
  · rename_i room
    obtain ⟨visited, added, same⟩ := except_bind_eq_ok_iff.mp accepted
    cases Except.ok.inj same
    rw [checkedAdd_ok added]
    exact .inl ⟨rfl, Nat.not_le.mp room, rfl⟩

/--
The outcome of a selection loop over the available edges: all of them were
charged and taken, or the budget cut the loop after a leading part.
-/
inductive Selected (limits : RustGraphTraceLimits) (available : List RustGraphTraversalEdge)
    (before : Traversal) :
    List RustGraphTraversalEdge → Traversal → Prop where
  | all
      (bounded : before.visitedEdges ≤ limits.maxVisitedEdges →
          before.visitedEdges + available.length ≤ limits.maxVisitedEdges) :
      Selected limits available before available (before.charge available.length)
  | cut {taken : List RustGraphTraversalEdge} (leading : taken <+: available)
      (bounded : before.visitedEdges ≤ limits.maxVisitedEdges →
          before.visitedEdges + taken.length ≤ limits.maxVisitedEdges) :
      Selected limits available before taken (before.charge taken.length).stopAtEdges

def allowedEdges (settings : TraversalSettings) (edges : List RustGraphTraversalEdge) :
    List RustGraphTraversalEdge := edges.filter (fun edge => settings.edgeKinds.allows edge.kind)

/-- Charging edges one by one adds up. -/
theorem charge_charge (first second : Nat) (traversal : Traversal) :
    (traversal.charge first).charge second = traversal.charge (first + second) := by
  simp [charge, Nat.add_assoc]

@[simp] theorem charge_stop (count : Nat) (traversal : Traversal) :
    (traversal.charge count).stop = traversal.stop := rfl

theorem Selected.cons
    (edge : RustGraphTraversalEdge) (room : before.visitedEdges < limits.maxVisitedEdges)
    (selected : Selected limits available (before.charge 1) taken after) :
    Selected limits (edge :: available) before (edge :: taken) after := by
  cases selected with
  | all bounded =>
    rw [charge_charge, Nat.add_comm]
    refine .all ?_
    intro _
    have total := bounded room
    simp only [charge, List.length_cons] at total ⊢
    omega
  | cut leading bounded =>
    rw [charge_charge, Nat.add_comm]
    refine .cut (List.cons_prefix_cons.mpr ⟨rfl, leading⟩) ?_
    intro _
    have total := bounded room
    simp only [charge, List.length_cons] at total ⊢
    omega

theorem selectAdjacent_ok {adjacent : List RustGraphTraversalEdge}
    (accepted :
      (selectAdjacent settings adjacent selected traversal).result = .ok (extended, after)) :
    ∃ taken, extended = selected ++ taken ∧
        Selected settings.limits (allowedEdges settings adjacent) traversal taken after := by
  induction adjacent generalizing selected traversal with
  | nil =>
    cases Except.ok.inj accepted
    exact ⟨[], by simp, .all (fun bounded => bounded)⟩
  | cons edge adjacent hypothesis =>
    unfold selectAdjacent at accepted
    by_cases allowed : settings.edgeKinds.allows edge.kind = true
    · have kept :
          allowedEdges settings (edge :: adjacent) = edge :: allowedEdges settings adjacent := by
        simp [allowedEdges, allowed]
      rw [kept]
      simp only [allowed, if_true, Polled.result_bind, Polled.result_done] at accepted
      obtain ⟨⟨admitted, charged⟩, admission, later⟩ := except_bind_eq_ok_iff.mp accepted
      rcases admitVisitedEdge_ok admission with ⟨rfl, room, rfl⟩ | ⟨rfl, rfl⟩
      · obtain ⟨taken, rfl, selection⟩ := hypothesis later
        exact ⟨edge :: taken, by simp, selection.cons edge room⟩
      · cases Except.ok.inj later
        exact ⟨[], by simp, .cut (List.nil_prefix) (fun bounded => bounded)⟩
    · have dropped : allowedEdges settings (edge :: adjacent) = allowedEdges settings adjacent := by
        simp [allowedEdges, allowed]
      rw [dropped]
      simp only [allowed, Bool.false_eq_true, if_false] at accepted
      exact hypothesis accepted

/-- A site's selection loop differs from a definition's only in its polls. -/
theorem selectMatching_result (settings : TraversalSettings)
    (matching selected : List RustGraphTraversalEdge) (traversal : Traversal) :
    (selectMatching settings matching selected traversal).result =
      (selectAdjacent settings matching selected traversal).result := by
  induction matching generalizing selected traversal with
  | nil => rfl
  | cons edge matching hypothesis =>
    unfold selectMatching selectAdjacent
    by_cases allowed : settings.edgeKinds.allows edge.kind = true
    · simp only [allowed, if_true, Polled.result_bind,
        Polled.result_poll, Polled.result_done, except_ok_bind]
      congr 1
      funext outcome
      cases outcome.1 with
      | true => exact hypothesis _ _
      | false => rfl
    · simp only [allowed, Bool.false_eq_true, if_false,
        Polled.result_bind, Polled.result_poll, except_ok_bind]
      exact hypothesis _ _

def frontierEdges (settings : TraversalSettings) (admitted : AdmittedEdges)
    (frontier : List RustGraphDefinitionIdentity) :
    List RustGraphTraversalEdge :=
  frontier.flatMap
    (fun definition => allowedEdges settings (admitted.adjacent definition settings.direction))

theorem Selected.append {second : List RustGraphTraversalEdge}
    (bounded : before.visitedEdges ≤ limits.maxVisitedEdges →
        before.visitedEdges + first.length ≤ limits.maxVisitedEdges)
    (later : Selected limits second (before.charge first.length) taken after) :
    Selected limits (first ++ second) before (first ++ taken) after := by
  cases later with
  | all laterBounded =>
    rw [charge_charge, ← List.length_append]
    refine .all ?_
    intro initially
    have total := laterBounded (bounded initially)
    simp only [charge, List.length_append] at total ⊢
    omega
  | cut leading laterBounded =>
    rw [charge_charge, ← List.length_append]
    refine .cut ((List.prefix_append_right_inj first).mpr leading) ?_
    intro initially
    have total := laterBounded (bounded initially)
    simp only [charge, List.length_append] at total ⊢
    omega

/-- A selection from a leading part that was cut is one from the whole. -/
theorem Selected.cut_append (second : List RustGraphTraversalEdge) (leading : taken <+: first)
    (bounded : before.visitedEdges ≤ limits.maxVisitedEdges →
        before.visitedEdges + taken.length ≤ limits.maxVisitedEdges) :
    Selected limits (first ++ second) before taken (before.charge taken.length).stopAtEdges :=
  .cut (leading.trans (List.prefix_append first second)) bounded

theorem selectFrontier_ok {current : List RustGraphDefinitionIdentity}
    (running : traversal.stop = false)
    (accepted :
      (selectFrontier settings admitted current selected
        traversal).result = .ok (extended, after)) :
    ∃ taken, extended = selected ++ taken ∧
        Selected settings.limits (frontierEdges settings admitted current)
          traversal taken after := by
  induction current generalizing selected traversal with
  | nil =>
    cases Except.ok.inj accepted
    exact ⟨[], by simp, .all (fun bounded => bounded)⟩
  | cons definition current hypothesis =>
    simp only [selectFrontier, Polled.result_bind, Polled.result_poll, except_ok_bind] at accepted
    obtain ⟨⟨extended', charged⟩, selection, later⟩ := except_bind_eq_ok_iff.mp accepted
    obtain ⟨taken, rfl, outcome⟩ := selectAdjacent_ok selection
    cases outcome with
    | all bounded =>
      simp only [charge_stop, running, Bool.false_eq_true, if_false] at later
      obtain ⟨more, rfl, laterOutcome⟩ := hypothesis (by simpa using running) later
      exact ⟨_ ++ more, List.append_assoc _ _ _, laterOutcome.append bounded⟩
    | cut leading bounded =>
      cases Except.ok.inj later
      exact ⟨taken, rfl, Selected.cut_append _ leading bounded⟩

/-! ## Emitting edges -/

/-- The state after a neighbor has been looked at and found admissible. -/
inductive Visited (limits : RustGraphTraceLimits) (neighbor : RustGraphDefinitionIdentity)
    (before : Traversal) : Traversal → Prop where
  | known (seen : neighbor ∈ before.seen) : Visited limits neighbor before before
  | queued (fresh : neighbor ∉ before.seen) (room : before.seen.size < limits.maxVisitedNodes)
      (frontierRoom : before.next.size < limits.maxFrontier) :
      Visited limits neighbor before
        { before with
          seen := before.seen.insert neighbor
          next := before.next.insert neighbor }
  | unqueued (fresh : neighbor ∉ before.seen) (room : before.seen.size < limits.maxVisitedNodes) :
      Visited limits neighbor before
        (setFrontier { before with seen := before.seen.insert neighbor })

/-- Everything the emission loop can do with one edge. -/
inductive Processed (settings : TraversalSettings) (depth : Nat) (edge : RustGraphTraversalEdge)
    (before : Traversal) : Bool → Traversal → Prop where
  | skipped (unseen : orientedOrigin settings.direction edge ∉ before.seen) :
      Processed settings depth edge before true before
  | refused (fresh : orientedNeighbor settings.direction edge ∉ before.seen)
      (full : settings.limits.maxVisitedNodes ≤ before.seen.size) :
      Processed settings depth edge before true before.setVisitedNodes
  | emitted {visited : Traversal}
      (originSeen : orientedOrigin settings.direction edge ∈ before.seen)
      (visits : Visited settings.limits (orientedNeighbor settings.direction edge) before visited)
      (room : visited.results.length < settings.limits.maxResults)
      (fits : (visited.emitted depth edge).outputBytes ≤ settings.limits.maxOutputBytes) :
      Processed settings depth edge before true (visited.emitted depth edge)
  | exhausted {visited : Traversal}
      (visits : Visited settings.limits (orientedNeighbor settings.direction edge) before visited)
      (spent : settings.limits.maxResults ≤ visited.results.length) :
      Processed settings depth edge before false { visited.setResults with stop := true }

theorem emitEdge_ok (accepted : traversal.emitEdge settings depth edge = .ok (continues, after)) :
    (continues = false ∧
        settings.limits.maxResults ≤ traversal.results.length ∧
          after = { traversal.setResults with stop := true }) ∨
      (continues = true ∧
        traversal.results.length < settings.limits.maxResults ∧
          (traversal.emitted depth edge).outputBytes ≤
            settings.limits.maxOutputBytes ∧ after = traversal.emitted depth edge) := by
  unfold emitEdge at accepted
  split at accepted
  · rename_i spent
    cases Except.ok.inj accepted
    exact .inl ⟨rfl, spent, rfl⟩
  · rename_i room
    simp only [encodedRelationshipBytes_eq_ok, except_ok_bind, except_bind_eq_ok_iff] at accepted
    obtain ⟨bytes, fixed, charged, output, same⟩ := accepted
    cases Except.ok.inj same
    unfold addOutputBytes at output
    obtain ⟨total, summed, bounded⟩ := except_bind_eq_ok_iff.mp output
    split at bounded
    · cases bounded
    · rename_i fits
      cases Except.ok.inj bounded
      rw [checkedAdd_ok summed, checkedAdd_ok fixed] at fits ⊢
      exact .inr ⟨rfl, Nat.not_le.mp room, Nat.not_lt.mp fits, rfl⟩

theorem processed_of_emitEdge {visited : Traversal}
    (originSeen : orientedOrigin settings.direction edge ∈ before.seen)
    (visits : Visited settings.limits (orientedNeighbor settings.direction edge) before visited)
    (accepted : visited.emitEdge settings depth edge = .ok (continues, after)) :
    Processed settings depth edge before continues after := by
  rcases emitEdge_ok accepted with ⟨rfl, spent, rfl⟩ | ⟨rfl, room, fits, rfl⟩
  · exact .exhausted visits spent
  · exact .emitted originSeen visits room fits

theorem processSelectedEdge_ok
    (accepted : traversal.processSelectedEdge settings depth edge = .ok (continues, after)) :
    Processed settings depth edge traversal continues after := by
  unfold processSelectedEdge at accepted
  dsimp only at accepted
  by_cases originSeen : orientedOrigin settings.direction edge ∈ traversal.seen
  · rw [if_neg (not_not.mpr originSeen)] at accepted
    by_cases neighborSeen : orientedNeighbor settings.direction edge ∈ traversal.seen
    · rw [if_pos neighborSeen] at accepted
      exact processed_of_emitEdge originSeen (.known neighborSeen) accepted
    · rw [if_neg neighborSeen] at accepted
      unfold admitNode at accepted
      by_cases full : settings.limits.maxVisitedNodes ≤ traversal.seen.size
      · rw [if_pos full] at accepted
        cases Except.ok.inj accepted
        exact .refused neighborSeen full
      · rw [if_neg full] at accepted
        have room := Nat.not_le.mp full
        dsimp only at accepted
        unfold queueNeighbor at accepted
        split at accepted
        · exact processed_of_emitEdge originSeen (.unqueued neighborSeen room) accepted
        · rename_i frontierRoom
          exact processed_of_emitEdge originSeen
              (.queued neighborSeen room (Nat.not_le.mp frontierRoom))
              accepted
  · rw [if_pos originSeen] at accepted
    cases Except.ok.inj accepted
    exact .skipped originSeen

/--
Induction over the emission loop: an invariant that every processed edge
keeps holds at the end of the loop, and a loop that did not stop has handled
every selected edge.
-/
theorem processSelectedEdges_induction (invariant : List RustGraphTraversalEdge → Traversal → Prop)
    (step :
      ∀ {done : List RustGraphTraversalEdge} {edge : RustGraphTraversalEdge}
        {before after : Traversal}
        {continues : Bool},
        edge ∈ selected → invariant done before →
            Processed settings depth edge before continues after → invariant (done ++ [edge]) after)
    (initially : invariant [] traversal)
    (accepted : (processSelectedEdges settings depth selected traversal).result = .ok final) :
    ∃ done, done <+: selected ∧ invariant done final ∧ (final.stop = false → done = selected) := by
  suffices generalized :
      ∀ (done remaining : List RustGraphTraversalEdge) (current : Traversal),
        done ++ remaining = selected → invariant done current →
            (processSelectedEdges settings depth remaining current).result = .ok final →
              ∃ done, done <+: selected ∧ invariant done final ∧
                  (final.stop = false → done = selected) from
    generalized [] selected traversal rfl initially accepted
  intro done remaining
  induction remaining generalizing done with
  | nil =>
    intro current split holds finished
    cases Except.ok.inj finished
    exact ⟨done, ⟨[], split⟩, holds, fun _ => by simpa using split⟩
  | cons edge remaining hypothesis =>
    intro current split holds finished
    simp only [processSelectedEdges, Polled.result_bind,
      Polled.result_poll, Polled.result_done,
      except_ok_bind] at finished
    obtain ⟨⟨continues, processed⟩, outcome, later⟩ := except_bind_eq_ok_iff.mp finished
    have member : edge ∈ selected := by
      rw [← split]
      simp
    have processing := processSelectedEdge_ok outcome
    have kept := step member holds processing
    have shifted : done ++ [edge] ++ remaining = selected := by simpa using split
    cases continues with
    | true => exact hypothesis (done ++ [edge]) processed shifted kept later
    | false =>
      cases Except.ok.inj later
      refine ⟨done ++ [edge], ⟨remaining, shifted⟩, kept, ?_⟩
      intro running
      cases processing
      cases running

/-! ## The depth probe -/

theorem anyAllowed_result (settings : TraversalSettings) (edges : List RustGraphTraversalEdge) :
    (anyAllowed settings edges).result = .ok (!(allowedEdges settings edges).isEmpty) := by
  induction edges with
  | nil => rfl
  | cons edge edges hypothesis =>
    by_cases allowed : settings.edgeKinds.allows edge.kind = true
    · simp [anyAllowed, allowedEdges, allowed]
    · simp only [anyAllowed, allowed, Bool.false_eq_true, if_false,
        Polled.result_bind, Polled.result_poll, except_ok_bind,
        hypothesis]
      simp [allowedEdges, allowed]

/-- The probe finds an edge exactly when one leaves the frontier. -/
theorem frontierHasAllowedEdges_result (settings : TraversalSettings) (admitted : AdmittedEdges)
    (frontier : List RustGraphDefinitionIdentity) :
    (frontierHasAllowedEdges settings admitted frontier).result =
      .ok (!(frontierEdges settings admitted frontier).isEmpty) := by
  induction frontier with
  | nil => rfl
  | cons definition frontier hypothesis =>
    simp only [frontierHasAllowedEdges, Polled.result_bind,
      Polled.result_poll, except_ok_bind, anyAllowed_result]
    by_cases none : allowedEdges settings (admitted.adjacent definition settings.direction) = []
    · simp [none, hypothesis, frontierEdges]
    · simp [none, frontierEdges]

/-- The state at the end of the last permitted level. -/
def probed (settings : TraversalSettings) (admitted : AdmittedEdges)
    (traversal : Traversal) : Traversal :=
  if frontierEdges settings admitted traversal.next.toList = [] then
    traversal
  else
    traversal.setDepth

/-- The probe only sets the depth flag, and only when an edge was found. -/
theorem probeDepth_result (settings : TraversalSettings) (admitted : AdmittedEdges)
    (traversal : Traversal) :
    (traversal.probeDepth settings admitted).result = .ok (traversal.probed settings admitted) := by
  unfold probeDepth probed
  simp only [Polled.result_bind, frontierHasAllowedEdges_result, except_ok_bind]
  by_cases none : frontierEdges settings admitted traversal.next.toList = []
  · simp [none]
  · simp [none]

/-! ## Levels -/

theorem Selected.leading (selected : Selected limits available before taken after) :
    taken <+: available := by
  cases selected with
  | all bounded => exact List.prefix_refl _
  | cut leading bounded => exact leading

/-- A selection stays within the examined-edge budget. -/
theorem Selected.visitedEdges_le (selected : Selected limits available before taken after)
    (initially : before.visitedEdges ≤ limits.maxVisitedEdges) :
    before.visitedEdges + taken.length ≤ limits.maxVisitedEdges ∧
      after.visitedEdges ≤ limits.maxVisitedEdges := by
  cases selected with
  | all bounded => exact ⟨bounded initially, bounded initially⟩
  | cut leading bounded => exact ⟨bounded initially, bounded initially⟩

/--
One level of exploration: the allowed edges of the frontier are charged,
ordered and emitted.
-/
structure Explores (settings : TraversalSettings) (admitted : AdmittedEdges) (depth : Nat)
    (before : Traversal) (taken ordered : List RustGraphTraversalEdge)
    (charged processed : Traversal) : Prop where
  selects :
    Selected settings.limits (frontierEdges settings admitted before.current.toList)
      { before with current := ∅ } taken charged
  permutes : ordered.Perm taken
  sorted : SortedBy compareRelationship ordered
  processes : (processSelectedEdges settings depth ordered charged).result = .ok processed

theorem sortSelected_ok
    {ordered : List RustGraphTraversalEdge} (bounded : taken.length ≤ limits.maxVisitedEdges)
    (accepted : (cancellableSortIndices sorter compareRelationship taken).result = .ok ordered) :
    ordered.Perm taken ∧ SortedBy compareRelationship ordered := by
  have ceiling := limits.visitedEdgesValid.2
  obtain ⟨sorted, sortedOk, permutation, isSorted⟩ :=
    cancellableSortIndices_result sorter compareRelationship (show taken.length ≤ 2 ^ 63 by omega)
  cases accepted.symm.trans sortedOk
  exact ⟨permutation, isSorted⟩

/-- The level loop ends here, or explores one level and goes on. -/
theorem runDepths_cons_ok {depths : List Nat}
    (withinEdges : traversal.visitedEdges ≤ settings.limits.maxVisitedEdges)
    (accepted :
      (runDepths sorter settings admitted (depth :: depths) traversal).result = .ok final) :
    ((traversal.current.isEmpty = true ∨ traversal.stop = true) ∧
        final = traversal) ∨
      ∃ taken ordered charged processed,
        Explores settings admitted depth traversal taken ordered charged processed ∧
          traversal.stop = false ∧
          ((depth = settings.limits.maxDepth ∧
              final = (processed.completeDepth depth).probed settings admitted) ∨
            (depth ≠ settings.limits.maxDepth ∧
              (runDepths sorter settings admitted depths
                (processed.completeDepth depth).advance).result = .ok final)) := by
  simp only [runDepths, Polled.result_bind, Polled.result_poll, except_ok_bind] at accepted
  by_cases ended : (traversal.current.isEmpty || traversal.stop) = true
  · rw [if_pos ended] at accepted
    cases Except.ok.inj accepted
    exact .inl ⟨by simpa using ended, rfl⟩
  · rw [if_neg ended] at accepted
    have running : traversal.stop = false := by
      simp only [Bool.or_eq_true, not_or, Bool.not_eq_true] at ended
      exact ended.2
    simp only [Polled.result_bind, except_bind_eq_ok_iff] at accepted
    obtain
      ⟨⟨selected, charged⟩, selection, ordered, sorting, processed, processing, later⟩ := accepted
    obtain ⟨taken, same, outcome⟩ := selectFrontier_ok
      (show ({ traversal with current := ∅ } : Traversal).stop = false from running)
      selection
    rw [List.nil_append] at same
    subst same
    have bounded := outcome.visitedEdges_le
        (show ({ traversal with current := ∅ } : Traversal).visitedEdges
          ≤ settings.limits.maxVisitedEdges from withinEdges)
    obtain ⟨permutes, sorted⟩ :=
      sortSelected_ok (show selected.length ≤ settings.limits.maxVisitedEdges by omega) sorting
    refine .inr ⟨selected, ordered, charged, processed,
          ⟨outcome, permutes, sorted, processing⟩, running, ?_⟩
    by_cases last : depth = settings.limits.maxDepth
    · rw [if_pos last, probeDepth_result] at later
      exact .inl ⟨last, (Except.ok.inj later).symm⟩
    · rw [if_neg last] at later
      exact .inr ⟨last, later⟩

end Traversal

end RepoWitness
