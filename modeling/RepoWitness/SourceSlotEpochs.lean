import RepoWitness.WriterEffects
import RepoWitness.WriterKeyFacts

namespace RepoWitness

open Transaction

/-!
# Epochs of source slots

A reservation advances a slot's epoch by one, and completions and publications
must name the current one, so an epoch that is handed out once fences every
earlier one as long as the slot's row stays.  A connection that changes the
membership of an unpublished workspace deletes its slots and starts them again
at epoch zero.
-/

section Reached

def SlotReached (connectedWorkspace sourceSlot : Bytes32) (epoch : Nat) (store : Store) : Prop :=
  ∃ slot ∈ store.rows .workspaceSourceSlots,
    slot.connectedWorkspace = connectedWorkspace ∧
      slot.sourceSlot = sourceSlot ∧ epoch ≤ slot.sourceEpoch

variable {connectedWorkspace sourceSlot : Bytes32} {epoch : Nat} {before after : Store}

/-- A slot's epoch never goes back. -/
theorem slotUpdateGuard_epoch {old new : WorkspaceSourceSlotRow}
    (guarded : slotUpdateGuard old new = true) :
    new.connectedWorkspace = old.connectedWorkspace ∧
      new.sourceSlot = old.sourceSlot ∧
      new.generationWorkspace = old.generationWorkspace ∧
      old.sourceEpoch ≤ new.sourceEpoch := by
  simp only [slotUpdateGuard, Bool.and_eq_true, Bool.or_eq_true, beq_iff_eq] at guarded
  obtain ⟨⟨⟨⟨sameWorkspace, sameSlot⟩, _⟩, sameGeneration⟩, epochs⟩ := guarded
  refine ⟨sameWorkspace.symm, sameSlot.symm, sameGeneration.symm, ?_⟩
  omega

theorem SlotReached.of_allows {scope : WriterScope}
    (reached : SlotReached connectedWorkspace sourceSlot epoch before)
    (uncleared : ¬scope.clears connectedWorkspace)
    (allowed : scope.rules.Allows before.rows after.rows) :
    SlotReached connectedWorkspace sourceSlot epoch after := by
  obtain ⟨slot, member, rfl, sameSlot, reachedEpoch⟩ := reached
  rcases allowed.fate .workspaceSourceSlots slot member with
    kept | ⟨new, newMember, guarded, _⟩ | ⟨_, cleared⟩
  · exact ⟨slot, kept, rfl, sameSlot, reachedEpoch⟩
  · obtain ⟨newWorkspace, newSlot, _, advanced⟩ := slotUpdateGuard_epoch guarded
    exact ⟨new, newMember, newWorkspace, newSlot.trans sameSlot, reachedEpoch.trans advanced⟩
  · exact absurd cleared uncleared

theorem SlotReached.congr (reached : SlotReached connectedWorkspace sourceSlot epoch before)
    (same : after.rows .workspaceSourceSlots = before.rows .workspaceSourceSlots) :
    SlotReached connectedWorkspace sourceSlot epoch after := by
  unfold SlotReached
  rw [same]
  exact reached

/-- A call that clears a workspace finds its slots unreserved. -/
def KeepsReservedSlots (operation : WriterOperation) (rows : StoreRows) : Prop :=
  ∀ connectedWorkspace, operation.Clears rows connectedWorkspace →
    ∀ slot ∈ rows .workspaceSourceSlots,
      slot.connectedWorkspace = connectedWorkspace → slot.sourceEpoch = 0

theorem SlotReached.of_effect {digests : RetentionDigests} {operation : WriterOperation}
    (reached : SlotReached connectedWorkspace sourceSlot epoch before) (reserved : 0 < epoch)
    (keeps : KeepsReservedSlots operation before.rows)
    (effect : WriterEffect digests operation before after) :
    SlotReached connectedWorkspace sourceSlot epoch after := by
  have uncleared : ¬operation.Clears before.rows connectedWorkspace := by
    intro clears
    obtain ⟨slot, member, sameWorkspace, _, reachedEpoch⟩ := reached
    have unreserved := keeps _ clears slot member sameWorkspace
    omega
  refine effect.preserves _ ?_ ?_ ?_ reached
  · intro scope first second clears allowed current
    exact current.of_allows (fun cleared => uncleared (clears _ cleared)) allowed
  · intro _ _ _ first second _ activated current
    exact current.congr (activated.others _ (by decide))
  · intro _ _ _ _ _ collected current
    obtain ⟨slot, member, facts⟩ := current
    exact ⟨slot, (collected.mem_iff (by decide)).mpr ⟨member, rfl⟩, facts⟩

theorem SlotReached.le_of_findSlot {otherWorkspace : Bytes32} {slot : WorkspaceSourceSlotRow}
    (reached : SlotReached connectedWorkspace sourceSlot epoch before)
    (found : findSlot before.rows otherWorkspace sourceSlot = some slot) :
    epoch ≤ slot.sourceEpoch := by
  obtain ⟨row, member, _, sameSlot, reachedEpoch⟩ := reached
  have foundSlot := List.find?_some found
  rw [Bool.and_eq_true, beq_iff_eq, beq_iff_eq] at foundSlot
  have same : row = slot :=
    slot_eq_of_sourceSlot before member (List.mem_of_find?_eq_some found)
      (sameSlot.trans foundSlot.2.symm)
  rw [← same]
  exact reachedEpoch

end Reached

section Calls

variable {connectedWorkspace sourceSlot : Bytes32} {before after : Store}

theorem reserveSourceSlotEpoch_succeeds {expected epoch : Nat}
    (execution :
      Succeeds (reserveSourceSlotEpoch connectedWorkspace sourceSlot expected) before epoch after) :
    (∃ slot, findSlot before.rows connectedWorkspace sourceSlot =
        some slot ∧ slot.sourceEpoch < epoch) ∧
      SlotReached connectedWorkspace sourceSlot epoch after ∧
      0 < epoch := by
  unfold reserveSourceSlotEpoch at execution
  simp only [succeeds_bind, succeeds_get, succeeds_present, succeeds_require] at execution
  obtain ⟨_, _, ⟨_, rfl⟩, _, _, ⟨rfl, rfl⟩, slot, _, ⟨found, rfl⟩,
    _, _, ⟨current, rfl⟩, _, advanced, advances, rest⟩ := execution
  obtain ⟨updated, _⟩ := updateOneRow_succeeds advances
  obtain ⟨_, result⟩ := Database.update_eq_some_iff.mp updated
  have foundSlot := List.find?_some found
  rw [Bool.and_eq_true, beq_iff_eq, beq_iff_eq] at foundSlot
  have reached : SlotReached connectedWorkspace sourceSlot (expected + 1)
        advanced := by
    refine ⟨{ slot with sourceEpoch := expected + 1 }, ?_, foundSlot.1, foundSlot.2, le_refl _⟩
    rw [result, setTable_same]
    refine List.mem_map.mpr ⟨slot, List.mem_of_find?_eq_some found, ?_⟩
    rw [if_pos (by simp [foundSlot, eq_of_beq current])]
  have currentEpoch : slot.sourceEpoch = expected := eq_of_beq current
  split at rest
  · simp only [succeeds_bind, succeeds_pure] at rest
    obtain ⟨_, final, workspaceAdvances, rfl, rfl⟩ := rest
    obtain ⟨moved, _⟩ := updateOneRow_succeeds workspaceAdvances
    obtain ⟨_, movedResult⟩ := Database.update_eq_some_iff.mp moved
    refine ⟨⟨slot, found, by omega⟩, reached.congr ?_, by omega⟩
    rw [movedResult, setTable_of_ne _ _ (by decide)]
  · obtain ⟨rfl, rfl⟩ := succeeds_pure.mp rest
    exact ⟨⟨slot, found, by omega⟩, reached, by omega⟩

theorem completeSourceSlotEpoch_succeeds {sourceEpoch generation : Nat}
    (execution :
      Succeeds (completeSourceSlotEpoch connectedWorkspace sourceSlot sourceEpoch generation)
        before () after) :
    ∃ slot, findSlot before.rows connectedWorkspace sourceSlot =
        some slot ∧ slot.sourceEpoch = sourceEpoch := by
  unfold completeSourceSlotEpoch at execution
  simp only [succeeds_bind, succeeds_get, succeeds_present, succeeds_require] at execution
  obtain ⟨_, _, ⟨rfl, rfl⟩, slot, _, ⟨found, rfl⟩, _, _, ⟨current, rfl⟩, _⟩ := execution
  exact ⟨slot, found, eq_of_beq current⟩

end Calls

section Fencing

namespace WriterEvent

def Reserves (event : WriterEvent) (sourceSlot : Bytes32) (epoch : Nat) : Prop :=
  ∃ connectedWorkspace expected,
    event.operation = .reserveSourceSlotEpoch connectedWorkspace sourceSlot expected ∧
      event.reply = .epoch epoch

def Uses (event : WriterEvent) (sourceSlot : Bytes32) (epoch : Nat) : Prop :=
  (∃ connectedWorkspace generation,
    event.operation = .completeSourceSlotEpoch connectedWorkspace sourceSlot epoch generation) ∨
    ∃ connectedWorkspace members,
      event.operation = .publishWorkspaceView connectedWorkspace members ∧
        ∃ member ∈ members, member.sourceSlot = sourceSlot ∧ member.sourceEpoch = epoch

end WriterEvent

variable {digests : RetentionDigests} {connectedWorkspace sourceSlot : Bytes32} {epoch : Nat}
  {before after : Store} {event : WriterEvent}

theorem reserves_succeeds (reserves : event.Reserves sourceSlot epoch)
    (step : writerStep digests before event after) :
    (∃ workspace slot, findSlot before.rows workspace sourceSlot =
        some slot ∧ slot.sourceEpoch < epoch) ∧
      (∃ workspace, SlotReached workspace sourceSlot epoch after) ∧
      0 < epoch := by
  obtain ⟨operation, reply⟩ := event
  obtain ⟨workspace, expected, rfl, rfl⟩ := reserves
  obtain ⟨reservedEpoch, _, reserved, answered⟩ := succeeds_bind.mp step
  obtain ⟨same, rfl⟩ := succeeds_pure.mp answered
  cases same
  obtain ⟨⟨slot, found, next⟩, reached, positive⟩ := reserveSourceSlotEpoch_succeeds reserved
  exact ⟨⟨workspace, slot, found, next⟩, ⟨workspace, reached⟩, positive⟩

theorem uses_succeeds (uses : event.Uses sourceSlot epoch)
    (step : writerStep digests before event after) :
    ∃ workspace slot, findSlot before.rows workspace sourceSlot =
        some slot ∧ slot.sourceEpoch = epoch := by
  obtain ⟨operation, reply⟩ := event
  rcases uses with
    ⟨workspace, generation, rfl⟩ | ⟨workspace, members, rfl, member, listed, rfl, rfl⟩
  · obtain ⟨_, _, completed, _⟩ := succeeds_bind.mp step
    exact ⟨workspace, completeSourceSlotEpoch_succeeds completed⟩
  · obtain ⟨_, _, published, _⟩ := succeeds_bind.mp step
    exact ⟨workspace, (publishWorkspaceView_succeeds published).2 member listed⟩

/-- One committed call that keeps reserved slots. -/
def fencedStep (digests : RetentionDigests) (before : Store) (event : WriterEvent)
    (after : Store) : Prop :=
  writerStep digests before event after ∧ KeepsReservedSlots event.operation before.rows

variable {events : List WriterEvent}

/-- Calls after an epoch is reached reserve later ones and use none before. -/
theorem fenced_of_reached (run : Run (fencedStep digests) before events after)
    (reached : SlotReached connectedWorkspace sourceSlot epoch before) (reserved : 0 < epoch) :
    ∀ event ∈ events, ∀ later,
      (event.Reserves sourceSlot later → epoch < later) ∧
        (event.Uses sourceSlot later → epoch ≤ later) := by
  induction run with
  | done => simp
  | @more before middle final event events first rest hypothesis =>
    obtain ⟨step, keeps⟩ := first
    have kept := reached.of_effect reserved keeps (step_effect step)
    intro other member later
    rcases List.mem_cons.mp member with rfl | member
    · constructor
      · intro reserves
        obtain ⟨⟨_, slot, found, next⟩, _⟩ := reserves_succeeds reserves step
        exact (reached.le_of_findSlot found).trans_lt next
      · intro uses
        obtain ⟨_, slot, found, rfl⟩ := uses_succeeds uses step
        exact reached.le_of_findSlot found
    · exact hypothesis kept other member later

/-- In a run whose calls keep reserved slots, a reservation precedes only
larger reservations of its slot and no use of a smaller epoch. -/
theorem reservations_ordered (run : Run (fencedStep digests) before events after) :
    events.Pairwise fun first second =>
      ∀ sourceSlot epoch later, first.Reserves sourceSlot epoch →
        (second.Reserves sourceSlot later → epoch < later) ∧
          (second.Uses sourceSlot later → epoch ≤ later) := by
  induction run with
  | done => exact .nil
  | more first rest hypothesis =>
    refine .cons ?_ hypothesis
    intro second member sourceSlot epoch later reserves
    obtain ⟨_, ⟨workspace, reached⟩, positive⟩ := reserves_succeeds reserves first.1
    exact fenced_of_reached rest reached positive second member later

theorem fenced_of_no_connection (run : Run (writerStep digests) before events after)
    (unconnected : ∀ event ∈ events, ∀ connectedWorkspace sourceSlots,
        event.operation ≠ .connectWorkspace connectedWorkspace sourceSlots) :
    Run (fencedStep digests) before events after := by
  induction run with
  | done => exact .done _
  | @more before middle final event events first rest hypothesis =>
    refine .more ⟨first, ?_⟩ (hypothesis fun other member =>
      unconnected other (List.mem_cons_of_mem _ member))
    rintro connectedWorkspace ⟨sourceSlots, called, _⟩
    exact absurd called (unconnected event List.mem_cons_self _ _)

end Fencing

namespace Sample

def digests : RetentionDigests where
  policy _ := 0
  plan _ := 0

/-- Two repositories, and a workspace with one slot of the first. -/
def connectedOperations : List WriterOperation :=
  [.ensureWorkspace 1 0,
    .ensureWorkspace 2 0,
    .connectWorkspace 10 [{ sourceSlot := 11, repository := 1 }]]

/-- A ready generation of a repository, with an empty snapshot. -/
def readyGeneration (repository : Bytes32) (sourceEpoch generation : Nat)
    (snapshot : Bytes32) : List WriterOperation :=
  [.insertContent .sourceSnapshots
      { snapshot
        lifecycle := .staging
        manifest := snapshot
        fileCount := 0
        totalSourceBytes := 0 },
    .completeSnapshot snapshot,
    .stageGeneration repository sourceEpoch snapshot,
    .transitionGeneration generation .extract,
    .transitionGeneration generation .resolve,
    .transitionGeneration generation .validate,
    .transitionGeneration generation (.ready ⟨1, 0, 0, 0⟩)]

/-- One client reserves and stages; a second one changes the membership and
reserves; the first one completes. -/
def reconnectedOperations : List WriterOperation := connectedOperations ++
    [.reserveSourceSlotEpoch 10 11 0] ++
    readyGeneration 1 0 1 50 ++
    [.connectWorkspace 10
        [{ sourceSlot := 11, repository := 1 }, { sourceSlot := 12, repository := 2 }],
      .reserveSourceSlotEpoch 10 11 0,
      .completeSourceSlotEpoch 10 11 1 1]

def reconnectedReplies : List WriterReply :=
  [.workspace 1 0, .workspace 2 0, .done, .epoch 1, .done, .done,
    .generation 1, .done, .done, .done, .done, .done, .epoch 1, .done]

theorem reconnectedReplies_computed : (runOperations digests reconnectedOperations emptyStore).map
        (fun result => result.1.map fun event => event.reply) =
      some reconnectedReplies := by
  decide +kernel

/-- A reservation of the sample's slot. -/
def reservation (expected : Nat) : WriterEvent where
  operation := .reserveSourceSlotEpoch 10 11 expected
  reply := .epoch (expected + 1)

/-- Two clients reserve one slot in turn. -/
def reservingOperations : List WriterOperation :=
  connectedOperations ++ [(reservation 0).operation, (reservation 1).operation]

theorem reservingReplies_computed : (runOperations digests reservingOperations emptyStore).map
        (fun result => result.1.map fun event => event.reply) =
      some [.workspace 1 0, .workspace 2 0, .done, .epoch 1, .epoch 2] := by
  decide +kernel

end Sample

/-- In a run whose calls keep reserved slots, no two reservations of a slot
return one epoch, and after the second of them neither a completion nor a
publication with the first one's epoch succeeds. -/
theorem reserved_epochs_fence {digests : RetentionDigests} {before after : Store}
    {events : List WriterEvent} {sourceSlot : Bytes32} {epoch later : Nat}
    {first second : WriterEvent} (run : Run (fencedStep digests) before events after)
    (reserves : first.Reserves sourceSlot epoch)
    (reservesLater : second.Reserves sourceSlot later) :
    ([first, second].Sublist events → epoch < later) ∧
      ∀ use : WriterEvent, [first, second, use].Sublist events → ¬use.Uses sourceSlot epoch := by
  have ordered := reservations_ordered run
  rw [List.pairwise_iff_forall_sublist] at ordered
  constructor
  · intro inOrder
    exact (ordered inOrder sourceSlot epoch later reserves).1 reservesLater
  · intro use inOrder uses
    have firstPair : [first, second].Sublist events :=
      (((List.nil_sublist [use]).cons_cons second).cons_cons first).trans inOrder
    have secondPair : [second, use].Sublist events :=
      ((List.Sublist.refl [second, use]).cons first).trans inOrder
    have larger := (ordered firstPair sourceSlot epoch later reserves).1 reservesLater
    have current := (ordered secondPair sourceSlot later epoch reservesLater).2 uses
    omega

/-- Two reservations in turn return different epochs. -/
theorem reserved_epochs_fence_of_two_clients : ∃ before after,
      Run (fencedStep Sample.digests) before
          [Sample.reservation 0, Sample.reservation 1] after ∧
        (Sample.reservation 0).Reserves 11 1 ∧
        (Sample.reservation 1).Reserves 11 2 ∧
        (([Sample.reservation 0, Sample.reservation 1].Sublist
            [Sample.reservation 0, Sample.reservation 1] → 1 < 2) ∧
          ∀ use : WriterEvent,
            [Sample.reservation 0, Sample.reservation 1, use].Sublist
                [Sample.reservation 0, Sample.reservation 1] →
              ¬use.Uses 11 1) := by
  obtain ⟨after, run⟩ := run_of_replies Sample.reservingReplies_computed
  rcases run with _ | ⟨_, _ | ⟨_, _ | ⟨_, reserving⟩⟩⟩
  have fenced :
      Run (fencedStep Sample.digests) _ [Sample.reservation 0, Sample.reservation 1] after :=
    fenced_of_no_connection reserving (by simp [Sample.reservation])
  exact ⟨_, after, fenced, ⟨10, 0, rfl, rfl⟩, ⟨10, 1, rfl, rfl⟩,
    reserved_epochs_fence fenced ⟨10, 0, rfl, rfl⟩ ⟨10, 1, rfl, rfl⟩⟩

/-- A completion with the epoch of a reservation succeeds after a later
reservation of its slot, which returned the same epoch. -/
theorem reserved_epoch_reissued : ∃ events store first second use,
      Run (writerStep Sample.digests) emptyStore events store ∧
        [first, second, use].Sublist events ∧
        first.Reserves 11 1 ∧ second.Reserves 11 1 ∧ use.Uses 11 1 := by
  obtain ⟨store, run⟩ := run_of_replies Sample.reconnectedReplies_computed
  refine ⟨_, store, Sample.reservation 0, Sample.reservation 0,
    ⟨.completeSourceSlotEpoch 10 11 1 1, .done⟩, run, ?_,
    ⟨10, 0, rfl, rfl⟩, ⟨10, 0, rfl, rfl⟩, .inl ⟨10, 1, rfl⟩⟩
  -- The reservations are the fourth and the last call but one.
  exact .cons _ (.cons _ (.cons _ (.cons_cons _ (.cons _ (.cons _
    (.cons _ (.cons _ (.cons _ (.cons _ (.cons _ (.cons _
    (.cons_cons _ (.cons_cons _ .slnil)))))))))))))

end RepoWitness
