import RepoWitness.WatcherSchedule

namespace RepoWitness

/-!
# No watcher observation is lost

An observation leaves pending work, a dirty deadline or a mandatory full
reconciliation.  Every later call keeps that obligation until a reconciliation
is admitted; the admitted attempt is then active, retried or turned into full
work until one completes.
-/

/-- An error of calls made out of order. -/
def WatcherStateError.isProtocol : WatcherStateError → Bool
  | .noPendingReconciliation
  | .reconciliationAlreadyActive
  | .noActiveReconciliation => true
  | _ => false

namespace WatcherPollingState

/-- Work that no admitted reconciliation covers. -/
def Unadmitted (state : WatcherPollingState) : Prop :=
  state.pending.isSome ∨ state.dirtyDeadline.isSome ∨ state.fullReconciliationRequired = true

/-- An admitted reconciliation that runs or waits for its retry. -/
def InProgress (state : WatcherPollingState) : Prop :=
  state.active = true ∨ state.retryDeadline.isSome

/-- No deadline that the state stores is later than the timestamp. -/
structure AllDue (state : WatcherPollingState) (now : WatcherMonotonicTimestamp) : Prop where
  periodic : state.nextPeriodic ≤ now
  dirty : ∀ deadline, state.dirtyDeadline = some deadline → deadline ≤ now
  retry : ∀ due attempt, state.retryDeadline = some (due, attempt) → due ≤ now

/-- Unadmitted work and cancellation stay. -/
structure Retains (before after : WatcherPollingState) : Prop where
  cancelled : before.cancelled = true → after.cancelled = true
  pending : before.pending.isSome → after.pending.isSome
  dirty : before.dirtyDeadline.isSome → after.dirtyDeadline.isSome
  full : before.fullReconciliationRequired = true → after.fullReconciliationRequired = true

/-- Besides, work in progress stays or becomes mandatory full work. -/
structure Carries (before after : WatcherPollingState) : Prop extends Retains before after where
  inProgress : before.InProgress → after.InProgress ∨ after.fullReconciliationRequired = true

variable {before middle after state : WatcherPollingState}

theorem Retains.unadmitted (retains : Retains before after) (owed : before.Unadmitted) :
    after.Unadmitted := by
  rcases owed with pending | dirty | full
  · exact .inl (retains.pending pending)
  · exact .inr (.inl (retains.dirty dirty))
  · exact .inr (.inr (retains.full full))

theorem Carries.refl (state : WatcherPollingState) : Carries state state := ⟨⟨id, id, id, id⟩, .inl⟩

theorem Carries.trans (first : Carries before middle) (second : Carries middle after) :
    Carries before after := by
  refine ⟨⟨second.cancelled ∘ first.cancelled,
      second.pending ∘ first.pending,
      second.dirty ∘ first.dirty,
      second.full ∘ first.full⟩, ?_⟩
  intro inProgress
  rcases first.inProgress inProgress with kept | full
  · exact second.inProgress kept
  · exact .inr (second.full full)

/-- A state that keeps every flag and deadline carries the obligation. -/
theorem Carries.of_eq (cancelled : after.cancelled = before.cancelled)
    (pending : before.pending.isSome → after.pending.isSome)
    (dirty : before.dirtyDeadline.isSome → after.dirtyDeadline.isSome)
    (full : after.fullReconciliationRequired = before.fullReconciliationRequired)
    (active : after.active = before.active) (retry : after.retryDeadline = before.retryDeadline) :
    Carries before after := by
  refine ⟨⟨?_, pending, dirty, ?_⟩, ?_⟩
  · exact fun held => cancelled.trans held
  · exact fun held => full.trans held
  · intro inProgress
    rw [InProgress, ← active, ← retry] at inProgress
    exact .inl inProgress

/-- Forcing full work covers whatever was in progress. -/
theorem Retains.forceFull (retains : Retains before middle) (reason : WatcherReconciliationReason) :
    Carries before (middle.forceFull reason) := by
  refine ⟨⟨retains.cancelled, ?_, retains.dirty, fun _ => rfl⟩, fun _ => .inr rfl⟩
  intro pending
  rw [WatcherPollingState.forceFull]
  split
  · rfl
  · exact retains.pending pending

/-! ## Calls that keep the attempt -/

/-- What a call that neither starts nor ends an attempt may do. -/
structure Tame (before after : WatcherPollingState) : Prop where
  limits : after.limits = before.limits
  active : after.active = before.active
  cancelled : after.cancelled = before.cancelled
  attempts : after.retryAttempts = before.retryAttempts
  exhausted : after.retryExhausted = before.retryExhausted
  started : after.counters.reconciliationsStarted = before.counters.reconciliationsStarted
  completed : after.counters.reconciliationsCompleted = before.counters.reconciliationsCompleted
  failed : after.counters.retryableFailures = before.counters.retryableFailures
  pending : after.pending = before.pending ∨
      (before.active = false ∧ before.cancelled = false ∧
        before.pending = none ∧
        ∃ reason, after.pending = some reason ∧
          ∀ attempt, reason = .retry attempt → ∃ due, before.retryDeadline = some (due, attempt))
  deadline : after.retryDeadline = before.retryDeadline ∨ after.retryDeadline = none

/-- Leave retry exhaustion. -/
def released (state : WatcherPollingState) : WatcherPollingState :=
  { state with retryExhausted := false, retryAttempts := 0 }

namespace Tame

theorem refl (state : WatcherPollingState) : Tame state state :=
  ⟨rfl, rfl, rfl, rfl, rfl, rfl, rfl, rfl, .inl rfl, .inl rfl⟩

theorem deadline_some {due : WatcherMonotonicTimestamp} {attempt : WatcherRetryAttempt}
    (tame : Tame before after) (scheduled : after.retryDeadline = some (due, attempt)) :
    before.retryDeadline = some (due, attempt) := by
  rcases tame.deadline with same | gone
  · exact same.symm.trans scheduled
  · rw [gone] at scheduled
    cases scheduled

theorem trans (first : Tame before middle) (second : Tame middle after) : Tame before after where
  limits := second.limits.trans first.limits
  active := second.active.trans first.active
  cancelled := second.cancelled.trans first.cancelled
  attempts := second.attempts.trans first.attempts
  exhausted := second.exhausted.trans first.exhausted
  started := second.started.trans first.started
  completed := second.completed.trans first.completed
  failed := second.failed.trans first.failed
  pending := by
    rcases second.pending with same | ⟨idle, running, unclaimed, reason, isPending, retry⟩
    · rw [same]
      exact first.pending
    · have noneBefore : before.pending = none := by
        rcases first.pending with same | ⟨_, _, free, _⟩
        · exact same.symm.trans unclaimed
        · exact free
      refine
        .inr ⟨first.active ▸ idle, first.cancelled ▸ running, noneBefore, reason, isPending, ?_⟩
      intro attempt isRetry
      obtain ⟨due, scheduled⟩ := retry attempt isRetry
      exact ⟨due, first.deadline_some scheduled⟩
  deadline := by
    rcases second.deadline with same | gone
    · rw [same]
      exact first.deadline
    · exact .inr gone

end Tame

/-- A tame call that carries the obligation. -/
structure Keeps (before after : WatcherPollingState) : Prop where
  tame : Tame before after
  carries : Carries before after

namespace Keeps

theorem refl (state : WatcherPollingState) : Keeps state state :=
  ⟨Tame.refl state, Carries.refl state⟩

theorem trans (first : Keeps before middle) (second : Keeps middle after) : Keeps before after :=
  ⟨first.tame.trans second.tame, first.carries.trans second.carries⟩

theorem released (keeps : Keeps before after) : Keeps before.released after.released :=
  ⟨{ keeps.tame with attempts := rfl, exhausted := rfl }, { keeps.carries with }⟩

/-- The clock, the dirty deadline and other counters do not matter. -/
theorem noted {lastTimestamp : WatcherMonotonicTimestamp}
    {dirtyDeadline : Option WatcherMonotonicTimestamp} {counters : WatcherStateCounters}
    (started : counters.reconciliationsStarted = state.counters.reconciliationsStarted)
    (completed : counters.reconciliationsCompleted = state.counters.reconciliationsCompleted)
    (failed : counters.retryableFailures = state.counters.retryableFailures)
    (dirty : state.dirtyDeadline.isSome → dirtyDeadline.isSome) :
    Keeps state { state with lastTimestamp, dirtyDeadline, counters } :=
  ⟨⟨rfl, rfl, rfl, rfl, rfl, started, completed, failed, .inl rfl, .inl rfl⟩,
    .of_eq rfl id dirty rfl rfl rfl⟩

end Keeps

variable {reason : WatcherReconciliationReason}

theorem forceFull_tame (plain : ∀ attempt, reason ≠ .retry attempt) :
    Tame state (state.forceFull reason) := by
  refine ⟨rfl, rfl, rfl, rfl, rfl, rfl, rfl, rfl, ?_, .inr rfl⟩
  rw [forceFull]
  split
  next idle =>
    simp only [Bool.and_eq_true, Bool.not_eq_true', Option.isNone_iff_eq_none] at idle
    refine .inr ⟨idle.1.1, idle.2, idle.1.2, reason, rfl, ?_⟩
    exact fun attempt isRetry => absurd isRetry (plain attempt)
  next => exact .inl rfl

theorem forceFull_keeps (plain : ∀ attempt, reason ≠ .retry attempt) :
    Keeps state (state.forceFull reason) :=
  ⟨forceFull_tame plain, Retains.forceFull ⟨id, id, id, id⟩ reason⟩

theorem noteClockRegression_keeps : Keeps state state.noteClockRegression := by
  rw [noteClockRegression]
  refine Keeps.trans ?_ (forceFull_keeps ?_)
  · exact .noted rfl rfl rfl id
  · intro attempt
    split <;> simp

theorem admitClock_keeps (now : WatcherMonotonicTimestamp) :
    Keeps state (state.admitClock now).2 := by
  rw [admitClock]
  split
  · exact noteClockRegression_keeps
  · exact .noted rfl rfl rfl id

theorem makePending_keeps (idle : state.active = false)
    (running : state.cancelled = false) (unclaimed : state.pending = none)
    (retry :
      ∀ attempt, reason = .retry attempt → ∃ due, state.retryDeadline = some (due, attempt)) :
    Keeps state (state.makePending reason).1 :=
  ⟨⟨rfl, rfl, rfl, rfl, rfl, rfl, rfl, rfl,
    .inr ⟨idle, running, unclaimed, reason, rfl, retry⟩, .inl rfl⟩,
    .of_eq rfl (fun _ => rfl) id rfl rfl rfl⟩

/-- A polling decision agrees with the state it leaves. -/
def Decides (now : WatcherMonotonicTimestamp) (after : WatcherPollingState) :
    WatcherPollDecision → Prop
  | .pending reason => after.pending = some reason ∧ after.cancelled = false
  | .debouncing deadline => now < deadline ∧ after.dirtyDeadline = some deadline
  | .waitingPeriodic due => now < due ∧ after.nextPeriodic = due
  | .waitingRetry due attempt => now < due ∧ after.retryDeadline = some (due, attempt)
  | .backpressured => after.active = true
  | .retryExhausted => now < after.nextPeriodic
  | .cancelled => after.cancelled = true

/-- A poll keeps the attempt, or leaves exhaustion for periodic work, and tells what it left. -/
structure Polls (now : WatcherMonotonicTimestamp) (state : WatcherPollingState)
    (result : WatcherPollingState × WatcherPollDecision) : Prop where
  keeps : Keeps state result.1 ∨
      (state.retryExhausted = true ∧ result.1.pending = some .periodic ∧
        Keeps state.released result.1)
  decides : Decides now result.1 result.2

section Polling

variable {now : WatcherMonotonicTimestamp}

theorem Polls.of_clock {admitted : WatcherPollingState}
    {result : WatcherPollingState × WatcherPollDecision} (clock : Keeps state admitted)
    (polls : Polls now admitted result) :
    Polls now state result := by
  refine ⟨?_, polls.decides⟩
  rcases polls.keeps with keeps | ⟨isExhausted, isPeriodic, keeps⟩
  · exact .inl (clock.trans keeps)
  · exact .inr ⟨clock.tame.exhausted ▸ isExhausted, isPeriodic, clock.released.trans keeps⟩

theorem makePending_polls (idle : state.active = false) (running : state.cancelled = false)
    (unclaimed : state.pending = none)
    (retry :
      ∀ attempt, reason = .retry attempt → ∃ due, state.retryDeadline = some (due, attempt)) :
    Polls now state (state.makePending reason) :=
  ⟨.inl (makePending_keeps idle running unclaimed retry), rfl, running⟩

theorem pollIdle_polls (idle : state.active = false) (running : state.cancelled = false)
    (unclaimed : state.pending = none) :
    Polls now state (state.pollIdle now) := by
  have kept : Keeps state state := Keeps.refl state
  rw [pollIdle]
  split
  next isExhausted =>
    rw [pollRetryExhausted]
    split
    next =>
      refine ⟨.inr ⟨isExhausted, rfl, ?_⟩, rfl, running⟩
      exact makePending_keeps idle running unclaimed (by rintro _ ⟨⟩)
    next early => exact ⟨.inl kept, UInt64.not_le.mp early⟩
  next =>
    split
    next due attempt scheduled =>
      split
      next early => exact ⟨.inl kept, early, scheduled⟩
      next =>
        refine makePending_polls idle running unclaimed ?_
        rintro other isRetry
        cases isRetry
        exact ⟨due, scheduled⟩
    next =>
      split
      next => exact makePending_polls idle running unclaimed (by rintro _ ⟨⟩)
      next =>
        split
        next => exact makePending_polls idle running unclaimed (by rintro _ ⟨⟩)
        next early =>
          split
          next deadline dirty =>
            split
            next => exact makePending_polls idle running unclaimed (by rintro _ ⟨⟩)
            next debouncing => exact ⟨.inl kept, UInt64.not_le.mp debouncing, dirty⟩
          next => exact ⟨.inl kept, UInt64.not_le.mp early, rfl⟩

theorem poll_polls (now : WatcherMonotonicTimestamp) : Polls now state (state.poll now) := by
  rw [poll]
  split
  next isCancelled => exact ⟨.inl (Keeps.refl state), isCancelled⟩
  next running =>
    have clock := @admitClock_keeps state now
    split
    next regressed result =>
      rw [result] at clock
      have running := clock.tame.cancelled.trans (eq_false_of_ne_true running)
      refine .of_clock clock ?_
      rw [pendingOrBackpressured]
      split
      next isPending => exact ⟨.inl (Keeps.refl regressed), isPending, running⟩
      next unclaimed =>
        split
        next isActive => exact ⟨.inl (Keeps.refl regressed), isActive⟩
        next idle =>
          exact makePending_polls (eq_false_of_ne_true idle) running unclaimed (by rintro _ ⟨⟩)
    next next result =>
      rw [result] at clock
      have running := clock.tame.cancelled.trans (eq_false_of_ne_true running)
      refine .of_clock clock ?_
      split
      next isPending => exact ⟨.inl (Keeps.refl next), isPending, running⟩
      next unclaimed =>
        split
        next isActive => exact ⟨.inl (Keeps.refl next), isActive⟩
        next idle => exact pollIdle_polls (eq_false_of_ne_true idle) running unclaimed

end Polling

theorem observationAdmission_keeps (requireFull : Bool) (running : state.cancelled = false) :
    Keeps state (state.observationAdmission requireFull).1 := by
  rw [observationAdmission]
  split
  · dsimp only
    split
    · exact .noted rfl rfl rfl id
    · refine Keeps.trans ?_ (forceFull_keeps (by simp))
      exact .noted rfl rfl rfl id
  next idle =>
    have idle := eq_false_of_ne_true idle
    split
    next =>
      dsimp only
      split
      · exact .noted rfl rfl rfl id
      · refine Keeps.trans ?_ (forceFull_keeps (by simp))
        exact .noted rfl rfl rfl id
    next unclaimed =>
      have unclaimed : state.pending = none := by simpa using unclaimed
      split
      · exact makePending_keeps idle running unclaimed (by rintro _ ⟨⟩)
      · exact Keeps.refl state

/-- A call keeps the attempt, after it may have left an exhaustion. -/
inductive Moves (before after : WatcherPollingState) : Prop where
  | kept (keeps : Keeps before after)
  | released (isExhausted : before.retryExhausted = true) (keeps : Keeps before.released after)

theorem Moves.carries (moves : Moves before after) : Carries before after := by
  cases moves with
  | kept keeps => exact keeps.carries
  | released _ keeps =>
    have releases : Carries before before.released := .of_eq rfl id id rfl rfl rfl
    exact releases.trans keeps.carries

theorem Moves.same (moves : Moves before after) :
    after.limits = before.limits ∧ after.active = before.active := by
  cases moves with
  | kept keeps => exact ⟨keeps.tame.limits, keeps.tame.active⟩
  | released _ keeps => exact ⟨keeps.tame.limits, keeps.tame.active⟩

theorem poll_moves (now : WatcherMonotonicTimestamp) : Moves state (state.poll now).1 := by
  rcases (poll_polls now).keeps with keeps | ⟨isExhausted, _, keeps⟩
  · exact .kept keeps
  · exact .released isExhausted keeps

/-- An observation keeps every obligation, and leaves one of its own. -/
theorem observe_moves (now : WatcherMonotonicTimestamp) (requireFull : Bool) :
    Moves state (state.observe now requireFull).1 ∧
      ((state.observe now requireFull).1.cancelled = true ∨
        (state.observe now requireFull).1.Unadmitted) := by
  have full {base admitted : WatcherPollingState} (fromBase : Keeps base admitted)
      (running : base.cancelled = false) :
      let next :=
        (observationAdmission true
          { admitted with fullReconciliationRequired := true, retryDeadline := none }).1
      Keeps base next ∧ next.Unadmitted := by
    have admission := @observationAdmission_keeps
        { admitted with fullReconciliationRequired := true, retryDeadline := none } true
        (fromBase.tame.cancelled.trans running)
    refine ⟨(fromBase.trans ?_).trans admission, .inr (.inr (admission.carries.full rfl))⟩
    exact ⟨⟨rfl, rfl, rfl, rfl, rfl, rfl, rfl, rfl, .inl rfl, .inr rfl⟩,
        ⟨id, id, id, fun _ => rfl⟩, fun _ => .inr rfl⟩
  have debounced {base admitted : WatcherPollingState} (fromBase : Keeps base admitted)
      (running : base.cancelled = false) (deadline : WatcherMonotonicTimestamp) :
      let next :=
        (observationAdmission admitted.fullReconciliationRequired
          { admitted with dirtyDeadline := some deadline }).1
      Keeps base next ∧ next.Unadmitted := by
    have admission :=
      @observationAdmission_keeps { admitted with dirtyDeadline := some deadline }
        admitted.fullReconciliationRequired (fromBase.tame.cancelled.trans running)
    refine ⟨(fromBase.trans ?_).trans admission, .inr (.inl (admission.carries.dirty rfl))⟩
    exact .noted rfl rfl rfl fun _ => rfl
  rw [observe]
  split
  next cancelled => exact ⟨.kept (Keeps.refl state), .inl cancelled⟩
  next running =>
    have running := eq_false_of_ne_true running
    have clock := @admitClock_keeps state now
    split
    next regressed result =>
      rw [result] at clock
      refine ⟨.kept clock, .inr (.inr (.inr ?_))⟩
      rw [admitClock] at result
      split at result
      · rw [← (Prod.mk.inj result).2]
        rfl
      · cases (Prod.mk.inj result).1
    next admitted result =>
      rw [result] at clock
      dsimp only
      by_cases isExhausted : admitted.retryExhausted = true
      · rw [if_pos isExhausted]
        have released : Keeps state.released
            { admitted with retryExhausted := false, retryAttempts := 0 } := clock.released
        have isExhausted := clock.tame.exhausted ▸ isExhausted
        split
        · exact (full released running).imp (.released isExhausted) .inr
        · split
          · exact
              ⟨.released isExhausted (released.trans (forceFull_keeps (by simp))),
                .inr (.inr (.inr rfl))⟩
          · exact (debounced released running _).imp (.released isExhausted) .inr
      · rw [if_neg isExhausted]
        split
        · exact (full clock running).imp .kept .inr
        · split
          · exact ⟨.kept (clock.trans (forceFull_keeps (by simp))), .inr (.inr (.inr rfl))⟩
          · exact (debounced clock running _).imp .kept .inr

/-! ## Calls that start or end an attempt -/

theorem increment_fst_iff (counter : UInt64) :
    (increment counter).1 = true ↔ counter.toNat + 1 < 2 ^ 64 := by
  rw [increment]
  split
  next room => exact iff_of_true rfl room
  next full => exact iff_of_false (by simp) full

theorem increment_snd {counter : UInt64} (room : (increment counter).1 = true) :
    (increment counter).2.toNat = counter.toNat + 1 := by
  rw [increment_fst_iff] at room
  rw [increment, if_pos room, UInt64.toNat_add]
  exact Nat.mod_eq_of_lt room

theorem increment_snd_le (counter : UInt64) : (increment counter).2.toNat ≤ counter.toNat + 1 := by
  by_cases room : (increment counter).1 = true
  · exact Nat.le_of_eq (increment_snd room)
  · rw [increment_fst_iff] at room
    rw [increment, if_neg room]
    exact Nat.le_succ _

theorem nextAttempt_lt {attempts next : UInt16} (incremented : nextAttempt attempts = some next) :
    attempts < next := by
  rw [nextAttempt] at incremented
  split at incremented
  next room =>
    cases incremented
    rw [UInt16.lt_iff_toNat_lt, UInt16.toNat_add]
    exact Nat.lt_of_lt_of_eq (Nat.lt_succ_self _) (Nat.mod_eq_of_lt room).symm
  next => cases incremented

/-- Beginning keeps the attempt, or starts the pending one. -/
inductive Begins (state : WatcherPollingState) :
    WatcherPollingState × Except WatcherStateError WatcherReconciliationReason → Prop where
  | refused {after : WatcherPollingState} (error : WatcherStateError) (keeps : Keeps state after) :
      Begins state (after, .error error)
  | began {after : WatcherPollingState} {reason : WatcherReconciliationReason}
      (running : state.cancelled = false)
      (idle : state.active = false)
      (pending : state.pending = some reason)
      (consumed : after.pending = none ∧ after.active = true ∧ after.retryDeadline = none)
      (kept : after.cancelled = state.cancelled ∧ after.limits = state.limits ∧
          after.counters.reconciliationsCompleted = state.counters.reconciliationsCompleted ∧
          after.counters.retryableFailures = state.counters.retryableFailures)
      (started : after.counters.reconciliationsStarted.toNat =
          state.counters.reconciliationsStarted.toNat + 1)
      (counter :
        if reason = .periodic then
          after.retryAttempts = 0 ∧ after.retryExhausted = false
        else
          after.retryAttempts = state.retryAttempts ∧ after.retryExhausted = state.retryExhausted) :
      Begins state (after, .ok reason)

theorem beginPending_begins : Begins state state.beginPending := by
  rw [beginPending]
  split
  next => exact .refused _ (Keeps.refl state)
  next running =>
    split
    next => exact .refused _ (Keeps.refl state)
    next idle =>
      split
      next => exact .refused _ (Keeps.refl state)
      next reason pending =>
        dsimp only
        split
        next advanced =>
          refine
            .began (eq_false_of_ne_true running) (eq_false_of_ne_true idle) pending ⟨rfl, rfl, rfl⟩
              ⟨rfl, rfl, rfl, rfl⟩ (increment_snd advanced) ?_
          split
          · exact ⟨rfl, rfl⟩
          · exact ⟨rfl, rfl⟩
        next full =>
          refine .refused _ (Keeps.trans ?_ (forceFull_keeps (by simp)))
          refine .noted ?_ rfl rfl id
          rw [increment_fst_iff] at full
          rw [increment, if_neg full]

/-- The counters of a machine whose attempt has ended. -/
structure Counted (before after : WatcherStateCounters) : Prop where
  started : after.reconciliationsStarted = before.reconciliationsStarted
  ended : after.reconciliationsCompleted.toNat + after.retryableFailures.toNat ≤
      before.reconciliationsCompleted.toNat + before.retryableFailures.toNat + 1

/-- The machine without its attempt. -/
def ended (now : WatcherMonotonicTimestamp) (counters : WatcherStateCounters)
    (retryAttempts : WatcherRetryAttempt) (state : WatcherPollingState) : WatcherPollingState :=
  { state with lastTimestamp := now, active := false, counters, retryAttempts }

inductive Ends (now : WatcherMonotonicTimestamp) (state : WatcherPollingState) :
    WatcherPollingState × Except WatcherStateError WatcherCompletionOutcome → Prop where
  | refused {after : WatcherPollingState} {error : WatcherStateError} (keeps : Keeps state after)
      (order : error.isProtocol = !state.active) :
      Ends now state (after, .error error)
  | forced {counters : WatcherStateCounters} {attempts : WatcherRetryAttempt}
      {reason : WatcherReconciliationReason} {error : WatcherStateError}
      (active : state.active = true) (counted : Counted state.counters counters)
      (attempted : attempts = state.retryAttempts ∨
          state.retryAttempts < attempts ∧ attempts ≤ state.limits.maxRetries)
      (plain : ∀ attempt, reason ≠ .retry attempt) (order : error.isProtocol = false) :
      Ends now state (forceFull reason (state.ended now counters attempts), .error error)
  | completed {counters : WatcherStateCounters} {nextPeriodic : WatcherMonotonicTimestamp}
      (active : state.active = true) (counted : Counted state.counters counters) :
      Ends now state
        ({ state.ended now counters 0 with
            nextPeriodic, retryDeadline := none, retryExhausted := false },
          .ok .completed)
  | exhausted {counters : WatcherStateCounters} {attempt : WatcherRetryAttempt}
      (active : state.active = true) (counted : Counted state.counters counters)
      (more : state.retryAttempts < attempt) (exceeded : state.limits.maxRetries < attempt) :
      Ends now state
        ({ state.ended now counters attempt with
            retryDeadline := none, retryExhausted := true, fullReconciliationRequired := true },
          .ok .retryExhausted)
  | scheduled {counters : WatcherStateCounters} {attempt : WatcherRetryAttempt}
      {due : WatcherMonotonicTimestamp}
      (active : state.active = true) (counted : Counted state.counters counters)
      (more : state.retryAttempts < attempt) (within : attempt ≤ state.limits.maxRetries) :
      Ends now state
        ({ state.ended now counters attempt with retryDeadline := some (due, attempt) },
          .ok (.retryScheduled attempt due))
  | cancelled (active : state.active = true) :
      Ends now state (cancel (state.ended now state.counters state.retryAttempts), .ok .cancelled)

theorem complete_ends (now : WatcherMonotonicTimestamp) (completion : WatcherCompletion) :
    Ends now state (state.complete now completion) := by
  rw [complete]
  split
  next idle => exact .refused (Keeps.refl state) idle.symm
  next running =>
    have active : state.active = true := by simpa using running
    split
    · refine .refused noteClockRegression_keeps ?_
      rw [active]
      rfl
    · cases completion with
      | succeeded =>
        have counted : Counted state.counters
            { state.counters with
              reconciliationsCompleted :=
                (increment state.counters.reconciliationsCompleted).2 } := by
          have := increment_snd_le state.counters.reconciliationsCompleted
          exact ⟨rfl, by dsimp only; omega⟩
        simp only [completeSuccess]
        split
        · exact .forced active ⟨rfl, Nat.le_succ _⟩ (.inl rfl) (by simp) rfl
        · split
          · exact .completed active counted
          · exact .forced active counted (.inl rfl) (by simp) rfl
      | retryableFailure =>
        have counted : Counted state.counters
            { state.counters with
              retryableFailures := (increment state.counters.retryableFailures).2 } := by
          have := increment_snd_le state.counters.retryableFailures
          exact ⟨rfl, by dsimp only; omega⟩
        simp only [completeRetryableFailure]
        split
        · split
          · exact .forced active counted (.inl rfl) (by simp) rfl
          next attempt incremented =>
            have more := nextAttempt_lt incremented
            split
            next exceeded => exact .exhausted active counted more exceeded
            next within =>
              have within := UInt16.not_lt.mp within
              split
              · exact .forced active counted (.inr ⟨more, within⟩) (by simp) rfl
              · exact .scheduled active counted more within
        · exact .forced active counted (.inl rfl) (by simp) rfl
      | cancelled => exact .cancelled active

/-- A completion completes the attempt, cancels, or drops nothing that is owed. -/
theorem Ends.carries {now : WatcherMonotonicTimestamp}
    {result : WatcherPollingState × Except WatcherStateError WatcherCompletionOutcome}
    (ends : Ends now state result) :
    Carries state result.1 ∨
      (result.2 = .ok .completed ∧ Retains state result.1) ∨ result.1.cancelled = true := by
  cases ends with
  | refused keeps => exact .inl keeps.carries
  | forced =>
    refine .inl (Retains.forceFull ?_ _)
    exact ⟨id, id, id, id⟩
  | completed => exact .inr (.inl ⟨rfl, id, id, id, id⟩)
  | exhausted => exact .inl ⟨⟨id, id, id, fun _ => rfl⟩, fun _ => .inr rfl⟩
  | scheduled => exact .inl ⟨⟨id, id, id, id⟩, fun _ => .inl (.inr rfl)⟩
  | cancelled => exact .inr (.inr rfl)

theorem pendingOrBackpressured_pending (idle : state.active = false) :
    ∃ reason, state.pendingOrBackpressured.2 = .pending reason := by
  rw [pendingOrBackpressured]
  split
  · exact ⟨_, rfl⟩
  · rw [idle]
    exact ⟨.clockRegression, rfl⟩

variable {now : WatcherMonotonicTimestamp}

theorem pollIdle_pending (due : state.AllDue now) :
    ∃ reason, (state.pollIdle now).2 = .pending reason := by
  rw [pollIdle]
  split
  · rw [pollRetryExhausted, if_pos due.periodic]
    exact ⟨.periodic, rfl⟩
  · split
    next deadline attempt retry =>
      have elapsed : ¬ now < deadline := UInt64.not_lt.mpr (due.retry deadline attempt retry)
      rw [if_neg elapsed]
      exact ⟨.retry attempt, rfl⟩
    next =>
      split
      · exact ⟨.fullReconciliationRequired, rfl⟩
      -- The periodic deadline is stored too, so the debounce is not reached.
      · rw [if_pos due.periodic]
        exact ⟨.periodic, rfl⟩

/-- An idle machine has work pending once no stored deadline is ahead. -/
theorem poll_pending_of_allDue (running : state.cancelled = false)
    (idle : state.active = false) (due : state.AllDue now) :
    ∃ reason, (state.poll now).2 = .pending reason := by
  rw [poll, if_neg (by simp [running]), admitClock]
  by_cases regressed : now < state.lastTimestamp
  · rw [if_pos regressed]
    exact pendingOrBackpressured_pending idle
  · rw [if_neg regressed]
    dsimp only
    split
    · exact ⟨_, rfl⟩
    · rw [if_neg (by simp [idle])]
      exact pollIdle_pending ⟨due.periodic, due.dirty, due.retry⟩

end WatcherPollingState

/-- The call is an observation of dirty or mandatory-full state. -/
def WatcherOperation.Observes : WatcherOperation → Prop
  | .observeDirty _ => True
  | .observeFullReconciliationRequired _ => True
  | _ => False

/-- The call began a reconciliation. -/
def WatcherEvent.BeginsReconciliation (event : WatcherEvent) : Prop :=
  ∃ reason, event.outcome = .began (.ok reason)

/-- The call completed a reconciliation. -/
def WatcherEvent.CompletesReconciliation (event : WatcherEvent) : Prop :=
  event.outcome = .ended (.ok .completed)

section Runs

open WatcherPollingState

variable {before after : WatcherPollingState} {event : WatcherEvent}

theorem WatcherStep.applied {operation : WatcherOperation} {outcome : WatcherOutcome}
    (step : WatcherStep before ⟨operation, outcome⟩ after) :
    (before.apply operation).1 = after ∧ (before.apply operation).2 = outcome :=
  ⟨congrArg Prod.fst step, congrArg Prod.snd step⟩

/-- What one call can do to the work that is owed. -/
theorem watcherStep_cases (step : WatcherStep before event after) : Carries before after ∨
      (event.BeginsReconciliation ∧ before.cancelled = false ∧ after.active = true) ∨
      (event.CompletesReconciliation ∧ Retains before after) ∨
      after.cancelled = true := by
  obtain ⟨operation, outcome⟩ := event
  obtain ⟨rfl, rfl⟩ := step.applied
  cases operation with
  | poll now => exact .inl (poll_moves now).carries
  | observeDirty now => exact .inl (observe_moves now false).1.carries
  | observeFullReconciliationRequired now => exact .inl (observe_moves now true).1.carries
  | beginPending =>
    have begins := @beginPending_begins before
    simp only [WatcherPollingState.apply]
    generalize before.beginPending = result at begins
    cases begins with
    | refused _ keeps => exact .inl keeps.carries
    | began running _ _ consumed => exact .inr (.inl ⟨⟨_, rfl⟩, running, consumed.2.1⟩)
  | complete now completion =>
    rcases (@complete_ends before now completion).carries with
      carries | ⟨completed, retains⟩ | cancelled
    · exact .inl carries
    · exact .inr (.inr (.inl ⟨congrArg _ completed, retains⟩))
    · exact .inr (.inr (.inr cancelled))
  | cancel => exact .inr (.inr (.inr rfl))

/-- Until a reconciliation begins, unadmitted work stays. -/
theorem watcherStep_unadmitted (step : WatcherStep before event after)
    (owed : before.cancelled = true ∨ before.Unadmitted) :
    (after.cancelled = true ∨ after.Unadmitted) ∨
      (event.BeginsReconciliation ∧
        (after.cancelled = true ∨ after.Unadmitted ∨ after.InProgress)) := by
  rcases watcherStep_cases step with carries | ⟨began, _, active⟩ | ⟨_, retains⟩ | cancelled
  · exact .inl (owed.imp carries.cancelled carries.unadmitted)
  · exact .inr ⟨began, .inr (.inr (.inl active))⟩
  · exact .inl (owed.imp retains.cancelled retains.unadmitted)
  · exact .inl (.inl cancelled)

/-- Until a reconciliation completes, work stays in some form. -/
theorem watcherStep_owed (step : WatcherStep before event after)
    (owed : before.cancelled = true ∨ before.Unadmitted ∨ before.InProgress) :
    (after.cancelled = true ∨ after.Unadmitted ∨ after.InProgress) ∨
      event.CompletesReconciliation := by
  rcases watcherStep_cases step with carries | ⟨_, _, active⟩ | ⟨completes, _⟩ | cancelled
  · rcases owed with cancelled | unadmitted | inProgress
    · exact .inl (.inl (carries.cancelled cancelled))
    · exact .inl (.inr (.inl (carries.unadmitted unadmitted)))
    · rcases carries.inProgress inProgress with kept | full
      · exact .inl (.inr (.inr kept))
      · exact .inl (.inr (.inl (.inr (.inr full))))
  · exact .inl (.inr (.inr (.inl active)))
  · exact .inr completes
  · exact .inl (.inl cancelled)

theorem observation_unadmitted (step : WatcherStep before event after)
    (observes : event.operation.Observes) :
    after.cancelled = true ∨ after.Unadmitted := by
  obtain ⟨operation, outcome⟩ := event
  obtain ⟨rfl, rfl⟩ := step.applied
  cases operation with
  | observeDirty now => exact (observe_moves now false).2
  | observeFullReconciliationRequired now => exact (observe_moves now true).2
  | poll | beginPending | complete | cancel => exact observes.elim

/--
In a run from any state, after an observation and until a reconciliation begun
since has completed or the machine is cancelled, the machine is active, has
work pending, or holds a deadline or full-work flag that idle polling turns into
pending work once no stored deadline is ahead.
-/
theorem observation_not_lost {initial final : WatcherPollingState}
    {earlier later : List WatcherEvent} {observation : WatcherEvent}
    (run : Run WatcherStep initial (earlier ++ observation :: later) final)
    (observes : observation.operation.Observes)
    (unanswered : ¬ ClosedAfterOpened WatcherEvent.BeginsReconciliation
        WatcherEvent.CompletesReconciliation later)
    (running : final.cancelled = false) :
    final.active = true ∨
      final.pending.isSome ∨
      ((final.dirtyDeadline.isSome ∨
          final.retryDeadline.isSome ∨
          final.fullReconciliationRequired = true) ∧
        ∀ now, final.AllDue now → ∃ reason, (final.poll now).2 = .pending reason) := by
  obtain ⟨before, _, rest⟩ := run.split
  obtain _ | ⟨step, following⟩ := rest
  have owed :=
    following.held_until (fun _ _ _ step => watcherStep_unadmitted step)
      (fun _ _ _ step => watcherStep_owed step) unanswered
      (observation_unadmitted step observes)
  by_cases active : final.active = true
  · exact .inl active
  have idle : final.active = false := by simpa using active
  have polled : ∀ now, final.AllDue now → ∃ reason, (final.poll now).2 = .pending reason :=
    fun now due => poll_pending_of_allDue running idle due
  have unfinished : final.Unadmitted ∨ final.InProgress := by simpa [running] using owed
  rcases unfinished with (pending | dirty | full) | (contradiction | retry)
  · exact .inr (.inl pending)
  · exact .inr (.inr ⟨.inl dirty, polled⟩)
  · exact .inr (.inr ⟨.inr (.inr full), polled⟩)
  · exact .inl contradiction
  · exact .inr (.inr ⟨.inr (.inl retry), polled⟩)

/-- The default machine started at time zero. -/
def WatcherPollingState.sampleStarted : WatcherPollingState where
  limits := .default
  lastTimestamp := 0
  nextPeriodic := 30000
  dirtyDeadline := none
  retryDeadline := none
  pending := some .startup
  active := false
  fullReconciliationRequired := false
  retryAttempts := 0
  retryExhausted := false
  cancelled := false
  counters := ⟨0, 0, 0, 0, 0, 0⟩

/-- The startup attempt runs, input turns dirty, and the attempt completes. -/
def WatcherPollingState.sampleCalls : List WatcherOperation :=
  [.beginPending, .observeDirty 10, .complete 20 .succeeded]

/-- The completion of an attempt begun before the input answers nothing. -/
theorem observation_not_lost_of_startup : WatcherPollingState.new 0 .default = .ok sampleStarted ∧
      (let final := (sampleStarted.execute sampleCalls).2
      final.active = true ∨
        final.pending.isSome ∨
        ((final.dirtyDeadline.isSome ∨
            final.retryDeadline.isSome ∨
            final.fullReconciliationRequired = true) ∧
          ∀ now, final.AllDue now → ∃ reason, (final.poll now).2 = .pending reason)) := by
  refine ⟨rfl, ?_⟩
  refine
    @observation_not_lost sampleStarted _ [⟨.beginPending, .began (.ok .startup)⟩]
      [⟨.complete 20 .succeeded, .ended (.ok .completed)⟩]
      ⟨.observeDirty 10, .observed .backpressured⟩
      (sampleStarted.execute_run sampleCalls) trivial ?_ rfl
  rintro ⟨earlier, opening, between, closing, later, shape, -⟩
  have lengths := congrArg List.length shape
  simp at lengths
  omega

end Runs

end RepoWitness
