import RepoWitness.WatcherObligation

namespace RepoWitness

/-!
# The watcher keeps its lifecycle and its retry budget

What every reachable state of the polling machine satisfies: one reconciliation
at a time, a silent machine after cancellation, counters that account for every
started attempt, and retry numbers within the configured budget that grow until
the attempt counter is reset.
-/

namespace WatcherPollingState

variable {before middle after state : WatcherPollingState} {reason : WatcherReconciliationReason}

/-- A retry number that the machine may show: the current, within budget. -/
def RetryNumber (state : WatcherPollingState) (attempt : WatcherRetryAttempt) : Prop :=
  attempt = state.retryAttempts ∧ attempt ≠ 0 ∧ attempt ≤ state.limits.maxRetries

/-- The invariant of the machine's lifecycle. -/
structure Coherent (state : WatcherPollingState) : Prop where
  exclusive : state.active = true → state.pending = none
  unscheduled : state.active = true → state.retryDeadline = none
  silenced : state.cancelled = true → state.pending = none
  accounted : state.counters.reconciliationsCompleted.toNat +
        state.counters.retryableFailures.toNat +
        state.active.toNat ≤
      state.counters.reconciliationsStarted.toNat
  exhausted : state.retryExhausted = true → state.limits.maxRetries < state.retryAttempts
  scheduled : ∀ due attempt, state.retryDeadline = some (due, attempt) → state.RetryNumber attempt
  retrying : ∀ attempt, state.pending = some (.retry attempt) → state.RetryNumber attempt

theorem Coherent.idle
    (valid : state.Coherent) (isPending : state.pending = some reason) : state.active = false := by
  by_contra isActive
  have unclaimed := valid.exclusive (eq_true_of_ne_false isActive)
  rw [isPending] at unclaimed
  cases unclaimed

/-- A tame call keeps the invariant. -/
theorem Tame.coherent (tame : Tame before after) (valid : before.Coherent) : after.Coherent := by
  have number (attempt : WatcherRetryAttempt) (known : before.RetryNumber attempt) :
      after.RetryNumber attempt :=
    ⟨known.1.trans tame.attempts.symm, known.2.1, tame.limits ▸ known.2.2⟩
  refine ⟨?_, ?_, ?_, ?_, ?_, ?_, ?_⟩
  · intro active
    rw [tame.active] at active
    rcases tame.pending with same | ⟨idle, _⟩
    · exact same.trans (valid.exclusive active)
    · rw [active] at idle
      cases idle
  · intro active
    rw [tame.active] at active
    rcases tame.deadline with same | gone
    · exact same.trans (valid.unscheduled active)
    · exact gone
  · intro cancelled
    rw [tame.cancelled] at cancelled
    rcases tame.pending with same | ⟨_, running, _⟩
    · exact same.trans (valid.silenced cancelled)
    · rw [cancelled] at running
      cases running
  · rw [tame.completed, tame.failed, tame.active, tame.started]
    exact valid.accounted
  · intro isExhausted
    rw [tame.limits, tame.attempts]
    exact valid.exhausted (tame.exhausted ▸ isExhausted)
  · intro due attempt scheduled
    exact number attempt (valid.scheduled due attempt (tame.deadline_some scheduled))
  · intro attempt isPending
    rcases tame.pending with same | ⟨_, _, _, reason, isReason, retry⟩
    · exact number attempt (valid.retrying attempt (same ▸ isPending))
    · have isRetry : reason = .retry attempt := Option.some.inj (isReason.symm.trans isPending)
      obtain ⟨due, scheduled⟩ := retry attempt isRetry
      exact number attempt (valid.scheduled due attempt scheduled)

/-! ## Calls that start or end an attempt -/

theorem released_coherent (valid : state.Coherent) (isExhausted : state.retryExhausted = true) :
    state.released.Coherent := by
  have spent := valid.exhausted isExhausted
  -- An exhausted machine has no retry scheduled or pending.
  have none (attempt : WatcherRetryAttempt) (number : state.RetryNumber attempt) : False :=
    UInt16.lt_irrefl _ (UInt16.lt_of_lt_of_le spent (number.1 ▸ number.2.2))
  refine ⟨valid.exclusive, valid.unscheduled, valid.silenced, valid.accounted, ?_, ?_, ?_⟩
  · intro impossible
    cases impossible
  · intro due attempt scheduled
    exact (none attempt (valid.scheduled due attempt scheduled)).elim
  · intro attempt isPending
    exact (none attempt (valid.retrying attempt isPending)).elim

theorem Moves.coherent (moves : Moves before after) (valid : before.Coherent) : after.Coherent := by
  cases moves with
  | kept keeps => exact keeps.tame.coherent valid
  | released isExhausted keeps => exact keeps.tame.coherent (released_coherent valid isExhausted)

theorem beginPending_coherent (valid : state.Coherent) : state.beginPending.1.Coherent := by
  have begins := @beginPending_begins state
  generalize state.beginPending = result at begins
  cases begins with
  | refused error keeps => exact keeps.tame.coherent valid
  | @began after reason running idle pending consumed kept started counter =>
    obtain ⟨noPending, active, noDeadline⟩ := consumed
    obtain ⟨sameCancelled, sameLimits, sameCompleted, sameFailed⟩ := kept
    refine ⟨fun _ => noPending, fun _ => noDeadline, fun _ => noPending, ?_, ?_, ?_, ?_⟩
    · have accounted := valid.accounted
      rw [idle] at accounted
      rw [sameCompleted, sameFailed, active, started]
      simp only [Bool.toNat_false, Bool.toNat_true] at accounted ⊢
      omega
    · intro isExhausted
      split at counter
      · rw [counter.2] at isExhausted
        cases isExhausted
      · rw [counter.1, sameLimits]
        exact valid.exhausted (counter.2 ▸ isExhausted)
    · intro due attempt scheduled
      rw [noDeadline] at scheduled
      cases scheduled
    · intro attempt isRetry
      rw [noPending] at isRetry
      cases isRetry

/-- The end of an attempt leaves the invariant, whatever it counted. -/
theorem coherent_of_ended (valid : before.Coherent) (wasActive : before.active = true)
    (idle : after.active = false) (pending : after.pending = before.pending)
    (counted : Counted before.counters after.counters)
    (exhausted : after.retryExhausted = true → after.limits.maxRetries < after.retryAttempts)
    (scheduled :
      ∀ due attempt, after.retryDeadline = some (due, attempt) → after.RetryNumber attempt) :
    after.Coherent := by
  have pending := pending.trans (valid.exclusive wasActive)
  refine ⟨fun _ => pending, ?_, fun _ => pending, ?_, exhausted, scheduled, ?_⟩
  · intro active
    rw [idle] at active
    cases active
  · have accounted := valid.accounted
    have ended := counted.ended
    rw [wasActive] at accounted
    rw [idle, counted.started]
    simp only [Bool.toNat_false, Bool.toNat_true] at accounted ⊢
    omega
  · intro attempt isRetry
    rw [pending] at isRetry
    cases isRetry

/-- A budget with room for another attempt is not exhausted. -/
theorem Coherent.unspent (valid : state.Coherent) {attempt : WatcherRetryAttempt}
    (more : state.retryAttempts < attempt) (within : attempt ≤ state.limits.maxRetries) :
    ¬ state.retryExhausted = true := by
  intro spent
  have exceeded := UInt16.lt_trans (valid.exhausted spent) more
  exact UInt16.not_lt.mpr within exceeded

theorem cancel_coherent (valid : state.Coherent) : state.cancel.Coherent :=
  ⟨fun _ => rfl, fun _ => rfl, fun _ => rfl, valid.accounted, valid.exhausted, nofun, nofun⟩

variable {now : WatcherMonotonicTimestamp}
  {result : WatcherPollingState × Except WatcherStateError WatcherCompletionOutcome}

theorem Ends.coherent (ends : Ends now state result) (valid : state.Coherent) :
    result.1.Coherent := by
  cases ends with
  | refused keeps => exact keeps.tame.coherent valid
  | forced active counted attempted plain =>
    refine (forceFull_tame plain).coherent (coherent_of_ended valid active rfl rfl counted ?_ ?_)
    · intro spent
      rcases attempted with same | ⟨more, within⟩
      · exact same ▸ valid.exhausted spent
      · exact absurd spent (valid.unspent more within)
    · intro due attempt scheduled
      cases (valid.unscheduled active).symm.trans scheduled
  | completed active counted =>
    exact coherent_of_ended valid active rfl rfl counted (by rintro ⟨⟩) (by rintro _ _ ⟨⟩)
  | exhausted active counted _ exceeded =>
    exact coherent_of_ended valid active rfl rfl counted (fun _ => exceeded) (by rintro _ _ ⟨⟩)
  | scheduled active counted more within =>
    refine coherent_of_ended valid active rfl rfl counted
      (fun spent => absurd spent (valid.unspent more within)) ?_
    intro due other isScheduled
    cases isScheduled
    refine ⟨rfl, ?_, within⟩
    rintro rfl
    exact UInt16.not_lt_zero more
  | cancelled active =>
    refine cancel_coherent ?_
    exact coherent_of_ended valid active rfl rfl ⟨rfl, Nat.le_succ _⟩ valid.exhausted
      valid.scheduled

theorem new_coherent {startedAt : WatcherMonotonicTimestamp} {limits : WatcherScheduleLimits}
    (starts : new startedAt limits = .ok state) :
    state.Coherent := by
  rw [new] at starts
  split at starts
  · cases starts
  · cases starts
    exact ⟨nofun, nofun, nofun, Nat.le_refl 0, nofun, nofun, nofun⟩

/-! ## The attempt counter -/

/-- A retry is scheduled or pending. -/
def Armed (state : WatcherPollingState) : Prop :=
  (∃ due attempt, state.retryDeadline = some (due, attempt)) ∨
    ∃ attempt, state.pending = some (.retry attempt)

theorem not_armed (unscheduled : state.retryDeadline = none) (unclaimed : state.pending = none) :
    ¬ state.Armed := by
  rintro (⟨_, _, scheduled⟩ | ⟨_, isPending⟩)
  · rw [unscheduled] at scheduled
    cases scheduled
  · rw [unclaimed] at isPending
    cases isPending

/-- The attempt counter stays, and no retry is armed. -/
structure Steady (before after : WatcherPollingState) : Prop where
  limits : after.limits = before.limits
  attempts : after.retryAttempts = before.retryAttempts
  armed : after.Armed → before.Armed

theorem Steady.trans (first : Steady before middle) (second : Steady middle after) :
    Steady before after :=
  ⟨second.limits.trans first.limits,
    second.attempts.trans first.attempts, first.armed ∘ second.armed⟩

theorem Tame.steady (tame : Tame before after) : Steady before after := by
  refine ⟨tame.limits, tame.attempts, ?_⟩
  rintro (⟨due, attempt, scheduled⟩ | ⟨attempt, isPending⟩)
  · exact .inl ⟨due, attempt, tame.deadline_some scheduled⟩
  · rcases tame.pending with same | ⟨_, _, _, reason, isReason, retry⟩
    · exact .inr ⟨attempt, same ▸ isPending⟩
    · obtain ⟨due, scheduled⟩ := retry attempt (Option.some.inj (isReason.symm.trans isPending))
      exact .inl ⟨due, attempt, scheduled⟩

/-- How the end of an attempt moves the attempt counter. -/
theorem Ends.attempts (ends : Ends now state result) :
    result.1.limits = state.limits ∧
      (result.2 = .ok .completed ∨ Steady state result.1 ∨
        state.retryAttempts < result.1.retryAttempts) := by
  cases ends with
  | refused keeps => exact ⟨keeps.tame.limits, .inr (.inl keeps.tame.steady)⟩
  | forced _ _ attempted plain =>
    refine ⟨rfl, .inr ?_⟩
    rcases attempted with rfl | ⟨more, _⟩
    · refine .inl (Steady.trans ?_ (forceFull_tame plain).steady)
      exact ⟨rfl, rfl, id⟩
    · exact .inr more
  | completed => exact ⟨rfl, .inl rfl⟩
  | exhausted _ _ more => exact ⟨rfl, .inr (.inr more)⟩
  | scheduled _ _ more => exact ⟨rfl, .inr (.inr more)⟩
  | cancelled => exact ⟨rfl, .inr (.inl ⟨rfl, rfl, fun armed => (not_armed rfl rfl armed).elim⟩)⟩

/-! ## What a completion tells -/

/-- A completion agrees with the state it leaves, and is out of order only when none is active. -/
def Reports (before after : WatcherPollingState) :
    Except WatcherStateError WatcherCompletionOutcome → Prop
  | .ok (.retryScheduled attempt due) =>
    after.active = false ∧ after.retryDeadline = some (due, attempt)
  | .ok _ => after.active = false
  | .error error => error.isProtocol = !before.active

theorem Ends.reports (ends : Ends now state result) : Reports state result.1 result.2 := by
  cases ends with
  | refused _ order => exact order
  | forced active _ _ _ order =>
    rw [Reports, active]
    exact order
  | scheduled => exact ⟨rfl, rfl⟩
  | completed | exhausted | cancelled => rfl

/-! ## Calls with an admitted clock -/

/-- Polling a running machine with a clock that has not regressed. -/
theorem poll_admitted {now : WatcherMonotonicTimestamp} (running : state.cancelled = false)
    (monotone : state.lastTimestamp ≤ now) :
    state.poll now = match state.pending with
      | some reason => ({ state with lastTimestamp := now }, .pending reason)
      | none =>
        if state.active then
          ({ state with lastTimestamp := now }, .backpressured)
        else
          pollIdle now { state with lastTimestamp := now } := by
  cases pending : state.pending <;>
    simp only [poll, admitClock, pending, if_neg (Bool.eq_false_iff.mp running),
      if_neg (UInt64.not_lt.mpr monotone)]

/-- The machine once the pending attempt has begun. -/
def begun (reason : WatcherReconciliationReason)
    (state : WatcherPollingState) : WatcherPollingState :=
  { state with
    counters :=
      { state.counters with
        reconciliationsStarted := (increment state.counters.reconciliationsStarted).2 }
    pending := none
    active := true
    dirtyDeadline := none
    retryDeadline := none
    fullReconciliationRequired := false
    retryExhausted := if reason = .periodic then false else state.retryExhausted
    retryAttempts := if reason = .periodic then 0 else state.retryAttempts }

theorem beginPending_offered (running : state.cancelled = false) (idle : state.active = false)
    (pending : state.pending = some reason) :
    state.beginPending =
      if (increment state.counters.reconciliationsStarted).1 then
        (state.begun reason, .ok reason)
      else
        (state.beginPending.1, .error .counterOverflow) := by
  rw [beginPending, if_neg (Bool.eq_false_iff.mp running),
    if_neg (Bool.eq_false_iff.mp idle), pending]
  dsimp only
  split
  · rfl
  · rfl

/-- Pending work begins, unless the counter of started attempts is full. -/
theorem beginPending_of_pending (valid : state.Coherent)
    (isPending : state.pending = some reason) (running : state.cancelled = false) :
    state.beginPending.2 = .ok reason ∨
      state.counters.reconciliationsStarted.toNat + 1 = 2 ^ 64 := by
  rw [beginPending_offered running (valid.idle isPending) isPending]
  split
  · exact .inl rfl
  next full =>
    rw [increment_fst_iff] at full
    have bounded := state.counters.reconciliationsStarted.toNat_lt
    exact .inr (by omega)

/-! ## Retry numbers -/

/-- No retry up to a number can begin any more without a reset. -/
def Beyond (attempt : WatcherRetryAttempt) (state : WatcherPollingState) : Prop :=
  state.pending = some .periodic ∨ state.cancelled = true ∨
    (attempt ≤ state.retryAttempts ∧ (state.Armed → attempt < state.retryAttempts))

theorem Beyond.of_tame {attempt : WatcherRetryAttempt} (tame : Tame before after)
    (beyond : Beyond attempt before) :
    Beyond attempt after := by
  have steady := tame.steady
  rcases beyond with isPeriodic | isCancelled | ⟨reached, armed⟩
  · rcases tame.pending with same | ⟨_, _, unclaimed, _⟩
    · exact .inl (same.trans isPeriodic)
    · rw [isPeriodic] at unclaimed
      cases unclaimed
  · exact .inr (.inl (tame.cancelled.trans isCancelled))
  · rw [Beyond, steady.attempts]
    exact .inr (.inr ⟨reached, armed ∘ steady.armed⟩)

end WatcherPollingState

section Steps

open WatcherPollingState

variable {before after initial final : WatcherPollingState} {event : WatcherEvent}
  {events : List WatcherEvent}

theorem coherent_of_step (step : WatcherStep before event after) (valid : before.Coherent) :
    after.Coherent := by
  obtain ⟨operation, outcome⟩ := event
  obtain ⟨rfl, -⟩ := step.applied
  cases operation with
  | poll now => exact (poll_moves now).coherent valid
  | observeDirty now => exact (observe_moves now false).1.coherent valid
  | observeFullReconciliationRequired now => exact (observe_moves now true).1.coherent valid
  | beginPending => exact beginPending_coherent valid
  | complete now completion => exact (complete_ends now completion).coherent valid
  | cancel => exact cancel_coherent valid

theorem coherent_of_run (run : Run WatcherStep initial events final) (valid : initial.Coherent) :
    final.Coherent := run.invariant (fun _ _ _ => coherent_of_step) valid

theorem limits_of_step (step : WatcherStep before event after) : after.limits = before.limits := by
  obtain ⟨operation, outcome⟩ := event
  obtain ⟨rfl, -⟩ := step.applied
  cases operation with
  | poll now => exact (poll_moves now).same.1
  | observeDirty now => exact (observe_moves now false).1.same.1
  | observeFullReconciliationRequired now => exact (observe_moves now true).1.same.1
  | beginPending =>
    have begins := @beginPending_begins before
    show before.beginPending.1.limits = before.limits
    generalize before.beginPending = result at begins
    cases begins with
    | refused _ keeps => exact keeps.tame.limits
    | began _ _ _ _ kept => exact kept.2.1
  | complete now completion => exact (complete_ends now completion).attempts.1
  | cancel => rfl

/-- The attempt counter is reset: a success, input after exhaustion, or a
periodic attempt. -/
def WatcherEvent.ResetsAttempts (before : WatcherPollingState) (event : WatcherEvent) : Prop :=
  event.CompletesReconciliation ∨
    (event.operation.Observes ∧ before.retryExhausted = true) ∨
    event.outcome = .began (.ok .periodic)

/-- A call that does not reset the attempt counter. -/
def UnresetStep (before : WatcherPollingState) (event : WatcherEvent)
    (after : WatcherPollingState) : Prop :=
  WatcherStep before event after ∧ ¬ event.ResetsAttempts before

theorem cancelled_of_step (step : WatcherStep before event after)
    (isCancelled : before.cancelled = true) :
    after.cancelled = true := by
  rcases watcherStep_cases step with carries | ⟨_, running, _⟩ | ⟨_, retains⟩ | cancelled
  · exact carries.cancelled isCancelled
  · rw [running] at isCancelled
    cases isCancelled
  · exact retains.cancelled isCancelled
  · exact cancelled

variable {attempt : WatcherRetryAttempt}

/-- Without a reset the machine stays beyond a retry number. -/
theorem beyond_of_unresetStep (step : UnresetStep before event after) (valid : before.Coherent)
    (beyond : Beyond attempt before) :
    Beyond attempt after := by
  obtain ⟨taken, unreset⟩ := step
  rw [WatcherEvent.ResetsAttempts, not_or, not_or] at unreset
  obtain ⟨incomplete, unobserved, notPeriodic⟩ := unreset
  have keepsCancelled := cancelled_of_step taken
  obtain ⟨operation, outcome⟩ := event
  obtain ⟨rfl, rfl⟩ := taken.applied
  have observed {now : WatcherMonotonicTimestamp} {requireFull : Bool}
      (unspent : ¬ before.retryExhausted = true) :
      Beyond attempt (before.observe now requireFull).1 := by
    rcases (@observe_moves before now requireFull).1 with keeps | ⟨spent, _⟩
    · exact beyond.of_tame keeps.tame
    · exact absurd spent unspent
  cases operation with
  | poll now =>
    rcases (@poll_polls before now).keeps with keeps | ⟨_, isPeriodic, _⟩
    · exact beyond.of_tame keeps.tame
    · exact .inl isPeriodic
  | observeDirty now => exact observed fun spent => unobserved ⟨trivial, spent⟩
  | observeFullReconciliationRequired now => exact observed fun spent => unobserved ⟨trivial, spent⟩
  | beginPending =>
    have begins := @beginPending_begins before
    change Beyond attempt before.beginPending.1
    change WatcherOutcome.began before.beginPending.2 ≠ _ at notPeriodic
    generalize before.beginPending = result at begins notPeriodic
    cases begins with
    | refused _ keeps => exact beyond.of_tame keeps.tame
    | @began next reason running idle pending consumed kept started counter =>
      have plain : reason ≠ .periodic := fun isPeriodic => notPeriodic (by rw [isPeriodic])
      rw [if_neg plain] at counter
      rcases beyond with isPeriodic | isCancelled | ⟨reached, _⟩
      · exact absurd (Option.some.inj (pending.symm.trans isPeriodic)) plain
      · rw [running] at isCancelled
        cases isCancelled
      · refine .inr (.inr ⟨counter.1 ▸ reached, fun armed => ?_⟩)
        exact (not_armed consumed.2.2 consumed.1 armed).elim
  | complete now completion =>
    rcases beyond with isPeriodic | isCancelled | ⟨reached, armed⟩
    · refine .inl ?_
      change (before.complete now completion).1.pending = _
      rw [complete, valid.idle isPeriodic]
      exact isPeriodic
    · exact .inr (.inl (keepsCancelled isCancelled))
    · rcases (@complete_ends before now completion).attempts.2 with completed | steady | more
      · exact absurd (congrArg WatcherOutcome.ended completed) incomplete
      · change Beyond attempt (before.complete now completion).1
        rw [Beyond, steady.attempts]
        exact .inr (.inr ⟨reached, armed ∘ steady.armed⟩)
      · have above := UInt16.lt_of_le_of_lt reached more
        exact .inr (.inr ⟨UInt16.le_of_lt above, fun _ => above⟩)
  | cancel => exact .inr (.inl rfl)

/-- The caller is told of a retry number. -/
inductive WatcherOutcome.Shows (attempt : WatcherRetryAttempt) : WatcherOutcome → Prop where
  | pending : Shows attempt (.polled (.pending (.retry attempt)))
  | waiting (due : WatcherMonotonicTimestamp) : Shows attempt (.polled (.waitingRetry due attempt))
  | began : Shows attempt (.began (.ok (.retry attempt)))
  | scheduled (due : WatcherMonotonicTimestamp) :
      Shows attempt (.ended (.ok (.retryScheduled attempt due)))

theorem shows_within (step : WatcherStep before event after)
    (valid : before.Coherent) (shows : event.outcome.Shows attempt) :
    attempt ≠ 0 ∧ attempt ≤ before.limits.maxRetries := by
  have validAfter := coherent_of_step step valid
  have sameLimits := limits_of_step step
  have afterwards (number : after.RetryNumber attempt) :
      attempt ≠ 0 ∧ attempt ≤ before.limits.maxRetries :=
    ⟨number.2.1, sameLimits ▸ number.2.2⟩
  obtain ⟨operation, outcome⟩ := event
  obtain ⟨rfl, rfl⟩ := step.applied
  cases operation with
  | poll now =>
    have decides := (@poll_polls before now).decides
    change WatcherOutcome.Shows attempt (.polled (before.poll now).2) at shows
    generalize decided : (before.poll now).2 = decision at shows decides
    cases shows with
    | pending => exact afterwards (validAfter.retrying _ decides.1)
    | waiting due => exact afterwards (validAfter.scheduled _ _ decides.2)
  | observeDirty | observeFullReconciliationRequired | cancel => cases shows
  | beginPending =>
    have begins := @beginPending_begins before
    change WatcherOutcome.Shows attempt (.began before.beginPending.2) at shows
    generalize before.beginPending = result at begins shows
    cases begins with
    | refused => cases shows
    | began _ _ pending =>
      cases shows with
      | began =>
        have number := valid.retrying _ pending
        exact ⟨number.2.1, number.2.2⟩
  | complete now completion =>
    have reports := (@complete_ends before now completion).reports
    change WatcherOutcome.Shows attempt (.ended (before.complete now completion).2) at shows
    generalize ended : (before.complete now completion).2 = result at shows reports
    cases shows with
    | scheduled due => exact afterwards (validAfter.scheduled _ _ reports.2)

theorem shows_within_of_run
    (run : Run WatcherStep initial events final) (valid : initial.Coherent) (told : event ∈ events)
    (shows : event.outcome.Shows attempt) :
    attempt ≠ 0 ∧ attempt ≤ initial.limits.maxRetries := by
  induction run with
  | done state => cases told
  | more first later hypothesis =>
    rcases List.mem_cons.mp told with rfl | elsewhere
    · exact shows_within first valid shows
    · rw [← limits_of_step first]
      exact hypothesis (coherent_of_step first valid) elsewhere

theorem WatcherStep.begins {result : Except WatcherStateError WatcherReconciliationReason}
    (step : WatcherStep before ⟨.beginPending, .began result⟩ after) :
    Begins before (after, result) := by
  obtain ⟨rfl, began⟩ := step.applied
  cases began
  exact beginPending_begins

/-- A retry begun without a reset since an earlier one has a larger number. -/
theorem retry_increases {middle last : WatcherPollingState} {between : List WatcherEvent}
    {earlier later : WatcherRetryAttempt} (valid : before.Coherent)
    (first : WatcherStep before ⟨.beginPending, .began (.ok (.retry earlier))⟩ middle)
    (run : Run UnresetStep middle between last)
    (second : WatcherStep last ⟨.beginPending, .began (.ok (.retry later))⟩ after) :
    earlier < later := by
  have starts : Coherent middle ∧ Beyond earlier middle := by
    refine ⟨coherent_of_step first valid, ?_⟩
    cases first.begins with
    | began _ _ pending consumed _ _ counter =>
      rw [if_neg (by simp)] at counter
      have number := valid.retrying _ pending
      refine .inr (.inr ⟨?_, fun armed => (not_armed consumed.2.2 consumed.1 armed).elim⟩)
      rw [counter.1, ← number.1]
      exact UInt16.le_refl _
  obtain ⟨lastValid, beyond⟩ :=
    @Run.invariant _ _ _ _ _ _ (fun state => Coherent state ∧ Beyond earlier state)
      (fun _ _ _ step kept =>
        ⟨coherent_of_step step.1 kept.1, beyond_of_unresetStep step kept.1 kept.2⟩)
      run starts
  cases second.begins with
  | began running _ pending =>
    rcases beyond with isPeriodic | isCancelled | ⟨_, armed⟩
    · rw [pending] at isPeriodic
      cases isPeriodic
    · rw [running] at isCancelled
      cases isCancelled
    · rw [(lastValid.retrying _ pending).1]
      exact armed (.inr ⟨later, pending⟩)

/-- What every reachable state of the machine satisfies. -/
structure WatcherLifecycle (limits : WatcherScheduleLimits) (events : List WatcherEvent)
    (state : WatcherPollingState) : Prop where
  exclusive : ¬ (state.pending.isSome = true ∧ state.active = true)
  silenced : state.cancelled = true → state.pending = none
  accounted : state.counters.reconciliationsCompleted.toNat +
        state.counters.retryableFailures.toNat ≤
      state.counters.reconciliationsStarted.toNat
  budget : ∀ event ∈ events, ∀ attempt, event.outcome.Shows attempt →
      1 ≤ attempt.toNat ∧ attempt ≤ limits.maxRetries
  increasing : ∀ middle between last after earlier later,
      WatcherStep state ⟨.beginPending, .began (.ok (.retry earlier))⟩ middle →
        Run UnresetStep middle between last →
          WatcherStep last ⟨.beginPending, .began (.ok (.retry later))⟩ after → earlier < later
  admitted : ∀ now reason, (state.poll now).2 = .pending reason →
      (state.poll now).1.beginPending.2 = .ok reason ∨
        (state.poll now).1.counters.reconciliationsStarted.toNat + 1 = 2 ^ 64

/-- The lifecycle holds in every run of the machine. -/
theorem lifecycle_of_run {startedAt : WatcherMonotonicTimestamp} {limits : WatcherScheduleLimits}
    (starts : WatcherPollingState.new startedAt limits = .ok initial)
    (run : Run WatcherStep initial events final) :
    WatcherLifecycle limits events final := by
  have initially := new_coherent starts
  have valid := coherent_of_run run initially
  have sameLimits : initial.limits = limits := by
    rw [WatcherPollingState.new] at starts
    split at starts
    · cases starts
    · cases starts
      rfl
  refine ⟨?_, valid.silenced, ?_, ?_, ?_, ?_⟩
  · rintro ⟨isPending, isActive⟩
    rw [valid.exclusive isActive] at isPending
    cases isPending
  · exact Nat.le_trans (Nat.le_add_right _ _) valid.accounted
  · intro event told attempt shows
    obtain ⟨positive, within⟩ := shows_within_of_run run initially told shows
    refine ⟨?_, sameLimits ▸ within⟩
    rw [Nat.one_le_iff_ne_zero]
    exact fun zero => positive (UInt16.toNat_inj.mp zero)
  · intro middle between last after earlier later first between second
    exact retry_increases valid first between second
  · intro now reason decided
    have decides := (@poll_polls final now).decides
    rw [decided] at decides
    have polled : Coherent (final.poll now).1 := by
      have step :
          WatcherStep final ⟨.poll now, .polled (final.poll now).2⟩ (final.poll now).1 := rfl
      exact coherent_of_step step valid
    exact beginPending_of_pending polled decides.1 decides.2

def WatcherPollingState.retriedStartup : List WatcherOperation :=
  [.beginPending, .complete 5 .retryableFailure, .poll 1005, .beginPending]

theorem lifecycle_of_retriedStartup : WatcherPollingState.new 0 .default = .ok sampleStarted ∧
      ⟨.beginPending, .began (.ok (.retry 1))⟩ ∈
        (sampleStarted.execute retriedStartup).1 ∧
      WatcherLifecycle .default (sampleStarted.execute retriedStartup).1
        (sampleStarted.execute retriedStartup).2 := by
  refine ⟨rfl, List.mem_of_getLast? (by rfl), ?_⟩
  exact
    @lifecycle_of_run sampleStarted _ _ 0 .default rfl (sampleStarted.execute_run retriedStartup)

end Steps

end RepoWitness
