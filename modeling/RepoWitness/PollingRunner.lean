import RepoWitness.WatcherHints
import RepoWitness.WatcherRetryBudget

namespace RepoWitness

/-!
# The polling runner

`run_with_environment` drives one supervisor: every turn reads the clock, drains
observations, polls the schedule and its own source-poll deadline, and then
attempts a reconciliation, waits or returns.  The environment is arbitrary: it
answers clock readings, observations, attempts and the cancellation flag from a
state of its own.
-/

def DEFAULT_WATCHER_POLL_INTERVAL_MS : UInt64 := 2000

structure PollingReconciliationRequest where
  startedAt : WatcherMonotonicTimestamp
  scheduleLimits : WatcherScheduleLimits
  hintLimits : WatcherHintLimits
  configuredPollInterval : Option WatcherDurationMillis
  nativeEventHints : Bool

/-- The source-poll interval, no longer than the periodic one. -/
def PollingReconciliationRequest.effectivePollInterval
    (request : PollingReconciliationRequest) : WatcherDurationMillis :=
  if request.nativeEventHints then
    request.scheduleLimits.periodic
  else
    min (request.configuredPollInterval.getD DEFAULT_WATCHER_POLL_INTERVAL_MS)
      request.scheduleLimits.periodic

/-- One bounded polling supervisor for a single source slot. -/
structure PollingReconciliationSupervisor where
  effectivePollInterval : WatcherDurationMillis
  hints : WatcherHintAccumulator
  state : WatcherPollingState

/-- The admission needs complete work. -/
def WatcherHintAdmission.requiresFullReconciliation : WatcherHintAdmission → Bool
  | .pathCountOverflow
  | .pathByteOverflow
  | .unsupportedEvent
  | .counterOverflow
  | .fullReconciliationAlreadyRequired => true
  | .retained | .duplicate => false

namespace PollingReconciliationSupervisor

/-- Start with one mandatory complete startup reconciliation pending. -/
def start (request : PollingReconciliationRequest) :
    Except WatcherStateError PollingReconciliationSupervisor :=
  match WatcherPollingState.new request.startedAt request.scheduleLimits with
  | .error error => .error error
  | .ok state =>
    .ok
      { effectivePollInterval := request.effectivePollInterval, hints := .new request.hintLimits
        state := state }

def observeHint (path : RepositoryPath) (now : WatcherMonotonicTimestamp)
    (supervisor : PollingReconciliationSupervisor) :
    PollingReconciliationSupervisor × WatcherHintAdmission × WatcherObservationOutcome :=
  match supervisor.hints.recordHint path with
  | (hints, admission) =>
    match
      if admission.requiresFullReconciliation then
        supervisor.state.observeFullReconciliationRequired now
      else
        supervisor.state.observeDirty now with
    | (state, scheduling) =>
      ({ supervisor with hints := hints, state := state }, admission, scheduling)

/-- Record a backend event that is no safe path hint. -/
def observeUnsupportedEvent (now : WatcherMonotonicTimestamp)
    (supervisor : PollingReconciliationSupervisor) :
    PollingReconciliationSupervisor × WatcherHintAdmission × WatcherObservationOutcome :=
  match supervisor.hints.recordUnsupportedEvent with
  | (hints, admission) =>
    match supervisor.state.observeFullReconciliationRequired now with
    | (state, scheduling) =>
      ({ supervisor with hints := hints, state := state }, admission, scheduling)

def poll (now : WatcherMonotonicTimestamp) (supervisor : PollingReconciliationSupervisor) :
    PollingReconciliationSupervisor × WatcherPollDecision :=
  match supervisor.state.poll now with
  | (state, decision) => ({ supervisor with state := state }, decision)

/-- Admit one complete reconciliation and discard the hints. -/
def beginPending (supervisor : PollingReconciliationSupervisor) :
    PollingReconciliationSupervisor × Except WatcherStateError WatcherReconciliationReason :=
  match supervisor.state.beginPending with
  | (state, .error error) => ({ supervisor with state := state }, .error error)
  | (state, .ok reason) =>
    ({ supervisor with
        state := state
        hints := supervisor.hints.drain.1 },
      .ok reason)

def complete (now : WatcherMonotonicTimestamp) (completion : WatcherCompletion)
    (supervisor : PollingReconciliationSupervisor) :
    PollingReconciliationSupervisor × Except WatcherStateError WatcherCompletionOutcome :=
  match supervisor.state.complete now completion with
  | (state, outcome) => ({ supervisor with state := state }, outcome)

/-- Permanently stop admission and discard the hints. -/
def cancel (supervisor : PollingReconciliationSupervisor) : PollingReconciliationSupervisor :=
  { supervisor with
    state := supervisor.state.cancel
    hints := supervisor.hints.drain.1 }

end PollingReconciliationSupervisor

inductive RunnerObservation where
  | path (path : RepositoryPath)
  | unsupported

inductive PollingAttempt (Success Failure : Type) where
  | succeeded (success : Success)
  | retryable (failure : Failure)
  | fatal (failure : Failure)
  | cancelled

/--
What the runner asks of its surroundings.  Reading the cancellation flag is a
question of its own: others set it at any time.
-/
structure PollingRunnerEnvironment (World Success Failure ControlError : Type) where
  now : World → Except ControlError WatcherMonotonicTimestamp × World
  waitUntil : WatcherMonotonicTimestamp → World → Except ControlError Unit × World
  nextObservation : World → Option RunnerObservation × World
  reconcile :
    WatcherReconciliationReason → Option WatcherDurationMillis → World →
      PollingAttempt Success Failure × World
  cancelled : World → Bool × World

inductive PollingRunError (Failure ControlError : Type) where
  | state (error : WatcherStateError)
  | control (error : ControlError)
  | fatal (failure : Failure)

inductive PollingRunnerExit where
  | cancelled
  | deadlineExceeded
  deriving DecidableEq

structure PollingRunnerReport (Success : Type) where
  exit : PollingRunnerExit
  stateCounters : WatcherStateCounters
  hintCounters : WatcherHintCounters
  lastSuccess : Option Success

/-- The supervisor and the `PollingLoopState` beside it. -/
structure PollingLoop (Success : Type) where
  supervisor : PollingReconciliationSupervisor
  nextSourcePoll : WatcherMonotonicTimestamp
  lastSuccess : Option Success

def MAX_OBSERVATIONS_PER_TURN : Nat := 1024

namespace PollingRunner

variable {World Success Failure ControlError : Type}

def runnerReport (exit : PollingRunnerExit)
    (loop : PollingLoop Success) : PollingRunnerReport Success where
  exit := exit
  stateCounters := loop.supervisor.state.counters
  hintCounters := loop.supervisor.hints.counters
  lastSuccess := loop.lastSuccess

/-- Take observations, and count a flood of them as one unsupported event. -/
def drainObservations (environment : PollingRunnerEnvironment World Success Failure ControlError)
    (now : WatcherMonotonicTimestamp) :
    Nat → PollingReconciliationSupervisor → World → PollingReconciliationSupervisor × World
  | 0, supervisor, world => ((supervisor.observeUnsupportedEvent now).1, world)
  | remaining + 1, supervisor, world =>
    match environment.nextObservation world with
    | (none, world) => (supervisor, world)
    | (some (.path path), world) =>
      drainObservations environment now remaining (supervisor.observeHint path now).1 world
    | (some .unsupported, world) =>
      drainObservations environment now remaining
        (supervisor.observeUnsupportedEvent now).1 world

def sourcePollIsAdmissible : WatcherPollDecision → Bool
  | .debouncing _ | .waitingPeriodic _ | .retryExhausted => true
  | _ => false

def minDeadline (timestamp : WatcherMonotonicTimestamp)
    (overall : Option WatcherMonotonicTimestamp) :
    WatcherMonotonicTimestamp :=
  match overall with
  | none => timestamp
  | some overall => min timestamp overall

def earliestDeadline (scheduled sourcePoll : WatcherMonotonicTimestamp)
    (overall : Option WatcherMonotonicTimestamp) :
    WatcherMonotonicTimestamp := minDeadline (min scheduled sourcePoll) overall

def addMillis (timestamp : WatcherMonotonicTimestamp) (duration : WatcherDurationMillis) :
    Except (PollingRunError Failure ControlError)
      WatcherMonotonicTimestamp :=
  match WatcherMonotonicTimestamp.checkedAdd timestamp duration with
  | none => .error (.state .timestampOverflow)
  | some later => .ok later

/-- Poll the schedule, and the source when its own deadline has passed. -/
def pollSchedule (now : WatcherMonotonicTimestamp) (loop : PollingLoop Success) :
    Except (PollingRunError Failure ControlError) (WatcherPollDecision × PollingLoop Success) :=
  match loop.supervisor.poll now with
  | (supervisor, decision) =>
    if sourcePollIsAdmissible decision && decide (loop.nextSourcePoll ≤ now) then
      match addMillis now (supervisor.observeUnsupportedEvent now).1.effectivePollInterval with
      | .error error => .error error
      | .ok nextSourcePoll =>
        match (supervisor.observeUnsupportedEvent now).1.poll now with
        | (supervisor, decision) =>
          .ok (decision,
              { loop with
                supervisor := supervisor
                nextSourcePoll := nextSourcePoll })
    else
      .ok (decision, { loop with supervisor := supervisor })

def completeAttempt (environment : PollingRunnerEnvironment World Success Failure ControlError)
    (finished : WatcherMonotonicTimestamp) (attempt : PollingAttempt Success Failure)
    (loop : PollingLoop Success) (world : World) :
    Except (PollingRunError Failure ControlError)
      (Option PollingRunnerExit × PollingLoop Success × World) :=
  match attempt with
  | .succeeded success =>
    match loop.supervisor.complete finished .succeeded with
    | (_, .error error) => .error (.state error)
    | (supervisor, .ok _) =>
      match environment.cancelled world with
      | (true, world) =>
        .ok (some .cancelled,
            { loop with
              supervisor := supervisor.cancel
              lastSuccess := some success },
            world)
      | (false, world) =>
        .ok (none,
            { loop with
              supervisor := supervisor
              lastSuccess := some success },
            world)
  | .retryable _ =>
    match environment.cancelled world with
    | (true, world) =>
      match loop.supervisor.complete finished .cancelled with
      | (_, .error error) => .error (.state error)
      | (supervisor, .ok _) =>
        .ok (some .cancelled, { loop with supervisor := supervisor }, world)
    | (false, world) =>
      match loop.supervisor.complete finished .retryableFailure with
      | (_, .error error) => .error (.state error)
      | (supervisor, .ok _) => .ok (none, { loop with supervisor := supervisor }, world)
  | .fatal failure => .error (.fatal failure)
  | .cancelled =>
    match loop.supervisor.complete finished .cancelled with
    | (_, .error error) => .error (.state error)
    | (supervisor, .ok _) => .ok (some .cancelled, { loop with supervisor := supervisor }, world)

/-- `saturating_sub` of the turn's clock reading from the deadline. -/
def remainingTime (deadline started : WatcherMonotonicTimestamp) : WatcherDurationMillis :=
  if started ≤ deadline then deadline - started else 0

def runPendingAttempt (environment : PollingRunnerEnvironment World Success Failure ControlError)
    (deadline : Option WatcherMonotonicTimestamp) (started : WatcherMonotonicTimestamp)
    (loop : PollingLoop Success) (world : World) :
    Except (PollingRunError Failure ControlError)
      (Option PollingRunnerExit × PollingLoop Success × World) :=
  match loop.supervisor.beginPending with
  | (_, .error error) => .error (.state error)
  | (supervisor, .ok reason) =>
    match environment.reconcile reason (deadline.map (remainingTime · started)) world with
    | (attempt, world) =>
      match environment.now world with
      | (.error error, _) => .error (.control error)
      | (.ok finished, world) =>
        match
          drainObservations environment finished
            MAX_OBSERVATIONS_PER_TURN supervisor world with
        | (supervisor, world) =>
          match addMillis finished supervisor.effectivePollInterval with
          | .error error => .error error
          | .ok nextSourcePoll =>
            completeAttempt environment finished attempt
              { loop with
                supervisor := supervisor
                nextSourcePoll := nextSourcePoll }
              world

/-- How one turn of the loop ends. -/
inductive TurnEnd (World Success Failure ControlError : Type) where
  | returned (result : Except (PollingRunError Failure ControlError) (PollingRunnerReport Success))
  | again (loop : PollingLoop Success) (world : World)

/-- What one turn of the loop did. -/
structure Turn (World Success Failure ControlError : Type) where
  reading : Option WatcherMonotonicTimestamp
  decision : Option WatcherPollDecision
  attempted : Option WatcherReconciliationReason
  waitedUntil : Option WatcherMonotonicTimestamp
  ending : TurnEnd World Success Failure ControlError

/-- Wait, and go on with the next turn. -/
def waitTurn (environment : PollingRunnerEnvironment World Success Failure ControlError)
    (now : WatcherMonotonicTimestamp) (decision : WatcherPollDecision)
    (wakeup : WatcherMonotonicTimestamp) (loop : PollingLoop Success) (world : World) :
    Turn World Success Failure ControlError where
  reading := some now
  decision := some decision
  attempted := none
  waitedUntil := some wakeup
  ending :=
    match environment.waitUntil wakeup world with
    | (.error error, _) => .returned (.error (.control error))
    | (.ok (), world) => .again loop world

/-- Act on the decision of the turn. -/
def actOn (environment : PollingRunnerEnvironment World Success Failure ControlError)
    (deadline : Option WatcherMonotonicTimestamp) (now : WatcherMonotonicTimestamp)
    (decision : WatcherPollDecision) (loop : PollingLoop Success) (world : World) :
    Turn World Success Failure ControlError :=
  match decision with
  | .pending _ =>
    { reading := some now, decision := some decision
      attempted := loop.supervisor.beginPending.2.toOption
      waitedUntil := none
      ending :=
        match runPendingAttempt environment deadline now loop world with
        | .error error => .returned (.error error)
        | .ok (some exit, loop, _) => .returned (.ok (runnerReport exit loop))
        | .ok (none, loop, world) => .again loop world }
  | .debouncing scheduled =>
    waitTurn environment now decision
      (earliestDeadline scheduled loop.nextSourcePoll deadline) loop
      world
  | .waitingPeriodic scheduled =>
    waitTurn environment now decision
      (earliestDeadline scheduled loop.nextSourcePoll deadline) loop
      world
  | .waitingRetry due _ => waitTurn environment now decision (minDeadline due deadline) loop world
  | .retryExhausted =>
    waitTurn environment now decision (minDeadline loop.nextSourcePoll deadline) loop world
  | .cancelled =>
    { reading := some now, decision := some decision, attempted := none, waitedUntil := none
      ending := .returned (.ok (runnerReport .cancelled loop)) }
  | .backpressured =>
    { reading := some now, decision := some decision, attempted := none, waitedUntil := none
      ending := .returned (.error (.state .reconciliationAlreadyActive)) }

/-- One turn of the loop. -/
def turn (environment : PollingRunnerEnvironment World Success Failure ControlError)
    (deadline : Option WatcherMonotonicTimestamp) (loop : PollingLoop Success) (world : World) :
    Turn World Success Failure ControlError :=
  match environment.now world with
  | (.error error, _) => ⟨none, none, none, none, .returned (.error (.control error))⟩
  | (.ok now, world) =>
    match environment.cancelled world with
    | (true, _) =>
      ⟨some now, none, none, none, .returned (.ok (runnerReport .cancelled
              { loop with
                supervisor := loop.supervisor.cancel }))⟩
    | (false, world) =>
      if deadline.any (· ≤ now) then
        ⟨some now, none, none, none, .returned (.ok
              (runnerReport .deadlineExceeded
                { loop with
                  supervisor := loop.supervisor.cancel }))⟩
      else
        match
          drainObservations environment now MAX_OBSERVATIONS_PER_TURN loop.supervisor world with
        | (supervisor, world) =>
          match pollSchedule now { loop with supervisor := supervisor } with
          | .error error => ⟨some now, none, none, none, .returned (.error error)⟩
          | .ok (decision, loop) => actOn environment deadline now decision loop world

/-- The first turns of the loop. -/
def turns (environment : PollingRunnerEnvironment World Success Failure ControlError)
    (deadline : Option WatcherMonotonicTimestamp) :
    Nat → PollingLoop Success → World → List (Turn World Success Failure ControlError)
  | 0, _, _ => []
  | count + 1, loop, world =>
    let current := turn environment deadline loop world
    match current.ending with
    | .returned _ => [current]
    | .again loop world => current :: turns environment deadline count loop world

/-- The first turns of a run, or what it returns before its loop. -/
def runWithEnvironment (supervisor : PollingReconciliationSupervisor)
    (deadline : Option WatcherMonotonicTimestamp)
    (environment : PollingRunnerEnvironment World Success Failure ControlError) (world : World)
    (count : Nat) :
    Except (PollingRunError Failure ControlError)
      (List (Turn World Success Failure ControlError)) :=
  match environment.now world with
  | (.error error, _) => .error (.control error)
  | (.ok now, world) =>
    match addMillis now supervisor.effectivePollInterval with
    | .error error => .error error
    | .ok nextSourcePoll =>
      .ok (turns environment deadline count ⟨supervisor, nextSourcePoll, none⟩ world)

end PollingRunner

/-! ## The supervisor's state between turns -/

namespace WatcherPollingState

variable {state : WatcherPollingState} {now : WatcherMonotonicTimestamp}

/-- A decision that leaves the source poll admissible leaves nothing pending. -/
theorem poll_unclaimed
    (admissible : PollingRunner.sourcePollIsAdmissible (state.poll now).2 = true) :
    (state.poll now).1.cancelled = false ∧
      (state.poll now).1.pending = none ∧
      (state.poll now).1.lastTimestamp = now := by
  by_cases running : state.cancelled = false
  · by_cases monotone : state.lastTimestamp ≤ now
    · revert admissible
      rw [poll_admitted running monotone]
      split
      · rintro ⟨⟩
      next unclaimed =>
      split
      · rintro ⟨⟩
      rw [pollIdle, pollRetryExhausted]
      dsimp only
      split
      · split
        · rintro ⟨⟩
        · exact fun _ => ⟨running, unclaimed, rfl⟩
      split
      · split
        · rintro ⟨⟩
        · rintro ⟨⟩
      split
      · rintro ⟨⟩
      split
      · rintro ⟨⟩
      split
      · split
        · rintro ⟨⟩
        · exact fun _ => ⟨running, unclaimed, rfl⟩
      · exact fun _ => ⟨running, unclaimed, rfl⟩
    · revert admissible
      rw [poll, if_neg (Bool.eq_false_iff.mp running), admitClock,
        if_pos (UInt64.not_le.mp monotone)]
      dsimp only
      rw [pendingOrBackpressured]
      split
      · rintro ⟨⟩
      split
      · rintro ⟨⟩
      · rintro ⟨⟩
  · rw [poll, if_pos (eq_true_of_ne_false running)] at admissible
    cases admissible

/-- Mandatory full work is pending at once on an idle machine. -/
theorem poll_after_observation (running : state.cancelled = false) (idle : state.active = false)
    (unclaimed : state.pending = none) (current : state.lastTimestamp = now) :
    (((state.observe now true).1.poll now)).2 = .pending .fullReconciliationRequired := by
  have same : ¬ now < state.lastTimestamp := by
    rw [current]
    exact UInt64.lt_irrefl now
  have observed :
      (state.observe now true).1.pending = some .fullReconciliationRequired ∧
        (state.observe now true).1.cancelled = false ∧
        (state.observe now true).1.lastTimestamp = now := by
    by_cases exhausted : state.retryExhausted = true
    all_goals
      simp [observe, running, admitClock, same, exhausted, observationAdmission, idle, unclaimed]
  obtain ⟨claimed, stillRunning, clock⟩ := observed
  rw [poll_admitted stillRunning (by rw [clock]; exact UInt64.le_refl now), claimed]

end WatcherPollingState

namespace PollingReconciliationSupervisor

open WatcherPollingState

/-- The supervisor's state follows the lifecycle, with or without an attempt. -/
structure Follows (active : Bool) (supervisor : PollingReconciliationSupervisor) : Prop where
  coherent : supervisor.state.Coherent
  active : supervisor.state.active = active

variable {supervisor : PollingReconciliationSupervisor} {now : WatcherMonotonicTimestamp}
  {active : Bool}

theorem Follows.moves {after : PollingReconciliationSupervisor}
    (follows : supervisor.Follows active) (moves : Moves supervisor.state after.state) :
    after.Follows active :=
  ⟨moves.coherent follows.coherent, moves.same.2.trans follows.active⟩

theorem observeHint_follows {path : RepositoryPath} (follows : supervisor.Follows active) :
    (supervisor.observeHint path now).1.Follows active := by
  rw [observeHint]
  dsimp only
  split
  · exact follows.moves (observe_moves now true).1
  · exact follows.moves (observe_moves now false).1

theorem observeUnsupportedEvent_follows (follows : supervisor.Follows active) :
    (supervisor.observeUnsupportedEvent now).1.Follows active :=
  follows.moves (observe_moves now true).1

theorem poll_follows (follows : supervisor.Follows active) :
    (supervisor.poll now).1.Follows active :=
  follows.moves (poll_moves now)

theorem poll_decided (now : WatcherMonotonicTimestamp)
    (supervisor : PollingReconciliationSupervisor) :
    Decides now (supervisor.poll now).1.state (supervisor.poll now).2 := (poll_polls now).decides

theorem start_follows {request : PollingReconciliationRequest}
    (started : start request = .ok supervisor) :
    supervisor.Follows false := by
  rw [start] at started
  split at started
  · cases started
  next state made =>
    cases started
    refine ⟨new_coherent made, ?_⟩
    rw [new] at made
    split at made
    · cases made
    · cases made
      rfl

/-- Beginning what a poll left pending fails only for its counter. -/
theorem beginPending_follows {reason : WatcherReconciliationReason}
    (follows : supervisor.Follows false) (claimed : supervisor.state.pending = some reason)
    (running : supervisor.state.cancelled = false) :
    (∃ after, supervisor.beginPending = (after, .ok reason) ∧
        after.Follows true) ∨
      ∃ after, supervisor.beginPending = (after, .error .counterOverflow) := by
  have coherent := beginPending_coherent follows.coherent
  have begins := beginPending_offered running follows.active claimed
  rw [beginPending]
  split at begins
  · rw [begins] at coherent ⊢
    exact .inl ⟨_, rfl, coherent, rfl⟩
  · rw [begins]
    exact .inr ⟨_, rfl⟩

variable {completion : WatcherCompletion} {after : PollingReconciliationSupervisor}

theorem complete_follows {outcome : WatcherCompletionOutcome} (follows : supervisor.Follows active)
    (ended : supervisor.complete now completion = (after, .ok outcome)) :
    after.Follows false := by
  obtain ⟨rfl, same⟩ := Prod.mk.inj ended
  have reports := (@complete_ends supervisor.state now completion).reports
  refine ⟨(complete_ends now completion).coherent follows.coherent, ?_⟩
  change (supervisor.state.complete now completion).2 = _ at same
  rw [same] at reports
  cases outcome with
  | retryScheduled attempt due => exact reports.1
  | completed | retryExhausted | cancelled => exact reports

theorem complete_not_protocol {error : WatcherStateError} (follows : supervisor.Follows true)
    (refused : supervisor.complete now completion = (after, .error error)) :
    error.isProtocol = false := by
  obtain ⟨-, same⟩ := Prod.mk.inj refused
  have reports := (@complete_ends supervisor.state now completion).reports
  change (supervisor.state.complete now completion).2 = _ at same
  rw [same, Reports, follows.active] at reports
  exact reports

end PollingReconciliationSupervisor

namespace PollingRunner

open PollingReconciliationSupervisor WatcherPollingState

variable {World Success Failure ControlError : Type}
  {environment : PollingRunnerEnvironment World Success Failure ControlError}
  {deadline : Option WatcherMonotonicTimestamp} {now : WatcherMonotonicTimestamp}
  {loop next : PollingLoop Success} {world after : World}

theorem drainObservations_follows {active : Bool} {supervisor : PollingReconciliationSupervisor}
    (remaining : Nat) (follows : supervisor.Follows active) :
    (drainObservations environment now remaining supervisor world).1.Follows active := by
  induction remaining generalizing supervisor world with
  | zero => exact observeUnsupportedEvent_follows follows
  | succ remaining hypothesis =>
    rw [drainObservations]
    split
    · exact follows
    · exact hypothesis (observeHint_follows follows)
    · exact hypothesis (observeUnsupportedEvent_follows follows)

variable {timestamp : WatcherMonotonicTimestamp} {error : PollingRunError Failure ControlError}
  {decision : WatcherPollDecision} {finished : WatcherMonotonicTimestamp}
  {attempt : PollingAttempt Success Failure}

theorem addMillis_error {duration : WatcherDurationMillis}
    (refused : addMillis timestamp duration = .error error) :
    error = .state .timestampOverflow := by
  rw [addMillis] at refused
  split at refused
  · cases refused
    rfl
  · cases refused

/-! ## Decisions of a turn -/

theorem lt_of_not_due {due : WatcherMonotonicTimestamp}
    (admissible : sourcePollIsAdmissible decision = true)
    (early : ¬ (sourcePollIsAdmissible decision && decide (due ≤ now)) = true) :
    now < due := by
  rw [admissible, Bool.true_and, decide_eq_true_eq] at early
  exact UInt64.not_le.mp early

/-- What holds when a turn acts on a decision. -/
def Acts (now : WatcherMonotonicTimestamp) (loop : PollingLoop Success) : WatcherPollDecision → Prop
  | .pending reason =>
    loop.supervisor.state.pending = some reason ∧ loop.supervisor.state.cancelled = false
  | .debouncing scheduled | .waitingPeriodic scheduled =>
    now < scheduled ∧ now < loop.nextSourcePoll
  | .waitingRetry due _ => now < due
  | .retryExhausted => now < loop.nextSourcePoll
  | .cancelled => True
  | .backpressured => False

theorem pollSchedule_acts (follows : loop.supervisor.Follows false)
    (polled : pollSchedule now loop =
        (.ok (decision, next) : Except (PollingRunError Failure ControlError) _)) :
    next.supervisor.Follows false ∧ Acts now next decision := by
  rw [pollSchedule] at polled
  dsimp only at polled
  split at polled
  next due =>
    rw [Bool.and_eq_true] at due
    split at polled
    · cases polled
    · cases polled
      refine ⟨poll_follows (observeUnsupportedEvent_follows (poll_follows follows)), ?_⟩
      obtain ⟨running, unclaimed, current⟩ := poll_unclaimed due.1
      have pending :
          ((((loop.supervisor.poll now).1.observeUnsupportedEvent now).1.poll now)).2 =
            .pending .fullReconciliationRequired :=
        poll_after_observation running ((poll_moves now).same.2.trans follows.active) unclaimed
          current
      have decides := poll_decided now ((loop.supervisor.poll now).1.observeUnsupportedEvent now).1
      rw [pending] at decides ⊢
      exact decides
  next early =>
    cases polled
    refine ⟨poll_follows follows, ?_⟩
    have decides := poll_decided now loop.supervisor
    have idle : (loop.supervisor.poll now).1.state.active = false := (poll_follows follows).active
    revert early decides
    cases (loop.supervisor.poll now).2 with
    | pending reason => exact fun _ decides => decides
    | debouncing scheduled | waitingPeriodic scheduled =>
      exact fun early decides => ⟨decides.1, lt_of_not_due rfl early⟩
    | waitingRetry due attempt => exact fun _ decides => decides.1
    | retryExhausted => exact fun early _ => lt_of_not_due rfl early
    | cancelled => exact fun _ _ => trivial
    | backpressured =>
      intro _ active
      rw [Decides, idle] at active
      cases active

theorem pollSchedule_error (refused : pollSchedule now loop = .error error) :
    error = .state .timestampOverflow := by
  rw [pollSchedule] at refused
  dsimp only at refused
  split at refused
  · split at refused
    next added =>
      cases refused
      exact addMillis_error added
    next => cases refused
  · cases refused

/-! ## Attempts -/

/-- The error is none of calls made out of order. -/
def InOrder : PollingRunError Failure ControlError → Prop
  | .state error => error.isProtocol = false
  | .control _ | .fatal _ => True

def AttemptSound : Except (PollingRunError Failure ControlError)
      (Option PollingRunnerExit × PollingLoop Success × World) → Prop
  | .error error => InOrder error
  | .ok (none, next, _) => next.supervisor.Follows false
  | .ok (some _, _, _) => True

theorem completeAttempt_sound (follows : loop.supervisor.Follows true) :
    AttemptSound (completeAttempt environment finished attempt loop world) := by
  cases attempt with
  | succeeded success =>
    rw [completeAttempt]
    split
    next ended => exact complete_not_protocol follows ended
    next ended =>
      split
      · trivial
      · exact complete_follows follows ended
  | retryable failure =>
    rw [completeAttempt]
    split
    · split
      next ended => exact complete_not_protocol follows ended
      next => trivial
    · split
      next ended => exact complete_not_protocol follows ended
      next ended => exact complete_follows follows ended
  | fatal failure => trivial
  | cancelled =>
    rw [completeAttempt]
    split
    next ended => exact complete_not_protocol follows ended
    next => trivial

theorem runPendingAttempt_sound {reason : WatcherReconciliationReason}
    (follows : loop.supervisor.Follows false) (acts : Acts now loop (.pending reason)) :
    AttemptSound (runPendingAttempt environment deadline now loop world) ∧
      (loop.supervisor.beginPending.2 = .ok reason ∨
        ∃ error, runPendingAttempt environment deadline now loop world = .error error) := by
  rw [runPendingAttempt]
  rcases beginPending_follows follows acts.1 acts.2 with
    ⟨begun, begins, attempting⟩ | ⟨refused, begins⟩
  · rw [begins]
    refine ⟨?_, .inl rfl⟩
    dsimp only
    split
    · trivial
    next finished world same =>
      have drained : (drainObservations environment finished
            MAX_OBSERVATIONS_PER_TURN begun world).1.Follows true :=
        drainObservations_follows _ attempting
      split
      next added =>
        rw [addMillis_error added]
        rfl
      next => exact completeAttempt_sound drained
  · rw [begins]
    exact ⟨rfl, .inr ⟨_, rfl⟩⟩

/-! ## Turns -/

/--
A turn never finds its own attempt active, returns no error of calls out of
order, waits only for a time after its clock reading, and goes on only after an
attempt or a wait.
-/
structure Turn.Sound (turn : Turn World Success Failure ControlError) : Prop where
  unblocked : turn.decision ≠ some .backpressured
  ordered : ∀ error, turn.ending = .returned (.error (.state error)) → error.isProtocol = false
  future : ∀ wakeup, turn.waitedUntil = some wakeup → ∃ now, turn.reading = some now ∧ now < wakeup
  progress :
    ∀ loop world, turn.ending = .again loop world → turn.attempted.isSome ∨ turn.waitedUntil.isSome

/-- Besides, a turn that goes on leaves no attempt active. -/
structure Turn.Settled (turn : Turn World Success Failure ControlError) : Prop
    extends turn.Sound where
  onward : ∀ loop world, turn.ending = .again loop world → loop.supervisor.Follows false

theorem lt_min_of_lt {first second : WatcherMonotonicTimestamp} (beforeFirst : now < first)
    (beforeSecond : now < second) :
    now < min first second := by
  rw [UInt64.min_def]
  split
  · exact beforeFirst
  · exact beforeSecond

theorem lt_minDeadline (ahead : ¬ deadline.any (· ≤ now) = true) (later : now < timestamp) :
    now < minDeadline timestamp deadline := by
  cases deadline with
  | none => exact later
  | some overall =>
    have before : now < overall := by simpa using ahead
    exact lt_min_of_lt later before

theorem lt_earliestDeadline {scheduled sourcePoll : WatcherMonotonicTimestamp}
    (ahead : ¬ deadline.any (· ≤ now) = true) (later : now < scheduled ∧ now < sourcePoll) :
    now < earliestDeadline scheduled sourcePoll deadline :=
  lt_minDeadline ahead (lt_min_of_lt later.1 later.2)

def Turn.EndsWell (turn : Turn World Success Failure ControlError) : Prop :=
  match turn.ending with
  | .returned (.error error) => InOrder error
  | .returned (.ok _) => True
  | .again loop _ =>
    loop.supervisor.Follows false ∧ (turn.attempted.isSome ∨ turn.waitedUntil.isSome)

theorem Turn.EndsWell.settled {turn : Turn World Success Failure ControlError}
    (endsWell : turn.EndsWell) (unblocked : turn.decision ≠ some .backpressured)
    (future :
      ∀ wakeup, turn.waitedUntil = some wakeup → ∃ now, turn.reading = some now ∧ now < wakeup) :
    turn.Settled := by
  refine ⟨⟨unblocked, fun error same => ?_, future, fun loop world same => ?_⟩,
    fun loop world same => ?_⟩
  all_goals rw [EndsWell, same] at endsWell
  · exact endsWell
  · exact endsWell.2
  · exact endsWell.1

/-- A turn that ends before it acts. -/
theorem settled_of_returned {reading : Option WatcherMonotonicTimestamp}
    {decision : Option WatcherPollDecision}
    {result : Except (PollingRunError Failure ControlError) (PollingRunnerReport Success)}
    (unblocked : decision ≠ some .backpressured)
    (ordered : ∀ error, result = .error error → InOrder error) :
    (Turn.mk reading decision none none (.returned result) :
      Turn World Success Failure ControlError).Settled := by
  refine Turn.EndsWell.settled ?_ unblocked nofun
  cases result with
  | error error => exact ordered error rfl
  | ok report => trivial

theorem waitTurn_settled {wakeup : WatcherMonotonicTimestamp}
    (follows : loop.supervisor.Follows false) (unblocked : decision ≠ .backpressured)
    (later : now < wakeup) :
    (waitTurn environment now decision wakeup loop world).Settled := by
  refine Turn.EndsWell.settled ?_ (fun same => unblocked (Option.some.inj same)) ?_
  · rw [Turn.EndsWell, waitTurn]
    dsimp only
    split
    next same =>
      split at same
      · cases same
        trivial
      · cases same
    · trivial
    next same =>
      split at same
      · cases same
      · cases same
        exact ⟨follows, .inr rfl⟩
  · intro other same
    cases same
    exact ⟨now, rfl, later⟩

theorem actOn_settled (follows : loop.supervisor.Follows false)
    (ahead : ¬ deadline.any (· ≤ now) = true) (acts : Acts now loop decision) :
    (actOn environment deadline now decision loop world).Settled := by
  cases decision with
  | pending reason =>
    obtain ⟨sound, begins⟩ :=
      @runPendingAttempt_sound _ _ _ _ environment deadline _ _ world _ follows acts
    refine Turn.EndsWell.settled ?_ nofun nofun
    rw [Turn.EndsWell, actOn]
    dsimp only
    generalize runPendingAttempt environment deadline now loop world = result at sound begins
    rcases result with error | ⟨_ | exit, next, after⟩
    · exact sound
    · refine ⟨sound, .inl ?_⟩
      rcases begins with begins | ⟨error, impossible⟩
      · rw [begins]
        rfl
      · cases impossible
    · trivial
  | debouncing scheduled | waitingPeriodic scheduled =>
    exact waitTurn_settled follows nofun (lt_earliestDeadline ahead acts)
  | waitingRetry due attempt => exact waitTurn_settled follows nofun (lt_minDeadline ahead acts)
  | retryExhausted => exact waitTurn_settled follows nofun (lt_minDeadline ahead acts)
  | cancelled => exact settled_of_returned nofun fun _ same => nomatch same
  | backpressured => exact acts.elim

theorem turn_settled (follows : loop.supervisor.Follows false) :
    (turn environment deadline loop world).Settled := by
  rw [turn]
  split
  · refine settled_of_returned nofun fun error same => ?_
    cases same
    trivial
  next now world same =>
  split
  · exact settled_of_returned nofun fun _ same => nomatch same
  next world flag =>
  split
  · exact settled_of_returned nofun fun _ same => nomatch same
  next ahead =>
  have drained : (drainObservations environment now MAX_OBSERVATIONS_PER_TURN
        loop.supervisor world).1.Follows false :=
    drainObservations_follows _ follows
  dsimp only
  split
  next polled =>
    refine settled_of_returned nofun fun error same => ?_
    cases same
    rw [pollSchedule_error polled]
    rfl
  next decision next polled =>
    obtain ⟨following, acts⟩ := pollSchedule_acts drained polled
    exact actOn_settled following ahead acts

theorem turns_sound {count : Nat} (follows : loop.supervisor.Follows false) :
    ∀ turn ∈ turns environment deadline count loop world, turn.Sound := by
  induction count generalizing loop world with
  | zero => exact fun _ member => nomatch member
  | succ count hypothesis =>
    have settled := @turn_settled _ _ _ _ environment deadline loop world follows
    intro current member
    rw [turns] at member
    split at member
    · rw [List.mem_singleton] at member
      subst member
      exact settled.toSound
    next again =>
      rcases List.mem_cons.mp member with rfl | later
      · exact settled.toSound
      · exact hypothesis (settled.onward _ _ again) current later

/--
In every environment a run from a started supervisor makes only sound turns,
and what it returns before its loop is no error of calls out of order.
-/
theorem runWithEnvironment_sound {request : PollingReconciliationRequest}
    {supervisor : PollingReconciliationSupervisor} (started : start request = .ok supervisor)
    (deadline : Option WatcherMonotonicTimestamp)
    (environment : PollingRunnerEnvironment World Success Failure ControlError) (world : World)
    (count : Nat) :
    (∀ error, runWithEnvironment supervisor deadline environment world count =
          .error error → InOrder error) ∧
      ∀ turns, runWithEnvironment supervisor deadline environment world count =
          .ok turns → ∀ turn ∈ turns, turn.Sound := by
  rw [runWithEnvironment]
  split
  · refine ⟨fun error same => ?_, fun _ same => nomatch same⟩
    cases same
    trivial
  · split
    next added =>
      refine ⟨fun error same => ?_, fun _ same => nomatch same⟩
      cases same
      rw [addMillis_error added]
      rfl
    next =>
      refine ⟨(fun _ same => nomatch same), fun turns same => ?_⟩
      cases same
      exact turns_sound (start_follows started)

/-- A clock that a wait sets, and attempts that succeed at once. -/
def sampleEnvironment : PollingRunnerEnvironment WatcherMonotonicTimestamp Unit Unit Unit where
  now world := (.ok world, world)
  waitUntil wakeup _ := (.ok (), wakeup)
  nextObservation world := (none, world)
  reconcile _ _ world := (.succeeded (), world)
  cancelled world := (false, world)

def sampleRequest : PollingReconciliationRequest where
  startedAt := 0
  scheduleLimits := .default
  hintLimits := .default
  configuredPollInterval := none
  nativeEventHints := false

/-- The startup attempt, a wait, the source poll and a wait. -/
theorem runWithEnvironment_sound_of_startup : ∃ supervisor turns,
      start sampleRequest = .ok supervisor ∧
        runWithEnvironment supervisor none sampleEnvironment 0 4 = .ok turns ∧
        turns.map (·.waitedUntil) =
          [none, some 2000, none, some 4000] ∧
        ∀ turn ∈ turns, turn.Sound := by
  refine ⟨_, _, rfl, rfl, by decide, ?_⟩
  have sound := @runWithEnvironment_sound _ _ _ _ sampleRequest _ rfl none sampleEnvironment 0 4
  exact sound.2 _ rfl

end PollingRunner

end RepoWitness
