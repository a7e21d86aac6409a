import RepoWitness.TransitionRun

namespace RepoWitness

/-!
# The watcher polling state machine

`WatcherPollingState` admits one reconciliation at a time from dirty hints,
mandatory full work, retries and a periodic deadline.  Timestamps are injected
and may regress; every deadline and counter is a fixed-width integer whose
overflow forces complete work.  An operation returns the next state and what
its caller sees.
-/

abbrev WatcherMonotonicTimestamp := UInt64

abbrev WatcherDurationMillis := UInt64

abbrev WatcherRetryAttempt := UInt16

namespace WatcherMonotonicTimestamp

def checkedAdd (timestamp : WatcherMonotonicTimestamp) (duration : WatcherDurationMillis) :
    Option WatcherMonotonicTimestamp :=
  if timestamp.toNat + duration.toNat < 2 ^ 64 then
    some (timestamp + duration)
  else
    none

end WatcherMonotonicTimestamp

def MAX_WATCHER_DEBOUNCE_MS : UInt64 := 60000

def MAX_WATCHER_PERIODIC_MS : UInt64 := 86400000

def MAX_WATCHER_RETRY_DELAY_MS : UInt64 := 3600000

def MAX_WATCHER_RETRIES : UInt16 := 64

/-- Validated timing and retry policy. -/
structure WatcherScheduleLimits where
  debounce : WatcherDurationMillis
  periodic : WatcherDurationMillis
  retryDelay : WatcherDurationMillis
  maxRetries : UInt16
  debounceValid : debounce ≠ 0 ∧ debounce ≤ MAX_WATCHER_DEBOUNCE_MS
  periodicValid : periodic ≠ 0 ∧ periodic ≤ MAX_WATCHER_PERIODIC_MS
  retryDelayValid : retryDelay ≠ 0 ∧ retryDelay ≤ MAX_WATCHER_RETRY_DELAY_MS
  maxRetriesValid : maxRetries ≠ 0 ∧ maxRetries ≤ MAX_WATCHER_RETRIES
  deriving DecidableEq

namespace WatcherScheduleLimits

/-- Conservative default polling policy. -/
def default : WatcherScheduleLimits where
  debounce := 250
  periodic := 30000
  retryDelay := 1000
  maxRetries := 5
  debounceValid := by decide
  periodicValid := by decide
  retryDelayValid := by decide
  maxRetriesValid := by decide

end WatcherScheduleLimits

/-- Why one complete reconciliation is pending. -/
inductive WatcherReconciliationReason where
  | startup
  | dirtyAfterDebounce
  | periodic
  | fullReconciliationRequired
  | retry (attempt : WatcherRetryAttempt)
  | clockRegression
  | timestampOverflow
  | counterOverflow
  deriving DecidableEq

/-- One deterministic polling decision. -/
inductive WatcherPollDecision where
  | pending (reason : WatcherReconciliationReason)
  | debouncing (deadline : WatcherMonotonicTimestamp)
  | waitingPeriodic (due : WatcherMonotonicTimestamp)
  | waitingRetry (due : WatcherMonotonicTimestamp) (attempt : WatcherRetryAttempt)
  | backpressured
  | retryExhausted
  | cancelled
  deriving DecidableEq

inductive WatcherObservationOutcome where
  | dirtyDebouncing
  | fullReconciliationPending
  | coalesced
  | backpressured
  | clockRegression
  | timestampOverflow
  | counterOverflow
  | cancelled
  deriving DecidableEq

/-- Result supplied when one active reconciliation ends. -/
inductive WatcherCompletion where
  | succeeded
  | retryableFailure
  | cancelled
  deriving DecidableEq

/-- State transition after one active reconciliation ends. -/
inductive WatcherCompletionOutcome where
  | completed
  | retryScheduled (attempt : WatcherRetryAttempt) (due : WatcherMonotonicTimestamp)
  | retryExhausted
  | cancelled
  deriving DecidableEq

/-- Cumulative polling-state counters. -/
structure WatcherStateCounters where
  reconciliationsStarted : UInt64
  reconciliationsCompleted : UInt64
  retryableFailures : UInt64
  coalescedObservations : UInt64
  backpressureObservations : UInt64
  clockRegressions : UInt64
  deriving DecidableEq

/-- Invalid lifecycle or exhausted fixed-width state. -/
inductive WatcherStateError where
  | timestampOverflow
  | counterOverflow
  | noPendingReconciliation
  | reconciliationAlreadyActive
  | noActiveReconciliation
  | clockRegression
  | cancelled
  deriving DecidableEq

/-- Pure single-slot polling and reconciliation admission state. -/
structure WatcherPollingState where
  limits : WatcherScheduleLimits
  lastTimestamp : WatcherMonotonicTimestamp
  nextPeriodic : WatcherMonotonicTimestamp
  dirtyDeadline : Option WatcherMonotonicTimestamp
  retryDeadline : Option (WatcherMonotonicTimestamp × WatcherRetryAttempt)
  pending : Option WatcherReconciliationReason
  active : Bool
  fullReconciliationRequired : Bool
  retryAttempts : UInt16
  retryExhausted : Bool
  cancelled : Bool
  counters : WatcherStateCounters
  deriving DecidableEq

/-- Saturating increment, and whether the counter advanced. -/
def increment (counter : UInt64) : Bool × UInt64 :=
  if counter.toNat + 1 < 2 ^ 64 then
    (true, counter + 1)
  else
    (false, counter)

namespace WatcherPollingState

def new (startedAt : WatcherMonotonicTimestamp) (limits : WatcherScheduleLimits) :
    Except WatcherStateError WatcherPollingState :=
  match WatcherMonotonicTimestamp.checkedAdd startedAt limits.periodic with
  | none => .error .timestampOverflow
  | some nextPeriodic =>
    .ok
      { limits := limits, lastTimestamp := startedAt, nextPeriodic := nextPeriodic
        dirtyDeadline := none
        retryDeadline := none
        pending := some .startup
        active := false
        fullReconciliationRequired := false
        retryAttempts := 0
        retryExhausted := false
        cancelled := false
        counters := ⟨0, 0, 0, 0, 0, 0⟩ }

/-- Require complete work, pending at once when the machine is idle. -/
def forceFull (reason : WatcherReconciliationReason)
    (state : WatcherPollingState) : WatcherPollingState :=
  { state with
    fullReconciliationRequired := true
    retryDeadline := none
    pending :=
      if !state.active && state.pending.isNone && !state.cancelled then
        some reason
      else
        state.pending }

def noteClockRegression (state : WatcherPollingState) : WatcherPollingState :=
  match increment state.counters.clockRegressions with
  | (advanced, clockRegressions) =>
    forceFull (if advanced then .clockRegression else .counterOverflow)
      { state with
        counters :=
          { state.counters with
            clockRegressions := clockRegressions } }

def admitClock (now : WatcherMonotonicTimestamp)
    (state : WatcherPollingState) : Bool × WatcherPollingState :=
  if now < state.lastTimestamp then
    (false, state.noteClockRegression)
  else
    (true, { state with lastTimestamp := now })

def makePending (reason : WatcherReconciliationReason) (state : WatcherPollingState) :
    WatcherPollingState × WatcherPollDecision :=
  ({ state with pending := some reason }, .pending reason)

def pendingOrBackpressured (state : WatcherPollingState) :
    WatcherPollingState × WatcherPollDecision :=
  match state.pending with
  | some reason => (state, .pending reason)
  | none =>
    if state.active then
      (state, .backpressured)
    else
      state.makePending .clockRegression

def pollRetryExhausted (now : WatcherMonotonicTimestamp) (state : WatcherPollingState) :
    WatcherPollingState × WatcherPollDecision :=
  if state.nextPeriodic ≤ now then
    makePending .periodic { state with retryExhausted := false, retryAttempts := 0 }
  else
    (state, .retryExhausted)

/-- Polling an idle machine whose clock was admitted. -/
def pollIdle (now : WatcherMonotonicTimestamp) (state : WatcherPollingState) :
    WatcherPollingState × WatcherPollDecision :=
  if state.retryExhausted then
    state.pollRetryExhausted now
  else
    match state.retryDeadline with
    | some (due, attempt) =>
      if now < due then
        (state, .waitingRetry due attempt)
      else
        state.makePending (.retry attempt)
    | none =>
      if state.fullReconciliationRequired then
        state.makePending .fullReconciliationRequired
      else if state.nextPeriodic ≤ now then
        state.makePending .periodic
      else
        match state.dirtyDeadline with
        | some deadline =>
          if deadline ≤ now then
            state.makePending .dirtyAfterDebounce
          else
            (state, .debouncing deadline)
        | none => (state, .waitingPeriodic state.nextPeriodic)

def poll (now : WatcherMonotonicTimestamp) (state : WatcherPollingState) :
    WatcherPollingState × WatcherPollDecision :=
  if state.cancelled then
    (state, .cancelled)
  else
    match state.admitClock now with
    | (false, regressed) => regressed.pendingOrBackpressured
    | (true, admitted) =>
      match admitted.pending with
      | some reason => (admitted, .pending reason)
      | none =>
        if admitted.active then
          (admitted, .backpressured)
        else
          admitted.pollIdle now

/-- Count an observation behind active or pending work, or make it pending. -/
def observationAdmission (requireFull : Bool) (state : WatcherPollingState) :
    WatcherPollingState × WatcherObservationOutcome :=
  if state.active then
    match increment state.counters.backpressureObservations with
    | (advanced, backpressureObservations) =>
      let counted :=
        { state with
          counters :=
            { state.counters with
              backpressureObservations := backpressureObservations } }
      if advanced then
        (counted, .backpressured)
      else
        (counted.forceFull .counterOverflow, .counterOverflow)
  else if state.pending.isSome then
    match increment state.counters.coalescedObservations with
    | (advanced, coalescedObservations) =>
      let counted :=
        { state with
          counters :=
            { state.counters with
              coalescedObservations := coalescedObservations } }
      if advanced then
        (counted, .coalesced)
      else
        (counted.forceFull .counterOverflow, .counterOverflow)
  else if requireFull then
    ({ state with pending := some .fullReconciliationRequired }, .fullReconciliationPending)
  else
    (state, .dirtyDebouncing)

def observe (now : WatcherMonotonicTimestamp) (requireFull : Bool) (state : WatcherPollingState) :
    WatcherPollingState × WatcherObservationOutcome :=
  if state.cancelled then
    (state, .cancelled)
  else
    match state.admitClock now with
    | (false, regressed) => (regressed, .clockRegression)
    | (true, admitted) =>
      let released :=
        if admitted.retryExhausted then
          { admitted with retryExhausted := false, retryAttempts := 0 }
        else
          admitted
      if requireFull then
        observationAdmission true
          { released with
            fullReconciliationRequired := true
            retryDeadline := none }
      else
        match WatcherMonotonicTimestamp.checkedAdd now released.limits.debounce with
        | none => (released.forceFull .timestampOverflow, .timestampOverflow)
        | some deadline =>
          observationAdmission released.fullReconciliationRequired
            { released with dirtyDeadline := some deadline }

def observeDirty (now : WatcherMonotonicTimestamp) (state : WatcherPollingState) :
    WatcherPollingState × WatcherObservationOutcome := state.observe now false

def observeFullReconciliationRequired (now : WatcherMonotonicTimestamp)
    (state : WatcherPollingState) :
    WatcherPollingState × WatcherObservationOutcome := state.observe now true

/-- Consume the pending decision and mark one reconciliation active. -/
def beginPending (state : WatcherPollingState) :
    WatcherPollingState × Except WatcherStateError WatcherReconciliationReason :=
  if state.cancelled then
    (state, .error .cancelled)
  else if state.active then
    (state, .error .reconciliationAlreadyActive)
  else
    match state.pending with
    | none => (state, .error .noPendingReconciliation)
    | some reason =>
      match increment state.counters.reconciliationsStarted with
      | (advanced, reconciliationsStarted) =>
        let counted :=
          { state with
            counters :=
              { state.counters with
                reconciliationsStarted := reconciliationsStarted } }
        if advanced then
          ({ counted with
              pending := none
              active := true
              dirtyDeadline := none
              retryDeadline := none
              fullReconciliationRequired := false
              retryExhausted :=
                if reason = .periodic then
                  false
                else
                  counted.retryExhausted
              retryAttempts :=
                if reason = .periodic then
                  0
                else
                  counted.retryAttempts },
            .ok reason)
        else
          (counted.forceFull .counterOverflow, .error .counterOverflow)

/-- Permanently stop new polling and reconciliation admission. -/
def cancel (state : WatcherPollingState) : WatcherPollingState :=
  { state with
    cancelled := true
    pending := none
    dirtyDeadline := none
    retryDeadline := none
    fullReconciliationRequired := false }

def completeSuccess (now : WatcherMonotonicTimestamp) (state : WatcherPollingState) :
    WatcherPollingState × Except WatcherStateError WatcherCompletionOutcome :=
  match WatcherMonotonicTimestamp.checkedAdd now state.limits.periodic with
  | none => (forceFull .timestampOverflow { state with active := false }, .error .timestampOverflow)
  | some nextPeriodic =>
    match increment state.counters.reconciliationsCompleted with
    | (advanced, reconciliationsCompleted) =>
      let counted :=
        { state with
          active := false
          counters :=
            { state.counters with
              reconciliationsCompleted := reconciliationsCompleted } }
      if advanced then
        ({ counted with
            nextPeriodic := nextPeriodic
            retryDeadline := none
            retryAttempts := 0
            retryExhausted := false },
          .ok .completed)
      else
        (counted.forceFull .counterOverflow, .error .counterOverflow)

/-- `u16::checked_add(1)`. -/
def nextAttempt (attempts : UInt16) : Option UInt16 :=
  if attempts.toNat + 1 < 2 ^ 16 then
    some (attempts + 1)
  else
    none

def completeRetryableFailure (now : WatcherMonotonicTimestamp) (state : WatcherPollingState) :
    WatcherPollingState × Except WatcherStateError WatcherCompletionOutcome :=
  match increment state.counters.retryableFailures with
  | (advanced, retryableFailures) =>
    let counted :=
      { state with
        active := false
        counters :=
          { state.counters with
            retryableFailures := retryableFailures } }
    if advanced then
      match nextAttempt counted.retryAttempts with
      | none => (counted.forceFull .counterOverflow, .error .counterOverflow)
      | some attempt =>
        let attempted := { counted with retryAttempts := attempt }
        if attempted.limits.maxRetries < attempt then
          ({ attempted with
              retryDeadline := none
              retryExhausted := true
              fullReconciliationRequired := true },
            .ok .retryExhausted)
        else
          match WatcherMonotonicTimestamp.checkedAdd now attempted.limits.retryDelay with
          | none => (attempted.forceFull .timestampOverflow, .error .timestampOverflow)
          | some due =>
            ({ attempted with
                retryDeadline := some (due, attempt) },
              .ok (.retryScheduled attempt due))
    else
      (counted.forceFull .counterOverflow, .error .counterOverflow)

def complete (now : WatcherMonotonicTimestamp) (completion : WatcherCompletion)
    (state : WatcherPollingState) :
    WatcherPollingState × Except WatcherStateError WatcherCompletionOutcome :=
  if !state.active then
    (state, .error .noActiveReconciliation)
  else if now < state.lastTimestamp then
    (state.noteClockRegression, .error .clockRegression)
  else
    let admitted := { state with lastTimestamp := now }
    match completion with
    | .succeeded => admitted.completeSuccess now
    | .retryableFailure => admitted.completeRetryableFailure now
    | .cancelled => (cancel { admitted with active := false }, .ok .cancelled)

end WatcherPollingState

/-- The entry points of the state machine. -/
inductive WatcherOperation where
  | poll (now : WatcherMonotonicTimestamp)
  | observeDirty (now : WatcherMonotonicTimestamp)
  | observeFullReconciliationRequired (now : WatcherMonotonicTimestamp)
  | beginPending
  | complete (now : WatcherMonotonicTimestamp) (completion : WatcherCompletion)
  | cancel
  deriving DecidableEq

/-- What the caller of an entry point sees. -/
inductive WatcherOutcome where
  | polled (decision : WatcherPollDecision)
  | observed (outcome : WatcherObservationOutcome)
  | began (outcome : Except WatcherStateError WatcherReconciliationReason)
  | ended (outcome : Except WatcherStateError WatcherCompletionOutcome)
  | cancelled

/-- Apply one entry point. -/
def WatcherPollingState.apply (state : WatcherPollingState) :
    WatcherOperation → WatcherPollingState × WatcherOutcome
  | .poll now => Prod.map id .polled (state.poll now)
  | .observeDirty now => Prod.map id .observed (state.observeDirty now)
  | .observeFullReconciliationRequired now =>
    Prod.map id .observed (state.observeFullReconciliationRequired now)
  | .beginPending => Prod.map id .began state.beginPending
  | .complete now completion => Prod.map id .ended (state.complete now completion)
  | .cancel => (state.cancel, .cancelled)

/-- One call and its outcome. -/
structure WatcherEvent where
  operation : WatcherOperation
  outcome : WatcherOutcome

/-- One call leads from one state to the next. -/
def WatcherStep (before : WatcherPollingState) (event : WatcherEvent)
    (after : WatcherPollingState) : Prop := before.apply event.operation = (after, event.outcome)

/-- Make calls in order, recording each outcome. -/
def WatcherPollingState.execute (state : WatcherPollingState) :
    List WatcherOperation → List WatcherEvent × WatcherPollingState
  | [] => ([], state)
  | operation :: operations =>
    match state.apply operation with
    | (next, outcome) =>
      match next.execute operations with
      | (events, final) => (⟨operation, outcome⟩ :: events, final)

/-- Executing calls is a run over their events. -/
theorem WatcherPollingState.execute_run (state : WatcherPollingState)
    (operations : List WatcherOperation) :
    Run WatcherStep state (state.execute operations).1 (state.execute operations).2 := by
  induction operations generalizing state with
  | nil => exact .done state
  | cons operation operations hypothesis =>
    exact .more rfl (hypothesis (state.apply operation).1)

end RepoWitness
