import Mathlib.Data.List.Nodup
import RepoWitness.TransitionRun

namespace RepoWitness

/-!
# A worker that owns a resource

Clients put calls into a bounded queue and wait for one reply each.  The worker
takes one call at a time.  A client that gives up on a mutating call, and a
worker that cannot deliver the reply of one, set a shared flag, after which
mutating calls are refused on both sides.
-/

/-- What the worker did for a call and what it answers. -/
structure Execution (Error : Type) where
  result : Except Error Unit
  committed : Bool
  usable : Bool

/-- How far a client has come with a call. -/
inductive CallPhase (Error : Type) where
  | idle
  | admitted
  | waiting
  | grace
  | received (result : Except Error Unit)
  | returned (result : Except Error Unit)

inductive WorkerPhase (Call Error : Type) where
  | receiving
  | dequeued (call : Call)
  | executing (call : Call)
  | replying (call : Call) (execution : Execution Error)
  | ended

/--
The shared state.  `executed` and `commits` record what the worker did and are
read by nobody.
-/
structure OwnerState (Call Error : Type) where
  phase : Call → CallPhase Error
  slot : Call → Option (Except Error Unit)
  queue : List Call
  worker : WorkerPhase Call Error
  unresolved : Bool
  executed : Call → Bool
  commits : Call → Nat

structure OwnerProtocol (Call Error : Type) where
  capacity : Nat
  mutating : Call → Bool
  stops : Call → Bool
  executes : Call → Execution Error → Prop
  unknown : Error
  deadlineExceeded : Error
  queueFull : Error
  workerUnavailable : Error
  replyTimeout : Error
  queueKnown : queueFull ≠ unknown
  workerKnown : workerUnavailable ≠ unknown

inductive OwnerEvent (Call Error : Type) where
  | send (call : Call)
  | enqueue (call : Call)
  | receive (call : Call)
  | expire (call : Call)
  | record (call : Call)
  | dequeue (call : Call)
  | begin (call : Call)
  | execute (call : Call) (execution : Execution Error)
  | reply (call : Call)
  | stop

namespace OwnerState

variable {Call Error : Type} [DecidableEq Call]

def initial : OwnerState Call Error where
  phase := fun _ => .idle
  slot := fun _ => none
  queue := []
  worker := .receiving
  unresolved := false
  executed := fun _ => false
  commits := fun _ => 0

def setPhase (state : OwnerState Call Error) (call : Call)
    (phase : CallPhase Error) : OwnerState Call Error :=
  { state with phase := Function.update state.phase call phase }

def setSlot (state : OwnerState Call Error) (call : Call)
    (slot : Option (Except Error Unit)) : OwnerState Call Error :=
  { state with slot := Function.update state.slot call slot }

def setQueue (state : OwnerState Call Error) (queue : List Call) : OwnerState Call Error :=
  { state with queue }

def setWorker (state : OwnerState Call Error)
    (worker : WorkerPhase Call Error) : OwnerState Call Error := { state with worker }

def markExecuted (state : OwnerState Call Error) (call : Call) : OwnerState Call Error :=
  { state with executed := Function.update state.executed call true }

def addCommits (state : OwnerState Call Error) (call : Call)
    (count : Nat) : OwnerState Call Error :=
  { state with
    commits := Function.update state.commits call (state.commits call + count) }

def flag (state : OwnerState Call Error) (unresolved : Bool) : OwnerState Call Error :=
  { state with unresolved := state.unresolved || unresolved }

/-- A worker that leaves its loop drops the queue with it. -/
def leave (state : OwnerState Call Error) : OwnerState Call Error :=
  (state.setQueue []).setWorker .ended

/-- The next turn of the loop, or its end. -/
def proceed (state : OwnerState Call Error) (goesOn : Bool) : OwnerState Call Error :=
  if goesOn then state.setWorker .receiving else state.leave

end OwnerState

namespace OwnerProtocol

variable {Call Error : Type} [DecidableEq Call] (protocol : OwnerProtocol Call Error)

/-- A reply is lost on a client that has returned. -/
def Listening (state : OwnerState Call Error) (call : Call) : Prop :=
  ∀ result, state.phase call ≠ .returned result

/--
One step of a client or of the worker.

A client declines a call whose deadline has passed or whose request is invalid.
-/
inductive Step (state : OwnerState Call Error) : OwnerEvent Call Error →
      OwnerState Call Error → Prop where
  | declined {call : Call} {error : Error}
      (idle : state.phase call = .idle)
      (known : error ≠ protocol.unknown) :
      Step state (.send call) (state.setPhase call (.returned (.error error)))
  | barred {call : Call} (idle : state.phase call = .idle)
      (mutates : protocol.mutating call = true)
      (unresolved : state.unresolved = true) :
      Step state (.send call) (state.setPhase call (.returned (.error protocol.unknown)))
  | admitted {call : Call} (idle : state.phase call = .idle)
      (resolved : protocol.mutating call = true → state.unresolved = false) :
      Step state (.send call) (state.setPhase call .admitted)
  | full {call : Call} (admitted : state.phase call = .admitted)
      (occupied : protocol.capacity ≤ state.queue.length) :
      Step state (.enqueue call) (state.setPhase call (.returned (.error protocol.queueFull)))
  | gone {call : Call} (admitted : state.phase call = .admitted)
      (ended : state.worker = .ended) :
      Step state (.enqueue call)
        (state.setPhase call (.returned (.error protocol.workerUnavailable)))
  | enqueue {call : Call} (admitted : state.phase call = .admitted)
      (running : state.worker ≠ .ended)
      (room : state.queue.length < protocol.capacity) :
      Step state (.enqueue call) ((state.setPhase call .waiting).setQueue (state.queue ++ [call]))
  | receive {call : Call} {result : Except Error Unit}
      (pending : state.phase call = .waiting ∨ state.phase call = .grace)
      (delivered : state.slot call = some result) :
      Step state (.receive call) ((state.setSlot call none).setPhase call (.received result))
  | expire {call : Call} (waiting : state.phase call = .waiting)
      (mutates : protocol.mutating call = true) :
      Step state (.expire call) (state.setPhase call .grace)
  | giveUp {call : Call} (grace : state.phase call = .grace)
      (mutates : protocol.mutating call = true)
      (empty : state.slot call = none) :
      Step state (.expire call) (state.setPhase call (.received (.error protocol.unknown)))
  | disconnect {call : Call} (waiting : state.phase call = .waiting)
      (mutates : protocol.mutating call = true)
      (ended : state.worker = .ended)
      (empty : state.slot call = none) :
      Step state (.receive call) (state.setPhase call (.received (.error protocol.unknown)))
  | expireRead {call : Call} {error : Error}
      (waiting : state.phase call = .waiting)
      (reads : protocol.mutating call = false)
      (timed : error = protocol.replyTimeout ∨
          error = protocol.deadlineExceeded ∨
          (error = protocol.workerUnavailable ∧ state.worker = .ended)) :
      Step state (.expire call) (state.setPhase call (.received (.error error)))
  | recordUnknown {call : Call}
      (received : state.phase call = .received (.error protocol.unknown))
      (mutates : protocol.mutating call = true) :
      Step state (.record call)
        ((state.setPhase call (.returned (.error protocol.unknown))).flag true)
  | record {call : Call} {result : Except Error Unit}
      (received : state.phase call = .received result)
      (known : protocol.mutating call = true → result ≠ .error protocol.unknown) :
      Step state (.record call) (state.setPhase call (.returned result))
  | dequeue {call : Call} {rest : List Call}
      (receiving : state.worker = .receiving)
      (first : state.queue = call :: rest) :
      Step state (.dequeue call) ((state.setQueue rest).setWorker (.dequeued call))
  | reject {call : Call} (dequeued : state.worker = .dequeued call)
      (mutates : protocol.mutating call = true)
      (unresolved : state.unresolved = true)
      (listening : Listening state call) :
      Step state (.begin call)
        ((state.setSlot call (some (.error protocol.unknown))).setWorker .receiving)
  | rejectUnheard {call : Call} {result : Except Error Unit}
      (dequeued : state.worker = .dequeued call)
      (mutates : protocol.mutating call = true)
      (unresolved : state.unresolved = true)
      (returned : state.phase call = .returned result) :
      Step state (.begin call) (state.setWorker .receiving)
  | begin {call : Call} (dequeued : state.worker = .dequeued call)
      (resolved : protocol.mutating call = true → state.unresolved = false) :
      Step state (.begin call) ((state.markExecuted call).setWorker (.executing call))
  | execute {call : Call} {execution : Execution Error}
      (executing : state.worker = .executing call)
      (possible : protocol.executes call execution) :
      Step state (.execute call execution)
        ((state.addCommits call execution.committed.toNat).setWorker (.replying call execution))
  | reply {call : Call} {execution : Execution Error}
      (replying : state.worker = .replying call execution)
      (listening : Listening state call) :
      Step state (.reply call)
        ((state.setSlot call (some execution.result)).proceed
          (execution.usable && !protocol.stops call))
  | replyUnheard {call : Call} {execution : Execution Error}
      {result : Except Error Unit}
      (replying : state.worker = .replying call execution)
      (returned : state.phase call = .returned result) :
      Step state (.reply call)
        ((state.flag (protocol.mutating call)).proceed (execution.usable && !protocol.stops call))
  | stop (running : state.worker ≠ .ended) :
      Step state .stop state.leave

end OwnerProtocol

/-! ## One call seen alone -/

/-- What the worker holds of a call. -/
inductive CallTask (Error : Type) where
  | dequeued
  | executing
  | replying (execution : Execution Error)

/-- The part of the state that concerns one call. -/
structure CallView (Error : Type) where
  phase : CallPhase Error
  slot : Option (Except Error Unit)
  queued : Prop
  task : Option (CallTask Error)
  executed : Bool
  commits : Nat

def WorkerPhase.task {Call Error : Type} [DecidableEq Call] (worker : WorkerPhase Call Error)
    (call : Call) : Option (CallTask Error) :=
  match worker with
  | receiving => none
  | dequeued held => if held = call then some .dequeued else none
  | executing held => if held = call then some .executing else none
  | replying held execution => if held = call then some (.replying execution) else none
  | ended => none

namespace WorkerPhase

variable {Call Error : Type} [DecidableEq Call] (held call : Call)

@[simp] theorem task_receiving : (receiving : WorkerPhase Call Error).task call = none := rfl

@[simp] theorem task_ended : (ended : WorkerPhase Call Error).task call = none := rfl

@[simp] theorem task_dequeued : (dequeued held : WorkerPhase Call Error).task call =
      if held = call then some .dequeued else none := rfl

@[simp] theorem task_executing : (executing held : WorkerPhase Call Error).task call =
      if held = call then some .executing else none := rfl

@[simp] theorem task_replying (execution : Execution Error) :
    (replying held execution).task call =
      if held = call then some (.replying execution) else none := rfl

end WorkerPhase

namespace OwnerState

variable {Call Error : Type} [DecidableEq Call]

def view (state : OwnerState Call Error) (call : Call) : CallView Error where
  phase := state.phase call
  slot := state.slot call
  queued := call ∈ state.queue
  task := state.worker.task call
  executed := state.executed call
  commits := state.commits call

@[simp] theorem view_setPhase_self (state : OwnerState Call Error) (call : Call)
    (phase : CallPhase Error) :
    (state.setPhase call phase).view call = { state.view call with phase } := by
  simp [view, setPhase]

variable {call other : Call}

theorem view_setPhase_of_ne (state : OwnerState Call Error)
    (apart : other ≠ call) (phase : CallPhase Error) :
    (state.setPhase call phase).view other = state.view other := by
  simp [view, setPhase, apart]

@[simp] theorem view_setSlot_self (state : OwnerState Call Error) (call : Call)
    (slot : Option (Except Error Unit)) :
    (state.setSlot call slot).view call = { state.view call with slot } := by
  simp [view, setSlot]

theorem view_setSlot_of_ne (state : OwnerState Call Error)
    (apart : other ≠ call) (slot : Option (Except Error Unit)) :
    (state.setSlot call slot).view other = state.view other := by
  simp [view, setSlot, apart]

end OwnerState

namespace OwnerProtocol

variable {Call Error : Type} (protocol : OwnerProtocol Call Error)

def Tells (result : Except Error Unit) (commits : Nat) : Prop :=
  match result with
  | .ok () => commits = 1
  | .error error => error = protocol.unknown ∨ commits = 0

def Honest (execution : Execution Error) : Prop :=
  protocol.Tells execution.result execution.committed.toNat

/-- Every execution of a mutating call tells whether it committed. -/
abbrev HonestWorker : Prop :=
  ∀ call execution, protocol.executes call execution →
    protocol.mutating call = true → protocol.Honest execution

/-- What holds of one call in every state that is reached. -/
structure CallValid (mutates : Bool) (view : CallView Error) : Prop where
  queuedOnce : view.queued → view.task = none
  fresh : view.phase = .idle ∨ view.phase = .admitted →
      ¬ view.queued ∧ view.task = none ∧ view.slot = none ∧ view.executed = false ∧ view.commits = 0
  unexecuted : view.queued ∨ view.task = some .dequeued →
      view.slot = none ∧ view.executed = false ∧ view.commits = 0
  executing : view.task = some .executing → view.slot = none ∧ view.commits = 0
  replying : ∀ execution, view.task = some (.replying execution) →
      view.slot = none ∧ (mutates = true → protocol.Tells execution.result view.commits)
  delivered : ∀ result, view.slot = some result →
      ¬ view.queued ∧ view.task = none ∧ (mutates = true → protocol.Tells result view.commits)
  settled : ∀ result,
      view.phase = .received result ∨ view.phase = .returned result →
        mutates = true → result = .error protocol.unknown ∨
            (¬ view.queued ∧ view.task = none ∧ protocol.Tells result view.commits)

namespace CallValid

variable {protocol} {mutates : Bool} {view : CallView Error}

section Valid

variable (valid : protocol.CallValid mutates view)

include valid

/-- A client that has sent its call moves on by itself. -/
theorem moveOn {phase : CallPhase Error} (sent : phase ≠ .idle ∧ phase ≠ .admitted)
    (settled : ∀ result, phase = .received result ∨ phase = .returned result →
        mutates = true → result = .error protocol.unknown ∨
            (¬ view.queued ∧ view.task = none ∧ protocol.Tells result view.commits)) :
    protocol.CallValid mutates { view with phase } :=
  { valid with
    fresh := fun isFresh => (isFresh.elim (absurd · sent.1) (absurd · sent.2))
    settled }

theorem decline (isFresh : view.phase = .idle ∨ view.phase = .admitted) (error : Error) :
    protocol.CallValid mutates { view with phase := .returned (.error error) } := by
  obtain ⟨unqueued, idle, _, _, uncommitted⟩ := valid.fresh isFresh
  refine valid.moveOn (by simp) ?_
  rintro result (impossible | returned) _
  · cases impossible
  · cases returned
    exact .inr ⟨unqueued, idle, .inr uncommitted⟩

theorem admitted (isIdle : view.phase = .idle) :
    protocol.CallValid mutates { view with phase := .admitted } :=
  { valid with
    fresh := fun _ => valid.fresh (.inl isIdle)
    settled := by simp }

theorem enqueue (isAdmitted : view.phase = .admitted) :
    protocol.CallValid mutates { view with phase := .waiting, queued := True } := by
  obtain ⟨unqueued, idle, empty, unexecuted, uncommitted⟩ := valid.fresh (.inr isAdmitted)
  constructor <;> simp_all

theorem receive {result : Except Error Unit} (isDelivered : view.slot = some result) :
    protocol.CallValid mutates { view with slot := none, phase := .received result } := by
  obtain ⟨unqueued, idle, tells⟩ := valid.delivered result isDelivered
  constructor <;> simp_all

theorem record {result : Except Error Unit} (isReceived : view.phase = .received result) :
    protocol.CallValid mutates { view with phase := .returned result } := by
  refine valid.moveOn (by simp) ?_
  rintro other (impossible | returned)
  · cases impossible
  · cases returned
    exact valid.settled result (.inl isReceived)

theorem giveUp {error : Error} (unresolved : mutates = true → error = protocol.unknown) :
    protocol.CallValid mutates { view with phase := .received (.error error) } := by
  refine valid.moveOn (by simp) ?_
  rintro result (received | impossible) isMutating
  · cases received
    exact .inl (by rw [unresolved isMutating])
  · cases impossible

theorem not_fresh_of_held (held : view.queued ∨ view.task ≠ none) :
    ¬ (view.phase = .idle ∨ view.phase = .admitted) := by
  intro isFresh
  obtain ⟨unqueued, idle, _⟩ := valid.fresh isFresh
  exact held.elim unqueued (absurd idle)

variable {result : Except Error Unit}

/-- A client can only give up on a call that the worker still holds. -/
theorem unknown_of_held (held : view.queued ∨ view.task ≠ none)
    (ended : view.phase = .received result ∨ view.phase = .returned result)
    (isMutating : mutates = true) :
    result = .error protocol.unknown := by
  rcases valid.settled result ended isMutating with isUnknown | ⟨unqueued, idle, _⟩
  · exact isUnknown
  · exact held.elim (absurd · unqueued) (absurd idle)

theorem dequeue (isQueued : view.queued) :
    protocol.CallValid mutates { view with queued := False, task := some .dequeued } where
  queuedOnce := False.elim
  fresh := fun isFresh => absurd isFresh (valid.not_fresh_of_held (.inl isQueued))
  unexecuted := fun _ => valid.unexecuted (.inl isQueued)
  executing := by simp
  replying := by simp
  delivered := by simp [(valid.unexecuted (.inl isQueued)).1]
  settled := fun _ ended isMutating => .inl (valid.unknown_of_held (.inl isQueued) ended isMutating)

theorem begin (isDequeued : view.task = some .dequeued) :
    protocol.CallValid mutates { view with task := some .executing, executed := true } := by
  have held : view.queued ∨ view.task ≠ none := by simp [isDequeued]
  have unexecuted := valid.unexecuted (.inr isDequeued)
  exact
    { queuedOnce := fun isQueued => by
        simpa [isDequeued] using valid.queuedOnce isQueued
      fresh := fun isFresh => absurd isFresh (valid.not_fresh_of_held held)
      unexecuted := fun isQueued => by
        simpa [isDequeued] using valid.queuedOnce (isQueued.resolve_right (by simp))
      executing := fun _ => ⟨unexecuted.1, unexecuted.2.2⟩
      replying := by simp
      delivered := by simp [unexecuted.1]
      settled := fun _ ended isMutating => .inl (valid.unknown_of_held held ended isMutating) }

theorem execute (isExecuting : view.task = some .executing) {execution : Execution Error}
    (honest : mutates = true → protocol.Honest execution) :
    protocol.CallValid mutates
      { view with
        task := some (.replying execution)
        commits := view.commits + execution.committed.toNat } := by
  have held : view.queued ∨ view.task ≠ none := by simp [isExecuting]
  obtain ⟨empty, uncommitted⟩ := valid.executing isExecuting
  exact
    { queuedOnce := fun isQueued => by
        simpa [isExecuting] using valid.queuedOnce isQueued
      fresh := fun isFresh => absurd isFresh (valid.not_fresh_of_held held)
      unexecuted := fun isQueued => by
        simpa [isExecuting] using valid.queuedOnce (isQueued.resolve_right (by simp))
      executing := by simp
      replying := by
        rintro other same
        cases same
        refine ⟨empty, fun isMutating => ?_⟩
        rw [uncommitted, Nat.zero_add]
        exact honest isMutating
      delivered := by simp [empty]
      settled := fun _ ended isMutating => .inl (valid.unknown_of_held held ended isMutating) }

/-- The worker is done with a call whose reply nobody hears. -/
theorem finish :
    protocol.CallValid mutates { view with queued := False, task := none } := by
  have settled := valid.settled
  have fresh := valid.fresh
  have delivered := valid.delivered
  constructor <;> grind

/-- The worker is done with a call and its reply is delivered. -/
theorem deliver (unqueued : ¬ view.queued) (held : view.task ≠ none)
    (tells : mutates = true → protocol.Tells result view.commits) :
    protocol.CallValid mutates { view with task := none, slot := some result } := by
  have settled := valid.settled
  have fresh := valid.fresh
  constructor <;> grind

end Valid

end CallValid

/-! ## What every step preserves -/

section Preservation

open OwnerState

variable [DecidableEq Call]

/-- The invariant of the whole protocol. -/
structure Valid (state : OwnerState Call Error) : Prop where
  distinct : state.queue.Nodup
  calls : ∀ call, protocol.CallValid (protocol.mutating call) (state.view call)
  flagged : ∀ call, protocol.mutating call = true →
      state.phase call = .returned (.error protocol.unknown) → state.unresolved = true

variable {protocol} {state after : OwnerState Call Error} {call : Call}

theorem valid_initial : protocol.Valid .initial where
  distinct := List.nodup_nil
  calls := by
    intro call
    constructor <;> simp [view, OwnerState.initial]
  flagged := by simp [OwnerState.initial]

variable {worker : WorkerPhase Call Error}

theorem task_self : (worker = .dequeued call → worker.task call = some .dequeued) ∧
      (worker = .executing call → worker.task call = some .executing) ∧
      (∀ execution, worker = .replying call execution →
        worker.task call = some (.replying execution)) := by
  refine ⟨?_, ?_, ?_⟩
  · rintro rfl
    simp
  · rintro rfl
    simp
  · rintro execution rfl
    simp

/-- The worker holds nothing of any other call. -/
theorem task_of_ne (held : worker.task call ≠ none) {other : Call} (apart : other ≠ call) :
    worker.task other = none := by
  cases worker <;> simp_all
  all_goals exact fun same => apart same.symm

namespace Valid

variable (valid : protocol.Valid state)

include valid

/-- A step that concerns one call keeps all others as they are. -/
theorem update (changed : Call)
    (others : ∀ other, other ≠ changed → after.view other = state.view other)
    (here : protocol.CallValid (protocol.mutating changed) (after.view changed))
    (distinct : after.queue.Nodup) (sticky : state.unresolved = true → after.unresolved = true)
    (flagged : protocol.mutating changed = true →
        after.phase changed = .returned (.error protocol.unknown) → after.unresolved = true) :
    protocol.Valid after where
  distinct := distinct
  calls := by
    intro other
    by_cases same : other = changed
    · rw [same]
      exact here
    · rw [others other same]
      exact valid.calls other
  flagged := by
    intro other mutates returned
    by_cases same : other = changed
    · subst same
      exact flagged mutates returned
    · have kept : after.phase other = state.phase other :=
        congrArg CallView.phase (others other same)
      exact sticky (valid.flagged other mutates (kept ▸ returned))

/-- A client moves on by itself. -/
theorem setPhase {phase : CallPhase Error}
    (here : protocol.CallValid (protocol.mutating call) { state.view call with phase })
    (flagged : protocol.mutating call = true →
        phase = .returned (.error protocol.unknown) → state.unresolved = true) :
    protocol.Valid (state.setPhase call phase) := by
  refine valid.update call (fun other apart => state.view_setPhase_of_ne apart phase) ?_
    valid.distinct id ?_
  · rw [view_setPhase_self]
    exact here
  · intro mutates returned
    have same : (state.setPhase call phase).phase call = phase := Function.update_self _ _ _
    exact flagged mutates (same.symm.trans returned)

theorem flag (unresolved : Bool) :
    protocol.Valid (state.flag unresolved) where
  distinct := valid.distinct
  calls := valid.calls
  flagged := by
    intro call mutates returned
    have flagged := valid.flagged call mutates returned
    simp [OwnerState.flag, flagged]

/-- A worker that leaves holds nothing any more. -/
theorem leave : protocol.Valid state.leave where
  distinct := List.nodup_nil
  calls := by
    intro call
    have view : state.leave.view call = { state.view call with queued := False, task := none } := by
      simp [view, OwnerState.leave, setQueue, setWorker]
    rw [view]
    exact (valid.calls call).finish
  flagged := valid.flagged

theorem enqueue (admitted : state.phase call = .admitted) :
    protocol.Valid ((state.setPhase call .waiting).setQueue (state.queue ++ [call])) := by
  have entered := (valid.calls call).enqueue admitted
  obtain ⟨unqueued, _⟩ := (valid.calls call).fresh (.inr admitted)
  refine valid.update call ?_ ?_ ?_ id ?_
  · intro other apart
    simp [view, OwnerState.setPhase, setQueue, apart]
  · simpa [view, OwnerState.setPhase, setQueue] using entered
  · refine List.nodup_append.mpr ⟨valid.distinct, by simp, ?_⟩
    rintro first isFirst _ isCall rfl
    exact unqueued (List.mem_singleton.mp isCall ▸ isFirst)
  · simp [OwnerState.setPhase, setQueue]

theorem receive {result : Except Error Unit}
    (delivered : state.slot call = some result) :
    protocol.Valid ((state.setSlot call none).setPhase call (.received result)) := by
  have taken := (valid.calls call).receive delivered
  refine valid.update call ?_ ?_ valid.distinct id ?_
  · intro other apart
    rw [view_setPhase_of_ne _ apart, view_setSlot_of_ne _ apart]
  · rw [view_setPhase_self, view_setSlot_self]
    exact taken
  · simp [OwnerState.setPhase]

theorem dequeue {rest : List Call}
    (receiving : state.worker = .receiving) (first : state.queue = call :: rest) :
    protocol.Valid ((state.setQueue rest).setWorker (.dequeued call)) := by
  have distinct := valid.distinct
  rw [first, List.nodup_cons] at distinct
  have isQueued : (state.view call).queued := by simp [view, first]
  have taken := (valid.calls call).dequeue isQueued
  refine valid.update call ?_ ?_ distinct.2 id (valid.flagged call)
  · intro other apart
    simp [view, setQueue, setWorker, receiving, first, apart, apart.symm]
  · simpa [view, setQueue, setWorker, distinct.1] using taken

theorem begin (dequeued : state.worker = .dequeued call) :
    protocol.Valid ((state.markExecuted call).setWorker (.executing call)) := by
  have held : state.worker.task call = some .dequeued := task_self.1 dequeued
  have begun := (valid.calls call).begin held
  refine valid.update call ?_ ?_ valid.distinct id (valid.flagged call)
  · intro other apart
    have before := task_of_ne (held.trans_ne (by simp)) apart
    simp [view, markExecuted, setWorker, before, apart, apart.symm]
  · simpa [view, markExecuted, setWorker] using begun

theorem execute (executing : state.worker = .executing call)
    {execution : Execution Error}
    (honest : protocol.mutating call = true → protocol.Honest execution) :
    protocol.Valid
      ((state.addCommits call execution.committed.toNat).setWorker (.replying call execution)) := by
  have held := task_self.2.1 executing
  have executed := (valid.calls call).execute held honest
  refine valid.update call ?_ ?_ valid.distinct id (valid.flagged call)
  · intro other apart
    have before := task_of_ne (held.trans_ne (by simp)) apart
    simp [view, addCommits, setWorker, before, apart, apart.symm]
  · simpa [view, addCommits, setWorker] using executed

/-- The worker lets go of the call it holds. -/
theorem letGo (held : state.worker.task call ≠ none) :
    protocol.Valid (state.setWorker .receiving) := by
  have unqueued : ¬ (state.view call).queued :=
    fun isQueued => held ((valid.calls call).queuedOnce isQueued)
  have finished := (valid.calls call).finish
  refine valid.update call ?_ ?_ valid.distinct id (valid.flagged call)
  · intro other apart
    have before := task_of_ne held apart
    simp [view, setWorker, before]
  · have view : (state.setWorker .receiving).view call =
          { state.view call with queued := False, task := none } := by
      simp only [view] at unqueued
      simp [view, setWorker, unqueued]
    rw [view]
    exact finished

/-- The worker lets go of the call it holds and delivers its reply. -/
theorem deliver (held : state.worker.task call ≠ none)
    {result : Except Error Unit}
    (tells : protocol.mutating call = true → protocol.Tells result (state.commits call)) :
    protocol.Valid ((state.setSlot call (some result)).setWorker .receiving) := by
  have unqueued : ¬ (state.view call).queued :=
    fun isQueued => held ((valid.calls call).queuedOnce isQueued)
  have delivered := (valid.calls call).deliver unqueued held tells
  refine valid.update call ?_ ?_ valid.distinct id (valid.flagged call)
  · intro other apart
    have before := task_of_ne held apart
    simp [view, setSlot, setWorker, before, apart]
  · simpa [view, setSlot, setWorker] using delivered

end Valid

theorem Valid.proceed (valid : protocol.Valid (state.setWorker .receiving)) (goesOn : Bool) :
    protocol.Valid (state.proceed goesOn) := by
  cases goesOn with
  | true => exact valid
  | false => exact valid.leave

/-- Every step keeps the invariant when executions tell what they did. -/
theorem valid_of_step (honest : protocol.HonestWorker) {event : OwnerEvent Call Error}
    (step : protocol.Step state event after) (valid : protocol.Valid state) :
    protocol.Valid after := by
  cases step with
  | @declined call error idle known =>
    refine valid.setPhase ((valid.calls call).decline (.inl idle) error) ?_
    rintro _ returned
    cases returned
    exact absurd rfl known
  | @barred call idle mutates unresolved =>
    exact valid.setPhase ((valid.calls call).decline (.inl idle) _) fun _ _ => unresolved
  | @admitted call idle resolved =>
    exact valid.setPhase ((valid.calls call).admitted idle) (by simp)
  | @full call admitted occupied =>
    refine valid.setPhase ((valid.calls call).decline (.inr admitted) _) ?_
    rintro _ returned
    simp only [CallPhase.returned.injEq, Except.error.injEq] at returned
    exact absurd returned protocol.queueKnown
  | @gone call admitted ended =>
    refine valid.setPhase ((valid.calls call).decline (.inr admitted) _) ?_
    rintro _ returned
    simp only [CallPhase.returned.injEq, Except.error.injEq] at returned
    exact absurd returned protocol.workerKnown
  | enqueue admitted running room => exact valid.enqueue admitted
  | receive pending delivered => exact valid.receive delivered
  | @expire call waiting mutates =>
    exact valid.setPhase ((valid.calls call).moveOn (by simp) (by simp)) (by simp)
  | @giveUp call grace mutates empty =>
    exact valid.setPhase ((valid.calls call).giveUp fun _ => rfl) (by simp)
  | @disconnect call waiting mutates ended empty =>
    exact valid.setPhase ((valid.calls call).giveUp fun _ => rfl) (by simp)
  | @expireRead call error waiting reads timed =>
    refine valid.setPhase ((valid.calls call).giveUp ?_) (by simp)
    intro mutates
    rw [reads] at mutates
    cases mutates
  | @recordUnknown call received mutates =>
    have recorded := (valid.calls call).record received
    have flagged := valid.flag true
    exact flagged.setPhase recorded fun _ _ => by simp [OwnerState.flag]
  | @record call result received known =>
    refine valid.setPhase ((valid.calls call).record received) ?_
    rintro mutates returned
    cases returned
    exact absurd rfl (known mutates)
  | dequeue receiving first => exact valid.dequeue receiving first
  | @reject call dequeued mutates unresolved listening =>
    exact valid.deliver (by simp [task_self.1 dequeued]) fun _ => .inl rfl
  | @rejectUnheard call result dequeued mutates unresolved returned =>
    exact @Valid.letGo _ _ _ _ _ call valid (by simp [task_self.1 dequeued])
  | begin dequeued resolved => exact valid.begin dequeued
  | execute executing possible => exact valid.execute executing (honest _ _ possible)
  | @reply call execution replying listening =>
    have held := task_self.2.2 execution replying
    exact (valid.deliver (by simp [held])
      ((valid.calls call).replying execution held).2).proceed _
  | @replyUnheard call execution result replying returned =>
    have held := task_self.2.2 execution replying
    exact (@Valid.letGo _ _ _ _ _ call (valid.flag (protocol.mutating call))
      (by simp [OwnerState.flag, held])).proceed _
  | stop running => exact valid.leave

theorem valid_of_run (honest : protocol.HonestWorker) {events : List (OwnerEvent Call Error)}
    (run : Run protocol.Step .initial events state) :
    protocol.Valid state :=
  run.invariant (fun _ _ _ step => valid_of_step honest step) valid_initial

end Preservation

/-! ## What clients learn -/

section Outcomes

open OwnerState

variable [DecidableEq Call] {protocol} {state after : OwnerState Call Error} {call : Call}

theorem phase_setPhase_of_ne {other : Call} {phase : CallPhase Error}
    (apart : state.phase call ≠ state.phase other) :
    (state.setPhase other phase).phase call = state.phase call :=
  Function.update_of_ne (fun same => apart (congrArg state.phase same)) _ _

variable {event : OwnerEvent Call Error}

theorem returned_of_step {result : Except Error Unit}
    (step : protocol.Step state event after) (returned : state.phase call = .returned result) :
    after.phase call = .returned result := by
  cases step with
  | declined idle | barred idle | admitted idle =>
    exact (phase_setPhase_of_ne (by simp [returned, idle])).trans returned
  | full admitted | gone admitted | enqueue admitted =>
    exact (phase_setPhase_of_ne (by simp [returned, admitted])).trans returned
  | receive pending =>
    refine (phase_setPhase_of_ne ?_).trans returned
    rcases pending with waiting | grace
    · simp [setSlot, returned, waiting]
    · simp [setSlot, returned, grace]
  | expire waiting | disconnect waiting | expireRead waiting =>
    exact (phase_setPhase_of_ne (by simp [returned, waiting])).trans returned
  | giveUp grace => exact (phase_setPhase_of_ne (by simp [returned, grace])).trans returned
  | recordUnknown received | record received =>
    exact (phase_setPhase_of_ne (by simp [returned, received])).trans returned
  | reply | replyUnheard =>
    unfold proceed
    split <;> exact returned
  | dequeue | reject | rejectUnheard | begin | execute | stop => exact returned

theorem barred_of_step (mutates : protocol.mutating call = true)
    (step : protocol.Step state event after)
    (barred : state.unresolved = true ∧ state.executed call = false) :
    after.unresolved = true ∧ after.executed call = false := by
  cases step with
  | @begin begun dequeued resolved =>
    refine ⟨barred.1, ?_⟩
    have apart : call ≠ begun := by
      rintro rfl
      exact absurd barred.1 (by simp [resolved mutates])
    exact (Function.update_of_ne apart _ _).trans barred.2
  | reply | replyUnheard =>
    unfold proceed
    split <;>
      simp [leave, setQueue, setWorker, setSlot, flag, barred]
  | recordUnknown => exact ⟨by simp [flag], barred.2⟩
  | declined | barred | admitted | full | gone | enqueue | receive | expire
  | giveUp | disconnect | expireRead | record | dequeue | reject
  | rejectUnheard | execute | stop => exact barred

/-- What clients may conclude from the results of their mutating calls. -/
structure Resolves (protocol : OwnerProtocol Call Error) : Prop where
  committedOnce : ∀ {events state call},
      Run protocol.Step .initial events state →
      protocol.mutating call = true →
      state.phase call = .returned (.ok ()) → state.commits call = 1
  neverCommitted : ∀ {events state call error laterEvents later},
      Run protocol.Step .initial events state →
      protocol.mutating call = true →
      state.phase call = .returned (.error error) →
      error ≠ protocol.unknown →
      Run protocol.Step state laterEvents later → later.commits call = 0
  barred : ∀ {events state lost call laterEvents later},
      Run protocol.Step .initial events state →
      protocol.mutating lost = true →
      state.phase lost = .returned (.error protocol.unknown) →
      protocol.mutating call = true →
      state.phase call = .idle ∨ state.phase call = .admitted →
      Run protocol.Step state laterEvents later → later.executed call = false

theorem resolves_of_honest (honest : protocol.HonestWorker) : Resolves protocol where
  committedOnce := by
    intro events state call run mutates returned
    have valid := (valid_of_run honest run).calls call
    rcases valid.settled _ (.inr returned) mutates with impossible | ⟨_, _, tells⟩
    · cases impossible
    · exact tells
  neverCommitted := by
    intro events state call error laterEvents later run mutates returned known rest
    have stays : later.phase call = .returned (.error error) :=
      @Run.invariant _ _ _ _ _ _ (fun state => state.phase call = .returned (.error error))
        (fun _ _ _ step => returned_of_step step) rest returned
    have valid := (valid_of_run honest (run.append rest)).calls call
    rcases valid.settled _ (.inr stays) mutates with isUnknown | ⟨_, _, tells⟩
    · exact absurd (Except.error.inj isUnknown) known
    · exact tells.resolve_left known
  barred := by
    intro events state lost call laterEvents later run lostMutates lostIt mutates isFresh rest
    have valid := valid_of_run honest run
    obtain ⟨_, _, _, unexecuted, _⟩ := (valid.calls call).fresh isFresh
    have flagged := valid.flagged lost lostMutates lostIt
    exact (@Run.invariant _ _ _ _ _ _
      (fun state => state.unresolved = true ∧ state.executed call = false)
      (fun _ _ _ step => barred_of_step mutates step) rest
      ⟨flagged, unexecuted⟩).2

theorem exists_run_returning (room : 0 < protocol.capacity) {execution : Execution Error}
    (possible : protocol.executes call execution)
    (known : protocol.mutating call = true → execution.result ≠ .error protocol.unknown) :
    ∃ events state, Run protocol.Step .initial events state ∧
        state.phase call = .returned execution.result ∧
        state.commits call = execution.committed.toNat := by
  let sent : OwnerState Call Error := OwnerState.initial.setPhase call .admitted
  let queued := (sent.setPhase call .waiting).setQueue (sent.queue ++ [call])
  let dequeued := (queued.setQueue []).setWorker (.dequeued call)
  let begun := (dequeued.markExecuted call).setWorker (.executing call)
  let executed :=
    (begun.addCommits call execution.committed.toNat).setWorker (.replying call execution)
  let replied :=
    (executed.setSlot call (some execution.result)).proceed
      (execution.usable && !protocol.stops call)
  have proceeds : replied.phase call = .waiting ∧
        replied.slot call = some execution.result ∧
        replied.commits call = execution.committed.toNat := by
    simp only [replied, proceed]
    split <;>
      simp [leave, setQueue, setWorker,
        setSlot, executed, addCommits, begun,
        markExecuted, dequeued, queued, sent,
        setPhase, OwnerState.initial]
  obtain ⟨waiting, delivered, commits⟩ := proceeds
  refine ⟨_, _, .more (.admitted rfl fun _ => rfl)
      (.more (.enqueue (Function.update_self _ _ _)
          (by simp [setPhase, OwnerState.initial]) room)
        (.more (@Step.dequeue _ _ _ _ queued call [] rfl rfl)
          (.more (@Step.begin _ _ _ _ dequeued call rfl fun _ => rfl)
            (.more (@Step.execute _ _ _ _ begun call execution rfl possible)
              (.more (@Step.reply _ _ _ _ executed call execution rfl ?_)
                (.more (@Step.receive _ _ _ _ replied call
                    execution.result (.inl waiting) delivered)
                  (.more (@Step.record _ _ _ _ _ call execution.result
                      (Function.update_self _ _ _) known)
                    (.done _)))))))), ?_, ?_⟩
  · intro result
    simp [executed, addCommits, setWorker, begun,
      markExecuted, dequeued, queued, setQueue,
      setPhase]
  · exact Function.update_self _ _ _
  · exact commits

/-- Results can only be relied on when every execution is honest. -/
theorem resolves_iff (room : 0 < protocol.capacity) : Resolves protocol ↔
      ∀ call execution, protocol.executes call execution →
        protocol.mutating call = true → protocol.Honest execution := by
  refine ⟨?_, resolves_of_honest⟩
  intro resolves call execution possible mutates
  unfold Honest
  by_cases isUnknown : execution.result = .error protocol.unknown
  · rw [isUnknown]
    exact .inl rfl
  · obtain ⟨events, state, run, returned, commits⟩ :=
      exists_run_returning room possible fun _ => isUnknown
    rw [← commits]
    cases result : execution.result with
    | ok =>
      rw [result] at returned
      exact resolves.committedOnce run mutates returned
    | error error =>
      rw [result] at returned isUnknown
      refine .inr (resolves.neverCommitted run mutates returned ?_ (.done state))
      exact fun same => isUnknown (congrArg _ same)

end Outcomes

end OwnerProtocol

end RepoWitness
