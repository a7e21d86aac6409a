import Mathlib.Algebra.Order.Ring.Nat
import Mathlib.Data.List.Basic

namespace RepoWitness

/-!
# Cooperatively controlled computations

A controlled computation is deterministic apart from one thing: at fixed
points it polls an external control, which either lets it continue or stops it
with an error.  A poll returns no information, so such a computation is
completely described by the number of polls it makes and by the result it
reaches when no poll stops it.
-/

/-- A deterministic computation that polls a control and may fail. -/
structure Polled (ε α : Type) where
  polls : Nat
  result : Except ε α

namespace Polled

variable {ε α β γ : Type}

/-- Finish without polling. -/
def done (result : Except ε α) : Polled ε α where
  polls := 0
  result := result

/-- Fail without polling. -/
def fail (error : ε) : Polled ε α := done (.error error)

/-- Poll the control once. -/
def poll : Polled ε Unit where
  polls := 1
  result := .ok ()

/-- Poll the control once when a poll is due. -/
def pollWhen (due : Bool) : Polled ε Unit where
  polls := due.toNat
  result := .ok ()

/-- Poll the control once for each of `count` elements. -/
def pollTimes (count : Nat) : Polled ε Unit where
  polls := count
  result := .ok ()

/-- Run a continuation, adding its polls only when it is reached. -/
def andThen (first : Polled ε α) (next : α → Polled ε β) : Polled ε β :=
  match first.result with
  | .error error => { polls := first.polls, result := .error error }
  | .ok value => { polls := first.polls + (next value).polls, result := (next value).result }

instance : Monad (Polled ε) where
  pure value := done (.ok value)
  bind := andThen

/-- The answer of a control that never stops a computation. -/
def never : Nat → Option ε := fun _ => none

/--
Run a computation under a control.  `control index` is the answer to the poll
with that index; the first stopping answer decides the outcome.
-/
def observe (computation : Polled ε α) (control : Nat → Option ε) : Except ε α :=
  match (List.range computation.polls).findSome? control with
  | some error => .error error
  | none => computation.result

@[simp] theorem result_pure (value : α) : (pure value : Polled ε α).result = .ok value := rfl

@[simp] theorem result_done (result : Except ε α) : (done result).result = result := rfl

@[simp] theorem result_fail (error : ε) : (fail error : Polled ε α).result = .error error := rfl

@[simp] theorem result_poll : (poll : Polled ε Unit).result = .ok () := rfl

@[simp] theorem result_pollWhen (due : Bool) : (pollWhen due : Polled ε Unit).result = .ok () := rfl

@[simp] theorem result_pollTimes (count : Nat) :
    (pollTimes count : Polled ε Unit).result = .ok () := rfl

/-- The uncontrolled result of a sequence is the sequence of the results. -/
@[simp] theorem result_bind (first : Polled ε α) (next : α → Polled ε β) :
    (first >>= next).result = first.result >>= fun value => (next value).result := by
  change (andThen first next).result = _
  unfold andThen
  cases first.result <;> rfl

/-- A computation that succeeds under some control succeeds uncontrolled. -/
theorem result_of_observe_ok {computation : Polled ε α} {control : Nat → Option ε} {value : α}
    (accepted : computation.observe control = .ok value) :
    computation.result = .ok value := by
  unfold observe at accepted
  cases stopped : (List.range computation.polls).findSome? control with
  | none => simpa [stopped] using accepted
  | some error => simp [stopped] at accepted

/-- Under a control that never stops, a computation reaches its result. -/
@[simp] theorem observe_never (computation : Polled ε α) :
    computation.observe never = computation.result := by
  have unstopped : (List.range computation.polls).findSome? (never : Nat → Option ε) = none :=
    List.findSome?_eq_none_iff.mpr (fun _ _ => rfl)
  simp [observe, unstopped]

end Polled

@[simp] theorem except_ok_bind {ε α β : Type} (value : α) (next : α → Except ε β) :
    (Except.ok value >>= next) = next value := rfl

@[simp] theorem except_error_bind {ε α β : Type} (error : ε) (next : α → Except ε β) :
    (Except.error error >>= next) = .error error := rfl

/-- A sequence succeeds exactly when both of its parts do. -/
theorem except_bind_eq_ok_iff {ε α β : Type} {first : Except ε α} {next : α → Except ε β}
    {value : β} :
    first >>= next = .ok value ↔ ∃ middle, first = .ok middle ∧ next middle = .ok value := by
  cases first with
  | error error => simp
  | ok middle => simp

theorem except_mapError_eq_ok_iff {ε δ α : Type} {change : ε → δ} {computation : Except ε α}
    {value : α} :
    computation.mapError change = .ok value ↔ computation = .ok value := by
  cases computation with
  | error error => simp [Except.mapError]
  | ok result => simp [Except.mapError]

theorem except_toOption_eq_some_iff {ε α : Type} {computation : Except ε α} {value : α} :
    computation.toOption = some value ↔ computation = .ok value := by
  cases computation with
  | error error => simp [Except.toOption]
  | ok result => simp [Except.toOption]

end RepoWitness
