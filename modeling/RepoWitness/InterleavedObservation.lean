import Mathlib.Order.Monotone.Defs
import Mathlib.Order.Nat
import RepoWitness.StoreTransaction

namespace RepoWitness

open Transaction

/-!
# Looking at a world that others change

A computation that looks at the world step by step sees, in each step, one
aspect of it at one instant; between two steps the world may change in any way.
An aspect that is seen twice with one value, and that never returns to a value
it has left, had this value at every instant between.
-/

/-- A value that is left is not taken again. -/
def NeverReturns {Time α : Type} [Preorder Time] (value : Time → α) : Prop :=
  ∀ ⦃first middle last⦄, first ≤ middle → middle ≤ last →
    value first = value last → value middle = value first

/-- A value that changes once. -/
theorem neverReturns_ite {α : Type} (change : Nat) (old new : α) :
    NeverReturns fun time => if time < change then old else new := by
  intro first middle last before after same
  dsimp only at same ⊢
  by_cases early : middle < change
  · rw [if_pos early, if_pos (by omega)]
  · rw [if_neg early, same, if_neg (by omega)]

/-- The world as it changes, the instant of every step, and the steps that fail. -/
structure Interleaving (Time World Fault : Type) [Preorder Time] where
  history : Time → World
  instant : Nat → Time
  ordered : Monotone instant
  fault : Nat → Option Fault

namespace Interleaving

variable {Time World Fault Error α : Type} [Preorder Time] (run : Interleaving Time World Fault)

/-- The world at the instant of a step. -/
def seen (step : Nat) : World := run.history (run.instant step)

def look (aspect : World → α) : Transaction Nat Error (Except Fault α) := fun step =>
  .ok
    (match run.fault step with
      | some fault => .error fault
      | none => .ok (aspect (run.seen step)),
    step + 1)

/-- One step whose fault ends the computation. -/
def query (refused : Fault → Error) (aspect : World → α) : Transaction Nat Error α := do
  let answer ← run.look aspect
  .fallible (answer.mapError refused)

/-- One of the steps from `start` up to `stop` saw the value. -/
def Saw (start stop : Nat) (aspect : World → α) (value : α) : Prop :=
  ∃ step, start ≤ step ∧ step < stop ∧ aspect (run.seen step) = value

variable {run} {start middle stop before after : Nat} {aspect : World → α} {value : α}

theorem look_advances :
    Keeps (· ≤ ·) (run.look aspect : Transaction Nat Error (Except Fault α)) := by
  intro before value after execution
  cases execution
  exact Nat.le_succ before

variable {refused : Fault → Error}

theorem succeeds_query (execution : Succeeds (run.query refused aspect) before value after) :
    aspect (run.seen before) = value ∧ after = before + 1 := by
  obtain ⟨answer, next, looked, answered⟩ := succeeds_bind.mp execution
  cases looked
  rw [succeeds_fallible, except_mapError_eq_ok_iff] at answered
  obtain ⟨answered, rfl⟩ := answered
  cases faulty : run.fault before with
  | some fault => simp [faulty] at answered
  | none =>
    simp only [faulty, Except.ok.injEq] at answered
    exact ⟨answered, rfl⟩

theorem saw_query (execution : Succeeds (run.query refused aspect) before value after) :
    run.Saw before after aspect value := by
  obtain ⟨answered, rfl⟩ := succeeds_query execution
  exact ⟨before, Nat.le_refl before, Nat.lt_succ_self before, answered⟩

namespace Saw

theorem lt (saw : run.Saw start stop aspect value) : start < stop := by
  obtain ⟨step, above, below, -⟩ := saw
  exact Nat.lt_of_le_of_lt above below

theorem widen (saw : run.Saw start stop aspect value) (earlier : before ≤ start)
    (later : stop ≤ after) : run.Saw before after aspect value := by
  obtain ⟨step, above, below, holds⟩ := saw
  exact ⟨step, earlier.trans above, Nat.lt_of_lt_of_le below later, holds⟩

theorem map {β : Type} (saw : run.Saw start stop aspect value) (part : α → β) :
    run.Saw start stop (fun world => part (aspect world)) (part value) := by
  obtain ⟨step, above, below, holds⟩ := saw
  exact ⟨step, above, below, congrArg part holds⟩

/-- What was seen before a step and again from it on was so at the step. -/
theorem between (first : run.Saw start middle aspect value)
    (again : run.Saw middle stop aspect value)
    (stable : NeverReturns fun time => aspect (run.history time)) :
    aspect (run.seen middle) = value := by
  obtain ⟨one, -, below, firstValue⟩ := first
  obtain ⟨other, above, -, laterValue⟩ := again
  have same : aspect (run.seen one) = aspect (run.seen other) := firstValue.trans laterValue.symm
  exact (stable (run.ordered below.le) (run.ordered above) same).trans firstValue

end Saw

end Interleaving

end RepoWitness
