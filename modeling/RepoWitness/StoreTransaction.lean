import RepoWitness.PolledComputation
import Mathlib.Logic.Relation

namespace RepoWitness

/-!
# Transactions

A transaction reads and changes a state and either succeeds or fails; a failed
one leaves no state behind, so its caller keeps the state before it.  Inversion
rules say what a successful execution did, and a preorder on states that every
statement respects is respected by every transaction built from them.
-/

section Folds

variable {State Error α : Type} {step : State → α → Except Error State}
  (progress : State → State → Prop) [Std.Refl progress] [IsTrans State progress]
  (covers : α → State → Prop)

theorem foldlM_progress
    (each :
      ∀ before item after, step before item = .ok after → progress before after ∧ covers item after)
    (kept : ∀ before item after, progress before after → covers item before → covers item after)
    {items : List α} {before after : State} (folded : items.foldlM step before = .ok after) :
    progress before after ∧ ∀ item ∈ items, covers item after := by
  induction items generalizing before with
  | nil =>
    cases folded
    exact ⟨refl_of progress _, by simp⟩
  | cons item rest hypothesis =>
    rw [List.foldlM_cons, except_bind_eq_ok_iff] at folded
    obtain ⟨middle, first, later⟩ := folded
    obtain ⟨progressed, covered⟩ := each before item middle first
    obtain ⟨further, coveredRest⟩ := hypothesis later
    refine ⟨trans_of progress progressed further, ?_⟩
    intro other member
    rcases List.mem_cons.mp member with rfl | memberRest
    · exact kept middle other after further covered
    · exact coveredRest other memberRest

end Folds

/-- A computation over a state whose failure discards every change. -/
abbrev Transaction (State Error : Type) := StateT State (Except Error)

namespace Transaction

variable {State Error α β : Type}

/-- Replace the state by the result of a statement that may be refused. -/
def attempt (error : Error) (statement : State → Option State) :
    Transaction State Error Unit := fun state =>
  match statement state with
  | some after => .ok ((), after)
  | none => .error error

/-- Fail unless a condition holds. -/
def require (error : Error) (condition : Bool) : Transaction State Error Unit :=
  if condition then pure () else throw error

/-- Take the value that is present. -/
def present (error : Error) (value : Option α) : Transaction State Error α :=
  match value with
  | some found => pure found
  | none => throw error

/-- Fail as a computation without state does. -/
def fallible (computation : Except Error α) : Transaction State Error α := fun state =>
  computation.map fun value => (value, state)

def Succeeds (action : Transaction State Error α) (before : State) (value : α)
    (after : State) : Prop := action.run before = .ok (value, after)

section Inversion

variable {before after : State} {value : α}

@[simp] theorem succeeds_pure {result : α} :
    Succeeds (pure result : Transaction State Error α) before value after ↔
      result = value ∧ before = after := by
  change Except.ok (result, before) = .ok (value, after) ↔ _
  simp

@[simp] theorem succeeds_bind {action : Transaction State Error β}
    {next : β → Transaction State Error α} :
    Succeeds (action >>= next) before value after ↔
      ∃ result middle, Succeeds action before result middle ∧
        Succeeds (next result) middle value after := by
  unfold Succeeds
  rw [StateT.run_bind, except_bind_eq_ok_iff]
  exact Prod.exists

@[simp] theorem succeeds_get {value : State} :
    Succeeds (get : Transaction State Error State) before value after ↔
      before = value ∧ before = after := by
  change Except.ok (before, before) = .ok (value, after) ↔ _
  simp

@[simp] theorem succeeds_throw {error : Error} :
    ¬Succeeds (throw error : Transaction State Error α) before value after := by
  simp [Succeeds, throw, throwThe, MonadExceptOf.throw, StateT.run, StateT.lift, bind, Except.bind]

@[simp] theorem succeeds_attempt {error : Error} {statement : State → Option State} {value : Unit} :
    Succeeds (attempt error statement) before value after ↔ statement before = some after := by
  change (match statement before with
    | some after => Except.ok ((), after)
    | none => Except.error error) = .ok (value, after) ↔ _
  cases statement before <;> simp

@[simp] theorem succeeds_require {error : Error} {condition : Bool} {value : Unit} :
    Succeeds (require error condition) before value after ↔ condition = true ∧ before = after := by
  unfold require
  cases condition <;> simp

@[simp] theorem succeeds_present {error : Error} {found : Option α} :
    Succeeds (present error found : Transaction State Error α) before value after ↔
      found = some value ∧ before = after := by
  unfold present
  cases found <;> simp

@[simp] theorem succeeds_fallible {computation : Except Error α} :
    Succeeds (fallible computation : Transaction State Error α) before value after ↔
      computation = .ok value ∧ before = after := by
  change computation.map (fun value => (value, before)) = .ok (value, after) ↔ _
  cases computation <;> simp [Except.map]

theorem succeeds_mapM_readonly {items : List β} {body : β → Transaction State Error α}
    {values : List α}
    (readonly :
      ∀ item first result second, Succeeds (body item) first result second → first = second)
    (execution : Succeeds (items.mapM body) before values after) :
    before = after ∧ ∀ item ∈ items, ∃ result, Succeeds (body item) before result before
    := by
  induction items generalizing values with
  | nil =>
    rw [List.mapM_nil] at execution
    exact ⟨(succeeds_pure.mp execution).2, by simp⟩
  | cons item rest hypothesis =>
    rw [List.mapM_cons] at execution
    simp only [succeeds_bind, succeeds_pure] at execution
    obtain ⟨result, _, first, _, _, later, _, rfl⟩ := execution
    obtain rfl := readonly item _ _ _ first
    obtain ⟨rfl, each⟩ := hypothesis later
    refine ⟨rfl, ?_⟩
    intro other member
    rcases List.mem_cons.mp member with rfl | memberRest
    · exact ⟨result, first⟩
    · exact each other memberRest

end Inversion

def Fails (action : Transaction State Error α) (before : State) (error : Error) : Prop :=
  action.run before = .error error

section Failure

variable {before : State} {error : Error}

@[simp] theorem fails_pure {result : α} :
    ¬Fails (pure result : Transaction State Error α) before error := by
  change ¬Except.ok (result, before) = .error error
  simp

@[simp] theorem fails_bind {action : Transaction State Error β}
    {next : β → Transaction State Error α} :
    Fails (action >>= next) before error ↔ Fails action before error ∨
        ∃ result middle, Succeeds action before result middle ∧
          Fails (next result) middle error := by
  unfold Fails Succeeds
  rw [StateT.run_bind]
  cases action.run before with
  | error other => simp [bind, Except.bind]
  | ok reached =>
    obtain ⟨result, middle⟩ := reached
    simp [bind, Except.bind]

@[simp] theorem fails_get : ¬Fails (get : Transaction State Error State) before error := by
  change ¬Except.ok (before, before) = .error error
  simp

@[simp] theorem fails_attempt {refused : Error} {statement : State → Option State} :
    Fails (attempt refused statement) before error ↔ statement before = none ∧ refused = error := by
  change (match statement before with
    | some after => Except.ok ((), after)
    | none => Except.error refused) = .error error ↔ _
  cases statement before <;> simp

@[simp] theorem fails_require {refused : Error} {condition : Bool} :
    Fails (require refused condition : Transaction State Error Unit) before error ↔
      condition = false ∧ refused = error := by
  unfold require Fails
  cases condition
  · change Except.error refused = _ ↔ _
    simp
  · change Except.ok ((), before) = _ ↔ _
    simp

@[simp] theorem fails_fallible {computation : Except Error α} :
    Fails (fallible computation : Transaction State Error α) before error ↔
      computation = .error error := by
  change computation.map (fun value => (value, before)) = .error error ↔ _
  cases computation <;> simp [Except.map]

end Failure

def Keeps (relation : State → State → Prop) (action : Transaction State Error α) : Prop :=
  ∀ before value after, Succeeds action before value after → relation before after

namespace Keeps

variable {relation : State → State → Prop} [Std.Refl relation] [IsTrans State relation]

omit [IsTrans State relation] in
theorem pure (result : α) : Keeps relation (Pure.pure result : Transaction State Error α) := by
  intro before value after execution
  rw [(succeeds_pure.mp execution).2]
  exact refl_of relation after

omit [IsTrans State relation] in
theorem get : Keeps relation (MonadState.get : Transaction State Error State) := by
  intro before value after execution
  rw [(succeeds_get.mp execution).2]
  exact refl_of relation after

omit [IsTrans State relation] in
theorem require (error : Error) (condition : Bool) : Keeps relation (require error condition) := by
  intro before value after execution
  rw [(succeeds_require.mp execution).2]
  exact refl_of relation after

omit [IsTrans State relation] in
theorem present (error : Error) (found : Option α) : Keeps relation (present error found) := by
  intro before value after execution
  rw [(succeeds_present.mp execution).2]
  exact refl_of relation after

omit [Std.Refl relation] in
theorem bind {action : Transaction State Error β} {next : β → Transaction State Error α}
    (first : Keeps relation action) (later : ∀ result, Keeps relation (next result)) :
    Keeps relation (action >>= next) := by
  intro before value after execution
  obtain ⟨result, middle, firstRun, laterRun⟩ := succeeds_bind.mp execution
  exact trans_of relation (first before result middle firstRun)
    (later result middle value after laterRun)

omit [Std.Refl relation] [IsTrans State relation] in
theorem ite {condition : Prop} [Decidable condition] {first second : Transaction State Error α}
    (firstKeeps : condition → Keeps relation first)
    (secondKeeps : ¬condition → Keeps relation second) :
    Keeps relation (if condition then first else second) := by
  split
  next met => exact firstKeeps met
  next unmet => exact secondKeeps unmet

theorem forM {items : List β} {body : β → Transaction State Error PUnit}
    (each : ∀ item ∈ items, Keeps relation (body item)) :
    Keeps relation (items.forM body) := by
  induction items with
  | nil => exact pure _
  | cons item rest hypothesis =>
    exact (each item (by simp)).bind fun _ =>
      hypothesis fun other member => each other (List.mem_cons_of_mem item member)

end Keeps

end Transaction

end RepoWitness
