import Mathlib.Algebra.Order.Ring.Nat
import Mathlib.Data.List.Basic

namespace RepoWitness

/-!
# Runs of labelled transition systems

Finite runs, the invariant rules, and a rule for obligations that are handed
over: an obligation held in one form until some opening label, and in another
form until a closing label that follows an opening one.
-/

inductive Run {State Label : Type} (step : State → Label → State → Prop) :
    State → List Label → State → Prop where
  | done (state : State) : Run step state [] state
  | more {initial middle final : State} {label : Label} {labels : List Label}
      (first : step initial label middle)
      (later : Run step middle labels final) :
      Run step initial (label :: labels) final

/-- Some label that opens is followed by one that closes. -/
def ClosedAfterOpened {Label : Type} (opens closes : Label → Prop) (labels : List Label) : Prop :=
  ∃ earlier opening between closing later,
    labels = earlier ++ opening :: between ++ closing :: later ∧ opens opening ∧ closes closing

namespace Run

variable {State Label : Type} {step : State → Label → State → Prop} {initial final : State}
  {labels : List Label}

variable {earlier later : List Label} {closes : Label → Prop}

/-- A run over joined labels passes through a state between them. -/
theorem split (run : Run step initial (earlier ++ later) final) :
    ∃ middle, Run step initial earlier middle ∧ Run step middle later final := by
  induction earlier generalizing initial with
  | nil => exact ⟨initial, .done initial, run⟩
  | cons label labels hypothesis =>
    cases run with
    | more first rest =>
      obtain ⟨middle, front, back⟩ := hypothesis rest
      exact ⟨middle, .more first front, back⟩

/-- A run goes on where another ends. -/
theorem append {middle : State}
    (front : Run step initial earlier middle) (back : Run step middle later final) :
    Run step initial (earlier ++ later) final := by
  induction front with
  | done state => exact back
  | more first _ hypothesis => exact .more first (hypothesis back)

theorem invariant {holds : State → Prop}
    (preserved : ∀ before label after, step before label after → holds before → holds after)
    (run : Run step initial labels final) (initially : holds initial) :
    holds final := by
  induction run with
  | done state => exact initially
  | more first later hypothesis =>
    exact hypothesis (preserved _ _ _ first initially)

/-- The run takes a step of the given kind. -/
def Takes (step : State → Label → State → Prop) (initial : State) (labels : List Label)
    (final : State) (kind : State → Label → State → Prop) : Prop :=
  ∃ front label back before after, labels = front ++ label :: back ∧
    Run step initial front before ∧ step before label after ∧ Run step after back final ∧
      kind before label after

/-- What every step but those of one kind preserves holds until such a step. -/
theorem invariant_until {holds : State → Prop} {kind : State → Label → State → Prop}
    (preserved : ∀ before label after, step before label after → holds before →
      holds after ∨ kind before label after)
    (run : Run step initial labels final) (initially : holds initial) :
    holds final ∨ Takes step initial labels final kind := by
  induction run with
  | done state => exact .inl initially
  | more first later hypothesis =>
    rcases preserved _ _ _ first initially with kept | ended
    · rcases hypothesis kept with kept | ⟨front, label, back, before, after, rfl, run, rest⟩
      · exact .inl kept
      · exact .inr ⟨_ :: front, label, back, before, after, rfl, .more first run, rest⟩
    · exact .inr ⟨[], _, _, _, _, rfl, .done _, first, later, ended⟩

theorem invariant_unless {holds : State → Prop}
    (preserved :
      ∀ before label after, step before label after → holds before → holds after ∨ closes label)
    (run : Run step initial labels final) (unclosed : ∀ label ∈ labels, ¬ closes label)
    (initially : holds initial) :
    holds final := by
  induction run with
  | done state => exact initially
  | @more before middle final label labels first later hypothesis =>
    rcases preserved _ _ _ first initially with kept | closed
    · exact
        hypothesis (fun other member => unclosed other (List.mem_cons_of_mem _ member))
          kept
    · exact absurd closed (unclosed label List.mem_cons_self)

/--
An obligation kept until an opening label, and from then on until a closing
label, is still held after a run in which no closing label follows an opening
one.
-/
theorem held_until {unopened opened : State → Prop} {opens : Label → Prop}
    (beforeOpening : ∀ before label after,
        step before label after → unopened before → unopened after ∨ (opens label ∧ opened after))
    (afterOpening :
      ∀ before label after, step before label after → opened before → opened after ∨ closes label)
    (run : Run step initial labels final) (unanswered : ¬ ClosedAfterOpened opens closes labels)
    (initially : unopened initial) :
    unopened final ∨ opened final := by
  induction run with
  | done state => exact .inl initially
  | @more before middle final label labels first later hypothesis =>
    rcases beforeOpening _ _ _ first initially with kept | ⟨opening, handedOver⟩
    · refine hypothesis ?_ kept
      rintro ⟨earlier, opening, between, closing, rest, rfl, facts⟩
      exact unanswered ⟨label :: earlier, opening, between, closing, rest, rfl, facts⟩
    · refine .inr (later.invariant_unless afterOpening ?_ handedOver)
      intro closing member closed
      obtain ⟨between, rest, rfl⟩ := List.append_of_mem member
      exact unanswered ⟨[], label, between, closing, rest, rfl, opening, closed⟩

end Run

/-! ## What every continuation reaches -/

/-- Every way to go on from a state reaches the goal. -/
inductive Inevitable {State : Type} (step : State → State → Prop) (goal : State → Prop) :
    State → Prop where
  | now {state : State} (reached : goal state) : Inevitable step goal state
  | later {state : State} (onward : ∃ next, step state next)
      (all : ∀ next, step state next → Inevitable step goal next) :
      Inevitable step goal state

namespace Inevitable

variable {State : Type} {step : State → State → Prop} {goal : State → Prop} {state next : State}

theorem of_step (inevitable : Inevitable step goal state) (pending : ¬ goal state)
    (taken : step state next) :
    Inevitable step goal next := by
  cases inevitable with
  | now reached => exact absurd reached pending
  | later _ all => exact all next taken

theorem not_of_stuck (pending : ¬ goal state) (stuck : ∀ next, ¬ step state next) :
    ¬ Inevitable step goal state := by
  intro inevitable
  cases inevitable with
  | now reached => exact pending reached
  | later onward _ =>
    obtain ⟨next, taken⟩ := onward
    exact stuck next taken

/-- Where there is one way on, the goal is reached from there or not at all. -/
theorem iff_of_determined (pending : ¬ goal state) (taken : step state next)
    (determined : ∀ other, step state other → other = next) :
    Inevitable step goal state ↔ Inevitable step goal next := by
  constructor
  · intro inevitable
    exact inevitable.of_step pending taken
  · intro inevitable
    refine .later ⟨next, taken⟩ fun other takenOther => ?_
    rw [determined other takenOther]
    exact inevitable

end Inevitable

end RepoWitness
