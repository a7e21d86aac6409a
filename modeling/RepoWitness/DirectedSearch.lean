import Mathlib.Algebra.Order.Ring.Nat
import Mathlib.Data.Nat.Find
import Mathlib.Data.List.Basic

namespace RepoWitness

/-!
# Breadth-first levels of a directed multigraph

A search problem fixes the edges that may be followed, the nodes the search
starts from and the nodes it must not enter.  This module relates walk lengths
to breadth-first levels: a level is determined by the previous one, and an
empty level ends the search.
-/

structure SearchProblem (Node Edge : Type) where
  origin : Edge → Node
  neighbor : Edge → Node
  follows : Edge → Prop
  source : Node → Prop
  blocked : Node → Prop

namespace SearchProblem

variable {Node Edge : Type} (problem : SearchProblem Node Edge)

/-- Some walk of exactly this length, avoiding blocked nodes, ends here. -/
inductive ReachesIn : Nat → Node → Prop where
  | source {node : Node} (starts : problem.source node) (enters : ¬ problem.blocked node) :
      ReachesIn 0 node
  | step {length : Nat} {edge : Edge} (walked : ReachesIn length (problem.origin edge))
      (followed : problem.follows edge)
      (enters : ¬ problem.blocked (problem.neighbor edge)) :
      ReachesIn (length + 1) (problem.neighbor edge)

/-- Some walk ends here. -/
def Reaches (node : Node) : Prop := ∃ length, problem.ReachesIn length node

/-- Some walk of at most this length ends here. -/
def Within (bound : Nat) (node : Node) : Prop := ∃ length ≤ bound, problem.ReachesIn length node

/-- The breadth-first distance of a node. -/
def AtDistance (distance : Nat) (node : Node) : Prop :=
  problem.ReachesIn distance node ∧ ∀ shorter < distance, ¬ problem.ReachesIn shorter node

variable {problem}

variable {length : Nat} {node : Node} {distance bound : Nat}

theorem ReachesIn.not_blocked (reached : problem.ReachesIn length node) :
    ¬ problem.blocked node := by
  cases reached with
  | source starts enters => exact enters
  | step walked followed enters => exact enters

theorem AtDistance.unique {first second : Nat}
    (atFirst : problem.AtDistance first node) (atSecond : problem.AtDistance second node) :
    first = second := by
  rcases Nat.lt_trichotomy first second with before | same | after
  · exact absurd atFirst.1 (atSecond.2 first before)
  · exact same
  · exact absurd atSecond.1 (atFirst.2 second after)

/-- Walking back along a walk of another search leads to one of the nodes that one starts from. -/
theorem ReachesIn.reverse {other : SearchProblem Node Edge} {walked : Nat}
    (reached : problem.ReachesIn length node) (came : other.ReachesIn walked node)
    (follows : ∀ edge, problem.follows edge → other.follows edge)
    (origin : other.origin = problem.neighbor) (neighbor : other.neighbor = problem.origin)
    (unblocked : ∀ node, ¬ other.blocked node) :
    ∃ start, problem.source start ∧ other.ReachesIn (walked + length) start := by
  induction reached generalizing walked with
  | source starts _ => exact ⟨_, starts, came⟩
  | @step length edge _ followed _ hypothesis =>
    have back := ReachesIn.step (origin ▸ came) (follows edge followed) (unblocked _)
    obtain ⟨start, starts, arrived⟩ := hypothesis (neighbor ▸ back)
    exact ⟨start, starts, by rwa [Nat.add_assoc, Nat.add_comm 1] at arrived⟩

/-- A reached node has a distance no longer than the walk. -/
theorem ReachesIn.exists_atDistance (reached : problem.ReachesIn length node) :
    ∃ distance ≤ length, problem.AtDistance distance node := by
  classical
  have witness : ∃ length, problem.ReachesIn length node := ⟨length, reached⟩
  refine ⟨Nat.find witness, Nat.find_min' witness reached, Nat.find_spec witness, ?_⟩
  intro shorter before
  exact Nat.find_min witness before

theorem reaches_iff_exists_atDistance :
    problem.Reaches node ↔ ∃ distance, problem.AtDistance distance node := by
  constructor
  · rintro ⟨length, reached⟩
    obtain ⟨distance, _, least⟩ := reached.exists_atDistance
    exact ⟨distance, least⟩
  · rintro ⟨distance, least⟩
    exact ⟨distance, least.1⟩

theorem within_zero_iff : problem.Within 0 node ↔ problem.source node ∧ ¬ problem.blocked node := by
  constructor
  · rintro ⟨length, bounded, reached⟩
    obtain rfl : length = 0 := Nat.le_zero.mp bounded
    cases reached with
    | source starts enters => exact ⟨starts, enters⟩
  · rintro ⟨starts, enters⟩
    exact ⟨0, Nat.le_refl 0, .source starts enters⟩

theorem atDistance_zero_iff :
    problem.AtDistance 0 node ↔ problem.source node ∧ ¬ problem.blocked node := by
  constructor
  · rintro ⟨reached, _⟩
    exact within_zero_iff.mp ⟨0, Nat.le_refl 0, reached⟩
  · rintro ⟨starts, enters⟩
    exact ⟨.source starts enters, fun _ before => by omega⟩

/-- A node of the next level is a fresh neighbor of this level. -/
theorem atDistance_succ_iff : problem.AtDistance (distance + 1) node ↔
      ¬ problem.blocked node ∧
        ¬ problem.Within distance node ∧
          ∃ edge, problem.follows edge ∧
              problem.AtDistance distance (problem.origin edge) ∧ problem.neighbor edge = node := by
  constructor
  · rintro ⟨reached, least⟩
    refine ⟨reached.not_blocked, ?_, ?_⟩
    · rintro ⟨length, bounded, earlier⟩
      exact least length (Nat.lt_succ_of_le bounded) earlier
    · cases reached with
      | @step _ edge walked followed enters =>
        refine ⟨edge, followed, ⟨walked, ?_⟩, rfl⟩
        intro shorter before earlier
        exact least (shorter + 1) (Nat.succ_lt_succ before) (.step earlier followed enters)
  · rintro ⟨enters, fresh, edge, followed, ⟨walked, _⟩, rfl⟩
    refine ⟨.step walked followed enters, ?_⟩
    intro shorter before earlier
    exact fresh ⟨shorter, Nat.le_of_lt_succ before, earlier⟩

/-- What is reached within one more step is old or on the next level. -/
theorem within_succ_iff : problem.Within (bound + 1) node ↔
      problem.Within bound node ∨ problem.AtDistance (bound + 1) node := by
  constructor
  · rintro ⟨length, bounded, reached⟩
    obtain ⟨distance, short, least⟩ := reached.exists_atDistance
    rcases Nat.lt_or_ge bound distance with beyond | inside
    · obtain rfl : distance = bound + 1 := by omega
      exact .inr least
    · exact .inl ⟨distance, inside, least.1⟩
  · rintro (⟨length, bounded, reached⟩ | least)
    · exact ⟨length, Nat.le_succ_of_le bounded, reached⟩
    · exact ⟨bound + 1, Nat.le_refl _, least.1⟩

/-- No level follows an empty one. -/
theorem not_atDistance_of_empty
    (empty : ∀ node, ¬ problem.AtDistance distance node) {later : Nat} (after : distance ≤ later)
    (node : Node) :
    ¬ problem.AtDistance later node := by
  induction after generalizing node with
  | refl => exact empty node
  | step _ hypothesis =>
    intro least
    obtain ⟨_, _, edge, _, earlier, _⟩ := atDistance_succ_iff.mp least
    exact hypothesis (problem.origin edge) earlier

/-- A level that no followed edge leaves is the last one. -/
theorem not_atDistance_succ_of_no_edge
    (noEdge : ∀ edge, problem.follows edge → ¬ problem.AtDistance distance (problem.origin edge))
    (node : Node) :
    ¬ problem.AtDistance (distance + 1) node := by
  intro least
  obtain ⟨_, _, edge, followed, earlier, _⟩ := atDistance_succ_iff.mp least
  exact noEdge edge followed earlier

/-- When the next level is empty, everything reached has been reached. -/
theorem reaches_iff_within_of_empty (empty : ∀ node, ¬ problem.AtDistance (bound + 1) node) :
    problem.Reaches node ↔ problem.Within bound node := by
  constructor
  · rintro ⟨length, reached⟩
    obtain ⟨distance, _, least⟩ := reached.exists_atDistance
    rcases Nat.lt_or_ge bound distance with beyond | inside
    · exact absurd least (not_atDistance_of_empty empty beyond node)
    · exact ⟨distance, inside, least.1⟩
  · rintro ⟨length, _, reached⟩
    exact ⟨length, reached⟩

end SearchProblem

/--
A walk given by its list of edges: it begins with an edge of the given kind,
every edge is followed, each starts where the previous one ended, and the
second index is its last edge.
-/
inductive EdgeWalk {Node Edge : Type} (origin neighbor : Edge → Node)
    (follows begins : Edge → Prop) :
    List Edge → Edge → Prop where
  | single {edge : Edge} (followed : follows edge) (first : begins edge) :
      EdgeWalk origin neighbor follows begins [edge] edge
  | extend {walk : List Edge} {last edge : Edge}
      (walked : EdgeWalk origin neighbor follows begins walk last)
      (followed : follows edge)
      (joined : neighbor last = origin edge) :
      EdgeWalk origin neighbor follows begins (walk ++ [edge]) edge

end RepoWitness
