import RepoWitness.MemoryProjectValidity

namespace RepoWitness

/-!
# Validity in a shallow repository

Git answers an ancestry query from the commits and parents it can see.  In a
shallow repository the boundary commits appear without parents, so that a commit
present in the object store may be an ancestor that no visible path reaches.
The exit code for such a commit is the one for a commit that is no ancestor.
-/

/-- Commit objects and the parents that are visible of each. -/
structure CommitGraph where
  commits : Set MemoryCommitId
  parent : MemoryCommitId → MemoryCommitId → Prop
  acyclic : ∀ commit, ¬ Relation.TransGen parent commit commit

namespace CommitGraph

/-- A path of parents leads from the descendant to the ancestor. -/
def Reaches (graph : CommitGraph) (descendant ancestor : MemoryCommitId) : Prop :=
  Relation.ReflTransGen graph.parent descendant ancestor

/-- Both commit objects can be opened. -/
def Knows (graph : CommitGraph) (ancestor descendant : MemoryCommitId) : Prop :=
  ancestor ∈ graph.commits ∧ descendant ∈ graph.commits

/--
The visible part of a graph: the present commits, with the parents of those
that are not on the shallow boundary.
-/
def shallow (graph : CommitGraph) (present boundary : Set MemoryCommitId) : CommitGraph where
  commits := graph.commits ∩ present
  parent child ancestor :=
    graph.parent child ancestor ∧ child ∉ boundary ∧ child ∈ present ∧ ancestor ∈ present
  acyclic commit cycle :=
    graph.acyclic commit (Relation.TransGen.mono (fun _ _ visible => visible.1) _ _ cycle)

theorem Reaches.of_shallow {graph : CommitGraph} {present boundary : Set MemoryCommitId}
    {descendant ancestor : MemoryCommitId}
    (reaches : (graph.shallow present boundary).Reaches descendant ancestor) :
    graph.Reaches descendant ancestor :=
  Relation.ReflTransGen.mono (fun _ _ visible => visible.1) _ _ reaches

end CommitGraph

/--
The command exits with 0 or 1 by reachability when it can open both commits and
with another code, or none, when it cannot.
-/
structure AnswersFrom (graph : CommitGraph) (queries : GitMemoryQueries) : Prop where
  silent : ∀ ancestor descendant code output,
      queries.capture ancestor descendant = some (code, output) → output = []
  exitsZero : ∀ ancestor descendant code output,
      queries.capture ancestor descendant = some (code, output) →
        (code = some 0 ↔ graph.Knows ancestor descendant ∧ graph.Reaches descendant ancestor)
  exitsOne : ∀ ancestor descendant code output,
      queries.capture ancestor descendant = some (code, output) →
        (code = some 1 ↔ graph.Knows ancestor descendant ∧ ¬ graph.Reaches descendant ancestor)

/-- The query is about known commits of one format and gets an answer. -/
def Answered (graph : CommitGraph) (queries : GitMemoryQueries)
    (ancestor descendant : MemoryCommitId) : Prop :=
  queries.Comparable ancestor descendant ∧
    (queries.capture ancestor descendant).isSome = true ∧
    graph.Knows ancestor descendant

section Answers

variable {graph : CommitGraph} {queries : GitMemoryQueries} {ancestor descendant : MemoryCommitId}

theorem isAncestor_iff (answers : AnswersFrom graph queries) :
    (queries.isAncestor ancestor descendant = .ancestor ↔
        Answered graph queries ancestor descendant ∧ graph.Reaches descendant ancestor) ∧
      (queries.isAncestor ancestor descendant = .notAncestor ↔
        Answered graph queries ancestor descendant ∧ ¬ graph.Reaches descendant ancestor) := by
  unfold GitMemoryQueries.isAncestor Answered
  by_cases comparable : queries.Comparable ancestor descendant
  · cases captured : queries.capture ancestor descendant with
    | none => simp [comparable]
    | some result =>
      obtain ⟨code, output⟩ := result
      have silent := answers.silent _ _ _ _ captured
      have exitsZero := answers.exitsZero _ _ _ _ captured
      have exitsOne := answers.exitsOne _ _ _ _ captured
      subst silent
      simp only [comparable, if_true, ne_eq, not_true_eq_false,
        if_false, Option.isSome_some, true_and, ← exitsZero, ← exitsOne]
      by_cases zero : code = some 0
      · simp [zero]
      · by_cases one : code = some 1
        · simp [one]
        · simp [zero, one]
  · simp [comparable]

end Answers

open Classical in
/-- The adapter whose command sees exactly the given graph. -/
noncomputable def CommitGraph.queries (graph : CommitGraph)
    (format : Option MemoryObjectFormat) : GitMemoryQueries where
  objectFormat := format
  capture ancestor descendant := some (
      if graph.Knows ancestor descendant then
        if graph.Reaches descendant ancestor then some 0 else some 1
      else
        some 128,
      [])

theorem CommitGraph.queries_answersFrom (graph : CommitGraph)
    (format : Option MemoryObjectFormat) :
    AnswersFrom graph (graph.queries format) where
  silent ancestor descendant code output captured := by
    cases captured
    rfl
  exitsZero ancestor descendant code output captured := by
    cases captured
    by_cases known : graph.Knows ancestor descendant <;>
      by_cases reached : graph.Reaches descendant ancestor <;>
      simp [known, reached]
  exitsOne ancestor descendant code output captured := by
    cases captured
    by_cases known : graph.Knows ancestor descendant <;>
      by_cases reached : graph.Reaches descendant ancestor <;>
      simp [known, reached]

/-! ## The verdict from two views -/

section Views

variable {graph visible : CommitGraph} {present boundary : Set MemoryCommitId}
  {queries : GitMemoryQueries} {sets : MemoryCommitSets} {commit descendant : MemoryCommitId}

/-- What the answers of the adapter make of the validity. -/
def GitMemoryQueries.verdict (queries : GitMemoryQueries) (sets : MemoryCommitSets)
    (descendant : MemoryCommitId) : MemoryProjectValidity :=
  commitVerdict (fun commit => queries.isAncestor commit descendant) sets

/--
Every introduction is answered as no ancestor although one of them is, and no
invalidation is an ancestor.
-/
def GuessesInapplicable (graph visible : CommitGraph) (queries : GitMemoryQueries)
    (sets : MemoryCommitSets) (descendant : MemoryCommitId) : Prop :=
  (∀ commit ∈ sets.introducedBy.items,
    Answered visible queries commit descendant ∧ ¬ visible.Reaches descendant commit) ∧
  (∃ commit ∈ sets.introducedBy.items, graph.Reaches descendant commit) ∧
  ∀ commit ∈ sets.invalidatedBy.items, ¬ (queries.Comparable commit descendant ∧
      graph.Knows commit descendant ∧ graph.Reaches descendant commit)

/--
Every invalidation is answered as no ancestor although one of them is, and some
introduction is a visible ancestor.
-/
def GuessesValid (graph visible : CommitGraph) (queries : GitMemoryQueries)
    (sets : MemoryCommitSets) (descendant : MemoryCommitId) : Prop :=
  (∃ commit ∈ sets.introducedBy.items,
    Answered visible queries commit descendant ∧ visible.Reaches descendant commit) ∧
  (∀ commit ∈ sets.invalidatedBy.items,
    Answered visible queries commit descendant ∧ ¬ visible.Reaches descendant commit) ∧
  ∃ commit ∈ sets.invalidatedBy.items, graph.Reaches descendant commit

theorem answered_queries_iff :
    Answered graph (graph.queries queries.objectFormat) commit descendant ↔
      queries.Comparable commit descendant ∧ graph.Knows commit descendant :=
  and_congr_right fun _ => and_iff_right rfl

/-- A visible commit is known to the complete history. -/
theorem Answered.inFull (cut : graph.shallow present boundary = visible)
    (answered : Answered visible queries commit descendant) :
    Answered graph (graph.queries queries.objectFormat) commit descendant := by
  subst cut
  exact answered_queries_iff.mpr ⟨answered.1, answered.2.2.1.1, answered.2.2.2.1⟩

theorem CommitGraph.Reaches.inFull (cut : graph.shallow present boundary = visible)
    (reaches : visible.Reaches descendant commit) : graph.Reaches descendant commit := by
  subst cut
  exact reaches.of_shallow

section Cut

variable (answers : AnswersFrom visible queries) (cut : graph.shallow present boundary = visible)

include answers cut

/-- A definite verdict that is no guess is the one of the complete history. -/
theorem verdict_eq_of_unguessed
    (notInapplicable : ¬ GuessesInapplicable graph visible queries sets descendant)
    (notValid : ¬ GuessesValid graph visible queries sets descendant)
    (definite : queries.verdict sets descendant ≠ .indeterminate) :
    (graph.queries queries.objectFormat).verdict sets descendant =
      queries.verdict sets descendant := by
  cases seen : queries.verdict sets descendant with
  | indeterminate => exact absurd seen definite
  | valid =>
    rw [GitMemoryQueries.verdict, commitVerdict_eq_valid_iff] at seen ⊢
    simp only [isAncestor_iff answers] at seen
    obtain ⟨⟨commit, isIntroduced, answered, reached⟩, invalidated⟩ := seen
    simp only [isAncestor_iff (graph.queries_answersFrom _)]
    refine ⟨⟨commit, isIntroduced, answered.inFull cut, reached.inFull cut⟩, ?_⟩
    intro other isInvalidated
    refine ⟨(invalidated other isInvalidated).1.inFull cut, ?_⟩
    intro hidden
    exact notValid
      ⟨⟨commit, isIntroduced, answered, reached⟩, invalidated, other, isInvalidated, hidden⟩
  | notApplicable =>
    rw [GitMemoryQueries.verdict, commitVerdict_eq_notApplicable_iff] at seen ⊢
    simp only [isAncestor_iff answers] at seen
    simp only [isAncestor_iff (graph.queries_answersFrom _), answered_queries_iff]
    rcases seen with ⟨commit, isInvalidated, answered, reached⟩ | introduced
    · exact Or.inl ⟨commit, isInvalidated,
        answered_queries_iff.mp (answered.inFull cut),
        reached.inFull cut⟩
    · by_cases hidden : ∃ commit ∈ sets.introducedBy.items, graph.Reaches descendant commit
      · refine Or.inl ?_
        by_contra uninvalidated
        refine notInapplicable ⟨introduced, hidden, ?_⟩
        rintro commit isInvalidated ⟨comparable, known, reached⟩
        exact uninvalidated ⟨commit, isInvalidated, ⟨comparable, known⟩, reached⟩
      · refine Or.inr fun commit isIntroduced => ?_
        refine ⟨answered_queries_iff.mp ((introduced commit isIntroduced).1.inFull cut), ?_⟩
        exact fun reached => hidden ⟨commit, isIntroduced, reached⟩

end Cut

section Confirmed

variable (answers : AnswersFrom visible queries)
  (confirmed : queries.verdict sets descendant ≠ .indeterminate →
      (graph.queries queries.objectFormat).verdict sets descendant =
        queries.verdict sets descendant)

include answers confirmed

theorem not_guessesInapplicable_of_confirmed :
    ¬ GuessesInapplicable graph visible queries sets descendant := by
  rintro ⟨introduced, ⟨hidden, isHidden, reached⟩, uninvalidated⟩
  have seen : queries.verdict sets descendant = .notApplicable := by
    rw [GitMemoryQueries.verdict, commitVerdict_eq_notApplicable_iff]
    simp only [isAncestor_iff answers]
    exact Or.inr introduced
  have full := confirmed (by simp [seen])
  rw [seen, GitMemoryQueries.verdict, commitVerdict_eq_notApplicable_iff] at full
  simp only [isAncestor_iff (graph.queries_answersFrom _), answered_queries_iff] at full
  rcases full with ⟨commit, isInvalidated, known, reaches⟩ | unreached
  · exact uninvalidated commit isInvalidated ⟨known.1, known.2, reaches⟩
  · exact (unreached hidden isHidden).2 reached

theorem not_guessesValid_of_confirmed :
    ¬ GuessesValid graph visible queries sets descendant := by
  rintro ⟨introduced, invalidated, ⟨hidden, isHidden, reached⟩⟩
  have seen : queries.verdict sets descendant = .valid := by
    rw [GitMemoryQueries.verdict, commitVerdict_eq_valid_iff]
    simp only [isAncestor_iff answers]
    exact ⟨introduced, invalidated⟩
  have full := confirmed (by simp [seen])
  rw [seen, GitMemoryQueries.verdict, commitVerdict_eq_valid_iff] at full
  simp only [isAncestor_iff (graph.queries_answersFrom _)] at full
  exact (full.2 hidden isHidden).2 reached

end Confirmed

/--
Whatever complete history the view is a cut of, a definite verdict is the one of
that history; where two such histories disagree, the verdict is indeterminate.
-/
structure NeverGuesses (visible : CommitGraph) (present boundary : Set MemoryCommitId)
    (project : GitMemoryQueries → RevalidationCall (MemoryProjectValidity × GitQueryBudget))
    (queries : GitMemoryQueries) : Prop where
  confirmed : ∀ graph, CommitGraph.shallow graph present boundary = visible →
      ∀ verdict spent, project queries = .ok (verdict, spent) → verdict ≠ .indeterminate →
        ∃ spentInFull,
          project (graph.queries queries.objectFormat) = .ok (verdict, spentInFull)
  undecided :
    ∀ first second, CommitGraph.shallow first present boundary = visible →
      CommitGraph.shallow second present boundary = visible →
        ∀ firstVerdict firstSpent secondVerdict secondSpent,
          project (first.queries queries.objectFormat) = .ok (firstVerdict, firstSpent) →
            project (second.queries queries.objectFormat) = .ok (secondVerdict, secondSpent) →
              firstVerdict ≠ secondVerdict →
                ∃ spent, project queries = .ok (.indeterminate, spent)

end Views

/-! ## A chain of four commits -/

namespace SampleHistory

def chainParent (child ancestor : MemoryCommitId) : Prop :=
  (child, ancestor) ∈ [(commit 3, commit 2), (commit 2, commit 1), (commit 1, commit 0)]

def number : MemoryCommitId → Nat
  | .sha1 digest => digest.toNat
  | .sha256 digest => digest.toNat

theorem number_lt_of_path {child ancestor : MemoryCommitId}
    (path : Relation.TransGen chainParent child ancestor) : number ancestor < number child := by
  have descends : ∀ {child ancestor}, chainParent child ancestor →
      number ancestor < number child := by
    intro child ancestor isParent
    simp only [chainParent, List.mem_cons, Prod.mk.injEq, List.not_mem_nil, or_false] at isParent
    rcases isParent with ⟨rfl, rfl⟩ | ⟨rfl, rfl⟩ | ⟨rfl, rfl⟩ <;> decide
  induction path with
  | single isParent => exact descends isParent
  | tail _ isParent hypothesis => exact (descends isParent).trans hypothesis

def chain : CommitGraph where
  commits := Set.range commit
  parent := chainParent
  acyclic _ cycle := absurd (number_lt_of_path cycle) (Nat.lt_irrefl _)

/-- Cloned at depth 1, with commit 1 fetched for another branch. -/
def tipClone : CommitGraph := chain.shallow {commit 1, commit 3} {commit 3}

/-- Cloned without the oldest commit. -/
def recentClone : CommitGraph := chain.shallow {commit 1, commit 2, commit 3} {commit 1}

def budget : GitQueryBudget := ⟨0, 4096⟩

theorem tipClone_unreached : ¬ tipClone.Reaches (commit 3) (commit 1) := by
  intro reached
  rcases Relation.ReflTransGen.cases_head reached with same | first
  · exact absurd same (by decide)
  · obtain ⟨_, visible, _⟩ := first
    exact visible.2.1 rfl

theorem recentClone_parent :
    recentClone.parent (commit 3) (commit 2) ∧ recentClone.parent (commit 2) (commit 1) := by
  constructor <;>
    exact ⟨by simp [chain, chainParent], by simpa using by decide, by simp, by simp⟩

/-- No complete history leads from commit 2 to its visible child. -/
theorem unreached_of_recentClone {graph : CommitGraph}
    (cut : graph.shallow {commit 1, commit 2, commit 3} {commit 1} = recentClone) :
    ¬ graph.Reaches (commit 2) (commit 3) := by
  intro reached
  have visible := recentClone_parent.1
  rw [← cut] at visible
  exact graph.acyclic _ (Relation.TransGen.tail' reached visible.1)

end SampleHistory

open SampleHistory

end RepoWitness
