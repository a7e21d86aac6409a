import Mathlib.Logic.Relation
import RepoWitness.MemoryHeadSelection
import RepoWitness.PolledComputation
import RepoWitness.RustCorrespondence

namespace RepoWitness

/-!
# Project validity over a commit graph

The validity of one memory version at a concrete target: the ancestry queries
that revalidation sends to Git, their aggregation per commit set, and the
verdict.  Git itself is described by the graph it can see; a shallow cut of a
graph hides the parents of its boundary commits.
-/

inductive MemoryAncestryOutcome where
  | ancestor
  | notAncestor
  | indeterminate
  deriving DecidableEq

/-- One attributed ancestry outcome over exact commit identities. -/
structure MemoryAncestryCheck where
  ancestor : MemoryCommitId
  descendant : MemoryCommitId
  outcome : MemoryAncestryOutcome
  deriving DecidableEq

/-- Concrete source target against which validity is evaluated. -/
inductive MemoryRevalidationTarget where
  | git (commit : MemoryCommitId)
  | worktree (sourceSnapshot : Bytes32) (head : Option MemoryCommitId)
  deriving DecidableEq

def MemoryRevalidationTarget.ancestryTarget : MemoryRevalidationTarget → Option MemoryCommitId
  | git commit => some commit
  | worktree _ head => head

inductive MemoryProjectValidity where
  | valid
  | notApplicable
  | indeterminate
  deriving DecidableEq

inductive MemoryValidityEvaluationError where
  | tooManyChecks
  | invalidChecks
  deriving DecidableEq

abbrev ValidityCall := Except (CallFailure MemoryValidityEvaluationError)

def maxMemoryAncestryChecks : Nat := 2 * maxMemoryCommits

inductive SideOutcome where
  | reachable
  | noneReachable
  | indeterminate
  deriving DecidableEq

/-- The loop of `aggregate_side`; a commit without a check panics. -/
def aggregateSideFrom (checks : List MemoryAncestryCheck) :
    Bool → List MemoryCommitId → ValidityCall SideOutcome
  | indeterminate, [] => .ok (if indeterminate then .indeterminate else .noneReachable)
  | indeterminate, commit :: rest =>
    match checks.find? (fun check => check.ancestor == commit) with
    | none => .error .panicked
    | some check =>
      match check.outcome with
      | .ancestor => .ok .reachable
      | .notAncestor => aggregateSideFrom checks indeterminate rest
      | .indeterminate => aggregateSideFrom checks true rest

def aggregateSide (commits : List MemoryCommitId) (checks : List MemoryAncestryCheck) :
    ValidityCall SideOutcome := aggregateSideFrom checks false commits

/-- The checks are complete, distinct and about one descendant. -/
def checksValid (introducedBy invalidatedBy : List MemoryCommitId) (descendant : MemoryCommitId)
    (checks : List MemoryAncestryCheck) : Bool :=
  checks.length == introducedBy.length + invalidatedBy.length &&
    checks.all (fun check => check.descendant == descendant) &&
    decide (checks.map (·.ancestor)).Nodup &&
    (introducedBy ++ invalidatedBy).all (fun commit =>
      checks.any (fun check => check.ancestor == commit))

def combineSides (introduction invalidation : SideOutcome) : ValidityCall MemoryProjectValidity :=
  if invalidation = .reachable then
    .ok .notApplicable
  else if introduction = .noneReachable then
    .ok .notApplicable
  else if introduction = .indeterminate then
    .ok .indeterminate
  else
    match invalidation with
    | .indeterminate => .ok .indeterminate
    | .noneReachable => .ok .valid
    | .reachable => .error .panicked

def evaluateCommitSets (sets : MemoryCommitSets) (checks : List MemoryAncestryCheck) :
    ValidityCall MemoryProjectValidity := do
  let introduction ← aggregateSide sets.introducedBy.items checks
  let invalidation ← aggregateSide sets.invalidatedBy.items checks
  combineSides introduction invalidation

def worktreeValidity (sourceSnapshot : Bytes32) : MemoryRevalidationTarget → MemoryProjectValidity
  | .worktree targetSnapshot _ => if sourceSnapshot = targetSnapshot then .valid else .notApplicable
  | .git _ => .notApplicable

def evaluateMemoryProjectValidity (validity : MemoryValidity) (target : MemoryRevalidationTarget)
    (checks : List MemoryAncestryCheck) :
    ValidityCall MemoryProjectValidity :=
  if maxMemoryAncestryChecks < checks.length then
    .error (.returned .tooManyChecks)
  else
    match validity with
    | .worktree sourceSnapshot =>
      if checks = [] then
        .ok (worktreeValidity sourceSnapshot target)
      else
        .error (.returned .invalidChecks)
    | .commits sets =>
      match target.ancestryTarget with
      | none =>
        if checks = [] then
          .ok .indeterminate
        else
          .error (.returned .invalidChecks)
      | some descendant =>
        if checksValid sets.introducedBy.items sets.invalidatedBy.items descendant checks then
          evaluateCommitSets sets checks
        else
          .error (.returned .invalidChecks)

/-! ## Queries -/

/--
A sanitized Git adapter over one worktree.

`capture` is what `git merge-base --is-ancestor` left behind: nothing when its
bounds were exceeded, otherwise an exit code, if it exited, and its output.
-/
structure GitMemoryQueries where
  objectFormat : Option MemoryObjectFormat
  capture : MemoryCommitId → MemoryCommitId → Option (Option Int × List UInt8)

namespace GitMemoryQueries

/-- The two commits have the object format of the repository. -/
def Comparable (queries : GitMemoryQueries) (ancestor target : MemoryCommitId) : Prop :=
  queries.objectFormat = some ancestor.objectFormat ∧ ancestor.objectFormat = target.objectFormat

instance (queries : GitMemoryQueries) (ancestor target : MemoryCommitId) :
    Decidable (queries.Comparable ancestor target) := inferInstanceAs (Decidable (_ ∧ _))

def isAncestor (queries : GitMemoryQueries) (ancestor target : MemoryCommitId) :
    MemoryAncestryOutcome :=
  if queries.Comparable ancestor target then
    match queries.capture ancestor target with
    | none => .indeterminate
    | some (code, output) =>
      if output ≠ [] then
        .indeterminate
      else if code = some 0 then
        .ancestor
      else if code = some 1 then
        .notAncestor
      else
        .indeterminate
  else
    .indeterminate

end GitMemoryQueries

structure GitQueryBudget where
  used : Nat
  limit : Nat
  deriving DecidableEq

inductive MemoryStoreError where
  | invalidMemoryProjection
  | memoryProjectionLimitExceeded
  | memoryRecallOutputLimitExceeded
  | memoryRecallScanLimitExceeded
  | countNotRepresentable
  | databaseOperationFailed
  | integrityCheckFailed
  deriving DecidableEq

/-- Failures of one revalidation over a store and a worktree that answer. -/
inductive LocalMemoryRevalidationError where
  | journalIntegrity
  | countNotRepresentable
  | gitQueryLimitExceeded
  | headSelection (source : MemoryProjectionError)
  | validityEvaluation (source : MemoryValidityEvaluationError)
  | projectionPolicy (source : MemoryProjectionError)
  | candidateLoad (source : MemoryStoreError)
  | correspondence (source : RustCorrespondenceError)
  | projectionPreparation (source : MemoryStoreError)
  | publication (source : MemoryStoreError)
  deriving DecidableEq

abbrev RevalidationCall := Except (CallFailure LocalMemoryRevalidationError)

def attributed {Error Result : Type} (source : Error → LocalMemoryRevalidationError) :
    Except (CallFailure Error) Result → RevalidationCall Result
  | .ok result => .ok result
  | .error .panicked => .error .panicked
  | .error (.returned error) => .error (.returned (source error))

def GitQueryBudget.reserve (budget : GitQueryBudget) : RevalidationCall GitQueryBudget :=
  if budget.used + 1 < 2 ^ 32 ∧ budget.used + 1 ≤ budget.limit then
    .ok { budget with used := budget.used + 1 }
  else
    .error (.returned .gitQueryLimitExceeded)

/-- The query loop over introductions and then invalidations. -/
def ancestryChecks (queries : GitMemoryQueries) (descendant : MemoryCommitId) :
    List MemoryCommitId → GitQueryBudget →
      RevalidationCall (List MemoryAncestryCheck × GitQueryBudget)
  | [], budget => .ok ([], budget)
  | ancestor :: rest, budget => do
    let budget ← budget.reserve
    let outcome := queries.isAncestor ancestor descendant
    let (checks, budget) ← ancestryChecks queries descendant rest budget
    .ok (⟨ancestor, descendant, outcome⟩ :: checks, budget)

/-- The checks one version needs at an optional concrete head. -/
def validityChecks (validity : MemoryValidity) (queries : Option GitMemoryQueries)
    (head : Option MemoryCommitId) (budget : GitQueryBudget) :
    RevalidationCall (List MemoryAncestryCheck × GitQueryBudget) :=
  match validity, head with
  | .commits sets, some descendant =>
    match queries with
    | none => .error (.returned .journalIntegrity)
    | some queries =>
      ancestryChecks queries descendant
        (sets.introducedBy.items ++ sets.invalidatedBy.items) budget
  | _, _ => .ok ([], budget)

def projectValidity (validity : MemoryValidity) (target : MemoryRevalidationTarget)
    (queries : Option GitMemoryQueries) (head : Option MemoryCommitId) (budget : GitQueryBudget) :
    RevalidationCall (MemoryProjectValidity × GitQueryBudget) := do
  let (checks, budget) ← validityChecks validity queries head budget
  let verdict ←
    attributed .validityEvaluation (evaluateMemoryProjectValidity validity target checks)
  .ok (verdict, budget)

/-! ## The verdict as a function of the answers -/

section Verdict

/-- What one side of the validity says under given answers. -/
def sideOutcome (answers : MemoryCommitId → MemoryAncestryOutcome)
    (commits : List MemoryCommitId) : SideOutcome :=
  if commits.any (fun commit => answers commit == .ancestor) then
    .reachable
  else if commits.any (fun commit => answers commit == .indeterminate) then
    .indeterminate
  else
    .noneReachable

/-- The verdict over both sides. -/
def commitVerdict (answers : MemoryCommitId → MemoryAncestryOutcome)
    (sets : MemoryCommitSets) : MemoryProjectValidity :=
  match sideOutcome answers sets.invalidatedBy.items,
      sideOutcome answers sets.introducedBy.items with
  | .reachable, _ => .notApplicable
  | _, .noneReachable => .notApplicable
  | _, .indeterminate => .indeterminate
  | .indeterminate, .reachable => .indeterminate
  | .noneReachable, .reachable => .valid

theorem combineSides_eq (answers : MemoryCommitId → MemoryAncestryOutcome)
    (sets : MemoryCommitSets) :
    combineSides (sideOutcome answers sets.introducedBy.items)
        (sideOutcome answers sets.invalidatedBy.items) =
      .ok (commitVerdict answers sets) := by
  unfold combineSides commitVerdict
  cases sideOutcome answers sets.introducedBy.items <;>
    cases sideOutcome answers sets.invalidatedBy.items <;>
    rfl

variable {answers : MemoryCommitId → MemoryAncestryOutcome} {checks : List MemoryAncestryCheck}

def Answers (answers : MemoryCommitId → MemoryAncestryOutcome) (commits : List MemoryCommitId)
    (checks : List MemoryAncestryCheck) : Prop :=
  ∀ commit ∈ commits, ∃ check,
    checks.find? (fun check => check.ancestor == commit) = some check ∧
      check.outcome = answers commit

variable {commits : List MemoryCommitId}

theorem aggregateSideFrom_eq (answered : Answers answers commits checks) (indeterminate : Bool) :
    aggregateSideFrom checks indeterminate commits =
      .ok (if commits.any (fun commit => answers commit == .ancestor) then
          .reachable
        else if indeterminate || commits.any (fun commit => answers commit == .indeterminate)
        then
          .indeterminate
        else
          .noneReachable) := by
  induction commits generalizing indeterminate with
  | nil => simp [aggregateSideFrom]
  | cons commit rest hypothesis =>
    obtain ⟨check, found, outcome⟩ := answered commit List.mem_cons_self
    have restAnswered : Answers answers rest checks :=
      fun other isOther => answered other (List.mem_cons_of_mem _ isOther)
    rw [aggregateSideFrom, found]
    cases answer : check.outcome with
    | ancestor => simp [← outcome, answer]
    | notAncestor =>
      simp only [answer]
      rw [hypothesis restAnswered]
      simp [← outcome, answer]
    | indeterminate =>
      simp only [answer]
      rw [hypothesis restAnswered]
      simp [← outcome, answer]

theorem aggregateSide_eq (answered : Answers answers commits checks) :
    aggregateSide commits checks = .ok (sideOutcome answers commits) := by
  rw [aggregateSide, aggregateSideFrom_eq answered]
  simp [sideOutcome]

theorem evaluateCommitSets_eq {sets : MemoryCommitSets}
    (answered : Answers answers (sets.introducedBy.items ++ sets.invalidatedBy.items) checks) :
    evaluateCommitSets sets checks = .ok (commitVerdict answers sets) := by
  have introduced : Answers answers sets.introducedBy.items checks :=
    fun commit isCommit => answered commit (List.mem_append_left _ isCommit)
  have invalidated : Answers answers sets.invalidatedBy.items checks :=
    fun commit isCommit => answered commit (List.mem_append_right _ isCommit)
  rw [evaluateCommitSets, aggregateSide_eq introduced, aggregateSide_eq invalidated]
  exact combineSides_eq answers sets

end Verdict

section Sides

variable {answers : MemoryCommitId → MemoryAncestryOutcome} {commits : List MemoryCommitId}
  {sets : MemoryCommitSets}

theorem sideOutcome_eq_reachable_iff : sideOutcome answers commits = .reachable ↔
      ∃ commit ∈ commits, answers commit = .ancestor := by
  unfold sideOutcome
  split
  next some => simpa using some
  next none =>
    refine iff_of_false ?_ (by simpa using none)
    split <;> simp

theorem sideOutcome_eq_noneReachable_iff : sideOutcome answers commits = .noneReachable ↔
      ∀ commit ∈ commits, answers commit = .notAncestor := by
  unfold sideOutcome
  split
  next some =>
    refine iff_of_false (by simp) ?_
    intro all
    obtain ⟨commit, isCommit, reached⟩ := List.any_eq_true.mp some
    simp [all commit isCommit] at reached
  next none =>
    split
    next undecided =>
      refine iff_of_false (by simp) ?_
      intro all
      obtain ⟨commit, isCommit, undecided⟩ := List.any_eq_true.mp undecided
      simp [all commit isCommit] at undecided
    next decided =>
      refine iff_of_true rfl ?_
      intro commit isCommit
      simp only [List.any_eq_true, beq_iff_eq, not_exists, not_and] at none decided
      cases answer : answers commit with
      | ancestor => exact absurd answer (none commit isCommit)
      | notAncestor => rfl
      | indeterminate => exact absurd answer (decided commit isCommit)

theorem commitVerdict_eq_valid_iff : commitVerdict answers sets = .valid ↔
      (∃ commit ∈ sets.introducedBy.items, answers commit = .ancestor) ∧
      ∀ commit ∈ sets.invalidatedBy.items, answers commit = .notAncestor := by
  rw [← sideOutcome_eq_reachable_iff, ← sideOutcome_eq_noneReachable_iff, commitVerdict]
  cases sideOutcome answers sets.introducedBy.items <;>
    cases sideOutcome answers sets.invalidatedBy.items <;>
    simp

theorem commitVerdict_eq_notApplicable_iff : commitVerdict answers sets = .notApplicable ↔
      (∃ commit ∈ sets.invalidatedBy.items, answers commit = .ancestor) ∨
      ∀ commit ∈ sets.introducedBy.items, answers commit = .notAncestor := by
  rw [← sideOutcome_eq_reachable_iff, ← sideOutcome_eq_noneReachable_iff, commitVerdict]
  cases sideOutcome answers sets.introducedBy.items <;>
    cases sideOutcome answers sets.invalidatedBy.items <;>
    simp

end Sides

/-! ## Complete lists of checks -/

/-- One check for each commit of the sets, in any order, all about one descendant. -/
structure CompleteChecks (sets : MemoryCommitSets) (descendant : MemoryCommitId)
    (checks : List MemoryAncestryCheck) : Prop where
  commits :
    (checks.map (·.ancestor)).Perm (sets.introducedBy.items ++ sets.invalidatedBy.items)
  addressed : ∀ check ∈ checks, check.descendant = descendant

namespace CompleteChecks

variable {sets : MemoryCommitSets} {descendant : MemoryCommitId}
  {checks : List MemoryAncestryCheck} {answers : MemoryCommitId → MemoryAncestryOutcome}

section Complete

variable (complete : CompleteChecks sets descendant checks)

include complete

theorem nodup :
    (checks.map (·.ancestor)).Nodup := by
  refine complete.commits.nodup_iff.mpr
    (List.nodup_append.mpr ⟨sets.introducedBy.nodup, sets.invalidatedBy.nodup, ?_⟩)
  rintro first isIntroduced second isInvalidated rfl
  exact sets.disjoint first isIntroduced isInvalidated

theorem exists_check {commit : MemoryCommitId}
    (isCommit : commit ∈ sets.introducedBy.items ++ sets.invalidatedBy.items) :
    ∃ check ∈ checks, check.ancestor = commit :=
  List.mem_map.mp (complete.commits.mem_iff.mpr isCommit)

theorem valid :
    checksValid sets.introducedBy.items sets.invalidatedBy.items descendant checks = true := by
  have counted := complete.commits.length_eq
  rw [List.length_map, List.length_append] at counted
  have addressed : checks.all (fun check => check.descendant == descendant) = true := by
    simpa using complete.addressed
  have covered : (sets.introducedBy.items ++ sets.invalidatedBy.items).all
      (fun commit => checks.any (fun check => check.ancestor == commit)) = true := by
    refine List.all_eq_true.mpr fun commit isCommit => ?_
    obtain ⟨check, isCheck, rfl⟩ := complete.exists_check isCommit
    exact List.any_eq_true.mpr ⟨check, isCheck, beq_self_eq_true _⟩
  rw [checksValid, addressed, covered]
  simp [counted, complete.nodup]

/-- The ancestors are distinct, so a commit finds its own check. -/
theorem find?_eq {check : MemoryAncestryCheck} (isCheck : check ∈ checks) :
    checks.find? (fun other => other.ancestor == check.ancestor) = some check := by
  cases found : checks.find? (fun other => other.ancestor == check.ancestor) with
  | none => exact absurd (List.find?_eq_none.mp found check isCheck) (by simp)
  | some other =>
    have same : other.ancestor = check.ancestor := by simpa using List.find?_some found
    rw [List.inj_on_of_nodup_map complete.nodup (List.mem_of_find?_eq_some found) isCheck same]

theorem evaluate_eq
    {target : MemoryRevalidationTarget} (isTarget : target.ancestryTarget = some descendant)
    (answered : ∀ check ∈ checks, check.outcome = answers check.ancestor) :
    evaluateMemoryProjectValidity (.commits sets) target checks =
      .ok (commitVerdict answers sets) := by
  have few : ¬maxMemoryAncestryChecks < checks.length := by
    have counted := complete.commits.length_eq
    rw [List.length_map, List.length_append] at counted
    have introduced := sets.introducedBounded
    have invalidated := sets.invalidatedBounded
    rw [maxMemoryAncestryChecks]
    omega
  rw [evaluateMemoryProjectValidity, if_neg few]
  simp only [isTarget]
  rw [if_pos complete.valid]
  refine evaluateCommitSets_eq fun commit isCommit => ?_
  obtain ⟨check, isCheck, rfl⟩ := complete.exists_check isCommit
  exact ⟨check, complete.find?_eq isCheck, answered check isCheck⟩

end Complete

end CompleteChecks

/-! ## The checks that revalidation collects -/

section Checks

variable {queries : GitMemoryQueries} {descendant : MemoryCommitId}

/-- The check that answers one query. -/
def checkOf (queries : GitMemoryQueries)
    (descendant ancestor : MemoryCommitId) : MemoryAncestryCheck :=
  ⟨ancestor, descendant, queries.isAncestor ancestor descendant⟩

/-- The budget still covers a number of queries. -/
def GitQueryBudget.Covers (budget : GitQueryBudget) (needed : Nat) : Prop :=
  budget.used + needed < 2 ^ 32 ∧ budget.used + needed ≤ budget.limit

variable {budget : GitQueryBudget} {target : MemoryRevalidationTarget}

theorem ancestryChecks_eq {commits : List MemoryCommitId} (covered : budget.Covers commits.length) :
    ancestryChecks queries descendant commits budget =
      .ok (commits.map (checkOf queries descendant),
        { budget with used := budget.used + commits.length }) := by
  induction commits generalizing budget with
  | nil => rfl
  | cons ancestor rest hypothesis =>
    obtain ⟨representable, within⟩ := covered
    rw [List.length_cons] at representable within
    have reserved : budget.reserve = .ok { budget with used := budget.used + 1 } := by
      rw [GitQueryBudget.reserve, if_pos (by omega)]
    have restCovered :
        GitQueryBudget.Covers { budget with used := budget.used + 1 } rest.length :=
      ⟨by simp only; omega, by simp only; omega⟩
    rw [ancestryChecks, reserved]
    simp only [except_ok_bind]
    rw [hypothesis restCovered]
    simp only [except_ok_bind, List.map_cons, List.length_cons, checkOf,
      Except.ok.injEq, Prod.mk.injEq, GitQueryBudget.mk.injEq,
      and_true, true_and]
    omega

theorem complete_checkOf (sets : MemoryCommitSets) :
    CompleteChecks sets descendant
      ((sets.introducedBy.items ++ sets.invalidatedBy.items).map (checkOf queries descendant)) where
  commits := by
    rw [List.map_map]
    exact .of_eq (List.map_id _)
  addressed := by
    intro check isCheck
    obtain ⟨commit, -, rfl⟩ := List.mem_map.mp isCheck
    rfl

theorem evaluateMemoryProjectValidity_eq (sets : MemoryCommitSets)
    (isTarget : target.ancestryTarget = some descendant) :
    evaluateMemoryProjectValidity (.commits sets) target
        ((sets.introducedBy.items ++ sets.invalidatedBy.items).map (checkOf queries descendant)) =
      .ok (commitVerdict (fun commit => queries.isAncestor commit descendant) sets) := by
  refine (complete_checkOf sets).evaluate_eq isTarget fun check isCheck => ?_
  obtain ⟨commit, -, rfl⟩ := List.mem_map.mp isCheck
  rfl

/-- With queries to spare, the verdict is that of the adapter's answers. -/
theorem projectValidity_commits (sets : MemoryCommitSets)
    (isTarget : target.ancestryTarget = some descendant)
    (covered : budget.Covers (sets.introducedBy.items ++ sets.invalidatedBy.items).length) :
    projectValidity (.commits sets) target (some queries) (some descendant) budget =
      .ok (commitVerdict (fun commit => queries.isAncestor commit descendant) sets,
        { budget with
          used := budget.used +
            (sets.introducedBy.items ++ sets.invalidatedBy.items).length }) := by
  rw [projectValidity, validityChecks, ancestryChecks_eq covered]
  simp only [except_ok_bind]
  rw [evaluateMemoryProjectValidity_eq sets isTarget]
  rfl

end Checks

/-! ## Verdicts under partial answers -/

section Refinement

variable {sets : MemoryCommitSets} {descendant : MemoryCommitId}
  {checks refined : List MemoryAncestryCheck}
  {answers known : MemoryCommitId → MemoryAncestryOutcome}
  {isAncestor : MemoryCommitId → MemoryCommitId → Prop}

/-- The check says what holds of its two commits, or nothing. -/
def MemoryAncestryCheck.Agrees (isAncestor : MemoryCommitId → MemoryCommitId → Prop)
    (check : MemoryAncestryCheck) : Prop :=
  match check.outcome with
  | .ancestor => isAncestor check.ancestor check.descendant
  | .notAncestor => ¬isAncestor check.ancestor check.descendant
  | .indeterminate => True

/-- The second check asks the same question and keeps a definite outcome of the first. -/
def MemoryAncestryCheck.Resolved (check resolved : MemoryAncestryCheck) : Prop :=
  resolved.ancestor = check.ancestor ∧ resolved.descendant = check.descendant ∧
    (check.outcome ≠ .indeterminate → resolved.outcome = check.outcome)

def checkOutcome (checks : List MemoryAncestryCheck) (commit : MemoryCommitId) :
    MemoryAncestryOutcome :=
  ((checks.find? (fun check => check.ancestor == commit)).map (·.outcome)).getD .indeterminate

namespace CompleteChecks

variable (complete : CompleteChecks sets descendant checks)

include complete

theorem outcomeOf_eq :
    ∀ check ∈ checks, check.outcome = checkOutcome checks check.ancestor := by
  intro check isCheck
  rw [checkOutcome, complete.find?_eq isCheck]
  rfl

theorem of_perm (reordered : refined.Perm checks) : CompleteChecks sets descendant refined where
  commits := (reordered.map _).trans complete.commits
  addressed check isCheck := complete.addressed check (reordered.mem_iff.mp isCheck)

theorem of_resolved (resolved : List.Forall₂ MemoryAncestryCheck.Resolved checks refined) :
    CompleteChecks sets descendant refined := by
  have ancestors : refined.map (·.ancestor) = checks.map (·.ancestor) := by
    clear complete
    induction resolved with
    | nil => rfl
    | cons first _ hypothesis =>
      rw [List.map_cons, List.map_cons, first.1, hypothesis]
  refine ⟨ancestors ▸ complete.commits, ?_⟩
  intro check isCheck
  obtain ⟨index, inRange, rfl⟩ := List.mem_iff_getElem.mp isCheck
  have inChecks : index < checks.length := resolved.length_eq ▸ inRange
  have kept : checks[index].Resolved refined[index] := resolved.get inChecks inRange
  rw [kept.2.1]
  exact complete.addressed _ (List.getElem_mem inChecks)

theorem agrees (agree : ∀ check ∈ checks, check.Agrees isAncestor) {commit : MemoryCommitId}
    (isCommit : commit ∈ sets.introducedBy.items ++ sets.invalidatedBy.items) :
    (checkOutcome checks commit = .ancestor → isAncestor commit descendant) ∧
      (checkOutcome checks commit = .notAncestor → ¬isAncestor commit descendant) := by
  obtain ⟨check, isCheck, rfl⟩ := complete.exists_check isCommit
  have agrees := agree check isCheck
  rw [MemoryAncestryCheck.Agrees, complete.addressed check isCheck] at agrees
  rw [← complete.outcomeOf_eq check isCheck]
  cases outcome : check.outcome <;> simp_all

theorem kept_of_resolved (resolved : List.Forall₂ MemoryAncestryCheck.Resolved checks refined) :
    ∀ commit ∈ sets.introducedBy.items ++ sets.invalidatedBy.items,
      checkOutcome checks commit ≠ .indeterminate →
        checkOutcome refined commit = checkOutcome checks commit := by
  intro commit isCommit
  obtain ⟨check, isCheck, rfl⟩ := complete.exists_check isCommit
  obtain ⟨index, inChecks, rfl⟩ := List.mem_iff_getElem.mp isCheck
  have inRefined : index < refined.length := resolved.length_eq ▸ inChecks
  have kept : checks[index].Resolved refined[index] := resolved.get inChecks inRefined
  obtain ⟨same, -, keeps⟩ := kept
  rw [← complete.outcomeOf_eq _ isCheck]
  intro decided
  rw [← keeps decided,
    (complete.of_resolved resolved).outcomeOf_eq _ (List.getElem_mem inRefined)]
  exact congrArg (checkOutcome refined) same.symm

end CompleteChecks

/-- A definite verdict stays when open answers are filled in. -/
theorem commitVerdict_eq_of_known
    (kept : ∀ commit ∈ sets.introducedBy.items ++ sets.invalidatedBy.items,
      answers commit ≠ .indeterminate → known commit = answers commit)
    (definite : commitVerdict answers sets ≠ .indeterminate) :
    commitVerdict known sets = commitVerdict answers sets := by
  have keeps : ∀ commit ∈ sets.introducedBy.items ++ sets.invalidatedBy.items,
      ∀ outcome ≠ .indeterminate, answers commit = outcome → known commit = outcome := by
    rintro commit isCommit outcome decided rfl
    exact kept commit isCommit decided
  cases verdict : commitVerdict answers sets with
  | indeterminate => exact absurd verdict definite
  | valid =>
    obtain ⟨⟨commit, isCommit, reached⟩, unreached⟩ := commitVerdict_eq_valid_iff.mp verdict
    refine commitVerdict_eq_valid_iff.mpr ⟨⟨commit, isCommit, ?_⟩, ?_⟩
    · exact keeps commit (List.mem_append_left _ isCommit) _ (by decide) reached
    · intro other isOther
      exact keeps other (List.mem_append_right _ isOther) _ (by decide) (unreached other isOther)
  | notApplicable =>
    refine commitVerdict_eq_notApplicable_iff.mpr ?_
    rcases commitVerdict_eq_notApplicable_iff.mp verdict with
      ⟨commit, isCommit, reached⟩ | unreached
    · exact .inl ⟨commit, isCommit,
        keeps commit (List.mem_append_right _ isCommit) _ (by decide) reached⟩
    · exact .inr fun commit isCommit =>
        keeps commit (List.mem_append_left _ isCommit) _ (by decide) (unreached commit isCommit)

/-- Definite answers give a definite verdict. -/
theorem commitVerdict_ne_indeterminate
    (decided : ∀ commit ∈ sets.introducedBy.items ++ sets.invalidatedBy.items,
      answers commit ≠ .indeterminate) :
    commitVerdict answers sets ≠ .indeterminate := by
  have side : ∀ commits ⊆ sets.introducedBy.items ++ sets.invalidatedBy.items,
      sideOutcome answers commits ≠ .indeterminate := by
    intro commits included
    unfold sideOutcome
    split
    · decide
    · rw [if_neg (by simpa using fun commit isCommit => decided commit (included isCommit))]
      decide
  have introduction := side _ (List.subset_append_left _ _)
  have invalidation := side _ (List.subset_append_right _ _)
  unfold commitVerdict
  cases first : sideOutcome answers sets.invalidatedBy.items <;>
    cases second : sideOutcome answers sets.introducedBy.items <;>
    simp_all

/--
What an evaluation of complete checks says about the ancestor relation, how the
verdict behaves when open checks are resolved, and that their order is free.
-/
theorem project_validity_sound (sets : MemoryCommitSets) (target : MemoryRevalidationTarget)
    (descendant : MemoryCommitId) (isTarget : target.ancestryTarget = some descendant)
    (isAncestor : MemoryCommitId → MemoryCommitId → Prop) (checks : List MemoryAncestryCheck)
    (complete : CompleteChecks sets descendant checks)
    (agree : ∀ check ∈ checks, check.Agrees isAncestor) :
    ∃ verdict, evaluateMemoryProjectValidity (.commits sets) target checks = .ok verdict ∧
      (verdict = .valid →
        (∃ commit ∈ sets.introducedBy.items, isAncestor commit descendant) ∧
          ∀ commit ∈ sets.invalidatedBy.items, ¬isAncestor commit descendant) ∧
      (verdict = .notApplicable →
        (∀ commit ∈ sets.introducedBy.items, ¬isAncestor commit descendant) ∨
          ∃ commit ∈ sets.invalidatedBy.items, isAncestor commit descendant) ∧
      (∀ resolved, List.Forall₂ MemoryAncestryCheck.Resolved checks resolved →
        (∀ check ∈ resolved, check.Agrees isAncestor) →
        (verdict ≠ .indeterminate →
          evaluateMemoryProjectValidity (.commits sets) target resolved = .ok verdict) ∧
        ((∀ check ∈ resolved, check.outcome ≠ .indeterminate) →
          ∃ definite, definite ≠ .indeterminate ∧
            evaluateMemoryProjectValidity (.commits sets) target resolved = .ok definite)) ∧
      ∀ reordered, reordered.Perm checks →
        evaluateMemoryProjectValidity (.commits sets) target reordered = .ok verdict := by
  refine ⟨commitVerdict (checkOutcome checks) sets,
    complete.evaluate_eq isTarget complete.outcomeOf_eq, ?_, ?_, ?_, ?_⟩
  · intro valid
    obtain ⟨⟨commit, isCommit, reached⟩, unreached⟩ := commitVerdict_eq_valid_iff.mp valid
    refine ⟨⟨commit, isCommit, ?_⟩, ?_⟩
    · exact (complete.agrees agree (List.mem_append_left _ isCommit)).1 reached
    · intro other isOther
      exact (complete.agrees agree (List.mem_append_right _ isOther)).2 (unreached other isOther)
  · intro notApplicable
    rcases commitVerdict_eq_notApplicable_iff.mp notApplicable with
      ⟨commit, isCommit, reached⟩ | unreached
    · exact .inr ⟨commit, isCommit,
        (complete.agrees agree (List.mem_append_right _ isCommit)).1 reached⟩
    · exact .inl fun commit isCommit =>
        (complete.agrees agree (List.mem_append_left _ isCommit)).2 (unreached commit isCommit)
  · intro resolved isResolved _
    have stillComplete := complete.of_resolved isResolved
    rw [stillComplete.evaluate_eq isTarget stillComplete.outcomeOf_eq]
    constructor
    · intro definite
      rw [commitVerdict_eq_of_known (complete.kept_of_resolved isResolved) definite]
    · intro decided
      refine ⟨_, commitVerdict_ne_indeterminate fun commit isCommit => ?_, rfl⟩
      obtain ⟨check, isCheck, rfl⟩ := stillComplete.exists_check isCommit
      rw [← stillComplete.outcomeOf_eq check isCheck]
      exact decided check isCheck
  · intro reordered perm
    exact (complete.of_perm perm).evaluate_eq isTarget fun check isCheck =>
      complete.outcomeOf_eq check (perm.mem_iff.mp isCheck)

end Refinement

namespace SampleHistory

def commit (number : Nat) : MemoryCommitId := .sha1 (BitVec.ofNat 160 number)

/-- A version introduced by one commit and never invalidated. -/
def introducedBy (number : Nat) : MemoryCommitSets where
  introducedBy := ⟨[commit number], List.pairwise_singleton _ _⟩
  invalidatedBy := ⟨[], List.Pairwise.nil⟩
  introduced := List.cons_ne_nil _ _
  introducedBounded := by simp [maxMemoryCommits]
  invalidatedBounded := by simp [maxMemoryCommits]
  disjoint _ _ := List.not_mem_nil

/-- Introduced by the two oldest commits and invalidated by the newest. -/
def invalidatedByTip : MemoryCommitSets where
  introducedBy := ⟨[commit 0, commit 1], by decide⟩
  invalidatedBy := ⟨[commit 3], List.pairwise_singleton _ _⟩
  introduced := List.cons_ne_nil _ _
  introducedBounded := by decide
  invalidatedBounded := by decide
  disjoint := by decide

/-- Out of order, with a given outcome for the oldest commit. -/
def tipChecks (oldest : MemoryAncestryOutcome) : List MemoryAncestryCheck :=
  [⟨commit 3, commit 2, .notAncestor⟩, ⟨commit 0, commit 2, oldest⟩,
    ⟨commit 1, commit 2, .ancestor⟩]

end SampleHistory

open SampleHistory

/-- One introduction is not decided, another one is an ancestor, and the
invalidation is none; deciding the first does not change the verdict. -/
theorem project_validity_sound_of_open_check :
    evaluateMemoryProjectValidity (.commits invalidatedByTip) (.git (commit 2))
        (tipChecks .indeterminate) = .ok .valid ∧
      evaluateMemoryProjectValidity (.commits invalidatedByTip) (.git (commit 2))
        (tipChecks .ancestor) = .ok .valid := by
  have computed : evaluateMemoryProjectValidity (.commits invalidatedByTip) (.git (commit 2))
      (tipChecks .indeterminate) = .ok .valid := by decide
  obtain ⟨verdict, evaluated, -, -, resolves, -⟩ := project_validity_sound invalidatedByTip
    (.git (commit 2)) (commit 2) rfl
    (fun ancestor _ => ancestor ∈ [commit 0, commit 1, commit 2])
    (tipChecks .indeterminate) ⟨by decide, by decide⟩
    (by simp [tipChecks, MemoryAncestryCheck.Agrees]; decide)
  rw [computed, Except.ok.injEq] at evaluated
  subst evaluated
  refine ⟨computed, (resolves (tipChecks .ancestor) ?_ ?_).1 (by decide)⟩
  · simp [tipChecks, MemoryAncestryCheck.Resolved]
  · simp [tipChecks, MemoryAncestryCheck.Agrees]
    decide

end RepoWitness
