import Mathlib.Data.Set.Card
import RepoWitness.MemoryRecordModel
import RepoWitness.PolledComputation

namespace RepoWitness

open Std

/-!
# Approved heads of one memory record

`selectMemoryHead` as the projection runs it over the versions of one record.
An index out of bounds stops the caller's thread and returns nothing, so a call
ends in a value, in a returned error or in a panic.
-/

/-- How a call ends without a value. -/
inductive CallFailure (Error : Type) where
  | returned (error : Error)
  | panicked
  deriving DecidableEq

inductive MemoryProjectionError where
  | tooManyVersions
  | invalidVersionSet
  | countNotRepresentable
  | invalidEvaluation
  deriving DecidableEq

/-- A call that panics or returns one of the projection's errors. -/
abbrev HeadCall := Except (CallFailure MemoryProjectionError)

def maxMemoryProjectionVersions : Nat := 4096

/-- One immutable journal version and its trusted local-approval state. -/
structure MemoryVersionHeadInput where
  revision : CanonicalMemoryDigest
  record : MemoryRecord
  locallyApproved : Bool
  deriving DecidableEq

namespace MemoryVersionHeadInput

def recordId (version : MemoryVersionHeadInput) : MemoryRecordId := version.record.header.recordId

def parents (version : MemoryVersionHeadInput) : List CanonicalMemoryDigest :=
  version.record.header.parents.items

end MemoryVersionHeadInput

inductive MemoryHeadState where
  | noApprovedVersion
  | selected
  | conflicted
  | indeterminate
  deriving DecidableEq

structure MemoryHeadSelection where
  state : MemoryHeadState
  selectedRevision : Option CanonicalMemoryDigest
  approvedVersionCount : Nat
  headCount : Nat
  missingParentCount : Nat
  deriving DecidableEq

/-- `u32::try_from`. -/
def count (value : Nat) : Except MemoryProjectionError Nat :=
  if value < 2 ^ 32 then
    .ok value
  else
    .error .countNotRepresentable

def headSelection (state : MemoryHeadState) (selectedRevision : Option CanonicalMemoryDigest)
    (approvedVersionCount headCount missingParentCount : Nat) :
    HeadCall MemoryHeadSelection := do
  let approvedVersionCount ← (count approvedVersionCount).mapError .returned
  let headCount ← (count headCount).mapError .returned
  let missingParentCount ← (count missingParentCount).mapError .returned
  .ok
    { state, selectedRevision, approvedVersionCount, headCount
      missingParentCount }

/-- The indexing expression `heads[0]`. -/
def firstHead : List CanonicalMemoryDigest → HeadCall CanonicalMemoryDigest
  | [] => .error .panicked
  | head :: _ => .ok head

def collectRevisions (recordId : MemoryRecordId) :
    List CanonicalMemoryDigest → List MemoryVersionHeadInput → HeadCall (List CanonicalMemoryDigest)
  | seen, [] => .ok seen
  | seen, version :: rest =>
    if version.recordId ≠ recordId ∨ version.revision ∈ seen then
      .error (.returned .invalidVersionSet)
    else
      collectRevisions recordId (version.revision :: seen) rest

def approvedVersions (versions : List MemoryVersionHeadInput) : List MemoryVersionHeadInput :=
  versions.filter (·.locallyApproved)

def approvedRevisions (approved : List MemoryVersionHeadInput) : List CanonicalMemoryDigest :=
  orderedSet (approved.map (·.revision))

def referencedApproved (approved : List MemoryVersionHeadInput) : List CanonicalMemoryDigest :=
  orderedSet ((approved.flatMap (·.parents)).filter (approvedRevisions approved).contains)

def missingParents (allRevisions : List CanonicalMemoryDigest)
    (approved : List MemoryVersionHeadInput) :
    List CanonicalMemoryDigest :=
  orderedSet ((approved.flatMap (·.parents)).filter (!allRevisions.contains ·))

def approvedHeads (approved : List MemoryVersionHeadInput) : List CanonicalMemoryDigest :=
  (approvedRevisions approved).filter (!(referencedApproved approved).contains ·)

/--
The decision over collected heads.

`(heads.len() == 1).then_some(heads[0])` evaluates its argument before it looks
at the length.
-/
def decideHead (heads missing : List CanonicalMemoryDigest) (approvedCount : Nat) :
    HeadCall MemoryHeadSelection :=
  if 0 < missing.length ∨ heads = [] then do
    let head ← firstHead heads
    headSelection .indeterminate (if heads.length = 1 then some head else none)
      approvedCount heads.length missing.length
  else if 1 < heads.length then
    headSelection .conflicted none approvedCount heads.length 0
  else do
    let head ← firstHead heads
    headSelection .selected (some head) approvedCount 1 0

def selectApprovedHead (allRevisions : List CanonicalMemoryDigest)
    (approved : List MemoryVersionHeadInput) :
    HeadCall MemoryHeadSelection :=
  if approved = [] then
    headSelection .noApprovedVersion none 0 0 0
  else
    decideHead (approvedHeads approved) (missingParents allRevisions approved) approved.length

def selectMemoryHead (versions : List MemoryVersionHeadInput) : HeadCall MemoryHeadSelection :=
  if maxMemoryProjectionVersions < versions.length then
    .error (.returned .tooManyVersions)
  else
    match versions with
    | [] => headSelection .noApprovedVersion none 0 0 0
    | first :: _ => do
      let allRevisions ← collectRevisions first.recordId [] versions
      selectApprovedHead allRevisions (approvedVersions versions)

/-! ## What the selection is for -/

structure VersionsOfOneRecord (versions : List MemoryVersionHeadInput) : Prop where
  sameRecord : ∀ first ∈ versions, ∀ second ∈ versions, first.recordId = second.recordId
  distinct : (versions.map (·.revision)).Nodup

def IsHead (versions : List MemoryVersionHeadInput) (revision : CanonicalMemoryDigest) : Prop :=
  (∃ version ∈ versions, version.locallyApproved = true ∧ version.revision = revision) ∧
  ∀ child ∈ versions, child.locallyApproved = true → revision ∉ child.parents

def IsMissingParent (versions : List MemoryVersionHeadInput)
    (revision : CanonicalMemoryDigest) : Prop :=
  (∃ child ∈ versions, child.locallyApproved = true ∧ revision ∈ child.parents) ∧
  ∀ version ∈ versions, version.revision ≠ revision

/-- Some version of the record is approved. -/
def HasApproved (versions : List MemoryVersionHeadInput) : Prop :=
  ∃ version ∈ versions, version.locallyApproved = true

def ParentsPresent (versions : List MemoryVersionHeadInput) : Prop :=
  ∀ revision, ¬ IsMissingParent versions revision

/-- The selection says what the approved part of the graph looks like. -/
structure DescribesHeads (versions : List MemoryVersionHeadInput)
    (selection : MemoryHeadSelection) : Prop where
  unapproved : selection.state = .noApprovedVersion ↔ ¬ HasApproved versions
  selected :
    selection.state = .selected ↔ (∃! revision, IsHead versions revision) ∧ ParentsPresent versions
  conflicted : selection.state = .conflicted ↔
      (∃ first second, IsHead versions first ∧ IsHead versions second ∧ first ≠ second) ∧
      ParentsPresent versions
  indeterminate : selection.state = .indeterminate ↔
      HasApproved versions ∧ (¬ ParentsPresent versions ∨ ∀ revision, ¬ IsHead versions revision)
  selectedRevision : ∀ revision, selection.selectedRevision = some revision ↔
        IsHead versions revision ∧ ∀ other, IsHead versions other → other = revision
  approvedCount : selection.approvedVersionCount = versions.countP (·.locallyApproved)
  headCount : selection.headCount = {revision | IsHead versions revision}.ncard
  missingParentCount :
    selection.missingParentCount = {revision | IsMissingParent versions revision}.ncard

/-! ## The collected sets -/

section Sets

variable {versions : List MemoryVersionHeadInput}

theorem collectRevisions_eq {recordId : MemoryRecordId} {seen : List CanonicalMemoryDigest}
    (sameRecord : ∀ version ∈ versions, version.recordId = recordId)
    (distinct : (versions.map (·.revision)).Nodup)
    (fresh : ∀ version ∈ versions, version.revision ∉ seen) :
    collectRevisions recordId seen versions =
      .ok ((versions.map (·.revision)).reverse ++ seen) := by
  induction versions generalizing seen with
  | nil => rfl
  | cons version rest hypothesis =>
    rw [List.map_cons, List.nodup_cons] at distinct
    have admitted : ¬ (version.recordId ≠ recordId ∨ version.revision ∈ seen) := by
      simp [sameRecord version List.mem_cons_self, fresh version List.mem_cons_self]
    rw [collectRevisions, if_neg admitted,
      hypothesis (fun other isOther => sameRecord other (List.mem_cons_of_mem _ isOther))
        distinct.2]
    · simp
    · intro other isOther
      rw [List.mem_cons, not_or]
      refine ⟨?_, fresh other (List.mem_cons_of_mem _ isOther)⟩
      intro same
      exact distinct.1 (same ▸ List.mem_map_of_mem isOther)

variable {revision : CanonicalMemoryDigest}

theorem mem_approvedRevisions : revision ∈ approvedRevisions (approvedVersions versions) ↔
      ∃ version ∈ versions, version.locallyApproved = true ∧ version.revision = revision := by
  simp [approvedRevisions, approvedVersions, and_assoc]

theorem mem_approvedParents : revision ∈ (approvedVersions versions).flatMap (·.parents) ↔
      ∃ child ∈ versions, child.locallyApproved = true ∧ revision ∈ child.parents := by
  simp [approvedVersions, and_assoc]

theorem mem_approvedHeads :
    revision ∈ approvedHeads (approvedVersions versions) ↔ IsHead versions revision := by
  have referenced : revision ∈ referencedApproved (approvedVersions versions) ↔
        (∃ child ∈ versions, child.locallyApproved = true ∧ revision ∈ child.parents) ∧
        revision ∈ approvedRevisions (approvedVersions versions) := by
    rw [referencedApproved, mem_orderedSet, List.mem_filter,
      mem_approvedParents, List.contains_iff_mem]
  rw [approvedHeads, List.mem_filter, Bool.not_eq_true',
    Bool.eq_false_iff, ne_eq, List.contains_iff_mem, referenced,
    mem_approvedRevisions, IsHead]
  constructor
  · rintro ⟨approved, unreferenced⟩
    refine ⟨approved, ?_⟩
    intro child isChild childApproved isParent
    exact unreferenced ⟨⟨child, isChild, childApproved, isParent⟩, approved⟩
  · rintro ⟨approved, childless⟩
    refine ⟨approved, ?_⟩
    rintro ⟨⟨child, isChild, childApproved, isParent⟩, _⟩
    exact childless child isChild childApproved isParent

theorem mem_missingParents {allRevisions : List CanonicalMemoryDigest}
    (complete :
      ∀ revision, revision ∈ allRevisions ↔ ∃ version ∈ versions, version.revision = revision) :
    revision ∈ missingParents allRevisions (approvedVersions versions) ↔
      IsMissingParent versions revision := by
  rw [missingParents, mem_orderedSet, List.mem_filter,
    mem_approvedParents, Bool.not_eq_true', Bool.eq_false_iff, ne_eq,
    List.contains_iff_mem, complete, IsMissingParent]
  simp

theorem approvedHeads_nodup (approved : List MemoryVersionHeadInput) :
    (approvedHeads approved).Nodup := (orderedSet_nodup _).filter _

end Sets

/-! ## The decision over representable counts -/

theorem headSelection_eq
    {state : MemoryHeadState}
    {selectedRevision : Option CanonicalMemoryDigest}
    {approvedVersionCount headCount missingParentCount : Nat}
    (approvedSmall : approvedVersionCount < 2 ^ 32)
    (headsSmall : headCount < 2 ^ 32)
    (missingSmall : missingParentCount < 2 ^ 32) :
    headSelection state selectedRevision approvedVersionCount headCount
        missingParentCount =
      .ok
        { state, selectedRevision, approvedVersionCount, headCount
          missingParentCount } := by
  simp only [headSelection, count, if_pos approvedSmall,
    if_pos headsSmall, if_pos missingSmall]
  rfl

/-- The state of a graph that has a head. -/
def headedState (heads missing : List CanonicalMemoryDigest) : MemoryHeadState :=
  if missing ≠ [] then
    .indeterminate
  else if 1 < heads.length then
    .conflicted
  else
    .selected

theorem decideHead_eq_panicked (missing : List CanonicalMemoryDigest) (approvedCount : Nat) :
    decideHead [] missing approvedCount = .error .panicked := by
  simp [decideHead, firstHead]

theorem decideHead_eq
    {heads missing : List CanonicalMemoryDigest}
    {approvedCount : Nat}
    (headed : heads ≠ [])
    (approvedSmall : approvedCount < 2 ^ 32)
    (headsSmall : heads.length < 2 ^ 32)
    (missingSmall : missing.length < 2 ^ 32) :
    decideHead heads missing approvedCount = .ok
        { state := headedState heads missing
          selectedRevision :=
            if heads.length = 1 then heads.head? else none
          approvedVersionCount := approvedCount
          headCount := heads.length
          missingParentCount := missing.length } := by
  obtain ⟨head, others, rfl⟩ := List.exists_cons_of_ne_nil headed
  by_cases present : missing = []
  · subst present
    cases others with
    | nil =>
      simp only [decideHead, List.length_nil, Nat.lt_irrefl, reduceCtorEq,
        or_self, if_false, List.length_singleton, firstHead,
        except_ok_bind, if_true, List.head?_cons]
      exact headSelection_eq approvedSmall (by decide) (by decide)
    | cons second rest =>
      have several : 1 < (head :: second :: rest).length := by simp
      simp only [decideHead, List.length_nil, Nat.lt_irrefl, reduceCtorEq,
        or_self, if_false, if_pos several, if_neg several.ne']
      rw [headSelection_eq approvedSmall headsSmall (by decide)]
      simp [headedState]
  · have someMissing : 0 < missing.length := List.length_pos_iff.mpr present
    simp only [decideHead, someMissing, true_or, if_true,
      firstHead, except_ok_bind, List.head?_cons]
    rw [headSelection_eq approvedSmall headsSmall missingSmall]
    simp [headedState, present]

/-! ## The whole selection -/

namespace SampleMemory

def approvedVersion (revision : CanonicalMemoryDigest)
    (parents : IncreasingList CanonicalMemoryDigest)
    (bounded : parents.items.length ≤ maxMemoryParents) :
    MemoryVersionHeadInput where
  revision := revision
  record := record { firstHeader with parents := parents, parentsBounded := bounded }
  locallyApproved := true

def successorVersions : List MemoryVersionHeadInput :=
  [approvedVersion 1 firstHeader.parents firstHeader.parentsBounded,
    approvedVersion 2 ⟨[1], by decide⟩ (by decide)]

def selfParentVersions : List MemoryVersionHeadInput :=
  [approvedVersion 1 ⟨[1], by decide⟩ (by decide)]

end SampleMemory

section Selection

variable {versions : List MemoryVersionHeadInput}

theorem selectMemoryHead_eq (oneRecord : VersionsOfOneRecord versions)
    (bounded : versions.length ≤ maxMemoryProjectionVersions) :
    selectMemoryHead versions =
      selectApprovedHead (versions.map (·.revision)) (approvedVersions versions) := by
  cases versions with
  | nil => rfl
  | cons first rest =>
    have collected := collectRevisions_eq
        (fun version isVersion =>
          oneRecord.sameRecord version isVersion first
            List.mem_cons_self)
        oneRecord.distinct
        (fun _ _ => List.not_mem_nil)
    rw [selectMemoryHead, if_neg (Nat.not_lt.mpr bounded)]
    simp only [collected]
    change selectApprovedHead _ _ = selectApprovedHead _ _
    have sameMissing : ∀ approved,
          missingParents (((first :: rest).map (·.revision)).reverse ++ []) approved =
            missingParents ((first :: rest).map (·.revision))
              approved := by
      intro approved
      simp only [missingParents, List.append_nil, List.contains_eq_mem, List.mem_reverse]
    simp only [selectApprovedHead, sameMissing]

theorem selectMemoryHead_eq_tooMany (tooMany : maxMemoryProjectionVersions < versions.length) :
    selectMemoryHead versions = .error (.returned .tooManyVersions) := by
  unfold selectMemoryHead
  exact if_pos tooMany

theorem missingParents_length_le (allRevisions : List CanonicalMemoryDigest)
    (approved : List MemoryVersionHeadInput) :
    (missingParents allRevisions approved).length ≤ maxMemoryParents * approved.length := by
  have collected : (approved.flatMap (·.parents)).length ≤ maxMemoryParents * approved.length := by
    induction approved with
    | nil => simp
    | cons version rest hypothesis =>
      have bounded := version.record.header.parentsBounded
      simp only [List.flatMap_cons, List.length_append,
        List.length_cons, MemoryVersionHeadInput.parents]
      simp only [MemoryVersionHeadInput.parents] at hypothesis
      rw [Nat.mul_succ]
      omega
  exact (orderedSet_length_le _).trans ((List.length_filter_le _ _).trans collected)

theorem approvedHeads_length_le (approved : List MemoryVersionHeadInput) :
    (approvedHeads approved).length ≤ approved.length := by
  refine (List.length_filter_le _ _).trans ?_
  exact (orderedSet_length_le _).trans (List.length_map _).le

theorem approvedVersions_eq_nil_iff : approvedVersions versions = [] ↔ ¬ HasApproved versions := by
  simp [approvedVersions, HasApproved]

/-- The missing parents as the selection collects them. -/
def recordMissingParents (versions : List MemoryVersionHeadInput) : List CanonicalMemoryDigest :=
  missingParents (versions.map (·.revision)) (approvedVersions versions)

variable {revision head : CanonicalMemoryDigest} {heads missing : List CanonicalMemoryDigest}
  {permuted : List MemoryVersionHeadInput}

theorem mem_recordMissingParents :
    revision ∈ recordMissingParents versions ↔ IsMissingParent versions revision :=
  mem_missingParents (fun _ => List.mem_map)

theorem parentsPresent_iff : ParentsPresent versions ↔ recordMissingParents versions = [] := by
  simp only [ParentsPresent, List.eq_nil_iff_forall_not_mem, mem_recordMissingParents]

section Bounded

variable (oneRecord : VersionsOfOneRecord versions)
  (bounded : versions.length ≤ maxMemoryProjectionVersions)

include oneRecord bounded

/-- A record without a head has no value to index. -/
theorem selectMemoryHead_eq_panicked (approved : HasApproved versions)
    (headless : ∀ revision, ¬ IsHead versions revision) :
    selectMemoryHead versions = .error .panicked := by
  have someApproved : approvedVersions versions ≠ [] :=
    fun none => approvedVersions_eq_nil_iff.mp none approved
  have noHeads : approvedHeads (approvedVersions versions) = [] := by
    simpa only [List.eq_nil_iff_forall_not_mem, mem_approvedHeads] using headless
  rw [selectMemoryHead_eq oneRecord bounded, selectApprovedHead,
    if_neg someApproved, noHeads, decideHead_eq_panicked]

/-- The value of a selection among versions that have a head. -/
def headedSelection (versions : List MemoryVersionHeadInput) : MemoryHeadSelection where
  state := headedState (approvedHeads (approvedVersions versions)) (recordMissingParents versions)
  selectedRevision :=
    if (approvedHeads (approvedVersions versions)).length = 1 then
      (approvedHeads (approvedVersions versions)).head?
    else
      none
  approvedVersionCount := (approvedVersions versions).length
  headCount := (approvedHeads (approvedVersions versions)).length
  missingParentCount := (recordMissingParents versions).length

theorem selectMemoryHead_eq_headed (headed : IsHead versions head) :
    selectMemoryHead versions = .ok (headedSelection versions) := by
  have someApproved : approvedVersions versions ≠ [] := by
    obtain ⟨⟨version, isVersion, approved, _⟩, _⟩ := headed
    exact fun none => approvedVersions_eq_nil_iff.mp none ⟨version, isVersion, approved⟩
  have someHead : approvedHeads (approvedVersions versions) ≠ [] :=
    List.ne_nil_of_mem (mem_approvedHeads.mpr headed)
  have fewApproved : (approvedVersions versions).length ≤ 4096 :=
    (List.length_filter_le _ _).trans bounded
  have fewHeads := approvedHeads_length_le (approvedVersions versions)
  have fewMissing :=
    missingParents_length_le (versions.map (·.revision)) (approvedVersions versions)
  simp only [maxMemoryParents] at fewMissing
  rw [selectMemoryHead_eq oneRecord bounded, selectApprovedHead,
    if_neg someApproved,
    decideHead_eq someHead (by omega) (by omega) (by omega)]
  rfl

theorem selectMemoryHead_eq_unapproved (unapproved : ¬ HasApproved versions) :
    selectMemoryHead versions = .ok
        { state := .noApprovedVersion, selectedRevision := none, approvedVersionCount := 0
          headCount := 0
          missingParentCount := 0 } := by
  rw [selectMemoryHead_eq oneRecord bounded, selectApprovedHead,
    if_pos (approvedVersions_eq_nil_iff.mpr unapproved)]
  rfl

end Bounded

/-! ## The selection describes the graph -/

/-- What the state says of two lists of distinct heads and parents. -/
theorem headedState_iff (distinct : heads.Nodup) (headed : heads ≠ []) :
    (headedState heads missing = .selected ↔ (∃! head, head ∈ heads) ∧ missing = []) ∧
      (headedState heads missing = .conflicted ↔
        (∃ first second, first ∈ heads ∧ second ∈ heads ∧ first ≠ second) ∧ missing = []) := by
  by_cases present : missing = []
  · match heads with
    | [] => exact absurd rfl headed
    | [head] => simp [headedState, present]
    | first :: second :: rest =>
      have different : first ≠ second := by
        rintro rfl
        simp at distinct
      simp only [headedState, present, ne_eq, not_true_eq_false,
        if_false, List.length_cons, and_true]
      refine ⟨iff_of_false (by simp) ?_, iff_of_true (by simp) ⟨first, second, ?_⟩⟩
      · rintro ⟨head, _, unique⟩
        exact different ((unique first (by simp)).trans (unique second (by simp)).symm)
      · exact ⟨by simp, by simp, different⟩
  · simp [headedState, present]

theorem headedState_eq_indeterminate_iff :
    headedState heads missing = .indeterminate ↔ missing ≠ [] := by
  unfold headedState
  split
  next absent => simp [absent]
  next present => split <;> simp [present]

theorem singleHead_eq_some_iff (distinct : heads.Nodup) :
    (if heads.length = 1 then heads.head? else none) = some revision ↔
      revision ∈ heads ∧ ∀ other ∈ heads, other = revision := by
  match heads with
  | [] => simp
  | [head] => simp [eq_comm]
  | first :: second :: rest =>
    have different : first ≠ second := by
      rintro rfl
      simp at distinct
    refine iff_of_false (by simp) ?_
    rintro ⟨_, all⟩
    exact different ((all first (by simp)).trans (all second (by simp)).symm)

/-- A duplicate-free list has as many elements as the set it lists. -/
theorem ncard_eq_length_of_mem_iff {listed : List CanonicalMemoryDigest} (distinct : listed.Nodup)
    {holds : CanonicalMemoryDigest → Prop}
    (lists : ∀ {revision}, revision ∈ listed ↔ holds revision) :
    {revision | holds revision}.ncard = listed.length := by
  have same : {revision | holds revision} = ↑listed.toFinset := by
    ext revision
    simp [lists]
  rw [same, Set.ncard_coe_finset, List.toFinset_card_of_nodup distinct]

theorem headedSelection_describes (headed : IsHead versions head) :
    DescribesHeads versions (headedSelection versions) := by
  have distinct := approvedHeads_nodup (approvedVersions versions)
  have someHead : approvedHeads (approvedVersions versions) ≠ [] :=
    List.ne_nil_of_mem (mem_approvedHeads.mpr headed)
  have approved : HasApproved versions := by
    obtain ⟨⟨version, isVersion, isApproved, _⟩, _⟩ := headed
    exact ⟨version, isVersion, isApproved⟩
  constructor
  case unapproved =>
    refine iff_of_false ?_ (not_not_intro approved)
    simp only [headedSelection, headedState]
    split
    · simp
    · split <;> simp
  case selected =>
    simp only [← mem_approvedHeads, parentsPresent_iff]
    exact (headedState_iff distinct someHead).1
  case conflicted =>
    simp only [← mem_approvedHeads, parentsPresent_iff]
    exact (headedState_iff distinct someHead).2
  case indeterminate =>
    refine headedState_eq_indeterminate_iff.trans ?_
    rw [ne_eq, ← parentsPresent_iff]
    constructor
    · exact fun absent => ⟨approved, Or.inl absent⟩
    · rintro ⟨_, absent | headless⟩
      · exact absent
      · exact absurd headed (headless head)
  case selectedRevision =>
    intro revision
    simp only [← mem_approvedHeads]
    exact singleHead_eq_some_iff distinct
  case approvedCount => exact List.countP_eq_length_filter.symm
  case headCount => exact (ncard_eq_length_of_mem_iff distinct mem_approvedHeads).symm
  case missingParentCount =>
    exact (ncard_eq_length_of_mem_iff (orderedSet_nodup _) mem_recordMissingParents).symm

theorem unapproved_describes (unapproved : ¬ HasApproved versions) :
    DescribesHeads versions
      { state := .noApprovedVersion, selectedRevision := none, approvedVersionCount := 0
        headCount := 0
        missingParentCount := 0 } := by
  have headless : ∀ revision, ¬ IsHead versions revision := by
    rintro revision ⟨⟨version, isVersion, approved, _⟩, _⟩
    exact unapproved ⟨version, isVersion, approved⟩
  have unparented : ∀ revision, ¬ IsMissingParent versions revision := by
    rintro revision ⟨⟨child, isChild, approved, _⟩, _⟩
    exact unapproved ⟨child, isChild, approved⟩
  constructor
  case unapproved => simp [unapproved]
  case selected => simp [ExistsUnique, headless]
  case conflicted => simp [headless]
  case indeterminate => simp [unapproved]
  case selectedRevision => simp [headless]
  case approvedCount =>
    refine (List.countP_eq_zero.mpr ?_).symm
    intro version isVersion approved
    exact unapproved ⟨version, isVersion, approved⟩
  case headCount => simp [headless]
  case missingParentCount => simp [unparented]

/-! ## Order of the versions -/

theorem VersionsOfOneRecord.of_perm
    (oneRecord : VersionsOfOneRecord versions) (permutation : permuted.Perm versions) :
    VersionsOfOneRecord permuted where
  sameRecord first isFirst second isSecond :=
    oneRecord.sameRecord first (permutation.mem_iff.mp isFirst)
      second (permutation.mem_iff.mp isSecond)
  distinct := (permutation.map _).nodup_iff.mpr oneRecord.distinct

theorem selectMemoryHead_eq_of_perm
    (oneRecord : VersionsOfOneRecord versions) (permutation : permuted.Perm versions) :
    selectMemoryHead permuted = selectMemoryHead versions := by
  by_cases bounded : versions.length ≤ maxMemoryProjectionVersions
  · have permutedBounded : permuted.length ≤ maxMemoryProjectionVersions :=
      permutation.length_eq.trans_le bounded
    have approvedPerm : (approvedVersions permuted).Perm (approvedVersions versions) :=
      permutation.filter _
    have sameRevisions : approvedRevisions (approvedVersions permuted) =
          approvedRevisions (approvedVersions versions) :=
      orderedSet_congr fun _ => (approvedPerm.map _).mem_iff
    have sameParents : ∀ revision,
          revision ∈ (approvedVersions permuted).flatMap (·.parents) ↔
            revision ∈ (approvedVersions versions).flatMap (·.parents) :=
      fun _ => (approvedPerm.flatMap_right _).mem_iff
    have sameReferenced : referencedApproved (approvedVersions permuted) =
          referencedApproved (approvedVersions versions) := by
      refine orderedSet_congr fun revision => ?_
      simp only [List.mem_filter, sameParents, sameRevisions]
    have sameMissing :
        missingParents (permuted.map (·.revision)) (approvedVersions permuted) =
          missingParents (versions.map (·.revision)) (approvedVersions versions) := by
      refine orderedSet_congr fun revision => ?_
      simp only [List.mem_filter, sameParents, List.contains_eq_mem, (permutation.map _).mem_iff]
    rw [selectMemoryHead_eq (oneRecord.of_perm permutation) permutedBounded,
      selectMemoryHead_eq oneRecord bounded]
    simp only [selectApprovedHead, approvedHeads, sameRevisions,
      sameReferenced, sameMissing, approvedPerm.length_eq,
      ← List.length_eq_zero_iff]
  · have tooMany : maxMemoryProjectionVersions < versions.length := Nat.lt_of_not_le bounded
    rw [selectMemoryHead_eq_tooMany tooMany,
      selectMemoryHead_eq_tooMany (tooMany.trans_eq permutation.length_eq.symm)]

/--
The selection returns and describes the graph exactly when there are not too
many versions and the approved ones, if any, have a head; the order of the
versions is immaterial in every case.
-/
theorem selectMemoryHead_describes_iff (oneRecord : VersionsOfOneRecord versions) :
    ((∃ selection,
        selectMemoryHead versions = .ok selection ∧ DescribesHeads versions selection) ↔
      versions.length ≤ maxMemoryProjectionVersions ∧
        (HasApproved versions → ∃ revision, IsHead versions revision)) ∧
    ∀ permuted : List MemoryVersionHeadInput,
      permuted.Perm versions → selectMemoryHead permuted = selectMemoryHead versions := by
  refine ⟨?_, fun permuted => selectMemoryHead_eq_of_perm oneRecord⟩
  constructor
  · rintro ⟨selection, selects, _⟩
    have bounded : versions.length ≤ maxMemoryProjectionVersions := by
      by_contra tooMany
      rw [selectMemoryHead_eq_tooMany (Nat.lt_of_not_le tooMany)] at selects
      cases selects
    refine ⟨bounded, ?_⟩
    intro approved
    by_contra headless
    rw [selectMemoryHead_eq_panicked oneRecord bounded approved (not_exists.mp headless)] at selects
    cases selects
  · rintro ⟨bounded, headed⟩
    by_cases approved : HasApproved versions
    · obtain ⟨head, isHead⟩ := headed approved
      exact ⟨_, selectMemoryHead_eq_headed oneRecord bounded isHead,
        headedSelection_describes isHead⟩
    · exact ⟨_, selectMemoryHead_eq_unapproved oneRecord bounded approved,
        unapproved_describes approved⟩

end Selection

/-- A record of two versions of which the second names the first. -/
theorem selectMemoryHead_describes_successor : ∃ selection,
      selectMemoryHead SampleMemory.successorVersions = .ok selection ∧
        DescribesHeads SampleMemory.successorVersions selection := by
  have oneRecord : VersionsOfOneRecord SampleMemory.successorVersions := ⟨by decide, by decide⟩
  refine (selectMemoryHead_describes_iff oneRecord).1.mpr ⟨by decide, fun _ => ⟨2, ?_⟩⟩
  exact ⟨by decide, by decide⟩

/-- One approved version that names itself as its parent. -/
theorem selectMemoryHead_selfParent : VersionsOfOneRecord SampleMemory.selfParentVersions ∧
      SampleMemory.selfParentVersions.length ≤ maxMemoryProjectionVersions ∧
      selectMemoryHead SampleMemory.selfParentVersions =
        .error .panicked := ⟨⟨by decide, by decide⟩, by decide, by decide +kernel⟩

end RepoWitness
