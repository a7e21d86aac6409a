import RepoWitness.MemoryRecordModel
import RepoWitness.PolledComputation

namespace RepoWitness.ContextBuild

open Std

/-!
# Building a context pack

`compile_context` fuses exact source declarations with current engineering
memory by rank and packs them under one budget.  Every match that a provider
reported is counted once, as an included item or under the cause that left it
out.
-/

def contextBuildRrfK : Nat := 60

def maxContextBuildBudgetUnits : Nat := 1024 * 1024

def maxCodeSearchResults : Nat := 100

inductive ContextBuildError where
  | invalidSourceInput
  | contextMismatch
  | invalidMemoryCandidate
  | countNotRepresentable
  | cancelled
  | deadlineExceeded
  deriving DecidableEq

inductive ContextProvider where
  | memory
  | source
  | structural
  | references
  | history
  deriving DecidableEq

structure ContextBuildBudget where
  units : Nat
  positive : units ≠ 0
  bounded : units ≤ maxContextBuildBudgetUnits

/-- An expanded declaration with the path and the fact of its selector. -/
structure ContextSourceCandidate where
  providerRank : Nat
  path : RepositoryPath
  factOrdinal : Nat
  declaration : List UInt8

inductive MemoryEffectiveState where
  | current
  | notApplicable
  | stale
  | needsReview
  | indeterminate
  | conflicted
  | contradicted
  | superseded
  | quarantined
  | tombstoned
  deriving DecidableEq

structure MemoryRecallRecord where
  recordId : MemoryRecordId
  record : Option MemoryRecord
  effectiveState : MemoryEffectiveState

structure MemoryRecallResult (G P : Type) where
  snapshot : Bytes32
  generation : G
  projection : P
  totalMatches : Nat
  omittedMatches : Nat
  records : List MemoryRecallRecord

structure ContextSourceInput (G : Type) where
  snapshot : Bytes32
  generation : G
  totalMatches : Nat
  returnedMatches : Nat
  candidates : List ContextSourceCandidate
  searched : returnedMatches ≤ totalMatches
  bounded : returnedMatches ≤ maxCodeSearchResults
  expanded : candidates.length ≤ returnedMatches
  ranked : candidates.Pairwise (·.providerRank < ·.providerRank)
  lastRank : ∀ candidate ∈ candidates.getLast?, candidate.providerRank ≤ returnedMatches

structure ContextRank where
  provider : ContextProvider
  providerRank : Nat
  fusedRank : Nat
  reciprocalRankDenominator : Nat

/-- An admitted item; `rank` keeps the provider's rank beside the fused one. -/
inductive ContextItem where
  | memory (rank : ContextRank) (estimatedUnits : Nat) (record : MemoryRecallRecord)
  | source (rank : ContextRank) (estimatedUnits : Nat) (candidate : ContextSourceCandidate)

def ContextItem.rank : ContextItem → ContextRank
  | .memory rank _ _ | .source rank _ _ => rank

def ContextItem.estimatedUnits : ContextItem → Nat
  | .memory _ units _ | .source _ units _ => units

structure ContextBuildCoverage where
  sourceTotalMatches : Nat
  sourceReturnedMatches : Nat
  sourceExpansionOmitted : Nat
  sourceBudgetOmitted : Nat
  sourceIncluded : Nat
  memoryTotalMatches : Nat
  memoryReturnedMatches : Nat
  memoryNonCurrentOmitted : Nat
  memoryBudgetOmitted : Nat
  memoryIncluded : Nat

inductive ContextOmission where
  | sourceSearchLimit (count : Nat)
  | sourceExpansionLimit (count : Nat)
  | memoryProjectionUnavailable
  | memoryRecallLimit (count : Nat)
  | memoryNotCurrent (count : Nat)
  | budget (provider : ContextProvider) (count : Nat)
  | providerUnavailable (provider : ContextProvider)
  deriving DecidableEq

structure ContextBuildResult (G P : Type) where
  snapshot : Bytes32
  generation : G
  memory : Option P
  budget : ContextBuildBudget
  usedUnits : Nat
  items : List ContextItem
  coverage : ContextBuildCoverage
  omissions : List ContextOmission

/-! ## Pending items -/

inductive PendingItem where
  | memory (providerRank : Nat) (record : MemoryRecallRecord)
  | source (candidate : ContextSourceCandidate)

namespace PendingItem

def provider : PendingItem → ContextProvider
  | .memory _ _ => .memory
  | .source _ => .source

def providerRank : PendingItem → Nat
  | .memory rank _ => rank
  | .source candidate => candidate.providerRank

def stableTieBreak : PendingItem → PendingItem → Ordering
  | .memory _ left, .memory _ right => compare left.recordId right.recordId
  | .source left, .source right =>
    (compare left.path.bytes right.path.bytes).then (compare left.factOrdinal right.factOrdinal)
  | _, _ => .eq

/-- The comparator of the fusion. -/
def fused (left right : PendingItem) : Ordering :=
  (compare left.providerRank right.providerRank).then
    ((compare left.provider.ctorIdx right.provider.ctorIdx).then (left.stableTieBreak right))

end PendingItem

/-- `checked_add` at a width of `bits`. -/
def checkedSum (bits first second : Nat) : Except ContextBuildError Nat :=
  if first + second < 2 ^ bits then .ok (first + second) else .error .countNotRepresentable

/-- The loop of `add_current_memory` from the record at `index`. -/
def addCurrentMemory : Nat → List MemoryRecallRecord → List PendingItem × Nat →
      Polled ContextBuildError (List PendingItem × Nat)
  | _, [], prepared => pure prepared
  | index, record :: rest, (items, nonCurrentOmitted) => do
    Polled.poll
    if record.effectiveState ≠ .current then
      let omitted ← .done (checkedSum 64 nonCurrentOmitted 1)
      addCurrentMemory (index + 1) rest (items, omitted)
    else if record.record.isNone then
      .fail .invalidMemoryCandidate
    else
      let providerRank ← .done (checkedSum 16 index 1)
      addCurrentMemory (index + 1) rest (items ++ [.memory providerRank record], nonCurrentOmitted)

structure PreparedPending (P : Type) where
  items : List PendingItem
  projection : Option P
  totalMatches : Nat
  returnedMatches : Nat
  recallOmitted : Nat
  nonCurrentOmitted : Nat

variable {G P : Type} [DecidableEq G]

def preparePending (source : List ContextSourceCandidate) (snapshot : Bytes32) (generation : G) :
    Option (MemoryRecallResult G P) → Polled ContextBuildError (PreparedPending P)
  | none => pure ⟨sortBy PendingItem.fused (source.map .source), none, 0, 0, 0, 0⟩
  | some memory =>
    if memory.snapshot ≠ snapshot ∨ memory.generation ≠ generation then
      .fail .contextMismatch
    else do
      let (items, nonCurrentOmitted) ← addCurrentMemory 0 memory.records (source.map .source, 0)
      pure ⟨sortBy PendingItem.fused items, some memory.projection, memory.totalMatches,
        memory.records.length, memory.omittedMatches, nonCurrentOmitted⟩

/-! ## Admission -/

structure Admission where
  items : List ContextItem
  usedUnits : Nat
  sourceBudgetOmitted : Nat
  memoryBudgetOmitted : Nat
  sourceIncluded : Nat
  memoryIncluded : Nat

def contextRank (candidate : PendingItem) (index : Nat) : Except ContextBuildError ContextRank := do
  let fusedRank ← checkedSum 16 index 1
  let denominator ← checkedSum 16 contextBuildRrfK candidate.providerRank
  .ok ⟨candidate.provider, candidate.providerRank, fusedRank, denominator⟩

def pendingItemUnits : PendingItem → Except ContextBuildError Nat
  | .source candidate => .ok candidate.declaration.length
  | .memory _ recalled =>
    match recalled.record with
    | none => .error .invalidMemoryCandidate
    | some record =>
      checkedSum 64 record.claim.title.text.byteLength record.claim.body.text.byteLength

def addBudgetOmission (admission : Admission) :
    ContextProvider → Except ContextBuildError Admission
  | .memory => do
    let count ← checkedSum 64 admission.memoryBudgetOmitted 1
    .ok { admission with memoryBudgetOmitted := count }
  | .source => do
    let count ← checkedSum 64 admission.sourceBudgetOmitted 1
    .ok { admission with sourceBudgetOmitted := count }
  | .structural | .references | .history => .error .invalidSourceInput

def admitItem (admission : Admission) (rank : ContextRank) (estimatedUnits : Nat) :
    PendingItem → Except ContextBuildError Admission
  | .memory _ record => do
    let count ← checkedSum 64 admission.memoryIncluded 1
    .ok { admission with
      memoryIncluded := count
      items := admission.items ++ [.memory rank estimatedUnits record] }
  | .source candidate => do
    let count ← checkedSum 64 admission.sourceIncluded 1
    .ok { admission with
      sourceIncluded := count
      items := admission.items ++ [.source rank estimatedUnits candidate] }

/-- One turn of the loop of `admit_pending`. -/
def admitCandidate (budget : ContextBuildBudget) (index : Nat) (candidate : PendingItem)
    (admission : Admission) : Except ContextBuildError Admission := do
  let rank ← contextRank candidate index
  let estimatedUnits ← pendingItemUnits candidate
  let nextUsed ← checkedSum 64 admission.usedUnits estimatedUnits
  if budget.units < nextUsed then
    addBudgetOmission admission candidate.provider
  else
    admitItem { admission with usedUnits := nextUsed } rank estimatedUnits candidate

def admitPendingFrom (budget : ContextBuildBudget) :
    Nat → List PendingItem → Admission → Polled ContextBuildError Admission
  | _, [], admission => pure admission
  | index, candidate :: rest, admission => do
    Polled.poll
    let after ← .done (admitCandidate budget index candidate admission)
    admitPendingFrom budget (index + 1) rest after

def admitPending (pending : List PendingItem) (budget : ContextBuildBudget) :
    Polled ContextBuildError Admission :=
  admitPendingFrom budget 0 pending ⟨[], 0, 0, 0, 0, 0⟩

def omissions (sourceSearch sourceExpansion : Nat) (memoryAvailable : Bool)
    (memoryRecall memoryNonCurrent memoryBudget sourceBudget : Nat) : List ContextOmission :=
  (if sourceSearch ≠ 0 then [.sourceSearchLimit sourceSearch] else []) ++
  (if sourceExpansion ≠ 0 then [.sourceExpansionLimit sourceExpansion] else []) ++
  (if memoryAvailable then
    (if memoryRecall ≠ 0 then [.memoryRecallLimit memoryRecall] else []) ++
      (if memoryNonCurrent ≠ 0 then [.memoryNotCurrent memoryNonCurrent] else [])
  else
    [.memoryProjectionUnavailable]) ++
  (if memoryBudget ≠ 0 then [.budget .memory memoryBudget] else []) ++
  (if sourceBudget ≠ 0 then [.budget .source sourceBudget] else []) ++
  [.providerUnavailable .structural, .providerUnavailable .references,
    .providerUnavailable .history]

/-- `checked_sub` of two counts of the source input. -/
def checkedDifference (whole part : Nat) : Except ContextBuildError Nat :=
  if part ≤ whole then .ok (whole - part) else .error .invalidSourceInput

def compileContext (source : ContextSourceInput G) (memory : Option (MemoryRecallResult G P))
    (budget : ContextBuildBudget) : Polled ContextBuildError (ContextBuildResult G P) := do
  Polled.poll
  let sourceExpansionOmitted ←
    .done (checkedDifference source.returnedMatches source.candidates.length)
  let sourceSearchOmitted ← .done (checkedDifference source.totalMatches source.returnedMatches)
  let prepared ← preparePending source.candidates source.snapshot source.generation memory
  let admission ← admitPending prepared.items budget
  Polled.poll
  pure {
    snapshot := source.snapshot
    generation := source.generation
    memory := prepared.projection
    budget
    usedUnits := admission.usedUnits
    items := admission.items
    coverage := {
      sourceTotalMatches := source.totalMatches
      sourceReturnedMatches := source.returnedMatches
      sourceExpansionOmitted
      sourceBudgetOmitted := admission.sourceBudgetOmitted
      sourceIncluded := admission.sourceIncluded
      memoryTotalMatches := prepared.totalMatches
      memoryReturnedMatches := prepared.returnedMatches
      memoryNonCurrentOmitted := prepared.nonCurrentOmitted
      memoryBudgetOmitted := admission.memoryBudgetOmitted
      memoryIncluded := admission.memoryIncluded }
    omissions := omissions sourceSearchOmitted sourceExpansionOmitted memory.isSome
      prepared.recallOmitted prepared.nonCurrentOmitted admission.memoryBudgetOmitted
      admission.sourceBudgetOmitted }

/-! ## The fused order -/

namespace PendingItem

/-- The tie breaks of one provider, empty for the items of the other. -/
def tieKey : PendingItem → List UInt8 × Nat × MemoryRecordId
  | .memory _ record => ([], 0, record.recordId)
  | .source candidate => (candidate.path.bytes, candidate.factOrdinal, 0)

theorem fused_eq : fused = compareLex (compareOn providerRank)
        (compareLex (compareOn fun item => item.provider.ctorIdx)
          (compareLex (compareOn fun item => item.tieKey.1)
            (compareLex (compareOn fun item => item.tieKey.2.1)
              (compareOn fun item => item.tieKey.2.2)))) := by
  funext left right
  cases left <;> cases right
  case memory.memory | source.source =>
    simp [fused, compareLex, compareOn, tieKey, stableTieBreak, provider]
  case memory.source | source.memory => rfl

instance : TransCmp fused := by
  rw [fused_eq]
  infer_instance

end PendingItem

/-! ## What is counted -/

def ContextItem.pending : ContextItem → PendingItem
  | .memory rank _ record => .memory rank.providerRank record
  | .source _ _ candidate => .source candidate

/-- The items of one provider. -/
def countOf (provider : ContextProvider) (pending : List PendingItem) : Nat :=
  pending.countP (·.provider = provider)

def totalUnits (items : List ContextItem) : Nat := (items.map ContextItem.estimatedUnits).sum

def currentMemory (index : Nat) (records : List MemoryRecallRecord) : List PendingItem :=
  (records.zipIdx index).filterMap fun (record, place) =>
    if record.effectiveState = .current then some (.memory (place + 1) record) else none

def searchOmitted (reported : List ContextOmission) : Nat :=
  (reported.map fun
    | .sourceSearchLimit count => count
    | _ => 0).sum

/--
The items packed from pending ones: in their order, within the budget, and each
item left out was larger than what the items before it had left.
-/
structure Packs (budget : Nat) (pending : List PendingItem) (items : List ContextItem) : Prop where
  inOrder : (items.map ContextItem.pending).Sublist pending
  estimated : ∀ item ∈ items, pendingItemUnits item.pending = .ok item.estimatedUnits
  within : totalUnits items ≤ budget
  ranked : ∀ item ∈ items, item.rank.fusedRank ≤ pending.length
  turn : ∀ index candidate, pending[index]? = some candidate →
      (∃ item ∈ items, item.rank.fusedRank = index + 1 ∧ item.pending = candidate) ∨
        ∃ units, pendingItemUnits candidate = .ok units ∧
          budget < totalUnits (items.filter (·.rank.fusedRank ≤ index)) + units

/-- The items of one provider that the budget left out and that it admitted. -/
def Admission.counts (admission : Admission) : ContextProvider → Nat × Nat
  | .source => (admission.sourceBudgetOmitted, admission.sourceIncluded)
  | .memory => (admission.memoryBudgetOmitted, admission.memoryIncluded)
  | .structural | .references | .history => (0, 0)

/-- The loop's record of the items whose turn has come. -/
structure Admits (budget : ContextBuildBudget) (pending : List PendingItem)
    (admission : Admission) : Prop where
  packs : Packs budget.units pending admission.items
  used : admission.usedUnits = totalUnits admission.items
  included : ∀ provider,
    (admission.counts provider).2 = countOf provider (admission.items.map ContextItem.pending)
  counted : ∀ provider,
    countOf provider pending = (admission.counts provider).1 + (admission.counts provider).2

section Admission

variable {budget : ContextBuildBudget} {pending : List PendingItem} {candidate : PendingItem}
  {items : List ContextItem} {admission after : Admission} {rank : ContextRank} {units : Nat}

theorem checkedSum_ok {bits first second sum : Nat}
    (accepted : checkedSum bits first second = .ok sum) : sum = first + second := by
  unfold checkedSum at accepted
  split at accepted
  · exact (Except.ok.inj accepted).symm
  · cases accepted

variable {index limit : Nat}

theorem contextRank_ok (accepted : contextRank candidate index = .ok rank) :
    rank.providerRank = candidate.providerRank ∧ rank.fusedRank = index + 1 := by
  obtain ⟨fusedRank, fusedAccepted, accepted⟩ := except_bind_eq_ok_iff.mp accepted
  obtain ⟨denominator, -, accepted⟩ := except_bind_eq_ok_iff.mp accepted
  cases accepted
  exact ⟨rfl, checkedSum_ok fusedAccepted⟩

theorem totalUnits_append (first second : List ContextItem) :
    totalUnits (first ++ second) = totalUnits first + totalUnits second := by
  simp [totalUnits]

theorem countOf_append (provider : ContextProvider) (first second : List PendingItem) :
    countOf provider (first ++ second) = countOf provider first + countOf provider second :=
  List.countP_append

/-- The turns that have come and the next one. -/
theorem getElem?_concat {other : PendingItem}
    (isAt : (pending ++ [candidate])[index]? = some other) :
    index < pending.length ∧ pending[index]? = some other ∨
      index = pending.length ∧ other = candidate := by
  by_cases earlier : index < pending.length
  · rw [List.getElem?_append_left earlier] at isAt
    exact .inl ⟨earlier, isAt⟩
  · rw [List.getElem?_append_right (Nat.not_lt.mp earlier), List.getElem?_singleton] at isAt
    split at isAt
    next here => exact .inr ⟨by omega, (Option.some.inj isAt).symm⟩
    next => cases isAt

theorem Packs.leaveOut (packs : Packs limit pending items)
    (estimated : pendingItemUnits candidate = .ok units)
    (exceeds : limit < totalUnits items + units) :
    Packs limit (pending ++ [candidate]) items where
  inOrder := packs.inOrder.trans (List.sublist_append_left _ _)
  estimated := packs.estimated
  within := packs.within
  ranked item isItem := by
    rw [List.length_append]
    exact Nat.le_add_right_of_le (packs.ranked item isItem)
  turn index other isAt := by
    rcases getElem?_concat isAt with ⟨-, isEarlier⟩ | ⟨rfl, rfl⟩
    · exact packs.turn index other isEarlier
    · have before : items.filter (·.rank.fusedRank ≤ pending.length) = items :=
        List.filter_eq_self.mpr fun item isItem => decide_eq_true (packs.ranked item isItem)
      exact .inr ⟨units, estimated, by rwa [before]⟩

/-- The item of the next turn is taken. -/
theorem Packs.take (packs : Packs limit pending items) {item : ContextItem}
    (estimated : pendingItemUnits item.pending = .ok item.estimatedUnits)
    (fits : totalUnits items + item.estimatedUnits ≤ limit)
    (placed : item.rank.fusedRank = pending.length + 1) :
    Packs limit (pending ++ [item.pending]) (items ++ [item]) where
  inOrder := by
    rw [List.map_append]
    exact packs.inOrder.append (List.Sublist.refl _)
  estimated other isOther := by
    rcases List.mem_append.mp isOther with old | new
    · exact packs.estimated other old
    · rwa [List.mem_singleton.mp new]
  within := by
    rw [totalUnits_append]
    exact fits
  ranked other isOther := by
    rw [List.length_append, List.length_singleton]
    rcases List.mem_append.mp isOther with old | new
    · exact Nat.le_succ_of_le (packs.ranked other old)
    · rw [List.mem_singleton.mp new, placed]
  turn index other isAt := by
    rcases getElem?_concat isAt with ⟨before, isEarlier⟩ | ⟨rfl, rfl⟩
    · rcases packs.turn index other isEarlier with ⟨taken, isTaken, same⟩ | ⟨units, known, exceeds⟩
      · exact .inl ⟨taken, List.mem_append_left _ isTaken, same⟩
      · -- The new item comes after the turn of the one left out.
        have later : ¬item.rank.fusedRank ≤ index := by omega
        refine .inr ⟨units, known, ?_⟩
        rwa [List.filter_append, List.filter_cons_of_neg (by simpa using later),
          List.filter_nil, List.append_nil]
    · exact .inl ⟨item, by simp, placed, rfl⟩

def admittedAs (rank : ContextRank) (units : Nat) : PendingItem → ContextItem
  | .memory _ record => .memory rank units record
  | .source candidate => .source rank units candidate

theorem admittedAs_of_rank (units : Nat) (same : rank.providerRank = candidate.providerRank) :
    (admittedAs rank units candidate).pending = candidate ∧
      (admittedAs rank units candidate).estimatedUnits = units ∧
      (admittedAs rank units candidate).rank = rank := by
  cases candidate with
  | memory => exact ⟨congrArg (PendingItem.memory · _) same, rfl, rfl⟩
  | source => exact ⟨rfl, rfl, rfl⟩

/-- A raised counter is one more than it was. -/
theorem raised_ok {count : Nat} {raised : Nat → Admission}
    (accepted : checkedSum 64 count 1 >>= (fun sum => .ok (raised sum)) = .ok after) :
    after = raised (count + 1) := by
  obtain ⟨sum, counted, accepted⟩ := except_bind_eq_ok_iff.mp accepted
  rw [← checkedSum_ok counted]
  exact (Except.ok.inj accepted).symm

theorem addBudgetOmission_ok
    (accepted : addBudgetOmission admission candidate.provider = .ok after) :
    after.items = admission.items ∧ after.usedUnits = admission.usedUnits ∧
      ∀ provider, after.counts provider =
        ((admission.counts provider).1 + countOf provider [candidate],
          (admission.counts provider).2) := by
  cases candidate <;> cases raised_ok accepted <;>
    exact ⟨rfl, rfl, fun provider => by cases provider <;> rfl⟩

theorem admitItem_ok (accepted : admitItem admission rank units candidate = .ok after) :
    after.items = admission.items ++ [admittedAs rank units candidate] ∧
      after.usedUnits = admission.usedUnits ∧
      ∀ provider, after.counts provider =
        ((admission.counts provider).1,
          (admission.counts provider).2 + countOf provider [candidate]) := by
  cases candidate <;> cases raised_ok accepted <;>
    exact ⟨rfl, rfl, fun provider => by cases provider <;> rfl⟩

theorem Admits.step (admits : Admits budget pending admission)
    (accepted : admitCandidate budget pending.length candidate admission = .ok after) :
    Admits budget (pending ++ [candidate]) after := by
  obtain ⟨rank, ranked, accepted⟩ := except_bind_eq_ok_iff.mp accepted
  obtain ⟨units, estimated, accepted⟩ := except_bind_eq_ok_iff.mp accepted
  obtain ⟨nextUsed, summed, accepted⟩ := except_bind_eq_ok_iff.mp accepted
  obtain ⟨providerRank, fusedRank⟩ := contextRank_ok ranked
  have total := checkedSum_ok summed
  rw [admits.used] at total
  split at accepted
  next exceeds =>
    obtain ⟨items, used, counts⟩ := addBudgetOmission_ok accepted
    refine ⟨?_, ?_, fun provider => ?_, fun provider => ?_⟩
    · rw [items]
      exact admits.packs.leaveOut estimated (total ▸ exceeds)
    · rw [used, items, admits.used]
    · rw [counts, items, admits.included]
    · rw [countOf_append, admits.counted, counts]
      omega
  next fits =>
    obtain ⟨items, used, counts⟩ := admitItem_ok accepted
    obtain ⟨same, size, place⟩ := admittedAs_of_rank units providerRank
    have packs := admits.packs.take (by rw [same, size]; exact estimated)
      (by rw [size]; omega) (by rw [place]; exact fusedRank)
    dsimp only at items used
    rw [same, ← items] at packs
    refine ⟨packs, ?_, fun provider => ?_, fun provider => ?_⟩
    · have last : totalUnits [admittedAs rank units candidate] = units := by
        simpa [totalUnits] using size
      rw [used, items, totalUnits_append, total, last]
    · rw [counts, items, List.map_append, countOf_append, List.map_singleton, same,
        ← admits.included]
      rfl
    · rw [countOf_append, admits.counted, counts, ← Nat.add_assoc]
      rfl

theorem admits_admitPendingFrom {rest : List PendingItem} (admits : Admits budget pending admission)
    (accepted : (admitPendingFrom budget pending.length rest admission).result = .ok after) :
    Admits budget (pending ++ rest) after := by
  induction rest generalizing pending admission with
  | nil =>
    cases accepted
    rwa [List.append_nil]
  | cons candidate rest hypothesis =>
    simp only [admitPendingFrom, Polled.result_bind, Polled.result_poll, except_ok_bind] at accepted
    obtain ⟨middle, stepped, accepted⟩ := except_bind_eq_ok_iff.mp accepted
    rw [List.append_cons]
    refine hypothesis (admits.step stepped) ?_
    rwa [List.length_append]

theorem admitPending_ok (accepted : (admitPending pending budget).result = .ok after) :
    Admits budget pending after := by
  have started : Admits budget [] ⟨[], 0, 0, 0, 0, 0⟩ :=
    { packs := ⟨List.nil_sublist _, by simp, Nat.zero_le _, by simp, by simp⟩
      used := rfl
      included := fun provider => by cases provider <;> rfl
      counted := fun provider => by cases provider <;> rfl }
  exact admits_admitPendingFrom started accepted

end Admission

/-! ## One declaration and one record -/

namespace Sample

def input : ContextSourceInput Unit where
  snapshot := 0
  generation := ()
  totalMatches := 3
  returnedMatches := 2
  candidates := [⟨1, SampleMemory.path, 0, [102, 110]⟩]
  searched := by decide
  bounded := by decide
  expanded := by decide
  ranked := List.pairwise_singleton _ _
  lastRank := by simp

def header : MemoryRecordHeader := { SampleMemory.firstHeader with recordId := 7 }

def memory : MemoryRecallResult Unit Unit :=
  ⟨0, (), (), 1, 0, [⟨7, some (SampleMemory.record header), .current⟩]⟩

def budget : ContextBuildBudget := ⟨3, by decide, by decide⟩

end Sample

/-! ## The whole pack -/

section Pack

variable {source : ContextSourceInput G} {memory : Option (MemoryRecallResult G P)}
  {budget : ContextBuildBudget} {result : ContextBuildResult G P}

/-- The records that recall returned. -/
def recalled (memory : Option (MemoryRecallResult G P)) : List MemoryRecallRecord :=
  (memory.map MemoryRecallResult.records).getD []

omit [DecidableEq G] in
variable {records : List MemoryRecallRecord} {index : Nat}

theorem addCurrentMemory_ok {omitted finalOmitted : Nat} {items final : List PendingItem}
    (accepted :
      (addCurrentMemory index records (items, omitted)).result = .ok (final, finalOmitted)) :
    final = items ++ currentMemory index records ∧
      records.length + omitted = finalOmitted + (currentMemory index records).length := by
  induction records generalizing index items omitted with
  | nil =>
    cases accepted
    simp [currentMemory]
  | cons record rest hypothesis =>
    simp only [addCurrentMemory, Polled.result_bind, Polled.result_poll, except_ok_bind] at accepted
    split at accepted
    next other =>
      rw [Polled.result_bind] at accepted
      obtain ⟨counted, isCounted, accepted⟩ := except_bind_eq_ok_iff.mp accepted
      obtain ⟨rfl, sizes⟩ := hypothesis accepted
      have skipped : currentMemory index (record :: rest) = currentMemory (index + 1) rest := by
        simp [currentMemory, List.zipIdx_cons, other]
      rw [checkedSum_ok isCounted] at sizes
      rw [skipped, List.length_cons]
      exact ⟨rfl, by omega⟩
    next isCurrent =>
      split at accepted
      next => cases accepted
      next =>
        rw [Polled.result_bind] at accepted
        obtain ⟨rank, isRank, accepted⟩ := except_bind_eq_ok_iff.mp accepted
        obtain ⟨rfl, sizes⟩ := hypothesis accepted
        have taken : currentMemory index (record :: rest) =
            .memory (index + 1) record :: currentMemory (index + 1) rest := by
          simp [currentMemory, List.zipIdx_cons, not_not.mp isCurrent]
        rw [checkedSum_ok isRank, taken, List.length_cons, List.length_cons]
        exact ⟨by simp, by omega⟩

/-- What a built pack accounts for. -/
structure Accounts (source : ContextSourceInput G) (memory : Option (MemoryRecallResult G P))
    (budget : ContextBuildBudget) (result : ContextBuildResult G P) : Prop where
  sourceTotal : result.coverage.sourceTotalMatches = source.totalMatches ∧
      result.coverage.sourceTotalMatches =
        searchOmitted result.omissions + result.coverage.sourceExpansionOmitted +
          result.coverage.sourceBudgetOmitted + result.coverage.sourceIncluded
  memoryReturned :
    result.coverage.memoryReturnedMatches = (recalled memory).length ∧
      result.coverage.memoryReturnedMatches =
        result.coverage.memoryNonCurrentOmitted + result.coverage.memoryBudgetOmitted +
          result.coverage.memoryIncluded
  sourceIncluded :
    result.coverage.sourceIncluded = countOf .source (result.items.map ContextItem.pending)
  memoryIncluded :
    result.coverage.memoryIncluded = countOf .memory (result.items.map ContextItem.pending)
  used : result.usedUnits = totalUnits result.items
  withinBudget : result.usedUnits ≤ budget.units
  current : ∀ rank units record, .memory rank units record ∈ result.items →
    record.effectiveState = .current
  fusedOrder : SortedBy PendingItem.fused (result.items.map ContextItem.pending)
  packed : ∃ pending, SortedBy PendingItem.fused pending ∧
      pending.Perm (source.candidates.map .source ++ currentMemory 0 (recalled memory)) ∧
      Packs budget.units pending result.items

theorem preparePending_ok {prepared : PreparedPending P}
    (accepted :
      (preparePending source.candidates source.snapshot source.generation memory).result =
        .ok prepared) :
    SortedBy PendingItem.fused prepared.items ∧
      prepared.items.Perm (source.candidates.map .source ++ currentMemory 0 (recalled memory)) ∧
      prepared.returnedMatches = (recalled memory).length ∧
      prepared.returnedMatches =
        prepared.nonCurrentOmitted + (currentMemory 0 (recalled memory)).length := by
  cases memory with
  | none =>
    cases accepted
    refine ⟨sortBy_sorted _ _, ?_, rfl, rfl⟩
    exact (sortBy_perm _ _).trans (List.Perm.of_eq (List.append_nil _).symm)
  | some memory =>
    simp only [preparePending] at accepted
    split at accepted
    next => cases accepted
    next =>
      rw [Polled.result_bind] at accepted
      obtain ⟨⟨items, omitted⟩, added, accepted⟩ := except_bind_eq_ok_iff.mp accepted
      cases accepted
      obtain ⟨rfl, sizes⟩ := addCurrentMemory_ok added
      exact ⟨sortBy_sorted _ _, sortBy_perm _ _, rfl, sizes⟩

omit [DecidableEq G] in
theorem exists_of_mem_currentMemory
    {item : PendingItem} (isItem : item ∈ currentMemory index records) :
    ∃ rank record, item = .memory rank record ∧ record.effectiveState = .current := by
  obtain ⟨⟨record, place⟩, -, taken⟩ := List.mem_filterMap.mp isItem
  dsimp only at taken
  split at taken
  next isCurrent =>
    cases taken
    exact ⟨_, _, rfl, isCurrent⟩
  next => cases taken

omit [DecidableEq G] in
theorem countOf_pending (candidates : List ContextSourceCandidate)
    (records : List MemoryRecallRecord) :
    countOf .source (candidates.map .source ++ currentMemory 0 records) = candidates.length ∧
      countOf .memory (candidates.map .source ++ currentMemory 0 records) =
        (currentMemory 0 records).length := by
  have sources : ∀ item ∈ candidates.map PendingItem.source, item.provider = .source := by
    intro item isItem
    obtain ⟨candidate, -, rfl⟩ := List.mem_map.mp isItem
    rfl
  have memories : ∀ item ∈ currentMemory 0 records, item.provider = .memory := by
    intro item isItem
    obtain ⟨rank, record, rfl, -⟩ := exists_of_mem_currentMemory isItem
    rfl
  have counted (provider other : ContextProvider) (different : other ≠ provider)
      {first second : List PendingItem} (isFirst : ∀ item ∈ first, item.provider = provider)
      (isSecond : ∀ item ∈ second, item.provider = other) :
      countOf provider first = first.length ∧ countOf provider second = 0 :=
    ⟨List.countP_eq_length.mpr fun item isItem => decide_eq_true (isFirst item isItem),
      List.countP_eq_zero.mpr fun item isItem same =>
        different ((isSecond item isItem).symm.trans (of_decide_eq_true same))⟩
  obtain ⟨ofSource, noSource⟩ := counted .source .memory (by decide) sources memories
  obtain ⟨ofMemory, noMemory⟩ := counted .memory .source (by decide) memories sources
  rw [countOf_append, countOf_append, ofSource, noSource, ofMemory, noMemory, List.length_map]
  exact ⟨Nat.add_zero _, Nat.zero_add _⟩

theorem checkedDifference_ok {whole part difference : Nat}
    (accepted : checkedDifference whole part = .ok difference) : whole = difference + part := by
  unfold checkedDifference at accepted
  split at accepted
  · cases accepted
    omega
  · cases accepted

theorem searchOmitted_omissions
    (search expansion unrecalled nonCurrent memoryBudget sourceBudget : Nat) (available : Bool) :
    searchOmitted
        (omissions search expansion available unrecalled nonCurrent memoryBudget sourceBudget) =
      search := by
  unfold omissions searchOmitted
  repeat' split
  all_goals simp_all

/-- A pack that a control lets finish accounts for every match of its providers. -/
theorem context_pack_accounts (source : ContextSourceInput G)
    (memory : Option (MemoryRecallResult G P)) (budget : ContextBuildBudget)
    (control : Nat → Option ContextBuildError) (result : ContextBuildResult G P)
    (built : (compileContext source memory budget).observe control = .ok result) :
    Accounts source memory budget result := by
  replace built := Polled.result_of_observe_ok built
  simp only [compileContext, Polled.result_bind, Polled.result_poll, except_ok_bind] at built
  obtain ⟨expansionOmitted, expansion, built⟩ := except_bind_eq_ok_iff.mp built
  obtain ⟨searchOmitted, search, built⟩ := except_bind_eq_ok_iff.mp built
  obtain ⟨prepared, isPrepared, built⟩ := except_bind_eq_ok_iff.mp built
  obtain ⟨admission, isAdmitted, built⟩ := except_bind_eq_ok_iff.mp built
  cases built
  obtain ⟨sorted, permutation, returned, accounted⟩ := preparePending_ok isPrepared
  have admits := admitPending_ok isAdmitted
  obtain ⟨sources, memories⟩ := countOf_pending source.candidates (recalled memory)
  have sourceCounted := admits.counted .source
  have memoryCounted := admits.counted .memory
  rw [countOf, permutation.countP_eq, ← countOf] at sourceCounted memoryCounted
  dsimp only [Admission.counts] at sourceCounted memoryCounted
  have expanded := checkedDifference_ok expansion
  have searched := checkedDifference_ok search
  constructor
  case sourceTotal =>
    refine ⟨rfl, ?_⟩
    rw [searchOmitted_omissions]
    dsimp only
    omega
  case memoryReturned =>
    refine ⟨returned, ?_⟩
    rw [accounted, ← memories, memoryCounted, Nat.add_assoc]
  case sourceIncluded => exact admits.included .source
  case memoryIncluded => exact admits.included .memory
  case used => exact admits.used
  case withinBudget => exact admits.used ▸ admits.packs.within
  case current =>
    intro rank units record isItem
    have isPending : PendingItem.memory rank.providerRank record ∈ prepared.items :=
      admits.packs.inOrder.subset (List.mem_map_of_mem isItem)
    rcases List.mem_append.mp (permutation.mem_iff.mp isPending) with isSource | isMemory
    · obtain ⟨candidate, -, ⟨⟩⟩ := List.mem_map.mp isSource
    · obtain ⟨_, _, ⟨⟩, isCurrent⟩ := exists_of_mem_currentMemory isMemory
      exact isCurrent
  case fusedOrder => exact sorted.sublist admits.packs.inOrder
  case packed => exact ⟨prepared.items, sorted, permutation, admits.packs⟩

/-- The record is ranked first and leaves no room for the declaration. -/
theorem context_pack_accounts_of_one_record : ∃ result,
      (compileContext Sample.input (some Sample.memory) Sample.budget).observe Polled.never =
        .ok result ∧
      result.coverage.memoryIncluded = 1 ∧ result.coverage.sourceBudgetOmitted = 1 ∧
      Accounts Sample.input (some Sample.memory) Sample.budget result :=
  ⟨_, rfl, rfl, rfl, context_pack_accounts _ _ _ Polled.never _ rfl⟩

end Pack

end RepoWitness.ContextBuild
