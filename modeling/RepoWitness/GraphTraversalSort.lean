import RepoWitness.ChunkedRuns
import RepoWitness.ComparatorOrder
import RepoWitness.GraphTraversalModel

namespace RepoWitness

open Std

/-!
# The cancellable index sort

`cancellable_sort_indices` sorts runs of 256 indexes with the library's
unstable sort and then merges them bottom up between two buffers, polling the
control between runs and every 256 merge positions.  An index stands for the
edge it addresses in the immutable slice, so the model sorts the elements
themselves.
-/

/--
The contract of `slice::sort_unstable_by`: it permutes its input, and sorts it
when the comparator is a total preorder.  Which arrangement of equal elements
it returns is left open.
-/
structure UnstableSort where
  sortUnstableBy : {α : Type} → (α → α → Ordering) → List α → List α
  perm : ∀ {α : Type} (compare : α → α → Ordering) (items : List α),
      (sortUnstableBy compare items).Perm items
  sorted :
    ∀ {α : Type} (compare : α → α → Ordering) [TransCmp compare] (items : List α),
      SortedBy compare (sortUnstableBy compare items)

/-- Insertion sort meets the contract, so the engine can be evaluated. -/
def insertionSorter : UnstableSort where
  sortUnstableBy compare items := items.insertionSort (ComparesLE compare)
  perm _ items := List.perm_insertionSort _ items
  sorted compare _ items := by
    have total : Std.Total (ComparesLE compare) := ⟨ComparesLE.total compare⟩
    have transitive : IsTrans _ (ComparesLE compare) := ⟨fun _ _ _ => ComparesLE.trans⟩
    exact List.pairwise_insertionSort _ items

def sortChunk : Nat := 256

def checkedMul (first second : Nat) : Except RustGraphTraceError Nat :=
  if first * second < 2 ^ 64 then
    .ok (first * second)
  else
    .error .countOverflow

theorem checkedMul_eq_ok {first second : Nat} (representable : first * second < 2 ^ 64) :
    checkedMul first second = .ok (first * second) := if_pos representable

section Algorithm

variable {α : Type}

/--
Fill the output slots of one merged run.  `leftRun` and `rightRun` are the
parts of the source not yet taken, and `position` is the sum of the two source
indexes, whose low byte decides when the control is polled.
-/
def mergeOutputs (compare : α → α → Ordering) :
    Nat → List α → List α → List α → Polled RustGraphTraceError (List α)
  | _, [], _, _ => pure []
  | position, old :: slots, leftRun, rightRun => do
    Polled.pollWhen (position % 256 == 0)
    match leftRun, rightRun with
    | first :: leftRest, [] =>
      let rest ← mergeOutputs compare (position + 1) slots leftRest []
      pure (first :: rest)
    | first :: leftRest, second :: rightRest =>
      if compare first second ≠ .gt then
        let rest ← mergeOutputs compare (position + 1) slots leftRest (second :: rightRest)
        pure (first :: rest)
      else
        let rest ← mergeOutputs compare (position + 1) slots (first :: leftRest) rightRest
        pure (second :: rest)
    | [], second :: rightRest =>
      let rest ← mergeOutputs compare (position + 1) slots [] rightRest
      pure (second :: rest)
    -- There are as many slots as elements, so both runs end together.
    | [], [] => pure (old :: slots)

/-- One bottom-up pass from the source buffer into the destination buffer. -/
def mergeRuns (compare : α → α → Ordering) (source destination : List α) (width : Nat) :
    Polled RustGraphTraceError (List α) := do
  let run ← Polled.done (checkedMul width 2)
  forRuns
    (fun start => do
      Polled.poll
      let middle := min (start + width) source.length
      let stop := min (start + run) source.length
      mergeOutputs compare (start + middle) (slice destination start stop)
        (slice source start middle)
        (slice source middle stop))
    (stepBy source.length run)

/-- The slice, its copy, and which of the two the next pass reads. -/
structure SortBuffers (α : Type) where
  indexes : List α
  scratch : List α
  sourceIsIndexes : Bool

/-- The buffer that was written last. -/
def SortBuffers.source (buffers : SortBuffers α) : List α :=
  if buffers.sourceIsIndexes then buffers.indexes else buffers.scratch

/-- One turn of the doubling loop: merge into the other buffer and swap roles. -/
def mergePass (compare : α → α → Ordering) (width : Nat) (buffers : SortBuffers α) :
    Polled RustGraphTraceError (SortBuffers α) :=
  if buffers.sourceIsIndexes then do
    let scratch ← mergeRuns compare buffers.indexes buffers.scratch width
    pure { buffers with scratch, sourceIsIndexes := false }
  else do
    let indexes ← mergeRuns compare buffers.scratch buffers.indexes width
    pure { buffers with indexes, sourceIsIndexes := true }

/-- The doubling loop over a slice of the given length. -/
def mergePasses (compare : α → α → Ordering) (length : Nat) (width : Nat) (positive : 0 < width)
    (buffers : SortBuffers α) :
    Polled RustGraphTraceError (SortBuffers α) :=
  if width < length then do
    Polled.poll
    let written ← mergePass compare width buffers
    let _ ← Polled.done (checkedMul width 2)
    mergePasses compare length (width * 2) (by omega) written
  else
    pure buffers
  termination_by length - width

/-- Sort with cooperative cancellation. -/
def cancellableSortIndices (sorter : UnstableSort) (compare : α → α → Ordering) (items : List α) :
    Polled RustGraphTraceError (List α) := do
  let indexes ←
    forRuns
      (fun start => do
        Polled.poll
        pure (sorter.sortUnstableBy compare ((items.drop start).take sortChunk)))
      (stepBy items.length sortChunk)
  if items.length ≤ sortChunk then
    Polled.poll
    pure indexes
  else
    let buffers ←
      mergePasses compare items.length sortChunk (by decide)
        { indexes, scratch := indexes, sourceIsIndexes := true }
    -- After an odd number of passes the result is in the scratch buffer.
    let indexes := if !buffers.sourceIsIndexes then buffers.scratch else buffers.indexes
    Polled.poll
    pure indexes

/-- The choice a merge makes between two heads. -/
def takesLeft (compare : α → α → Ordering) (first second : α) : Bool :=
  decide (compare first second ≠ .gt)

/-- Filling as many slots as there are elements is an ordinary merge. -/
theorem mergeOutputs_result (compare : α → α → Ordering) (position : Nat)
    {slots leftRun rightRun : List α} (exact : slots.length = leftRun.length + rightRun.length) :
    (mergeOutputs compare position slots leftRun rightRun).result =
      .ok (leftRun.merge rightRun (takesLeft compare)) := by
  induction slots generalizing position leftRun rightRun with
  | nil =>
    have leftEmpty : leftRun = [] := List.length_eq_zero_iff.mp (by simp at exact; omega)
    have rightEmpty : rightRun = [] := List.length_eq_zero_iff.mp (by simp at exact; omega)
    simp [mergeOutputs, leftEmpty, rightEmpty]
  | cons old slots hypothesis =>
    cases leftRun with
    | nil =>
      cases rightRun with
      | nil => simp at exact
      | cons second rightRest =>
        have later :=
          @hypothesis (position + 1) [] rightRest (by simp at exact ⊢; omega)
        simp [mergeOutputs, later]
    | cons first leftRest =>
      cases rightRun with
      | nil =>
        have later :=
          @hypothesis (position + 1) leftRest [] (by simp at exact ⊢; omega)
        simp [mergeOutputs, later]
      | cons second rightRest =>
        by_cases left : compare first second ≠ .gt
        · have later :=
            @hypothesis (position + 1) leftRest (second :: rightRest)
              (by simp at exact ⊢; omega)
          simp [mergeOutputs, left, later, takesLeft]
        · have later := @hypothesis (position + 1) (first :: leftRest) rightRest
              (by simp at exact ⊢; omega)
          simp only [ne_eq, not_not] at left
          simp [mergeOutputs, left, later, takesLeft]

/-- What one pass does to a run of twice the width. -/
def mergeHalves (compare : α → α → Ordering) (width : Nat) (run : List α) : List α :=
  (run.take width).merge (run.drop width) (takesLeft compare)

theorem mergeHalves_perm (compare : α → α → Ordering) (width : Nat) (run : List α) :
    (mergeHalves compare width run).Perm run := by
  calc
    (mergeHalves compare width run).Perm (run.take width ++ run.drop width) :=
      List.merge_perm_append _
    _ = run := List.take_append_drop width run

theorem takesLeft_iff_comparesLE (compare : α → α → Ordering) (first second : α) :
    takesLeft compare first second = true ↔ ComparesLE compare first second := by
  unfold takesLeft ComparesLE
  cases compare first second <;> decide

variable {compare : α → α → Ordering} {width : Nat} {source destination items : List α}

theorem mergeHalves_sorted [TransCmp compare]
    {run : List α} (lower : SortedBy compare (run.take width))
    (upper : SortedBy compare (run.drop width)) :
    SortedBy compare (mergeHalves compare width run) := by
  have transitive : ∀ first second third : α,
        takesLeft compare first second = true →
          takesLeft compare second third = true → takesLeft compare first third = true := by
    intro first second third before after
    rw [takesLeft_iff_comparesLE] at before after ⊢
    exact before.trans after
  have total : ∀ first second : α,
        (takesLeft compare first second || takesLeft compare second first) = true := by
    intro first second
    rw [Bool.or_eq_true, takesLeft_iff_comparesLE, takesLeft_iff_comparesLE]
    exact ComparesLE.total compare first second
  have merged :=
    List.pairwise_merge transitive total (run.take width) (run.drop width)
      (lower.imp (takesLeft_iff_comparesLE compare _ _).mpr)
      (upper.imp (takesLeft_iff_comparesLE compare _ _).mpr)
  exact merged.imp (takesLeft_iff_comparesLE compare _ _).mp

/-- A pass over buffers of one length merges every pair of adjacent runs. -/
theorem mergeRuns_result (compare : α → α → Ordering)
    (positive : 0 < width) (representable : width * 2 < 2 ^ 64)
    (sameLength : destination.length = source.length) :
    (mergeRuns compare source destination width).result =
      .ok (mapRuns (width * 2) (mergeHalves compare width) source) := by
  have run := checkedMul_eq_ok representable
  unfold mergeRuns
  simp only [Polled.result_bind, Polled.result_done, run, except_ok_bind]
  refine result_forRuns ?_
  intro start member
  have inside : start < source.length := lt_length_of_mem_stepBy (by omega) member
  have leftRun : slice source start (min (start + width) source.length) =
        ((source.drop start).take (width * 2)).take width := by
    unfold slice
    rw [List.take_take]
    apply List.take_eq_take_iff.mpr
    rw [List.length_drop]
    omega
  have rightRun :
      slice source (min (start + width) source.length) (min (start + width * 2) source.length) =
        ((source.drop start).take (width * 2)).drop width := by
    unfold slice
    rw [List.drop_take, List.drop_drop]
    by_cases full : start + width ≤ source.length
    · rw [Nat.min_eq_left full]
      apply List.take_eq_take_iff.mpr
      rw [List.length_drop]
      omega
    · have beyond : source.drop (start + width) = [] := List.drop_eq_nil_of_le (by omega)
      have clipped : min (start + width) source.length = source.length := by omega
      rw [beyond, clipped, List.drop_length]
      simp
  have slots :
      (slice destination start (min (start + width * 2) source.length)).length =
        (slice source start (min (start + width) source.length)).length +
          (slice source (min (start + width) source.length)
            (min (start + width * 2) source.length)).length := by
    simp only [slice, List.length_take, List.length_drop, sameLength]
    omega
  simp only [Polled.result_bind, Polled.result_poll, except_ok_bind]
  rw [mergeOutputs_result compare _ slots, leftRun, rightRun]
  rfl

/-- Every aligned run of the given width is sorted. -/
def RunsSorted (compare : α → α → Ordering) (width : Nat) (items : List α) : Prop :=
  ∀ index, SortedBy compare ((items.drop (index * width)).take width)

/-- A run as wide as the sequence is the sequence. -/
theorem RunsSorted.sortedBy
    (runsSorted : RunsSorted compare width items) (wide : items.length ≤ width) :
    SortedBy compare items := by
  have whole := runsSorted 0
  rwa [Nat.zero_mul, List.drop_zero, List.take_of_length_le wide] at whole

/-- One pass doubles the width of the sorted runs. -/
theorem runsSorted_mapRuns_mergeHalves [TransCmp compare]
    (positive : 0 < width) (runsSorted : RunsSorted compare width items) :
    RunsSorted compare (width * 2) (mapRuns (width * 2) (mergeHalves compare width) items) := by
  intro index
  rw [run_mapRuns (by omega) (mergeHalves_perm compare width)]
  apply mergeHalves_sorted
  · have lower := runsSorted (index * 2)
    have start : index * 2 * width = index * (width * 2) := by
      rw [Nat.mul_assoc, Nat.mul_comm 2 width]
    rw [start] at lower
    rwa [List.take_take, Nat.min_eq_left (by omega)]
  · have upper := runsSorted (index * 2 + 1)
    have start : (index * 2 + 1) * width = index * (width * 2) + width := by
      rw [Nat.succ_mul, Nat.mul_assoc, Nat.mul_comm 2 width]
    rw [start, ← List.drop_drop] at upper
    rwa [List.drop_take, show width * 2 - width = width by omega]

/-- A pass rewrites the runs of the buffer it reads into the other one. -/
theorem mergePass_result (compare : α → α → Ordering) {buffers : SortBuffers α}
    (positive : 0 < width) (representable : width * 2 < 2 ^ 64)
    (sameLength : buffers.scratch.length = buffers.indexes.length) :
    ∃ written,
      (mergePass compare width buffers).result = .ok written ∧
        written.source = mapRuns (width * 2) (mergeHalves compare width) buffers.source ∧
        written.scratch.length = buffers.indexes.length ∧
        written.indexes.length = buffers.indexes.length := by
  have keepsLength (items : List α) :=
    (mapRuns_perm (by omega : 0 < width * 2) (mergeHalves_perm compare width) items).length_eq
  obtain ⟨indexes, scratch, sourceIsIndexes⟩ := buffers
  cases sourceIsIndexes with
  | true =>
    have pass := mergeRuns_result compare positive representable sameLength
    exact ⟨⟨indexes, _, false⟩, by simp [mergePass, pass]; rfl, rfl, keepsLength _, rfl⟩
  | false =>
    have pass := mergeRuns_result compare positive representable sameLength.symm
    exact ⟨⟨_, scratch, true⟩, by simp [mergePass, pass]; rfl, rfl, sameLength,
      (keepsLength scratch).trans sameLength⟩

/-- The doubling loop ends with a sorted permutation in the buffer written last. -/
theorem mergePasses_result [TransCmp compare] (buffers : SortBuffers α) {length : Nat}
    (positive : 0 < width) (representable : length ≤ 2 ^ 63)
    (indexesLength : buffers.indexes.length = length)
    (scratchLength : buffers.scratch.length = length)
    (runsSorted : RunsSorted compare width buffers.source) :
    ∃ final,
      (mergePasses compare length width positive buffers).result = .ok final ∧
        final.source.Perm buffers.source ∧ SortedBy compare final.source := by
  induction remaining : length - width using Nat.strongRecOn generalizing width buffers with
  | ind bound hypothesis =>
    unfold mergePasses
    by_cases narrow : width < length
    · have fits : width * 2 < 2 ^ 64 := by omega
      obtain ⟨written, pass, source, newScratch, newIndexes⟩ :=
        mergePass_result compare positive fits (scratchLength.trans indexesLength.symm)
      have permutation :=
        mapRuns_perm (by omega : 0 < width * 2) (mergeHalves_perm compare width) buffers.source
      obtain ⟨final, accepted, laterPermutation, laterSorted⟩ :=
        hypothesis (length - width * 2) (by omega) written (by omega : 0 < width * 2)
          (newIndexes.trans indexesLength)
          (newScratch.trans indexesLength)
          (source ▸ runsSorted_mapRuns_mergeHalves positive runsSorted)
          rfl
      refine ⟨final, ?_, laterPermutation.trans (source ▸ permutation), laterSorted⟩
      simp [narrow, pass, checkedMul_eq_ok fits, accepted]
    · refine ⟨buffers, by simp [narrow], List.Perm.refl _, runsSorted.sortedBy ?_⟩
      unfold SortBuffers.source
      split <;> omega

/--
The cancellable sort of a representable sequence succeeds and returns a sorted
permutation, whichever unstable sort it uses for its chunks.
-/
theorem cancellableSortIndices_result (sorter : UnstableSort) (compare : α → α → Ordering)
    [TransCmp compare] (representable : items.length ≤ 2 ^ 63) :
    ∃ sorted,
      (cancellableSortIndices sorter compare items).result = .ok sorted ∧
        sorted.Perm items ∧ SortedBy compare sorted := by
  let chunked := mapRuns sortChunk (sorter.sortUnstableBy compare) items
  have chunks : (forRuns
        (fun start => do
          Polled.poll
          pure (sorter.sortUnstableBy compare ((items.drop start).take sortChunk)))
        (stepBy items.length sortChunk) : Polled RustGraphTraceError (List α)).result =
        .ok chunked :=
    result_forRuns (fun start _ => by simp)
  have permutation : chunked.Perm items := mapRuns_perm (by decide) (sorter.perm compare) items
  have runsSorted : RunsSorted compare sortChunk chunked := by
    intro index
    rw [run_mapRuns (by decide) (sorter.perm compare)]
    exact sorter.sorted compare _
  unfold cancellableSortIndices
  by_cases small : items.length ≤ sortChunk
  · refine ⟨chunked, ?_, permutation, ?_⟩
    · simp [chunks, small]
    · exact runsSorted.sortedBy (permutation.length_eq.symm ▸ small)
  · obtain ⟨final, accepted, later, ordered⟩ :=
      mergePasses_result ⟨chunked, chunked, true⟩ (by decide : 0 < sortChunk) representable
        permutation.length_eq permutation.length_eq runsSorted
    refine ⟨final.source, ?_, later.trans permutation, ordered⟩
    simp only [SortBuffers.source]
    cases flag : final.sourceIsIndexes <;> simp [chunks, small, accepted, flag]

/-- Sorting depends only on which elements are sorted. -/
theorem cancellableSortIndices_result_congr (sorter : UnstableSort) (compare : α → α → Ordering)
    [TransCmp compare] [LawfulEqCmp compare] {first second : List α}
    (representable : first.length ≤ 2 ^ 63) (permutation : first.Perm second) :
    (cancellableSortIndices sorter compare first).result =
      (cancellableSortIndices sorter compare second).result := by
  obtain ⟨firstSorted, firstAccepted, firstPerm, firstOrdered⟩ :=
    cancellableSortIndices_result sorter compare representable
  obtain ⟨secondSorted, secondAccepted, secondPerm, secondOrdered⟩ :=
    cancellableSortIndices_result sorter compare (permutation.length_eq ▸ representable)
  have same : firstSorted = secondSorted :=
    firstOrdered.eq_of_perm secondOrdered (firstPerm.trans (permutation.trans secondPerm.symm))
  rw [firstAccepted, secondAccepted, same]

end Algorithm

/-- A slice of `usize`, whose bytes an `isize` can count. -/
structure IndexSlice where
  indexes : List UInt64
  addressable : indexes.length * 8 < 2 ^ 63

/-- While the control lets it run, the sort leaves a sorted permutation of any slice. -/
theorem cancellable_sort_indices_sorts (sorter : UnstableSort)
    (compare : UInt64 → UInt64 → Ordering) [TransCmp compare] (slice : IndexSlice) :
    ∃ sorted,
      (cancellableSortIndices sorter compare slice.indexes).observe Polled.never = .ok sorted ∧
        sorted.Perm slice.indexes ∧ SortedBy compare sorted := by
  have addressable := slice.addressable
  rw [Polled.observe_never]
  exact cancellableSortIndices_result sorter compare (by omega)

/-- Two full runs and a third that ends early, merged by two passes. -/
def descendingIndexes : IndexSlice where
  indexes := (List.range 600).map fun index => UInt64.ofNat (599 - index)
  addressable := by rw [List.length_map, List.length_range]; decide

theorem cancellable_sort_indices_sorts_descending :
    (descendingIndexes.indexes.length = 600 ∧ sortChunk * 2 < 600 ∧ ¬sortChunk ∣ 600) ∧
      ∃ sorted,
        (cancellableSortIndices insertionSorter (compareOn (· / 2))
            descendingIndexes.indexes).observe Polled.never = .ok sorted ∧
          sorted.Perm descendingIndexes.indexes ∧ SortedBy (compareOn (· / 2)) sorted := by
  refine ⟨⟨?_, by decide, by decide⟩, ?_⟩
  · simp [descendingIndexes]
  · exact cancellable_sort_indices_sorts insertionSorter (compareOn (· / 2)) descendingIndexes

end RepoWitness
