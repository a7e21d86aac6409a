import Mathlib.Algebra.Order.Ring.Nat
import Mathlib.Data.List.Sort
import Mathlib.Order.Basic

namespace RepoWitness

open Std

/-!
# Comparators that decide equality

A lexicographic comparator is described by the fields it visits.  These lemmas
give the sorted-permutation reading of such comparators: when a comparator is
transitive and returns `eq` only on equal elements, a list has one sorted
arrangement, whichever algorithm produced it.
-/

section Comparator

variable {α β : Type}

/-- The order a comparator induces. -/
def ComparesLE (compare : α → α → Ordering) (first second : α) : Prop :=
  (compare first second).isLE = true

instance (compare : α → α → Ordering) (first second : α) :
    Decidable (ComparesLE compare first second) := inferInstanceAs (Decidable (_ = true))

/-- A list is sorted when every element compares at most its successors. -/
def SortedBy (compare : α → α → Ordering) (items : List α) : Prop :=
  items.Pairwise (ComparesLE compare)

variable {compare : α → α → Ordering} {first second : α}

theorem ComparesLE.trans [TransCmp compare] {third : α}
    (lower : ComparesLE compare first second) (upper : ComparesLE compare second third) :
    ComparesLE compare first third := TransCmp.isLE_trans lower upper

theorem ComparesLE.total (compare : α → α → Ordering) [OrientedCmp compare] (first second : α) :
    ComparesLE compare first second ∨ ComparesLE compare second first := by
  unfold ComparesLE
  rw [@OrientedCmp.eq_swap _ compare _ second first]
  cases compare first second <;> simp

theorem ComparesLE.antisymm [OrientedCmp compare] [LawfulEqCmp compare]
    (lower : ComparesLE compare first second) (upper : ComparesLE compare second first) :
    first = second := by
  refine @LawfulEqCmp.eq_of_compare _ compare _ _ _ ?_
  unfold ComparesLE at lower upper
  rw [@OrientedCmp.eq_swap _ compare _ second first] at upper
  cases outcome : compare first second <;> simp_all

/-- Two sorted arrangements of the same elements coincide. -/
theorem SortedBy.eq_of_perm [OrientedCmp compare] [LawfulEqCmp compare]
    {first second : List α} (firstSorted : SortedBy compare first)
    (secondSorted : SortedBy compare second) (permutation : first.Perm second) :
    first = second :=
  permutation.eq_of_pairwise (fun _ _ _ _ lower upper => lower.antisymm upper)
    firstSorted secondSorted

/-- `sort_by`: elements that compare equal keep their order. -/
def sortBy (compare : α → α → Ordering) (items : List α) : List α :=
  items.insertionSort (ComparesLE compare)

theorem sortBy_perm (compare : α → α → Ordering) (items : List α) :
    (sortBy compare items).Perm items := List.perm_insertionSort _ items

theorem sortBy_sorted (compare : α → α → Ordering) [TransCmp compare] (items : List α) :
    SortedBy compare (sortBy compare items) := by
  have total : Std.Total (ComparesLE compare) := ⟨ComparesLE.total compare⟩
  have transitive : IsTrans α (ComparesLE compare) := ⟨fun _ _ _ => ComparesLE.trans⟩
  exact List.pairwise_insertionSort _ items

/-- Under a comparator that decides equality, every sort agrees with it. -/
theorem mergeSort_isLE_eq_sortBy [TransCmp compare] [LawfulEqCmp compare] (items : List α) :
    items.mergeSort (fun left right => (compare left right).isLE) = sortBy compare items := by
  have permutation :
      (items.mergeSort (fun left right => (compare left right).isLE)).Perm (sortBy compare items) :=
    (List.mergeSort_perm items _).trans (sortBy_perm compare items).symm
  refine SortedBy.eq_of_perm ?_ (sortBy_sorted compare items) permutation
  refine List.pairwise_mergeSort ?_ ?_ items
  · intro first second third lower upper
    exact TransCmp.isLE_trans lower upper
  · intro first second
    exact Bool.or_eq_true _ _ ▸ ComparesLE.total compare first second

theorem lawfulEqCmp_compareOn [Ord β] [LawfulEqOrd β] {key : α → β}
    (injective : Function.Injective key) :
    LawfulEqCmp (compareOn key) where
  eq_of_compare same := injective (LawfulEqOrd.eq_of_compare same)

end Comparator

/-! ## Ranges of equal keys -/

def slice {α : Type} (items : List α) (start stop : Nat) : List α :=
  (items.drop start).take (stop - start)

/--
`slice::partition_point`: on a slice that a predicate partitions, the index of
the first element that fails it.
-/
def partitionPoint {α : Type} (holds : α → Bool) (items : List α) : Nat :=
  (items.takeWhile holds).length

theorem take_partitionPoint {α : Type} (holds : α → Bool) (items : List α) :
    items.take (partitionPoint holds items) = items.takeWhile holds := by
  induction items with
  | nil => rfl
  | cons first rest hypothesis =>
    unfold partitionPoint at hypothesis ⊢
    cases outcome : holds first <;> simp [outcome, hypothesis]

theorem drop_partitionPoint {α : Type} (holds : α → Bool) (items : List α) :
    items.drop (partitionPoint holds items) = items.dropWhile holds := by
  induction items with
  | nil => rfl
  | cons first rest hypothesis =>
    unfold partitionPoint at hypothesis ⊢
    cases outcome : holds first <;> simp [outcome, hypothesis]

/-- The contiguous range of elements with the searched key. -/
def equalRange {α κ : Type} [Ord κ] (key : α → κ) (searched : κ) (indexes : List α) : List α :=
  let first := partitionPoint (fun item => compare (key item) searched == .lt) indexes
  let stop :=
    first + partitionPoint (fun item => compare (key item) searched == .eq) (indexes.drop first)
  slice indexes first stop

/-- The range starts after the smaller keys and ends with the equal ones. -/
theorem equalRange_eq_takeWhile_dropWhile {α κ : Type} [Ord κ] (key : α → κ) (searched : κ)
    (indexes : List α) :
    equalRange key searched indexes =
      (indexes.dropWhile
        (fun item => compare (key item) searched == .lt)).takeWhile
          (fun item => compare (key item) searched == .eq) := by
  unfold equalRange slice
  simp only [Nat.add_sub_cancel_left]
  rw [drop_partitionPoint, take_partitionPoint]

/--
On a sequence sorted by a key, the searched range is exactly the elements with
that key.
-/
theorem equalRange_eq_filter {α κ : Type} [Ord κ] [TransOrd κ] (key : α → κ) (searched : κ)
    {indexes : List α} (sorted : SortedBy (compareOn key) indexes) :
    equalRange key searched indexes =
      indexes.filter (fun item => compare (key item) searched == .eq) := by
  rw [equalRange_eq_takeWhile_dropWhile]
  induction indexes with
  | nil => rfl
  | cons first rest hypothesis =>
    obtain ⟨least, restSorted⟩ := List.pairwise_cons.mp sorted
    cases outcome : compare (key first) searched with
    | lt => simpa [outcome] using hypothesis restSorted
    | eq =>
      -- Every later key is at least the searched one.
      have notLess : ∀ item ∈ rest, compare (key item) searched ≠ .lt := by
        intro item member less
        have ordered : (compare (key first) (key item)).isLE = true := least item member
        have strict := TransCmp.lt_of_isLE_of_lt ordered less
        rw [outcome] at strict
        exact absurd strict (by decide)
      have kept :
          rest.dropWhile (fun item => compare (key item) searched == .lt) =
            rest := by
        cases rest with
        | nil => rfl
        | cons second others =>
          have stays := notLess second List.mem_cons_self
          simp [stays]
      have later := hypothesis restSorted
      rw [kept] at later
      simp [outcome, later]
    | gt =>
      have noneEqual : ∀ item ∈ rest, compare (key item) searched ≠ .eq := by
        intro item member same
        have ordered : (compare (key first) (key item)).isLE = true := least item member
        have bounded : (compare (key first) searched).isLE = true :=
          TransCmp.isLE_trans ordered (by rw [same]; rfl)
        rw [outcome] at bounded
        exact absurd bounded (by decide)
      have empty : rest.filter (fun item => compare (key item) searched == .eq) = [] := by
        rw [List.filter_eq_nil_iff]
        intro item member
        simpa using noneEqual item member
      simp [outcome, empty]

/-- A sequence sorted lexicographically is sorted by its first key. -/
theorem SortedBy.of_compareLex {α : Type} {first second : α → α → Ordering} {items : List α}
    (sorted : SortedBy (compareLex first second) items) :
    SortedBy first items := by
  refine sorted.imp ?_
  intro left right ordered
  unfold ComparesLE compareLex at ordered
  unfold ComparesLE
  cases outcome : first left right <;> simp_all

end RepoWitness
