import Mathlib.Data.List.Dedup
import Mathlib.Data.List.Perm.Basic
import RepoWitness.ComparatorOrder

namespace RepoWitness

open Std

/-!
# Sorts and folds that do not depend on order

A stable sort by a key arranges a list in one way as soon as its keys are
distinct, and the sequence of keys it produces never depends on the input order.
A fold whose step commutes with itself sees its list as a multiset; when the
step only goes down, one more element can only lower the result.

A list that is sorted and checked for equal neighbours is an `IncreasingList`:
it is the one arrangement of its elements, so it stands for a finite set.
-/

section SortDistinct

variable {α : Type} {compare : α → α → Ordering} [TransCmp compare] {first second : List α}

/-- A sort arranges elements it tells apart in one way. -/
theorem sortBy_eq_of_perm
    (distinct : ∀ left ∈ first, ∀ right ∈ first, compare left right = .eq → left = right)
    (permutation : first.Perm second) :
    sortBy compare first = sortBy compare second := by
  have firstPerm := sortBy_perm compare first
  have secondPerm := sortBy_perm compare second
  have arranged := (firstPerm.trans permutation).trans secondPerm.symm
  refine arranged.eq_of_pairwise ?_ (sortBy_sorted compare first) (sortBy_sorted compare second)
  intro left right isLeft isRight lower upper
  refine distinct left (firstPerm.mem_iff.mp isLeft) right ?_
    (OrientedCmp.isLE_antisymm lower upper)
  exact permutation.mem_iff.mpr (secondPerm.mem_iff.mp isRight)

/-- Two strictly increasing sequences of the same elements coincide. -/
theorem eq_of_strictlyIncreasing (firstIncreasing : first.Pairwise (compare · · = .lt))
    (secondIncreasing : second.Pairwise (compare · · = .lt))
    (sameMembers : ∀ item, item ∈ first ↔ item ∈ second) :
    first = second := by
  have irreflexive : ∀ items : List α, items.Pairwise (compare · · = .lt) → items.Nodup := by
    intro items increasing
    refine increasing.imp ?_
    rintro left right less rfl
    rw [@ReflCmp.compare_self _ compare] at less
    cases less
  refine ((List.perm_ext_iff_of_nodup (irreflexive first firstIncreasing)
    (irreflexive second secondIncreasing)).mpr
      sameMembers).eq_of_pairwise ?_ firstIncreasing secondIncreasing
  intro left right _ _ lower upper
  rw [@OrientedCmp.eq_swap _ compare, upper] at lower
  cases lower

/-- Sorted elements of which no two neighbours tie increase strictly. -/
theorem strictlyIncreasing_of_sorted {items : List α} (sorted : SortedBy compare items)
    (untied : items.IsChain (compare · · ≠ .eq)) :
    items.Pairwise (compare · · = .lt) := by
  have transitive : IsTrans α (compare · · = .lt) := ⟨fun _ _ _ => TransCmp.lt_trans⟩
  refine List.isChain_iff_pairwise.mp ?_
  induction items with
  | nil => exact List.IsChain.nil
  | cons first rest hypothesis =>
    obtain ⟨least, restSorted⟩ := List.pairwise_cons.mp sorted
    cases rest with
    | nil => exact List.IsChain.singleton first
    | cons second others =>
      obtain ⟨different, restUntied⟩ := List.isChain_cons_cons.mp untied
      refine List.isChain_cons_cons.mpr ⟨?_, hypothesis restSorted restUntied⟩
      have ordered := least second List.mem_cons_self
      unfold ComparesLE at ordered
      cases outcome : compare first second with
      | lt => rfl
      | eq => exact absurd outcome different
      | gt => simp [outcome] at ordered

end SortDistinct

section SortByKey

variable {α β : Type} [Ord β] [TransOrd β] [LawfulEqOrd β] {key : α → β} {first second : List α}

theorem sortBy_keys_eq_of_perm (permutation : first.Perm second) :
    (sortBy (compareOn key) first).map key = (sortBy (compareOn key) second).map key := by
  have arranged := ((sortBy_perm (compareOn key) first).trans permutation).trans
      (sortBy_perm (compareOn key) second).symm
  refine @SortedBy.eq_of_perm β compare _ _ _ _ ?_ ?_ (arranged.map key)
  · exact List.pairwise_map.mpr (sortBy_sorted (compareOn key) first)
  · exact List.pairwise_map.mpr (sortBy_sorted (compareOn key) second)

/-- With distinct keys the whole arrangement is that of every permutation. -/
theorem sortBy_eq_of_nodup_keys (distinct : (first.map key).Nodup)
    (permutation : first.Perm second) :
    sortBy (compareOn key) first = sortBy (compareOn key) second := by
  refine sortBy_eq_of_perm ?_ permutation
  intro left isLeft right isRight same
  exact List.inj_on_of_nodup_map distinct isLeft isRight (LawfulEqOrd.eq_of_compare same)

end SortByKey

/-! ## Sorted collections without repetition -/

/-- `slice::windows(2)` holds a pair of equal elements. -/
def hasDuplicates {α : Type} [DecidableEq α] : List α → Bool
  | first :: second :: rest => first == second || hasDuplicates (second :: rest)
  | _ => false

theorem hasDuplicates_eq_false_iff {α : Type} [DecidableEq α] {items : List α} :
    hasDuplicates items = false ↔ items.IsChain (· ≠ ·) := by
  fun_induction hasDuplicates items with
  | case1 first second rest hypothesis =>
    rw [List.isChain_cons_cons, ← hypothesis]
    simp
  | case2 items short =>
    match items with
    | [] => simp
    | [_] => simp
    | first :: second :: rest => exact absurd rfl (short first second rest)

/-- Elements in strictly increasing order, hence without repetition. -/
structure IncreasingList (α : Type) [Ord α] where
  items : List α
  increasing : items.Pairwise (compare · · = .lt)
  deriving DecidableEq

namespace IncreasingList

variable {α : Type} [Ord α] [TransOrd α] [LawfulEqOrd α] [DecidableEq α]

omit [TransOrd α] [DecidableEq α] in
theorem nodup (set : IncreasingList α) : set.items.Nodup := by
  refine set.increasing.imp ?_
  rintro first second less rfl
  rw [@ReflCmp.compare_self _ compare] at less
  cases less

end IncreasingList

/-! ## Sets of an ordered type -/

section OrderedSet

variable {α : Type} [Ord α] [TransOrd α] [LawfulEqOrd α] [DecidableEq α]

/-- `BTreeSet` as the increasing list of its elements. -/
def orderedSet (items : List α) : List α := sortBy compare items.dedup

omit [TransOrd α] [LawfulEqOrd α] in
@[simp]
theorem mem_orderedSet {item : α} {items : List α} : item ∈ orderedSet items ↔ item ∈ items :=
  (sortBy_perm compare items.dedup).mem_iff.trans List.mem_dedup

omit [TransOrd α] [LawfulEqOrd α] in
theorem orderedSet_nodup (items : List α) : (orderedSet items).Nodup :=
  (sortBy_perm compare items.dedup).nodup_iff.mpr items.nodup_dedup

omit [TransOrd α] [LawfulEqOrd α] in
theorem orderedSet_length_le (items : List α) : (orderedSet items).length ≤ items.length :=
  (sortBy_perm compare items.dedup).length_eq.trans_le (items.dedup_sublist.length_le)

/-- A set is determined by its elements. -/
theorem orderedSet_congr {first second : List α}
    (sameMembers : ∀ item, item ∈ first ↔ item ∈ second) :
    orderedSet first = orderedSet second := by
  have permutation : first.dedup.Perm second.dedup := by
    refine (List.perm_ext_iff_of_nodup first.nodup_dedup second.nodup_dedup).mpr ?_
    simpa using sameMembers
  refine SortedBy.eq_of_perm (sortBy_sorted compare _) (sortBy_sorted compare _) ?_
  exact ((sortBy_perm compare _).trans permutation).trans (sortBy_perm compare _).symm

end OrderedSet

section Tightening

variable {State Request : Type} [Preorder State] {step : State → Request → State}

/-- One more request, wherever it stands, can only lower the result. -/
theorem foldl_le_of_perm_cons
    (commutes :
      ∀ state first second, step (step state first) second = step (step state second) first)
    (lowers : ∀ state request, step state request ≤ state) {fewer more : List Request}
    {request : Request} (adds : more.Perm (request :: fewer)) (initial : State) :
    more.foldl step initial ≤ fewer.foldl step initial := by
  have rightCommutative : RightCommutative step :=
    ⟨fun state first second => commutes state first second⟩
  have last : more.Perm (fewer ++ [request]) :=
    adds.trans (List.perm_append_singleton request fewer).symm
  rw [last.foldl_eq initial, List.foldl_append]
  exact lowers _ request

end Tightening

end RepoWitness
