import Std.Data.TreeMap
import RepoWitness.OrderFreeFolds

namespace RepoWitness

open Std

/-!
# Grouped indexes and runs of equal keys

An index built by pushing entries into per-key buckets answers a lookup with
the entries of that key, in the order of insertion.  Keeping the first element
of every run of equal keys turns a sorted list into a strictly increasing one
that still has every key, each with its least element.
-/

section Index

variable {κ α : Type} [Ord κ]

/-- `index.entry(key).or_default().push(value)`. -/
def pushEntry (index : TreeMap κ (List α)) (entry : κ × α) : TreeMap κ (List α) :=
  index.alter entry.1 fun bucket => some (bucket.getD [] ++ [entry.2])

/-- A bucket holds the entries of its key in insertion order. -/
theorem getD_foldl_pushEntry [TransOrd κ] [LawfulEqOrd κ] [DecidableEq κ] (entries : List (κ × α))
    (index : TreeMap κ (List α)) (key : κ) :
    (entries.foldl pushEntry index).getD key [] =
      index.getD key [] ++ (entries.filter (fun entry => entry.1 = key)).map Prod.snd := by
  induction entries generalizing index with
  | nil => simp
  | cons entry rest hypothesis =>
    rw [List.foldl_cons, hypothesis]
    unfold pushEntry
    rw [TreeMap.getD_alter]
    by_cases same : entry.1 = key
    · subst same
      simp [TreeMap.getD_eq_getD_getElem?]
    · have different : compare entry.1 key ≠ .eq :=
        fun equal => same (LawfulEqOrd.eq_of_compare equal)
      simp [same, different]

end Index

section Runs

variable {α β : Type} [DecidableEq β]

/--
The first element of every run of equal keys; `previous` is the key before the
list.  With the identity as key this is `Vec::dedup`.
-/
def firstOfRuns (key : α → β) : Option β → List α → List α
  | _, [] => []
  | previous, item :: rest =>
    if previous = some (key item) then
      firstOfRuns key (some (key item)) rest
    else
      item :: firstOfRuns key (some (key item)) rest

variable {key : α → β} {previous : Option β} {items : List α}

variable {item : α}

theorem firstOfRuns_sublist (previous : Option β) (items : List α) :
    (firstOfRuns key previous items).Sublist items := by
  induction items generalizing previous with
  | nil => exact .slnil
  | cons first rest hypothesis =>
    unfold firstOfRuns
    split
    · exact (hypothesis _).cons first
    · exact (hypothesis _).cons_cons first

/-- No key is lost, except the one the list continues. -/
theorem firstOfRuns_covers (member : item ∈ items) :
    previous = some (key item) ∨ ∃ kept ∈ firstOfRuns key previous items, key kept = key item := by
  induction items generalizing previous with
  | nil => cases member
  | cons first rest hypothesis =>
    unfold firstOfRuns
    by_cases continues : previous = some (key first)
    · rw [if_pos continues]
      rcases List.mem_cons.mp member with rfl | later
      · exact Or.inl continues
      · rw [continues]
        exact hypothesis later
    · rw [if_neg continues]
      refine Or.inr ?_
      rcases List.mem_cons.mp member with rfl | later
      · exact ⟨item, List.mem_cons_self, rfl⟩
      · rcases @hypothesis (some (key first)) later with same | ⟨kept, isKept, sameKey⟩
        · exact ⟨first, List.mem_cons_self, Option.some.inj same⟩
        · exact ⟨kept, List.mem_cons_of_mem first isKept, sameKey⟩

/-- Removing repeats keeps exactly the elements. -/
theorem mem_firstOfRuns_id {items : List β} {item : β} :
    item ∈ firstOfRuns id none items ↔ item ∈ items := by
  constructor
  · exact fun kept => (firstOfRuns_sublist none items).subset kept
  · intro member
    rcases @firstOfRuns_covers β β _ id none items item member with continues | ⟨kept, isKept, rfl⟩
    · cases continues
    · exact isKept

variable [Ord β] [TransOrd β] {tie : α → α → Ordering}

/-- Keys of the list that compare equal are equal. -/
def KeysDistinct (key : α → β) (items : List α) : Prop :=
  ∀ left ∈ items, ∀ right ∈ items, compare (key left) (key right) = .eq → key left = key right

omit [DecidableEq β] [TransOrd β] in
theorem KeysDistinct.of_cons {first : α} {rest : List α}
    (distinct : KeysDistinct key (first :: rest)) : KeysDistinct key rest :=
  fun left isLeft right isRight =>
    distinct left (List.mem_cons_of_mem first isLeft) right (List.mem_cons_of_mem first isRight)

theorem firstOfRuns_beyond {first : α} {rest : List α}
    (sorted : SortedBy (compareLex (compareOn key) tie) (first :: rest))
    (distinct : KeysDistinct key (first :: rest))
    (kept : item ∈ firstOfRuns key (some (key first)) rest) :
    compare (key first) (key item) = .lt := by
  induction rest generalizing first with
  | nil => cases kept
  | cons second others hypothesis =>
    have rises : (compare (key first) (key second)).isLE = true :=
      List.rel_of_pairwise_cons (SortedBy.of_compareLex sorted) List.mem_cons_self
    have later := @hypothesis second sorted.of_cons distinct.of_cons
    unfold firstOfRuns at kept
    split at kept
    next continues =>
      rw [Option.some.inj continues]
      exact later kept
    next changes =>
      rcases List.mem_cons.mp kept with rfl | isLater
      · cases outcome : compare (key first) (key item) with
        | lt => rfl
        | eq => exact absurd (congrArg some (distinct _ (by simp) _ (by simp) outcome)) changes
        | gt => simp [outcome] at rises
      · exact TransCmp.lt_of_isLE_of_lt rises (later isLater)

/-- The kept elements increase strictly by key. -/
theorem firstOfRuns_increasing (sorted : SortedBy (compareLex (compareOn key) tie) items)
    (distinct : KeysDistinct key items) :
    (firstOfRuns key previous items).Pairwise (compareOn key · · = .lt) := by
  induction items generalizing previous with
  | nil => exact List.Pairwise.nil
  | cons first rest hypothesis =>
    have restIncreasing := @hypothesis (some (key first)) sorted.of_cons distinct.of_cons
    unfold firstOfRuns
    split
    · exact restIncreasing
    · refine List.pairwise_cons.mpr ⟨?_, restIncreasing⟩
      exact fun item kept => firstOfRuns_beyond sorted distinct kept

theorem firstOfRuns_least [TransCmp tie] (sorted : SortedBy (compareLex (compareOn key) tie) items)
    (distinct : KeysDistinct key items) {kept other : α}
    (isKept : kept ∈ firstOfRuns key previous items) (member : other ∈ items)
    (sameKey : key other = key kept) :
    ComparesLE tie kept other := by
  induction items generalizing previous with
  | nil => cases member
  | cons first rest hypothesis =>
    have keptLater :
        kept ∈ firstOfRuns key (some (key first)) rest → ComparesLE tie kept other := by
      intro isLater
      rcases List.mem_cons.mp member with rfl | otherLater
      · have beyond := firstOfRuns_beyond sorted distinct isLater
        rw [sameKey, @ReflCmp.compare_self β compare] at beyond
        cases beyond
      · exact hypothesis sorted.of_cons distinct.of_cons isLater otherLater
    unfold firstOfRuns at isKept
    split at isKept
    · exact keptLater isKept
    · rcases List.mem_cons.mp isKept with rfl | isLater
      · rcases List.mem_cons.mp member with rfl | otherLater
        · unfold ComparesLE
          rw [@ReflCmp.compare_self _ tie]
          rfl
        · have ordered := List.rel_of_pairwise_cons sorted otherLater
          unfold ComparesLE compareLex compareOn at ordered
          rw [sameKey, @ReflCmp.compare_self β compare] at ordered
          exact ordered
      · exact keptLater isLater

end Runs

end RepoWitness
