import Mathlib.Data.List.Sort
import RepoWitness.ComparatorOrder
import RepoWitness.PolledComputation
import Std.Data.TreeSet.Lemmas

namespace RepoWitness

open Std

/-!
# Reconciliation of source manifests

A manifest is a finite map from paths to entries, kept as the list of its
entries in path order.  Reconciling two of them is a merge of the two lists
that stops with an error at the first difference beyond the limit.  The merge
without a limit is stated beside it; it gives, path by path, the difference of
the two maps.
-/

inductive SourceFileKind where
  | regular
  | symbolicLink
  | gitlink
  | other
  deriving DecidableEq

structure SourceManifestEntry (P K D : Type) where
  path : P
  fileType : K
  contentDigest : D
  deriving DecidableEq

inductive SourceManifestError where
  | countNotRepresentable
  | limitExceeded (actual limit : Nat)
  | duplicateNormalizedPath
  deriving DecidableEq

/-- A path-sorted, duplicate-free, bounded source manifest. -/
structure SourceManifest (P K D : Type) [Ord P] where
  entries : List (SourceManifestEntry P K D)
  limit : UInt64
  increasing : entries.Pairwise fun first second => compare first.path second.path = .lt
  bounded : entries.length ≤ limit.toNat

inductive ManifestChange (P K D : Type) where
  | added (entry : SourceManifestEntry P K D)
  | removed (entry : SourceManifestEntry P K D)
  | changed (previous current : SourceManifestEntry P K D)
  deriving DecidableEq

inductive ManifestReconciliationError where
  | hintLimitExceeded
  | changeLimitExceeded
  | countNotRepresentable
  | cancelled
  | deadlineExceeded
  deriving DecidableEq

def maxReconciliationChanges : Nat := 1_000_000

def maxReconciliationHints : Nat := 1_000_000

structure ManifestReconciliationLimits where
  maxChanges : Nat
  maxHints : Nat
  changesBounded : maxChanges ≤ maxReconciliationChanges
  hintsBounded : maxHints ≤ maxReconciliationHints

structure ManifestReconciliation (P K D : Type) where
  changes : List (ManifestChange P K D)
  unchanged : Nat
  receivedHints : Nat
  uniqueHints : Nat
  unmatchedHints : Nat
  deriving DecidableEq

structure ReconciliationBuilder (P K D : Type) where
  changes : List (ManifestChange P K D)
  unchanged : Nat
  maxChanges : Nat

section Model

variable {P K D : Type}

def ManifestChange.path : ManifestChange P K D → P
  | .added entry | .removed entry => entry.path
  | .changed _ current => current.path

def ManifestChange.current : ManifestChange P K D → Option (SourceManifestEntry P K D)
  | .removed _ => none
  | .added entry | .changed _ entry => some entry

/-- A length as a fixed-width count. -/
def fixedCount (length : Nat) : Except ManifestReconciliationError Nat :=
  if length < 2 ^ 64 then .ok length else .error .countNotRepresentable

namespace ReconciliationBuilder

def push (builder : ReconciliationBuilder P K D) (change : ManifestChange P K D) :
    Except ManifestReconciliationError (ReconciliationBuilder P K D) := do
  let count ← fixedCount builder.changes.length
  if builder.maxChanges ≤ count then .error .changeLimitExceeded
  else .ok { builder with changes := builder.changes ++ [change] }

def markUnchanged (builder : ReconciliationBuilder P K D) :
    Except ManifestReconciliationError (ReconciliationBuilder P K D) :=
  if builder.unchanged + 1 < 2 ^ 64 then
    .ok { builder with unchanged := builder.unchanged + 1 }
  else .error .countNotRepresentable

end ReconciliationBuilder

def reconcileEqualPath [DecidableEq K] [DecidableEq D]
    (previous current : SourceManifestEntry P K D) (builder : ReconciliationBuilder P K D) :
    Except ManifestReconciliationError (ReconciliationBuilder P K D) :=
  if previous.fileType = current.fileType ∧ previous.contentDigest = current.contentDigest then
    builder.markUnchanged
  else builder.push (.changed previous current)

def appendRemaining (makeChange : SourceManifestEntry P K D → ManifestChange P K D) :
    List (SourceManifestEntry P K D) → ReconciliationBuilder P K D →
      Polled ManifestReconciliationError (ReconciliationBuilder P K D)
  | [], builder => pure builder
  | entry :: rest, builder => do
    let builder ← .done (builder.push (makeChange entry))
    .poll
    appendRemaining makeChange rest builder

variable [Ord P]

/-- Two neighbours of a list have equal paths. -/
def hasRepeatedPath : List (SourceManifestEntry P K D) → Bool
  | first :: second :: rest =>
    compare first.path second.path == .eq || hasRepeatedPath (second :: rest)
  | _ => false

/-- The binary search of a path in an increasing list finds every path of the list. -/
def containsPath (manifest : SourceManifest P K D) (path : P) : Bool :=
  manifest.entries.any fun entry => compare entry.path path == .eq

def collectUniqueHints (hints : List P) : Polled ManifestReconciliationError (TreeSet P) := do
  .pollTimes hints.length
  return hints.foldl TreeSet.insert ∅

def countUnmatchedHints (previous current : SourceManifest P K D) :
    List P → Nat → Polled ManifestReconciliationError Nat
  | [], unmatched => pure unmatched
  | hint :: rest, unmatched => do
    let unmatched ← .done
      (if containsPath previous hint || containsPath current hint then .ok unmatched
      else if unmatched + 1 < 2 ^ 64 then .ok (unmatched + 1)
      else .error .countNotRepresentable)
    .poll
    countUnmatchedHints previous current rest unmatched

variable [DecidableEq K] [DecidableEq D]

def reconcileEntries : List (SourceManifestEntry P K D) → List (SourceManifestEntry P K D) →
    ReconciliationBuilder P K D →
      Polled ManifestReconciliationError (ReconciliationBuilder P K D)
  | first :: previous, second :: current, builder =>
    match compare first.path second.path with
    | .lt => do
      let builder ← .done (builder.push (.removed first))
      .poll
      reconcileEntries previous (second :: current) builder
    | .gt => do
      let builder ← .done (builder.push (.added second))
      .poll
      reconcileEntries (first :: previous) current builder
    | .eq => do
      let builder ← .done (reconcileEqualPath first second builder)
      .poll
      reconcileEntries previous current builder
  | previous, current, builder => do
    let builder ← appendRemaining .removed previous builder
    appendRemaining .added current builder
  termination_by previous current => previous.length + current.length

def reconcileSourceManifests (previous current : SourceManifest P K D) (hints : List P)
    (limits : ManifestReconciliationLimits) :
    Polled ManifestReconciliationError (ManifestReconciliation P K D) := do
  .poll
  let receivedHints ← .done (fixedCount hints.length)
  if limits.maxHints < receivedHints then .fail .hintLimitExceeded
  else
    let unique ← collectUniqueHints hints
    let unmatchedHints ← countUnmatchedHints previous current unique.toList 0
    let builder ← reconcileEntries previous.entries current.entries ⟨[], 0, limits.maxChanges⟩
    let uniqueHints ← .done (fixedCount unique.size)
    return ⟨builder.changes, builder.unchanged, receivedHints, uniqueHints, unmatchedHints⟩

end Model

section Construction

variable {P K D : Type} [Ord P] [TransOrd P]

theorem increasing_of_sorted {entries : List (SourceManifestEntry P K D)}
    (sorted : SortedBy (compareOn (·.path)) entries)
    (distinct : hasRepeatedPath entries = false) :
    entries.Pairwise fun first second => compare first.path second.path = .lt := by
  have transitive : IsTrans (SourceManifestEntry P K D)
        fun first second => compare first.path second.path = .lt :=
    ⟨fun _ _ _ => TransCmp.lt_trans⟩
  rw [← List.isChain_iff_pairwise]
  induction entries with
  | nil => exact .nil
  | cons first rest hypothesis =>
    cases rest with
    | nil => exact .singleton first
    | cons second rest =>
      rw [hasRepeatedPath, Bool.or_eq_false_iff, beq_eq_false_iff_ne] at distinct
      have below : (compare first.path second.path).isLE = true :=
        List.rel_of_pairwise_cons sorted List.mem_cons_self
      refine .cons_cons ?_ (hypothesis sorted.tail distinct.2)
      cases order : compare first.path second.path <;> simp_all

def SourceManifest.tryFromVec (entries : List (SourceManifestEntry P K D)) (limit : UInt64) :
    Except SourceManifestError (SourceManifest P K D) :=
  if 2 ^ 64 ≤ entries.length then .error .countNotRepresentable
  else if exceeded : limit.toNat < entries.length then
    .error (.limitExceeded entries.length limit.toNat)
  else
    if duplicate : hasRepeatedPath (sortBy (compareOn (·.path)) entries) then
      .error .duplicateNormalizedPath
    else
      .ok
        { entries := sortBy (compareOn (·.path)) entries
          limit
          increasing := increasing_of_sorted (sortBy_sorted _ _) (eq_false_of_ne_true duplicate)
          bounded := (sortBy_perm _ _).length_eq.trans_le (Nat.not_lt.mp exceeded) }

end Construction

/-! ## The difference of two maps -/

section Difference

variable {P K D : Type} [Ord P]

/-- The entry of a path. -/
def entryAt (entries : List (SourceManifestEntry P K D)) (path : P) :
    Option (SourceManifestEntry P K D) := entries.find? fun entry => compare entry.path path == .eq

/-- The change of a path. -/
def changeAt (changes : List (ManifestChange P K D)) (path : P) : Option (ManifestChange P K D) :=
  changes.find? fun change => compare change.path path == .eq

/-- The entry of a path after the changes are made. -/
def appliedAt (entries : List (SourceManifestEntry P K D)) (changes : List (ManifestChange P K D))
    (path : P) : Option (SourceManifestEntry P K D) :=
  match changeAt changes path with
  | some change => change.current
  | none => entryAt entries path

variable [DecidableEq K] [DecidableEq D]

/-- The difference of two optional entries of one path. -/
def changeBetween : Option (SourceManifestEntry P K D) → Option (SourceManifestEntry P K D) →
      Option (ManifestChange P K D)
  | none, none => none
  | none, some current => some (.added current)
  | some previous, none => some (.removed previous)
  | some previous, some current =>
    if previous.fileType = current.fileType ∧ previous.contentDigest = current.contentDigest then
      none
    else some (.changed previous current)

/-- The changes and the number of unchanged paths are those of two manifests. -/
structure Reconciles (previous current : List (SourceManifestEntry P K D))
    (changes : List (ManifestChange P K D)) (unchanged : Nat) : Prop where
  increasing : changes.Pairwise fun first second => compare first.path second.path = .lt
  exact : ∀ path,
    changeAt changes path = changeBetween (entryAt previous path) (entryAt current path)
  applied : ∀ path, appliedAt previous changes path = entryAt current path
  previousCount :
    unchanged + changes.countP (fun change => change matches .changed ..) +
      changes.countP (fun change => change matches .removed _) = previous.length
  currentCount :
    unchanged + changes.countP (fun change => change matches .changed ..) +
      changes.countP (fun change => change matches .added _) = current.length

/-- The merge without a limit: the changes and the number of unchanged paths. -/
def merged : List (SourceManifestEntry P K D) → List (SourceManifestEntry P K D) →
    List (ManifestChange P K D) × Nat
  | first :: previous, second :: current =>
    match compare first.path second.path with
    | .lt =>
      let rest := merged previous (second :: current)
      (.removed first :: rest.1, rest.2)
    | .gt =>
      let rest := merged (first :: previous) current
      (.added second :: rest.1, rest.2)
    | .eq =>
      let rest := merged previous current
      if first.fileType = second.fileType ∧ first.contentDigest = second.contentDigest then
        (rest.1, rest.2 + 1)
      else (.changed first second :: rest.1, rest.2)
  | previous, current => (previous.map .removed ++ current.map .added, 0)
  termination_by previous current => previous.length + current.length

section Equations

variable {first second : SourceManifestEntry P K D}
  {previous current : List (SourceManifestEntry P K D)}

theorem merged_lt (order : compare first.path second.path = .lt) :
    merged (first :: previous) (second :: current) =
      (.removed first :: (merged previous (second :: current)).1,
        (merged previous (second :: current)).2) := by
  rw [merged, order]

theorem merged_gt (order : compare first.path second.path = .gt) :
    merged (first :: previous) (second :: current) =
      (.added second :: (merged (first :: previous) current).1,
        (merged (first :: previous) current).2) := by
  rw [merged, order]

theorem merged_same (order : compare first.path second.path = .eq)
    (same : first.fileType = second.fileType ∧ first.contentDigest = second.contentDigest) :
    merged (first :: previous) (second :: current) =
      ((merged previous current).1, (merged previous current).2 + 1) := by
  rw [merged, order]
  exact if_pos same

theorem merged_differs (order : compare first.path second.path = .eq)
    (differs : ¬ (first.fileType = second.fileType ∧ first.contentDigest = second.contentDigest)) :
    merged (first :: previous) (second :: current) =
      (.changed first second :: (merged previous current).1, (merged previous current).2) := by
  rw [merged, order]
  exact if_neg differs

end Equations

/-! ### The merge and its limit -/

section Limit

omit [Ord P] [DecidableEq K] [DecidableEq D]

variable {builder : ReconciliationBuilder P K D} {change : ManifestChange P K D}
  {changes : List (ManifestChange P K D)} {unchanged : Nat}

/-- What a builder comes to with further changes and unchanged paths. -/
def ReconciliationBuilder.extended (builder : ReconciliationBuilder P K D)
    (changes : List (ManifestChange P K D)) (unchanged : Nat) :
    Except ManifestReconciliationError (ReconciliationBuilder P K D) :=
  if builder.maxChanges < builder.changes.length + changes.length then .error .changeLimitExceeded
  else
    .ok
      { builder with
        changes := builder.changes ++ changes
        unchanged := builder.unchanged + unchanged }

/-- The changes of a builder are within a limit that a count can represent. -/
def ReconciliationBuilder.Fits (builder : ReconciliationBuilder P K D) : Prop :=
  builder.changes.length ≤ builder.maxChanges ∧ builder.maxChanges < 2 ^ 64

theorem push_bind_extended (fits : builder.Fits)
    {next : ReconciliationBuilder P K D →
      Except ManifestReconciliationError (ReconciliationBuilder P K D)}
    (continues : ∀ pushed : ReconciliationBuilder P K D,
      pushed.Fits → pushed.unchanged = builder.unchanged →
        next pushed = pushed.extended changes unchanged) :
    (builder.push change >>= next) = builder.extended (change :: changes) unchanged := by
  obtain ⟨within, representable⟩ := fits
  unfold ReconciliationBuilder.push fixedCount
  rw [if_pos (Nat.lt_of_le_of_lt within representable), except_ok_bind]
  split
  next full =>
    rw [except_error_bind, ReconciliationBuilder.extended, if_pos]
    rw [List.length_cons]
    omega
  next room =>
    have pushedFits : ReconciliationBuilder.Fits
        { builder with changes := builder.changes ++ [change] } :=
      ⟨by simp only [List.length_append, List.length_singleton]; omega, representable⟩
    rw [except_ok_bind, continues _ pushedFits rfl]
    simp [ReconciliationBuilder.extended, Nat.add_comm, Nat.add_left_comm, Nat.add_assoc]

theorem appendRemaining_result {makeChange : SourceManifestEntry P K D → ManifestChange P K D}
    {entries : List (SourceManifestEntry P K D)} (fits : builder.Fits) :
    (appendRemaining makeChange entries builder).result =
      builder.extended (entries.map makeChange) 0 := by
  induction entries generalizing builder with
  | nil => simp [appendRemaining, ReconciliationBuilder.extended, Nat.not_lt.mpr fits.1]
  | cons entry rest hypothesis =>
    simp only [appendRemaining, Polled.result_bind, Polled.result_done, Polled.result_poll,
      except_ok_bind]
    exact push_bind_extended fits fun pushed fits _ => hypothesis fits

end Limit

theorem reconcileEntries_result {builder : ReconciliationBuilder P K D}
    {previous current : List (SourceManifestEntry P K D)} (fits : builder.Fits)
    (counted : builder.unchanged + (merged previous current).2 < 2 ^ 64) :
    (reconcileEntries previous current builder).result =
      builder.extended (merged previous current).1 (merged previous current).2 := by
  induction previous, current using merged.induct generalizing builder with
  | case1 first previous second current order hypothesis =>
    rw [merged_lt order] at counted ⊢
    simp only [reconcileEntries, order, Polled.result_bind, Polled.result_done,
      Polled.result_poll, except_ok_bind]
    exact push_bind_extended fits fun pushed fits same =>
      hypothesis fits (same ▸ counted)
  | case2 first previous second current order hypothesis =>
    rw [merged_gt order] at counted ⊢
    simp only [reconcileEntries, order, Polled.result_bind, Polled.result_done,
      Polled.result_poll, except_ok_bind]
    exact push_bind_extended fits fun pushed fits same =>
      hypothesis fits (same ▸ counted)
  | case3 first previous second current order same hypothesis =>
    rw [merged_same order same] at counted ⊢
    dsimp only at counted
    simp only [reconcileEntries, order, Polled.result_bind, Polled.result_done,
      Polled.result_poll, except_ok_bind, reconcileEqualPath, if_pos same,
      ReconciliationBuilder.markUnchanged]
    rw [if_pos (by omega), except_ok_bind]
    refine (@hypothesis { builder with unchanged := builder.unchanged + 1 } fits
        (by dsimp only; omega)).trans ?_
    simp [ReconciliationBuilder.extended, Nat.add_comm, Nat.add_assoc]
  | case4 first previous second current order differs hypothesis =>
    rw [merged_differs order differs] at counted ⊢
    simp only [reconcileEntries, order, Polled.result_bind, Polled.result_done,
      Polled.result_poll, except_ok_bind, reconcileEqualPath, if_neg differs]
    exact push_bind_extended fits fun pushed fits same =>
      hypothesis fits (same ▸ counted)
  | case5 previous current exhausted =>
    rw [merged.eq_2 _ _ exhausted, reconcileEntries.eq_2 _ _ _ exhausted, Polled.result_bind]
    cases previous with
    | nil => exact appendRemaining_result fits
    | cons first previous =>
      cases current with
      | nil =>
        rw [appendRemaining_result fits, List.map_nil, List.append_nil]
        exact bind_pure _
      | cons second current => exact (exhausted first previous second current rfl rfl).elim

/-! ### The merge gives the difference -/

variable {previous current entries : List (SourceManifestEntry P K D)} {path : P}

theorem exists_entry_of_mem_merged : ∀ change ∈ (merged previous current).1,
      ∃ entry, (entry ∈ previous ∨ entry ∈ current) ∧ entry.path = change.path := by
  fun_induction merged previous current <;> grind [ManifestChange.path]

/-- Every path of a change is unchanged, changed, removed or added once. -/
theorem merged_counts :
    (merged previous current).2 +
        (merged previous current).1.countP (fun change => change matches .changed ..) +
          (merged previous current).1.countP (fun change => change matches .removed _) =
      previous.length ∧
    (merged previous current).2 +
        (merged previous current).1.countP (fun change => change matches .changed ..) +
          (merged previous current).1.countP (fun change => change matches .added _) =
      current.length := by
  fun_induction merged previous current with
  | case5 previous current exhausted =>
    simp [List.countP_append, List.countP_map, Function.comp_def]
  | case1 | case2 | case3 | case4 => grind

variable [TransOrd P] [LawfulEqOrd P]

omit [DecidableEq K] [DecidableEq D] [TransOrd P] in
theorem entryAt_eq_none (above : ∀ entry ∈ entries, compare path entry.path = .lt) :
    entryAt entries path = none := by
  refine List.find?_eq_none.mpr fun entry member same => ?_
  rw [beq_iff_eq] at same
  have below := above entry member
  rw [LawfulEqOrd.eq_of_compare same, ReflOrd.compare_self] at below
  cases below

omit [DecidableEq K] [DecidableEq D] [TransOrd P] in
theorem path_of_entryAt
    {entry : SourceManifestEntry P K D} (found : entryAt entries path = some entry) :
    entry.path = path := by
  have matched := List.find?_some found
  exact LawfulEqOrd.eq_of_compare (eq_of_beq matched)

abbrev Increasing (entries : List (SourceManifestEntry P K D)) : Prop :=
  entries.Pairwise fun first second => compare first.path second.path = .lt

omit [DecidableEq K] [DecidableEq D] [LawfulEqOrd P] in
/-- A path below the first entry is below every entry. -/
theorem above_of_lt {second : SourceManifestEntry P K D} (order : compare path second.path = .lt)
    (increasing : Increasing (second :: current)) :
    ∀ entry ∈ second :: current, compare path entry.path = .lt := by
  refine List.forall_mem_cons.mpr ⟨order, fun entry member => ?_⟩
  exact TransCmp.lt_trans order (List.rel_of_pairwise_cons increasing member)

theorem merged_increasing
    (previousIncreasing : Increasing previous) (currentIncreasing : Increasing current) :
    (merged previous current).1.Pairwise fun first second =>
      compare first.path second.path = .lt := by
  have bounded :
      ∀ {bound : P} {previous current : List (SourceManifestEntry P K D)},
        (∀ entry ∈ previous, compare bound entry.path = .lt) →
          (∀ entry ∈ current, compare bound entry.path = .lt) →
            ∀ change ∈ (merged previous current).1, compare bound change.path = .lt := by
    intro bound previous current previousAbove currentAbove change member
    obtain ⟨entry, among, same⟩ := exists_entry_of_mem_merged change member
    exact same ▸ among.elim (previousAbove entry) (currentAbove entry)
  induction previous, current using merged.induct with
  | case1 first previous second current order hypothesis =>
    have later := List.pairwise_cons.mp previousIncreasing
    rw [merged_lt order]
    exact .cons (bounded later.1 (above_of_lt order currentIncreasing))
      (hypothesis later.2 currentIncreasing)
  | case2 first previous second current order hypothesis =>
    have later := List.pairwise_cons.mp currentIncreasing
    rw [merged_gt order]
    exact .cons
      (bounded (above_of_lt (OrientedCmp.gt_iff_lt.mp order) previousIncreasing) later.1)
      (hypothesis previousIncreasing later.2)
  | case3 first previous second current order same hypothesis =>
    rw [merged_same order same]
    exact hypothesis previousIncreasing.tail currentIncreasing.tail
  | case4 first previous second current order differs hypothesis =>
    have previousLater := List.pairwise_cons.mp previousIncreasing
    have currentLater := List.pairwise_cons.mp currentIncreasing
    rw [LawfulEqOrd.eq_of_compare order] at previousLater
    rw [merged_differs order differs]
    exact .cons (bounded previousLater.1 currentLater.1)
      (hypothesis previousLater.2 currentLater.2)
  | case5 previous current exhausted =>
    rw [merged.eq_2 _ _ exhausted]
    cases previous with
    | nil => exact List.pairwise_map.mpr currentIncreasing
    | cons first previous =>
      cases current with
      | nil =>
        rw [List.map_nil, List.append_nil]
        exact List.pairwise_map.mpr previousIncreasing
      | cons second current => exact (exhausted first previous second current rfl rfl).elim

theorem changeAt_merged
    (previousIncreasing : Increasing previous) (currentIncreasing : Increasing current) (path : P) :
    changeAt (merged previous current).1 path =
      changeBetween (entryAt previous path) (entryAt current path) := by
  induction previous, current using merged.induct with
  | case1 first previous second current order hypothesis =>
    have rest := hypothesis previousIncreasing.tail currentIncreasing
    rw [merged_lt order]
    cases same : compare first.path path with
    | eq =>
      have absent : entryAt (second :: current) path = none :=
        entryAt_eq_none (above_of_lt (LawfulEqOrd.eq_of_compare same ▸ order) currentIncreasing)
      rw [absent]
      simp [changeAt, entryAt, ManifestChange.path, same, changeBetween]
    | lt | gt => simp_all [changeAt, entryAt, ManifestChange.path]
  | case2 first previous second current order hypothesis =>
    have rest := hypothesis previousIncreasing currentIncreasing.tail
    rw [merged_gt order]
    cases same : compare second.path path with
    | eq =>
      have absent : entryAt (first :: previous) path = none := entryAt_eq_none
          (above_of_lt (LawfulEqOrd.eq_of_compare same ▸ OrientedCmp.gt_iff_lt.mp order)
            previousIncreasing)
      rw [absent]
      simp [changeAt, entryAt, ManifestChange.path, same, changeBetween]
    | lt | gt => simp_all [changeAt, entryAt, ManifestChange.path]
  | case3 first previous second current order equal hypothesis =>
    have rest := hypothesis previousIncreasing.tail currentIncreasing.tail
    have joined := LawfulEqOrd.eq_of_compare order
    rw [merged_same order equal, rest]
    cases same : compare second.path path with
    | eq =>
      have found := LawfulEqOrd.eq_of_compare same
      rw [entryAt_eq_none (found ▸ joined ▸ (List.pairwise_cons.mp previousIncreasing).1),
        entryAt_eq_none (found ▸ (List.pairwise_cons.mp currentIncreasing).1)]
      simp [entryAt, changeBetween, joined, same, equal]
    | lt | gt => simp [entryAt, joined, same]
  | case4 first previous second current order differs hypothesis =>
    have rest := hypothesis previousIncreasing.tail currentIncreasing.tail
    have joined := LawfulEqOrd.eq_of_compare order
    rw [merged_differs order differs]
    cases same : compare second.path path with
    | eq => simp [changeAt, entryAt, changeBetween, ManifestChange.path, joined, same, differs]
    | lt | gt => simpa [changeAt, entryAt, ManifestChange.path, joined, same] using rest
  | case5 previous current exhausted =>
    rw [merged.eq_2 _ _ exhausted]
    cases previous with
    | nil =>
      have found : changeAt (current.map .added) path = (entryAt current path).map .added :=
        List.find?_map
      rw [List.map_nil, List.nil_append, found]
      cases entryAt current path <;> rfl
    | cons first previous =>
      cases current with
      | nil =>
        have found : changeAt ((first :: previous).map .removed) path =
              (entryAt (first :: previous) path).map .removed :=
          List.find?_map
        rw [List.map_nil, List.append_nil, found]
        cases entryAt (first :: previous) path <;> rfl
      | cons second current => exact (exhausted first previous second current rfl rfl).elim

/-- The merge is the difference of the manifests. -/
theorem merged_reconciles
    (previousIncreasing : Increasing previous) (currentIncreasing : Increasing current) :
    Reconciles previous current (merged previous current).1 (merged previous current).2 where
  increasing := merged_increasing previousIncreasing currentIncreasing
  exact := changeAt_merged previousIncreasing currentIncreasing
  applied path := by
    rw [appliedAt, changeAt_merged previousIncreasing currentIncreasing]
    cases before : entryAt previous path with
    | none => cases entryAt current path <;> rfl
    | some first =>
      cases after : entryAt current path with
      | none => rfl
      | some second =>
        have firstPath := path_of_entryAt before
        have secondPath := path_of_entryAt after
        rw [changeBetween]
        split
        next change isChange =>
          split at isChange
          · cases isChange
          · cases isChange
            rfl
        next unchanged =>
          split at unchanged
          next equal =>
            cases first
            cases second
            simp_all
          next => cases unchanged
  previousCount := merged_counts.1
  currentCount := merged_counts.2

end Difference

/-! ## Reconciliation -/

section Reconciliation

variable {P K D : Type} [Ord P] [TransOrd P] [DecidableEq K] [DecidableEq D]
  {previous current : SourceManifest P K D}

/-- The number of hints of neither manifest. -/
def unmatchedHints (previous current : SourceManifest P K D) (hints : List P) : Nat :=
  hints.countP fun hint => !(containsPath previous hint || containsPath current hint)

omit [TransOrd P] [DecidableEq K] [DecidableEq D] in
theorem countUnmatchedHints_result {hints : List P} {unmatched : Nat}
    (few : unmatched + hints.length < 2 ^ 64) :
    (countUnmatchedHints previous current hints unmatched).result =
      .ok (unmatched + unmatchedHints previous current hints) := by
  induction hints generalizing unmatched with
  | nil => rfl
  | cons hint rest hypothesis =>
    rw [List.length_cons] at few
    simp only [countUnmatchedHints, Polled.result_bind, Polled.result_done, Polled.result_poll,
      except_ok_bind, unmatchedHints, List.countP_cons]
    cases containsPath previous hint || containsPath current hint with
    | true =>
      rw [if_pos rfl, except_ok_bind, hypothesis (by omega)]
      rfl
    | false =>
      rw [if_neg (by decide), if_pos (by omega), except_ok_bind, hypothesis (by omega)]
      simp [unmatchedHints, Nat.add_comm, Nat.add_assoc]

omit [DecidableEq K] [DecidableEq D] in
theorem size_foldl_insert_le (hints : List P) (unique : TreeSet P) :
    (hints.foldl TreeSet.insert unique).size ≤ unique.size + hints.length := by
  induction hints generalizing unique with
  | nil => exact Nat.le_refl _
  | cons hint rest hypothesis =>
    have grows : (unique.insert hint).size ≤ unique.size + 1 := TreeSet.size_insert_le
    have later := hypothesis (unique.insert hint)
    rw [List.foldl_cons, List.length_cons]
    omega

/-- The set of the hints. -/
def hintSet (hints : List P) : TreeSet P := hints.foldl TreeSet.insert ∅

/-- Two manifests have one difference.  Whatever the hints are, unless there are more of them than
their limit, reconciliation returns that difference, or fails when it is larger than the limit. -/
theorem reconciliation_exact [LawfulEqOrd P] (previous current : SourceManifest P K D) :
    ∃ changes unchanged, Reconciles previous.entries current.entries changes unchanged ∧
      ∀ (hints : List P) (limits : ManifestReconciliationLimits),
        (reconcileSourceManifests previous current hints limits).result =
          if 2 ^ 64 ≤ hints.length then .error .countNotRepresentable
          else if limits.maxHints < hints.length then .error .hintLimitExceeded
          else if limits.maxChanges < changes.length then .error .changeLimitExceeded
          else
            .ok
              { changes, unchanged
                receivedHints := hints.length
                uniqueHints := (hintSet hints).size
                unmatchedHints := unmatchedHints previous current (hintSet hints).toList } := by
  refine ⟨_, _, merged_reconciles previous.increasing current.increasing, ?_⟩
  intro hints limits
  have changesBounded := limits.changesBounded
  have hintsBounded := limits.hintsBounded
  simp only [maxReconciliationChanges] at changesBounded
  simp only [maxReconciliationHints] at hintsBounded
  have size : (hintSet hints).size ≤ 0 + hints.length := size_foldl_insert_le hints ∅
  have counted : 0 + (merged previous.entries current.entries).2 < 2 ^ 64 := by
    have counts := (@merged_counts P K D _ _ _ previous.entries current.entries).1
    have bounded := previous.bounded
    have limit := previous.limit.toNat_lt
    omega
  unfold reconcileSourceManifests
  simp only [Polled.result_bind, Polled.result_poll, Polled.result_done, except_ok_bind, fixedCount]
  by_cases representable : hints.length < 2 ^ 64
  · rw [if_pos representable, if_neg (Nat.not_le.mpr representable), except_ok_bind]
    split
    next => rfl
    next few =>
      have reconciled :=
        @reconcileEntries_result P K D _ _ _ ⟨[], 0, limits.maxChanges⟩ previous.entries
          current.entries ⟨Nat.zero_le _, by dsimp only; omega⟩ counted
      have unmatched :=
        @countUnmatchedHints_result P K D _ previous current (hintSet hints).toList 0
          (by rw [TreeSet.length_toList]; omega)
      simp only [collectUniqueHints, Polled.result_bind, Polled.result_pollTimes,
        Polled.result_pure, Polled.result_done, except_ok_bind]
      rw [← hintSet, unmatched, except_ok_bind, reconciled, ReconciliationBuilder.extended,
        if_pos (show (hintSet hints).size < 2 ^ 64 by omega)]
      simp only [List.length_nil, Nat.zero_add, List.nil_append]
      split <;> rfl
  · rw [if_neg representable, if_pos (Nat.not_lt.mp representable), except_error_bind]

/-- The manifest of one file. -/
def SourceManifest.ofPath (path : Nat) : SourceManifest Nat Nat Nat :=
  ⟨[⟨path, 0, 0⟩], 1, List.pairwise_singleton _ _, Nat.le_refl _⟩

/-- A renamed file makes more differences than a limit of zero admits. -/
theorem reconciliation_exact_of_renamed : ∃ changes unchanged,
      Reconciles (SourceManifest.ofPath 1).entries (SourceManifest.ofPath 2).entries changes
          unchanged ∧
        (reconcileSourceManifests (.ofPath 1) (.ofPath 2) [7, 2, 7]
          ⟨0, 3, Nat.zero_le _, by decide⟩).result = .error .changeLimitExceeded := by
  obtain ⟨changes, unchanged, reconciles, result⟩ :=
    reconciliation_exact (SourceManifest.ofPath 1) (.ofPath 2)
  refine ⟨changes, unchanged, reconciles, (result _ _).trans ?_⟩
  have removed : changeAt changes 1 = some (.removed ⟨1, 0, 0⟩) := reconciles.exact 1
  rw [if_neg (by decide), if_neg (by decide),
    if_pos (List.length_pos_of_mem (List.mem_of_find?_eq_some removed))]

/-- A hint beyond the limit of hints keeps two equal manifests from being reconciled. -/
theorem unreconciled_of_hint :
    ∃ (manifest : SourceManifest Nat Nat Nat) (limits : ManifestReconciliationLimits),
      (reconcileSourceManifests manifest manifest [1] limits).result =
        .error .hintLimitExceeded := by
  refine ⟨⟨[], 0, .nil, Nat.le_refl _⟩, ⟨0, 0, by decide, by decide⟩, ?_⟩
  rfl

end Reconciliation

end RepoWitness
