import RepoWitness.CanonicalPreimages
import RepoWitness.OrderFreeFolds

namespace RepoWitness

open Std

/-!
# Package scopes

A scope is the whole repository or a canonical list of explicit roots, and
contains a path that is a root or continues one after a separator.  Sorting puts
a root before every path below it, so comparing each root with those before it
finds every overlap.  Queries state the same membership over stored bytes.
-/

open RepositoryPath (slash)

def maxPackageScopeRoots : Nat := 64

inductive PackageScopeError where
  | emptyExplicitRoots
  | rootLimitExceeded (limit : Nat)
  | duplicateRoot
  | overlappingRoots
  deriving DecidableEq

def rootContains (root path : RepositoryPath) : Bool :=
  path == root || (path.bytes.dropPrefix? root.bytes).any (·.head? == some slash)

/-- One comparison of `validate_canonical_roots`. -/
def validateRoot (root prior : RepositoryPath) : Except PackageScopeError Unit :=
  if prior = root then
    .error .duplicateRoot
  else if rootContains prior root then
    .error .overlappingRoots
  else
    .ok ()

def validateCanonicalRoots (roots : List RepositoryPath) : Except PackageScopeError Unit :=
  forM roots.zipIdx fun (root, index) => forM (roots.take index) (validateRoot root)

/-- What a list of explicit roots satisfies in a scope. -/
structure CanonicalRoots (roots : List RepositoryPath) : Prop where
  nonempty : roots ≠ []
  bounded : roots.length ≤ maxPackageScopeRoots
  sorted : SortedBy compare roots
  validated : validateCanonicalRoots roots = .ok ()

@[ext] structure PackageScope where
  roots : Option (List RepositoryPath)
  canonical : ∀ listed ∈ roots, CanonicalRoots listed

namespace PackageScope

def ofSorted (roots : List RepositoryPath) (nonempty : roots ≠ [])
    (bounded : roots.length ≤ maxPackageScopeRoots) (sorted : SortedBy compare roots) :
    Except PackageScopeError PackageScope :=
  match validated : validateCanonicalRoots roots with
  | .error error => .error error
  | .ok () => .ok ⟨some roots, by rintro _ ⟨⟩; exact ⟨nonempty, bounded, sorted, validated⟩⟩

def tryExplicitRoots (roots : List RepositoryPath) : Except PackageScopeError PackageScope :=
  if empty : roots = [] then
    .error .emptyExplicitRoots
  else if long : maxPackageScopeRoots < roots.length then
    .error (.rootLimitExceeded maxPackageScopeRoots)
  else
    ofSorted (sortBy compare roots)
      (fun none => empty (List.nil_perm.mp (none ▸ sortBy_perm compare roots)))
      ((sortBy_perm compare roots).length_eq ▸ Nat.not_lt.mp long) (sortBy_sorted compare roots)

def contains (scope : PackageScope) (path : RepositoryPath) : Bool :=
  scope.roots.all fun roots => roots.any fun root => rootContains root path

/-- One alternative of `append_package_scope_predicate`. -/
def rootPredicate (root path : List UInt8) : Bool :=
  path == root ||
    (path.take root.length == root && decide (root.length < path.length) &&
      (path.drop root.length).take 1 == [slash])

/-- The condition that `append_package_scope_predicate` adds on the stored bytes of a path. -/
def scopePredicate (scope : PackageScope) (path : List UInt8) : Bool :=
  match scope.roots with
  | none => true
  | some roots => roots.any fun root => rootPredicate root.bytes path

/-- What `semantic_digest` hashes. -/
def digestPreimage (scope : PackageScope) : List UInt8 :=
  asciiBytes "RepoWitness\x00package-scope\x00" ++ (bigEndian 2 1 ++ (bigEndian 2 1 ++
    match scope.roots with
    | none => 0 :: bigEndian 8 0
    | some roots =>
      1 :: (bigEndian 8 roots.length ++
        encodeEach (fun _ (root : RepositoryPath) => lengthPrefixed root.bytes) 0 roots)))

end PackageScope

section Roots

variable {root path first second : RepositoryPath} {roots : List RepositoryPath}

/-- The path continues the root after a separator. -/
def IsAncestor (root path : RepositoryPath) : Prop :=
  ∃ rest, path.bytes = root.bytes ++ slash :: rest

/-- Neither root is the other one or an ancestor of it. -/
structure Separate (first second : RepositoryPath) : Prop where
  different : first ≠ second
  before : ¬ IsAncestor first second
  after : ¬ IsAncestor second first

theorem Separate.symm (separate : Separate first second) : Separate second first :=
  ⟨separate.different.symm, separate.after, separate.before⟩

theorem rootContains_iff : rootContains root path = true ↔ path = root ∨ IsAncestor root path := by
  simp only [rootContains, Bool.or_eq_true, beq_iff_eq, Option.any_eq_true,
    List.dropPrefix?_eq_some_iff, List.head?_eq_some_iff]
  refine or_congr_right ⟨?_, ?_⟩
  · rintro ⟨_, ⟨_, shape, rfl⟩, rest, rfl⟩
    exact ⟨rest, shape⟩
  · rintro ⟨rest, shape⟩
    exact ⟨_, ⟨_, shape, rfl⟩, rest, rfl⟩

theorem separate_iff : Separate first second ↔
      ¬ rootContains first second = true ∧ ¬ rootContains second first = true := by
  rw [rootContains_iff, rootContains_iff, not_or, not_or]
  constructor
  · rintro ⟨different, before, after⟩
    exact ⟨⟨different.symm, before⟩, different, after⟩
  · rintro ⟨⟨_, before⟩, different, after⟩
    exact ⟨different, before, after⟩

/-- With a separator after both, containment is a prefix. -/
theorem rootContains_iff_below :
    rootContains root path = true ↔ root.bytes ++ [slash] <+: path.bytes ++ [slash] := by
  rw [rootContains_iff]
  constructor
  · rintro (rfl | ⟨rest, shape⟩)
    · exact List.prefix_refl _
    · exact ⟨rest ++ [slash], by simp [shape]⟩
  · rintro ⟨rest, shape⟩
    rcases List.eq_nil_or_concat rest with rfl | ⟨inner, last, rfl⟩
    · rw [List.append_nil, List.append_cancel_right_eq] at shape
      exact .inl (RepositoryPath.bytes_injective shape.symm)
    · rw [List.concat_eq_append, ← List.append_assoc, List.append_assoc root.bytes] at shape
      exact .inr ⟨inner, (List.append_inj' shape rfl).1.symm⟩

theorem Separate.not_both (separate : Separate first second)
    (inFirst : rootContains first path = true) :
    ¬ rootContains second path = true := by
  intro inSecond
  rw [rootContains_iff_below] at inFirst inSecond
  rw [separate_iff, rootContains_iff_below, rootContains_iff_below] at separate
  rcases List.prefix_or_prefix_of_prefix inFirst inSecond with within | within
  · exact separate.1 within
  · exact separate.2 within

theorem compare_lt_of_isAncestor (below : IsAncestor root path) : compare root path = .lt := by
  obtain ⟨rest, shape⟩ := below
  change compare root.bytes path.bytes = .lt
  rw [shape]
  induction root.bytes with
  | nil => rfl
  | cons byte bytes hypothesis =>
    rw [List.cons_append, List.compare_cons_cons, compare_self]
    exact hypothesis

theorem forM_eq_ok_iff {ε α : Type} {items : List α} {check : α → Except ε Unit} :
    forM items check = .ok () ↔ ∀ item ∈ items, check item = .ok () := by
  induction items with
  | nil => simp [pure, Except.pure]
  | cons item rest hypothesis =>
    rw [List.forM_cons, except_bind_eq_ok_iff, List.forall_mem_cons, ← hypothesis]
    exact ⟨fun ⟨_, checked, rest⟩ => ⟨checked, rest⟩, fun ⟨checked, rest⟩ => ⟨_, checked, rest⟩⟩

theorem validateRoot_eq_ok_iff {prior : RepositoryPath} :
    validateRoot root prior = .ok () ↔ rootContains prior root = false := by
  unfold validateRoot
  split
  · simp_all [rootContains]
  · split <;> simp_all

theorem validateCanonicalRoots_eq_ok_iff :
    validateCanonicalRoots roots = .ok () ↔
      roots.Pairwise fun prior root => rootContains prior root = false := by
  rw [validateCanonicalRoots, List.pairwise_iff_getElem]
  simp only [forM_eq_ok_iff, validateRoot_eq_ok_iff]
  constructor
  · intro valid earlier later _ isLater before
    refine valid (roots[later], later) ?_ _ (List.mem_take_iff_getElem.mpr ⟨earlier, ?_, rfl⟩)
    · exact List.mem_zipIdx_iff_getElem?.mpr (List.getElem?_eq_getElem isLater)
    · omega
  · rintro valid ⟨root, later⟩ listed prior isPrior
    rw [List.mem_zipIdx_iff_getElem?, List.getElem?_eq_some_iff] at listed
    dsimp only at listed isPrior ⊢
    obtain ⟨isLater, rfl⟩ := listed
    obtain ⟨earlier, isEarlier, rfl⟩ := List.mem_take_iff_getElem.mp isPrior
    exact valid earlier later _ isLater (by omega)

theorem validateCanonicalRoots_sorted_iff (sorted : SortedBy compare roots) :
    validateCanonicalRoots roots = .ok () ↔ roots.Pairwise Separate := by
  rw [validateCanonicalRoots_eq_ok_iff]
  constructor
  · intro valid
    refine (List.Pairwise.and sorted valid).imp ?_
    rintro prior root ⟨ordered, outside⟩
    refine separate_iff.mpr ⟨Bool.eq_false_iff.mp outside, fun inside => ?_⟩
    rcases rootContains_iff.mp inside with rfl | below
    · exact Bool.eq_false_iff.mp outside inside
    · rw [ComparesLE, OrientedOrd.eq_swap, compare_lt_of_isAncestor below] at ordered
      cases ordered
  · exact List.Pairwise.imp fun separate => Bool.eq_false_iff.mpr (separate_iff.mp separate).1

theorem rootContains_eq_rootPredicate :
    rootContains root path = PackageScope.rootPredicate root.bytes path.bytes := by
  have same : path = root ↔ path.bytes = root.bytes :=
    (RepositoryPath.bytes_injective.eq_iff).symm
  rw [Bool.eq_iff_iff, rootContains_iff, same]
  simp only [PackageScope.rootPredicate, Bool.or_eq_true, Bool.and_eq_true, beq_iff_eq,
    decide_eq_true_eq]
  refine or_congr_right ⟨?_, ?_⟩
  · rintro ⟨rest, shape⟩
    simp [shape]
  · rintro ⟨⟨front, _⟩, separated⟩
    cases behind : path.bytes.drop root.bytes.length with
    | nil => simp [behind] at separated
    | cons byte rest =>
      rw [behind] at separated
      obtain rfl : byte = slash := by simpa using separated
      refine ⟨rest, ?_⟩
      rw [← List.take_append_drop root.bytes.length path.bytes, front, behind]

end Roots

namespace PackageScope

variable {roots others : List RepositoryPath}

theorem tryExplicitRoots_ok_iff :
    (∃ scope, tryExplicitRoots roots = .ok scope) ↔
      roots ≠ [] ∧ roots.length ≤ maxPackageScopeRoots ∧ roots.Pairwise Separate := by
  rw [← (sortBy_perm compare roots).pairwise_iff Separate.symm,
    ← validateCanonicalRoots_sorted_iff (sortBy_sorted compare roots)]
  unfold tryExplicitRoots
  split
  next empty => simp [empty]
  next nonempty =>
    split
    next long => simp [Nat.not_le.mpr long]
    next bounded =>
      unfold ofSorted
      split
      next error invalid => simp [invalid]
      next valid => simp [nonempty, Nat.not_lt.mp bounded, valid]

theorem tryExplicitRoots_eq_of_perm (permutation : roots.Perm others) :
    tryExplicitRoots roots = tryExplicitRoots others := by
  have sorted : sortBy compare roots = sortBy compare others :=
    sortBy_eq_of_perm (fun _ _ _ _ => LawfulEqOrd.eq_of_compare) permutation
  have empty : roots = [] ↔ others = [] := by
    rw [← List.length_eq_zero_iff, permutation.length_eq, List.length_eq_zero_iff]
  unfold tryExplicitRoots
  simp only [empty, permutation.length_eq, sorted]

theorem length_containing_le (separate : roots.Pairwise Separate) (path : RepositoryPath) :
    (roots.filter (rootContains · path)).length ≤ 1 := by
  have apart := separate.filter (rootContains · path)
  have containing : ∀ root ∈ roots.filter (rootContains · path), rootContains root path = true :=
    fun root member => (List.mem_filter.mp member).2
  generalize roots.filter (rootContains · path) = found at *
  cases found with
  | nil => simp
  | cons first rest =>
    cases rest with
    | nil => simp
    | cons second rest =>
      have separateFirst := List.rel_of_pairwise_cons apart List.mem_cons_self
      exact absurd (containing second (by simp))
        (separateFirst.not_both (containing first List.mem_cons_self))

theorem digestPreimage_injective : Function.Injective digestPreimage := by
  intro first second same
  have same := List.append_cancel_left (List.append_cancel_left (List.append_cancel_left same))
  refine PackageScope.ext ?_
  cases firstRoots : first.roots with
  | none =>
    cases secondRoots : second.roots with
    | none => rfl
    | some listed => simp [firstRoots, secondRoots] at same
  | some listed =>
    cases secondRoots : second.roots with
    | none => simp [firstRoots, secondRoots] at same
    | some others =>
      have few := (first.canonical listed firstRoots).bounded
      have fewOthers := (second.canonical others secondRoots).bounded
      rw [firstRoots, secondRoots] at same
      obtain ⟨_, same⟩ := List.cons.inj same
      unfold maxPackageScopeRoots at few fewOthers
      obtain ⟨count, rest⟩ := bigEndian_append_inj (by omega) (by omega) same
      refine congrArg some (encodeEach_append_inj ?_ count (congrArg (· ++ []) rest)).1
      intro _ root _ other _ rootRest otherRest framed
      have short := root.addressable
      have shortOther := other.addressable
      obtain ⟨bytes, later⟩ := lengthPrefixed_append_inj (by omega) (by omega) framed
      exact ⟨RepositoryPath.bytes_injective bytes, later⟩

/--
Explicit roots are accepted when they are at least one, at most 64 and separate,
whatever their order.  A path is in at most one root of a scope, a query selects
exactly the paths of the scope, and the bytes behind its digest determine it.
-/
theorem package_scope_canonical :
    (∀ roots,
      (∃ scope, tryExplicitRoots roots = .ok scope) ↔
        roots ≠ [] ∧ roots.length ≤ 64 ∧ roots.Pairwise Separate) ∧
      (∀ roots others, roots.Perm others → tryExplicitRoots roots = tryExplicitRoots others) ∧
      (∀ scope : PackageScope, ∀ roots ∈ scope.roots, ∀ path,
        (roots.filter (rootContains · path)).length ≤ 1) ∧
      (∀ (scope : PackageScope) path, scope.contains path = scope.scopePredicate path.bytes) ∧
      ∀ first second : PackageScope,
        first.digestPreimage = second.digestPreimage → first = second := by
  refine ⟨fun _ => tryExplicitRoots_ok_iff, fun _ _ => tryExplicitRoots_eq_of_perm, ?_, ?_,
    fun _ _ same => digestPreimage_injective same⟩
  · intro scope roots listed path
    obtain ⟨_, _, sorted, validated⟩ := scope.canonical roots listed
    exact length_containing_le ((validateCanonicalRoots_sorted_iff sorted).mp validated) path
  · intro scope path
    unfold contains scopePredicate
    cases scope.roots with
    | none => rfl
    | some roots => simp only [Option.all_some, rootContains_eq_rootPredicate]

end PackageScope

end RepoWitness
